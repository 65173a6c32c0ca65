import PolicyFields.Dict
import PolicyFields.Json.Value
import PolicyFields.Number.FloatText

/-!
# Success rates

* `FieldStats` — in how many documents a field was found.
* `Status` — the band of a rate with respect to a threshold.
* `Summary` — the rates of all fields, ranked, and the share of fields that work.
-/

namespace PolicyFields.Extraction

open Json (Value)

/-- How a rate compares with a threshold (`FieldStatus`). -/
inductive Status where
  | ok
  | warn
  | fail
deriving DecidableEq, Repr

/-- The mark of a status. -/
def Status.mark : Status → String
  | ok => "[OK]"
  | warn => "[WARN]"
  | fail => "[FAIL]"

/-- In how many documents a field was found (`FieldStats`). -/
structure FieldStats where
  successful : Nat
  total : Nat
deriving DecidableEq, Repr

namespace FieldStats

/-- The counts over some documents, given for each whether the field was found (`from_presence`). -/
def ofPresence (present : List Bool) : FieldStats := ⟨present.count true, present.length⟩

/-- The rate in percent, zero without documents. -/
def rate (s : FieldStats) : Float :=
  if s.total = 0 then 0.0 else Float.ofNat s.successful / Float.ofNat s.total * 100.0

/-- The status of a field: it works from the threshold on, and fails if it was never found. -/
def status (s : FieldStats) (threshold : Float) : Status :=
  if threshold ≤ s.rate then .ok else if 0.0 < s.rate then .warn else .fail

/-- The rate with one place and the counts. -/
def display (s : FieldStats) : String :=
  Number.fixedText 1 s.rate ++ "% (" ++ toString s.successful ++ "/" ++ toString s.total ++ ")"

end FieldStats

/-- The rates of all fields and the threshold from which on a field works (`ExtractionSummary`). -/
structure Summary where
  fields : Dict FieldStats
  threshold : Float

namespace Summary

/-- The summary of an artifact, which holds for every field the values of the documents
(`from_artifact`). Names that start with an underscore and fields of another shape are left out. -/
def ofArtifact (artifact : Dict Value) (threshold : Float) : Summary :=
  ⟨artifact.filterMap fun name data =>
    if name.toList.head? == some '_' then none
    else match data with
      | .object documents => some (.ofPresence (documents.map fun d => !d.2.isNull))
      | _ => none, threshold⟩

/-- The fields by their rates, the best first (`ranked`); equal rates keep the order of the
names. -/
def ranked (s : Summary) : List (String × FieldStats) :=
  s.fields.entries.mergeSort fun a b => b.2.rate ≤ a.2.rate

/-- The number of fields that work (`working_fields`). -/
def working (s : Summary) : Nat := s.fields.values.countP fun f => f.status s.threshold == .ok

/-- The share of fields that work, in percent (`completion_rate`). -/
def completion (s : Summary) : Float := (FieldStats.mk s.working s.fields.size).rate

end Summary

end PolicyFields.Extraction

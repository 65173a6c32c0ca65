import PolicyFields.Files.JsonFile
import PolicyFields.Extraction.Rule

/-!
# The rules of a company

* `RuleSet` — a company's rules, one for every field, and what the configuration says about itself.
* `RuleSet.ofDict`, `RuleSet.load` — the rules that a configuration holds.
-/

namespace PolicyFields.Extraction

open Json (Value readDict)

/-- The rules of a company (`CompanyExtractionConfig`). A field without a rule is listed and never
found. -/
structure RuleSet where
  company : Option String
  version : Option String
  rules : Dict (Option Rule)

namespace RuleSet

/-- No rules. -/
def empty : RuleSet := ⟨none, none, .empty⟩

/-- One member of a configuration added: texts under `company` and `version` are about the
configuration, all else are fields. -/
def add (set : RuleSet) (name : String) (v : Value) : Except ConfigError RuleSet :=
  match name, v with
  | "company", .string s => .ok { set with company := some s }
  | "version", .string s => .ok { set with version := some s }
  | _, .null => .ok { set with rules := set.rules.insert name none }
  | _, v => match Rule.read v with
    | .ok r => .ok { set with rules := set.rules.insert name (some r) }
    | .error e => .error (.invalidField name (.shape e))

/-- The rules in the members of a configuration (`from_map`); the first member that is wrong is
reported. -/
def ofDict (members : Dict Value) : Except ConfigError RuleSet :=
  members.entries.foldlM (fun set e => set.add e.1 e.2) empty

/-- The rules in a configuration file (`from_file`). -/
def load (f : Files) (p : Path) : Except ConfigError RuleSet := do
  ofDict (← readConfigFile (readDict Json.Source.value) f p)

end RuleSet

end PolicyFields.Extraction

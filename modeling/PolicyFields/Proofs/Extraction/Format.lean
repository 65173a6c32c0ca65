import Mathlib.Logic.Basic
import PolicyFields.Extraction.Rule
import PolicyFields.Proofs.Json.Record

/-!
# Rules as JSON

* `Rule.read_toValue_iff` — **a rule is read back from what it is written as** iff no other rule is
  written like it (`Rule.IsReadable`); `Rule.isReadable_of_read` — every rule that is read is such.
* `IsSelection`, `IsEntry`, `IsRule` — selections, entries and rules, said without their readers.
* `rule_format` — what is written is read, what is read is written, and **which objects are rules**.
-/

namespace PolicyFields.Extraction

open Json (Value Error Field Shape Reads exists_fill_cons_iff exists_fill_nil_iff readText
  readOption readList)
open Traversal (bind_eq_ok_iff)

variable {v : Value}

/-! ## Selections, modes and entries -/

theorem Selection.read_eq_ok_iff {s : Selection} : Selection.read v = .ok s ↔ v = s.toValue := by
  rw [Selection.read, Json.bind_view]
  cases v with
  | string name =>
    simp only [Value.view]
    split
    · rename_i heq
      obtain rfl := Json.View.string.inj heq
      cases s <;> simp [Json.pure_eq_ok, Selection.toValue, Value.nat]
    · rename_i hall heq
      obtain rfl := Json.View.string.inj heq
      cases s <;> simp_all [Json.throw_eq_error, Selection.toValue, Value.nat]
    all_goals simp_all
  | number n =>
    cases n with
    | int i =>
      simp only [Value.view]
      cases s with
      | all => split <;> simp [Json.throw_eq_error, Json.pure_eq_ok, Selection.toValue]
      | group index =>
        simp only [Selection.toValue, Value.nat, Value.number.injEq, Json.Number.int.injEq]
        split
        · simp only [Json.throw_eq_error, reduceCtorEq, false_iff]
          omega
        · simp only [Json.pure_eq_ok, Except.ok.injEq, Selection.group.injEq]
          omega
    | float x => cases s <;> simp [Value.view, Json.throw_eq_error, Selection.toValue, Value.nat]
  | _ => cases s <;> simp [Value.view, Json.throw_eq_error, Selection.toValue, Value.nat]

theorem Mode.read_eq_ok_iff {m : Mode} :
    Mode.read v = .ok m ↔ ∃ word, v = .string word ∧ m = Mode.ofWord word := by
  rw [Mode.read, bind_eq_ok_iff]
  refine exists_congr fun word => and_congr Json.readText_eq_ok_iff ?_
  rw [Json.pure_eq_ok, Except.ok.injEq, eq_comm]

theorem Entry.shape_regular : (Entry.shape : Shape Value (String × Selection)).Regular where
  names := by decide
  commutes := by simp [shape]

/-- The members of a detailed entry. -/
def entryNames : List String := ["pattern", "group"]

theorem Entry.shape_read_eq_ok_iff {p : String} {g : Selection} :
    Entry.shape.read ("", .default) v = .ok (p, g) ↔ v.Record entryNames fun get =>
      Reads readText "" (get "pattern") p ∧ Reads Selection.read .default (get "group") g := by
  suffices (∃ r, Entry.shape.read ("", .default) v = .ok r ∧ r = (p, g)) ↔
    v.Record entryNames _ by simpa
  refine Shape.exists_read_iff Entry.shape_regular (fun get => ?_) fun get _ => by simp [shape]
  refine (exists_fill_cons_iff (Field.sets_optional _ _ _) "" rfl fun p =>
    exists_fill_cons_iff (Field.sets_optional _ _ _) Selection.default rfl fun g =>
      exists_fill_nil_iff).trans ?_
  simp

/-- How an entry is written: as its pattern or as an object. -/
inductive Entry.Written : Value → Entry → Prop
  | bare (p : String) : Written (.string p) (.bare p)
  | detailed {members : List (String × Value)} {p : String} {g : Selection} :
    (Value.object members).IsRecord entryNames →
    Reads readText "" ((Value.object members).field? entryNames "pattern") p →
    Reads Selection.read .default ((Value.object members).field? entryNames "group") g →
    Written (.object members) (.detailed p g)

theorem Entry.read_eq_ok_iff {e : Entry} : Entry.read v = .ok e ↔ Entry.Written v e := by
  rw [Entry.read, Json.bind_view]
  cases v with
  | string p =>
    simp only [Value.view, Json.pure_eq_ok, Except.ok.injEq]
    constructor
    · rintro rfl
      exact .bare p
    · rintro ⟨⟩
      rfl
  | object members =>
    simp only [Value.view]
    constructor
    · intro h
      cases hshape : Entry.shape.read ("", .default) (Value.object members) with
      | ok r =>
        rw [hshape] at h
        obtain rfl := Except.ok.inj h
        obtain ⟨hrecord, hp, hg⟩ := shape_read_eq_ok_iff.1 hshape
        exact .detailed hrecord hp hg
      | error err =>
        rw [hshape] at h
        cases h
    · rintro (_ | ⟨hrecord, hp, hg⟩)
      rw [shape_read_eq_ok_iff.2 ⟨hrecord, hp, hg⟩]
      rfl
  | _ => exact iff_of_false (fun h => by cases h) fun h => by cases h

/-! ## Rules -/

theorem RuleParts.shape_regular : (RuleParts.shape : Shape Value RuleParts).Regular where
  names := by decide
  commutes := by simp [shape]

/-- The members of a rule. -/
def ruleNames : List String := ["pattern", "group", "patterns", "mode"]

theorem RuleParts.shape_read_eq_ok_iff {r : RuleParts} :
    RuleParts.shape.read ⟨none, none, none, none⟩ v = .ok r ↔ v.Record ruleNames fun get =>
      Reads (readOption readText) none (get "pattern") r.pattern ∧
      Reads (readOption Selection.read) none (get "group") r.selection ∧
      Reads (readOption (readList Entry.read)) none (get "patterns") r.entries ∧
      Reads (readOption Mode.read) none (get "mode") r.mode := by
  suffices (∃ r', RuleParts.shape.read ⟨none, none, none, none⟩ v = .ok r' ∧ r' = r) ↔
    v.Record ruleNames _ by simpa
  refine Shape.exists_read_iff RuleParts.shape_regular (fun get => ?_) fun get _ => by simp [shape]
  refine (exists_fill_cons_iff (Field.sets_optional _ _ _) none rfl fun p =>
    exists_fill_cons_iff (Field.sets_optional _ _ _) none rfl fun g =>
      exists_fill_cons_iff (Field.sets_optional _ _ _) none rfl fun es =>
        exists_fill_cons_iff (Field.sets_optional _ _ _) none rfl fun m =>
          exists_fill_nil_iff).trans ?_
  obtain ⟨p, g, es, m⟩ := r
  simp

/-! ### What is written is read back -/

/-- The mode is not a known word in disguise. -/
def Mode.IsReadable (m : Mode) : Prop := m ≠ .other "first" ∧ m ≠ .other "all"

/-- No other rule is written like it. -/
def Rule.IsReadable : Rule → Prop
  | .single _ _ => True
  | .several _ mode => mode.IsReadable

theorem Mode.ofWord_isReadable (word : String) : (Mode.ofWord word).IsReadable := by
  unfold ofWord
  split
  · exact ⟨by simp, by simp⟩
  · split
    · exact ⟨by simp, by simp⟩
    · rename_i hfirst hall
      exact ⟨by simpa using hfirst, by simpa using hall⟩

theorem Mode.ofWord_word_eq_iff {m : Mode} : Mode.ofWord m.word = m ↔ m.IsReadable := by
  constructor
  · intro h
    exact h ▸ ofWord_isReadable m.word
  · rintro ⟨hfirst, hall⟩
    cases m with
    | other word =>
      simp only [ne_eq, other.injEq] at hfirst hall
      simp [ofWord, Mode.word, hfirst, hall]
    | _ => rfl

theorem Rule.read_eq_ok_iff {r : Rule} : Rule.read v = .ok r ↔
    ∃ parts : RuleParts, RuleParts.shape.read ⟨none, none, none, none⟩ v = .ok parts ∧
      parts.rule = .ok r :=
  bind_eq_ok_iff

theorem Selection.read_toValue (s : Selection) : Selection.read s.toValue = .ok s :=
  read_eq_ok_iff.2 rfl

theorem Entry.read_toValue (e : Entry) : Entry.read e.toValue = .ok e := by
  cases e with
  | bare p => exact read_eq_ok_iff.2 (.bare p)
  | detailed p g =>
    refine read_eq_ok_iff.2 (.detailed ?_ (Json.readText_eq_ok_iff.2 rfl) g.read_toValue)
    simp [Value.IsRecord, entryNames]

/-- The rule that a rule is read back as: a mode is read by its word. -/
theorem Rule.read_toValue_several (es : List Entry) (m : Mode) :
    Rule.read (Rule.several es m).toValue = .ok (.several es (.ofWord m.word)) := by
  refine read_eq_ok_iff.2 ⟨⟨none, none, some es, some (.ofWord m.word)⟩, ?_, rfl⟩
  refine RuleParts.shape_read_eq_ok_iff.2 ⟨?_, rfl, rfl, ?_, ?_⟩
  · simp [toValue, Value.IsRecord, ruleNames]
  · have hes : readList Entry.read (Value.array (es.map Entry.toValue)) = .ok es := by
      refine Json.readList_eq_ok_iff.2 ⟨_, rfl, ?_⟩
      rw [List.forall₂_map_left_iff, List.forall₂_same]
      exact fun e _ => e.read_toValue
    exact Json.readOption_eq_ok_iff.2 (.inr ⟨by simp, es, rfl, hes⟩)
  · have hm : Mode.read (Value.string m.word) = .ok (.ofWord m.word) :=
      Mode.read_eq_ok_iff.2 ⟨_, rfl, rfl⟩
    exact Json.readOption_eq_ok_iff.2 (.inr ⟨by simp, _, rfl, hm⟩)

theorem Rule.read_toValue_single (p : String) (g : Selection) :
    Rule.read (Rule.single p g).toValue = .ok (.single p g) := by
  refine read_eq_ok_iff.2 ⟨⟨some p, some g, none, none⟩, ?_, rfl⟩
  refine RuleParts.shape_read_eq_ok_iff.2 ⟨?_, ?_, ?_, rfl, rfl⟩
  · simp [toValue, Value.IsRecord, ruleNames]
  · exact Json.readOption_eq_ok_iff.2
      (.inr ⟨by simp, p, rfl, Json.readText_eq_ok_iff.2 rfl⟩)
  · have hg : g.toValue ≠ .null := by cases g <;> simp [Selection.toValue, Value.nat]
    exact Json.readOption_eq_ok_iff.2 (.inr ⟨hg, g, rfl, g.read_toValue⟩)

/-- **A rule is read back as itself iff no other rule is written like it.** -/
theorem Rule.read_toValue_iff {r : Rule} : Rule.read r.toValue = .ok r ↔ r.IsReadable := by
  cases r with
  | single p g => exact iff_of_true (read_toValue_single p g) trivial
  | several es m =>
    rw [read_toValue_several, Except.ok.injEq, several.injEq]
    exact (and_iff_right rfl).trans Mode.ofWord_word_eq_iff

theorem Rule.isReadable_of_read {r : Rule} (h : Rule.read v = .ok r) : r.IsReadable := by
  obtain ⟨parts, hparts, hr⟩ := read_eq_ok_iff.1 h
  obtain ⟨-, -, -, -, hmode⟩ := RuleParts.shape_read_eq_ok_iff.1 hparts
  obtain ⟨pattern, selection, entries, mode⟩ := parts
  cases r with
  | single p g => trivial
  | several es m =>
    have hm : m = mode.getD .first := by
      cases pattern <;> cases entries <;> simp_all [RuleParts.rule]
    subst hm
    cases hget : v.field? ruleNames "mode" with
    | none =>
      rw [hget] at hmode
      obtain rfl := hmode
      exact ⟨by simp, by simp⟩
    | some x =>
      rw [hget] at hmode
      obtain ⟨-, rfl⟩ | ⟨-, m, rfl, hm⟩ := Json.readOption_eq_ok_iff.1 hmode
      · exact ⟨by simp, by simp⟩
      · obtain ⟨word, -, rfl⟩ := Mode.read_eq_ok_iff.1 hm
        exact Mode.ofWord_isReadable word

/-! ### Which objects are rules -/

/-- A natural number or the word for all matches. -/
inductive IsSelection : Value → Prop
  | group (index : Nat) : IsSelection (.nat index)
  | all : IsSelection (.string "all")

/-- A pattern, or an object that has neither member twice, each of its kind if present. -/
inductive IsEntry : Value → Prop
  | bare (p : String) : IsEntry (.string p)
  | detailed {members : List (String × Value)} :
    (∀ name ∈ ["pattern", "group"], (members.map Prod.fst).count name ≤ 1) →
    (∀ x, members.lookup "pattern" = some x → x.IsText) →
    (∀ x, members.lookup "group" = some x → IsSelection x) → IsEntry (.object members)

/-- The member is present and not `null`. -/
def Given (d : Dict Value) (name : String) (x : Value) : Prop := d.find? name = some x ∧ x ≠ .null

/-- A rule as an object: one pattern or several, and every member that is given is of its kind,
whether the rule needs it or not. -/
structure IsRule (d : Dict Value) : Prop where
  one : Xor (∃ x, Given d "pattern" x) (∃ x, Given d "patterns" x)
  pattern : ∀ x, Given d "pattern" x → x.IsText
  group : ∀ x, Given d "group" x → IsSelection x
  patterns : ∀ x, Given d "patterns" x → x.IsListOf IsEntry
  mode : ∀ x, Given d "mode" x → x.IsText

theorem exists_modeRead_iff : (∃ m, Mode.read v = .ok m) ↔ v.IsText := by
  simp only [Mode.read_eq_ok_iff]
  exact ⟨fun ⟨_, word, h, _⟩ => ⟨word, h⟩, fun ⟨word, h⟩ => ⟨_, word, h, rfl⟩⟩

theorem exists_selectionRead_iff : (∃ s, Selection.read v = .ok s) ↔ IsSelection v := by
  simp only [Selection.read_eq_ok_iff]
  constructor
  · rintro ⟨_ | index, rfl⟩
    · exact .group _
    · exact .all
  · rintro (index | _)
    · exact ⟨.group index, rfl⟩
    · exact ⟨.all, rfl⟩

theorem exists_entryRead_iff : (∃ e, Entry.read v = .ok e) ↔ IsEntry v := by
  simp only [Entry.read_eq_ok_iff]
  constructor
  · rintro ⟨_, p | ⟨hrecord, hp, hg⟩⟩
    · exact .bare p
    · exact .detailed hrecord ((Json.exists_reads_iff fun _ => Json.exists_readText_iff).1 ⟨_, hp⟩)
        ((Json.exists_reads_iff fun _ => exists_selectionRead_iff).1 ⟨_, hg⟩)
  · rintro (p | ⟨hrecord, hp, hg⟩)
    · exact ⟨_, .bare p⟩
    · obtain ⟨p, hp⟩ := (Json.exists_reads_iff fun _ => Json.exists_readText_iff).2 hp
      obtain ⟨g, hg⟩ := (Json.exists_reads_iff fun _ => exists_selectionRead_iff).2 hg
      exact ⟨_, .detailed hrecord hp hg⟩

theorem exists_entriesRead_iff : (∃ es, readList Entry.read v = .ok es) ↔ v.IsListOf IsEntry :=
  Json.exists_readList_iff fun _ => exists_entryRead_iff

section Members

variable {α : Type} {item : Value → Except Error α} {d : Dict Value} {name : String}

/-- A member that may be absent or `null` can be read iff it is of its kind if given. -/
theorem exists_reads_readOption_iff {Kind : Value → Prop}
    (hitem : ∀ x, (∃ a, item x = .ok a) ↔ Kind x) :
    (∃ a, Reads (readOption item) none (d.find? name) a) ↔ ∀ x, Given d name x → Kind x := by
  unfold Given
  cases d.find? name with
  | none => simp [Reads]
  | some x =>
    simp only [Reads, Json.readOption_eq_ok_iff, Option.some.injEq, and_imp, forall_eq', ← hitem]
    by_cases hx : x = .null <;> simp [hx]

/-- It yields something iff it is given. -/
theorem isSome_iff_of_reads_readOption {a : Option α}
    (h : Reads (readOption item) none (d.find? name) a) : a.isSome ↔ ∃ x, Given d name x := by
  unfold Given
  cases hd : d.find? name with
  | none =>
    rw [hd] at h
    simp [show a = none from h]
  | some x =>
    rw [hd] at h
    obtain ⟨rfl, rfl⟩ | ⟨hx, b, rfl, -⟩ := Json.readOption_eq_ok_iff.1 h
    · simp
    · simp [hx]

end Members

theorem RuleParts.exists_rule_iff (parts : RuleParts) :
    (∃ r, parts.rule = .ok r) ↔
      Xor (parts.pattern.isSome = true) (parts.entries.isSome = true) := by
  obtain ⟨pattern, _, entries, _⟩ := parts
  cases pattern <;> cases entries <;> simp [rule, Xor]

/-- **An object is a rule iff it has one of `pattern` and `patterns`, and every member that is given
is of its kind.** -/
theorem exists_read_ofDict_iff {d : Dict Value} :
    (∃ r, Rule.read (Value.ofDict d) = .ok r) ↔ IsRule d := by
  simp only [Rule.read_eq_ok_iff]
  rw [exists_comm]
  simp only [exists_and_left, RuleParts.exists_rule_iff, RuleParts.shape_read_eq_ok_iff,
    Value.record_ofDict]
  constructor
  · rintro ⟨parts, ⟨hp, hg, hes, hm⟩, hone⟩
    rw [isSome_iff_of_reads_readOption hp, isSome_iff_of_reads_readOption hes] at hone
    exact ⟨hone, (exists_reads_readOption_iff fun _ => Json.exists_readText_iff).1 ⟨_, hp⟩,
      (exists_reads_readOption_iff fun _ => exists_selectionRead_iff).1 ⟨_, hg⟩,
      (exists_reads_readOption_iff fun _ => exists_entriesRead_iff).1 ⟨_, hes⟩,
      (exists_reads_readOption_iff fun _ => exists_modeRead_iff).1 ⟨_, hm⟩⟩
  · intro h
    obtain ⟨p, hp⟩ := (exists_reads_readOption_iff fun _ => Json.exists_readText_iff).2 h.pattern
    obtain ⟨g, hg⟩ := (exists_reads_readOption_iff fun _ => exists_selectionRead_iff).2 h.group
    obtain ⟨es, hes⟩ := (exists_reads_readOption_iff fun _ => exists_entriesRead_iff).2 h.patterns
    obtain ⟨m, hm⟩ := (exists_reads_readOption_iff fun _ => exists_modeRead_iff).2 h.mode
    refine ⟨⟨p, g, es, m⟩, ⟨hp, hg, hes, hm⟩, ?_⟩
    rw [isSome_iff_of_reads_readOption hp, isSome_iff_of_reads_readOption hes]
    exact h.one

/-! ## The format -/

/-- A rule written in its own way: what is read is written again. -/
def Rule.normalize (v : Value) : Except Error Value := Rule.toValue <$> Rule.read v

theorem Rule.normalize_eq_ok_iff {w : Value} :
    Rule.normalize v = .ok w ↔ ∃ r, Rule.read v = .ok r ∧ r.toValue = w := by
  unfold normalize
  cases Rule.read v <;> simp [Functor.map, Except.map]

/-- **Rules as JSON.** A rule is read back from what it is written as iff it is not written like
another; every rule that is read is read back; writing what was read again changes nothing more; and
an object is a rule iff it has one of `pattern` and `patterns` and every member that is given is of
its kind. -/
theorem rule_format :
    (∀ r : Rule, Rule.read r.toValue = .ok r ↔ r.IsReadable) ∧
    (∀ (v : Value) (r : Rule), Rule.read v = .ok r → Rule.read r.toValue = .ok r) ∧
    (∀ v w : Value, Rule.normalize v = .ok w → Rule.normalize w = .ok w) ∧
    ∀ d : Dict Value, (∃ r, Rule.read (Value.ofDict d) = .ok r) ↔ IsRule d := by
  have hback : ∀ (v : Value) (r : Rule), Rule.read v = .ok r → Rule.read r.toValue = .ok r :=
    fun v r h => Rule.read_toValue_iff.2 (Rule.isReadable_of_read h)
  refine ⟨fun r => Rule.read_toValue_iff, hback, fun v w h => ?_, fun d => exists_read_ofDict_iff⟩
  obtain ⟨r, hr, rfl⟩ := Rule.normalize_eq_ok_iff.1 h
  exact Rule.normalize_eq_ok_iff.2 ⟨r, hback v r hr, rfl⟩

/-- A `null` pattern is absent, the group is read though several patterns do not use it, and a bare
pattern stays bare. -/
theorem rule_format_mixed :
    let v : Value := .object [("group", .nat 2), ("mode", .string "longest"), ("pattern", .null),
      ("patterns", .array [.string "A: (.*)", .object [("group", .string "all"),
        ("pattern", .string "B")]])]
    let r : Rule := .several [.bare "A: (.*)", .detailed "B" .all] (.other "longest")
    Rule.read v = .ok r ∧ Rule.read r.toValue = .ok r ∧
      Rule.normalize v = .ok r.toValue ∧ Rule.normalize r.toValue = .ok r.toValue := by
  intro v r
  have hv : Rule.read v = .ok r := rfl
  have hw : Rule.normalize v = .ok r.toValue := rfl
  exact ⟨hv, rule_format.2.1 v r hv, hw, rule_format.2.2.1 v r.toValue hw⟩

end PolicyFields.Extraction

import Mathlib.Data.Bool.Basic
import PolicyFields.Mapping.Apply
import PolicyFields.Mapping.Config
import PolicyFields.Proofs.Number.Bits

/-!
# Empty items in lists of amounts

Alone, an empty value is not held against the rules for amounts. In a list it is, by its text:
`null`, `0` and so on. So a list is mapped as the first item that a rule catches, and that may be an
empty one.

* `emptyTexts` — the texts of empty values, and `plain_of_isFalsy`: there are no others.
* `AmountRules.catches`, `AmountRules.usable` — items that a rule catches, and those of them that
  are not empty.
* `AmountRules.byUsable` — a list mapped as its first usable item.
* `apply_array_usable` — **every list is mapped like that but those in which an empty item is caught
  first**.
-/

namespace PolicyFields

/-! ## Texts of empty values -/

/-- A float that is equal to zero is written as zero, with its sign. -/
theorem Number.jsonChars_of_beq_zero {x : Float} (h : (x == 0.0) = true) :
    floatChars jsonStyle x = "0.0".toList ∨ floatChars jsonStyle x = "-0.0".toList := by
  obtain ⟨s, hs⟩ := beq_zero_iff.1 h
  obtain ⟨hfinite, hparts⟩ := ofFloat_of_unpack_zero hs
  have hshortest : shortest x = ⟨0, 0⟩ := by
    rw [shortest, hparts]
    rfl
  rw [floatChars, if_pos hfinite, hshortest, hparts]
  cases s with
  | positive => exact .inl rfl
  | negative => exact .inr rfl

namespace Mapping

open Json (Value)
open Regex (Machine)

/-- The texts of the empty values that are no lists. -/
def emptyTexts : List String := ["null", "", "false", "0", "0.0", "-0.0", "\x7b\x7d"]

theorem plain_of_isFalsy {v : Value} (hv : v.isFalsy = true) (hflat : ∀ inner, v ≠ .array inner) :
    v.plain ∈ emptyTexts := by
  cases v with
  | null => decide
  | bool b =>
    cases b with
    | false => decide
    | true => cases hv
  | string s =>
    rw [Value.plain, String.isEmpty_iff.1 hv]
    decide
  | number n =>
    cases n with
    | int i =>
      obtain rfl : i = 0 := beq_iff_eq.1 hv
      decide
    | float x =>
      obtain h | h := Number.jsonChars_of_beq_zero hv
      · have htext : (Value.number (.float x)).plain = "0.0" := congrArg String.ofList h
        rw [htext]
        decide
      · have htext : (Value.number (.float x)).plain = "-0.0" := congrArg String.ofList h
        rw [htext]
        decide
  | array items => exact absurd rfl (hflat items)
  | object members =>
    rw [List.isEmpty_iff.1 hv]
    decide

namespace AmountRules

/-- Whether the pattern of some rule matches a text. -/
def catchesText (cfg : AmountRules) (text : String) : Bool :=
  cfg.rules.any fun r => (r.source.machine.first? text.toList).isSome

/-- Whether the pattern of some rule matches the text of a value. -/
def catches (cfg : AmountRules) (v : Value) : Bool := cfg.catchesText v.plain

/-- Whether a value is not empty and some rule matches it. -/
def usable (cfg : AmountRules) (v : Value) : Bool := !v.isFalsy && cfg.catches v

/-- The output for a list in which there is nothing to map: the default, else the text of the
list. -/
def unmapped (cfg : AmountRules) (items : List Value) : Value :=
  defaultOr cfg.default (.string (Value.array items).plain)

/-- A list mapped as its first usable item. -/
def byUsable (cfg : AmountRules) (items : List Value) : Value :=
  match items.find? cfg.usable with
  | some v => cfg.apply v
  | none => cfg.unmapped items

variable {cfg : AmountRules} {v out : Value} {items : List Value}

/-! ## Items -/

theorem isSome_hit? (v : Value) : (cfg.hit? v).isSome = cfg.catches v := by
  rw [hit?, List.isSome_findSome?, catches, catchesText]
  refine congrArg (cfg.rules.any ·) (funext fun r => ?_)
  rw [AmountRule.outcome?, Option.isSome_map]

theorem exists_hit (h : cfg.catches v = true) : ∃ out, cfg.hit? v = some out :=
  Option.isSome_iff_exists.1 ((isSome_hit? v).trans h)

theorem catches_of_hit (h : cfg.hit? v = some out) : cfg.catches v = true := by
  rw [← isSome_hit?, h, Option.isSome_some]

/-- A hit of the only rule, which respells what its pattern captures. -/
theorem hit?_of_capture {source : NamedMachine} {respelling : Respelling} {captured text : String}
    (hrules : cfg.rules = [⟨source, .transform respelling⟩])
    (hcapture : (source.machine.first? v.plain.toList).map
      (fun m => (Machine.groupText? m v.plain.toList 1).getD "") = some captured)
    (htext : respelling.apply captured = text) : cfg.hit? v = some (.string text) := by
  obtain ⟨m, hm, rfl⟩ := Option.map_eq_some_iff.1 hcapture
  rw [hit?, hrules, List.findSome?_cons, AmountRule.outcome?, ← htext]
  dsimp only
  rw [hm]
  rfl

/-- Alone, an item that is not empty is mapped as in a list. -/
theorem apply_of_hit (hv : v.isFalsy = false) (hflat : ∀ inner, v ≠ .array inner)
    (hhit : cfg.hit? v = some out) : cfg.apply v = out := by
  unfold apply
  rw [hv, if_neg Bool.false_ne_true]
  cases v with
  | array items => exact absurd rfl (hflat items)
  | null | bool _ | number _ | string _ | object _ => exact congrArg (Option.getD · _) hhit

/-! ## Lists -/

theorem apply_array (hne : items ≠ []) :
    cfg.apply (.array items) = (items.findSome? cfg.hit?).getD (cfg.unmapped items) := by
  cases items with
  | nil => exact absurd rfl hne
  | cons v r => rfl

/-- A list is mapped as the first item that is caught. -/
theorem apply_array_of_caught (hfound : items.find? cfg.catches = some v) :
    cfg.hit? v = some (cfg.apply (.array items)) := by
  obtain ⟨hv, before, after, rfl, hbefore⟩ := List.find?_eq_some_iff_append.1 hfound
  obtain ⟨out, hout⟩ := exists_hit hv
  have hfirst : (before ++ v :: after).findSome? cfg.hit? = some out := by
    refine List.findSome?_eq_some_iff.2 ⟨before, v, after, rfl, hout, fun w hw => ?_⟩
    rw [← Option.not_isSome_iff_eq_none, isSome_hit?, Bool.eq_false_of_not_eq_true' (hbefore w hw)]
    exact Bool.false_ne_true
  rw [apply_array (List.append_ne_nil_of_right_ne_nil _ (List.cons_ne_nil v after)), hfirst, hout]
  rfl

theorem apply_array_of_none (hne : items ≠ []) (hnone : items.find? cfg.catches = none) :
    cfg.apply (.array items) = cfg.unmapped items := by
  have hfirst : items.findSome? cfg.hit? = none := by
    refine List.findSome?_eq_none_iff.2 fun w hw => ?_
    rw [← Option.not_isSome_iff_eq_none, isSome_hit?]
    exact List.find?_eq_none.1 hnone w hw
  rw [apply_array hne, hfirst]
  rfl

/-- If the first item that is caught is not empty, then it is the first usable one. -/
theorem byUsable_of_caught (hfound : items.find? cfg.catches = some v) (hv : v.isFalsy = false) :
    cfg.byUsable items = cfg.apply v := by
  obtain ⟨hcaught, before, after, rfl, hbefore⟩ := List.find?_eq_some_iff_append.1 hfound
  have husable : (before ++ v :: after).find? cfg.usable = some v := by
    refine List.find?_eq_some_iff_append.2 ⟨?_, before, after, rfl, fun w hw => ?_⟩
    · rw [usable, hv, hcaught]
      rfl
    · rw [usable, Bool.eq_false_of_not_eq_true' (hbefore w hw), Bool.and_false]
      rfl
  rw [byUsable, husable]

theorem byUsable_of_none (hnone : items.find? cfg.catches = none) :
    cfg.byUsable items = cfg.unmapped items := by
  have husable : items.find? cfg.usable = none := by
    refine List.find?_eq_none.2 fun w hw h => List.find?_eq_none.1 hnone w hw ?_
    exact (Bool.and_eq_true_iff.1 h).2
  rw [byUsable, husable]

end AmountRules

open AmountRules

/-- **A list is mapped as its first usable item unless an empty item is caught before it.** The
first item that is caught decides, alone if it is not empty, and else by one of seven texts. So a
list is mapped as its first usable item, or without one to the default or its own text, exactly if
no empty item is caught first or this one happens to have the same outcome; and always if no rule
matches any of the seven texts. -/
theorem apply_array_usable {cfg : AmountRules} {items : List Value} (hne : items ≠ [])
    (hflat : ∀ v ∈ items, ∀ inner, v ≠ .array inner) :
    (∀ v, items.find? cfg.catches = some v → cfg.hit? v = some (cfg.apply (.array items)) ∧
      (v.isFalsy = false → cfg.apply (.array items) = cfg.apply v) ∧
      (v.isFalsy = true → v.plain ∈ emptyTexts)) ∧
    (items.find? cfg.catches = none → cfg.apply (.array items) = cfg.unmapped items) ∧
    (cfg.apply (.array items) = cfg.byUsable items ↔
      ∀ v, items.find? cfg.catches = some v → v.isFalsy = true →
        cfg.hit? v = some (cfg.byUsable items)) ∧
    ((∀ text ∈ emptyTexts, cfg.catchesText text = false) →
      cfg.apply (.array items) = cfg.byUsable items) := by
  have hcaught (v : Value) (hfound : items.find? cfg.catches = some v) :
      cfg.hit? v = some (cfg.apply (.array items)) ∧
        (v.isFalsy = false → cfg.apply (.array items) = cfg.apply v) ∧
        (v.isFalsy = true → v.plain ∈ emptyTexts) := by
    have hhit := apply_array_of_caught hfound
    have hscalar := hflat v (List.mem_of_find?_eq_some hfound)
    exact ⟨hhit, fun hv => (apply_of_hit hv hscalar hhit).symm, fun hv =>
      plain_of_isFalsy hv hscalar⟩
  have hiff : cfg.apply (.array items) = cfg.byUsable items ↔
      ∀ v, items.find? cfg.catches = some v → v.isFalsy = true →
        cfg.hit? v = some (cfg.byUsable items) := by
    constructor
    · intro heq v hfound _
      exact heq ▸ (hcaught v hfound).1
    · intro h
      cases hfound : items.find? cfg.catches with
      | none => rw [apply_array_of_none hne hfound, byUsable_of_none hfound]
      | some v =>
        obtain ⟨hhit, hfull, -⟩ := hcaught v hfound
        cases hv : v.isFalsy with
        | true => exact Option.some.inj (hhit.symm.trans (h v hfound hv))
        | false => rw [hfull hv, byUsable_of_caught hfound hv]
  refine ⟨hcaught, apply_array_of_none hne, hiff, fun hrules => hiff.2 fun v hfound hv => ?_⟩
  have hcatches : cfg.catches v = true := List.find?_some hfound
  have htext : cfg.catches v = false := hrules v.plain ((hcaught v hfound).2.2 hv)
  exact absurd (htext.symm.trans hcatches) Bool.false_ne_true

/-- A missing value that no rule matches, and a zero that is caught. -/
theorem apply_array_usable_two :
    let digits : Machine := ⟨#[.opens 1 1, .step (.ranges [(44, 44), (46, 46), (48, 57)]) 2,
      .split 1 3, .closes 1 4, .done], 2⟩
    let cfg : AmountRules := ⟨[⟨⟨"([,.0-9]+)", digits⟩, .transform .whole⟩], none⟩
    let amount : Value := .string "5.000,00"
    cfg.apply (.array [.null, amount]) = .string " 5,000 " ∧
      cfg.apply (.array [.null, amount]) = cfg.byUsable [.null, amount] ∧
      cfg.apply (.array [.int 0, amount]) = .string " 0 " := by
  intro digits cfg amount
  have hit {v : Value} {captured text : String} :=
    @hit?_of_capture cfg v ⟨"([,.0-9]+)", digits⟩ .whole captured text rfl
  have hamount : cfg.hit? amount = some (.string " 5,000 ") :=
    @hit amount "5.000,00" _ (by decide +kernel) (by decide +kernel)
  have hzero : cfg.hit? (.int 0) = some (.string " 0 ") :=
    @hit (.int 0) "0" _ (by decide +kernel) (by decide +kernel)
  have hnull : cfg.catches .null = false := by decide +kernel
  have hflat (v : Value) (hv : ∀ inner, v ≠ .array inner) :
      ∀ w ∈ [v, amount], ∀ inner, w ≠ .array inner :=
    List.forall_mem_cons.2 ⟨hv, List.forall_mem_singleton.2 nofun⟩
  have hbehind : [.null, amount].find? cfg.catches = some amount := by
    simp [hnull, catches_of_hit hamount]
  have hfront : [.int 0, amount].find? cfg.catches = some (.int 0) := by
    simp [catches_of_hit hzero]
  obtain ⟨hfirst, -, hiff, -⟩ := apply_array_usable (List.cons_ne_nil _ _) (hflat .null nofun)
  obtain ⟨hcaught, -⟩ := apply_array_usable (List.cons_ne_nil _ _) (hflat (.int 0) nofun)
  refine ⟨?_, hiff.2 fun v hv hfalsy => ?_, ?_⟩
  · exact Option.some.inj ((hfirst amount hbehind).1.symm.trans hamount)
  · cases hbehind.symm.trans hv
    cases hfalsy
  · exact Option.some.inj ((hcaught _ hfront).1.symm.trans hzero)

/-- A missing value takes the place of the first usable item. -/
theorem apply_array_empty_caught :
    let v : Value := .object [
      ("mappings", .array [.object [("pattern", .string "([a-z0-9.,]+)"),
        ("transform", .string "format_turkish_amount")]]),
      ("type", .string "amount_normalization")]
    let amount : Value := .string "1.500,00"
    ∃ cfg : AmountRules, Strategy.parse "Limit" .plain v = .ok (.amount cfg) ∧
      [.null, amount].find? cfg.usable = some amount ∧
      cfg.apply amount = .string " 1,500 " ∧
      cfg.apply (.array [.null, amount]) = .string " null " ∧
      cfg.apply (.array [.null, amount]) ≠ cfg.byUsable [.null, amount] := by
  intro v amount
  have hrules : ∃ (cfg : AmountRules) (source : NamedMachine),
      Strategy.parse "Limit" .plain v = .ok (.amount cfg) ∧
      cfg.rules = [⟨source, .transform .whole⟩] ∧
      (source.machine.first? "null".toList).map
        (fun m => (Machine.groupText? m "null".toList 1).getD "") = some "null" ∧
      (source.machine.first? "1.500,00".toList).map
        (fun m => (Machine.groupText? m "1.500,00".toList 1).getD "") = some "1.500,00" :=
    ⟨_, _, rfl, rfl, by decide +kernel, by decide +kernel⟩
  obtain ⟨cfg, source, hparse, hrule, hnullText, hamountText⟩ := hrules
  have hnull : cfg.hit? .null = some (.string " null ") :=
    hit?_of_capture hrule hnullText (by decide +kernel)
  have hamount : cfg.hit? amount = some (.string " 1,500 ") :=
    hit?_of_capture hrule hamountText (by decide +kernel)
  have hfound : [.null, amount].find? cfg.usable = some amount := by
    have husable : cfg.usable amount = true := catches_of_hit hamount
    have hempty : cfg.usable .null = false := rfl
    simp [hempty, husable]
  have halone : cfg.apply amount = .string " 1,500 " := apply_of_hit rfl nofun hamount
  have hlist : cfg.apply (.array [.null, amount]) = .string " null " := by
    rw [apply_array (List.cons_ne_nil _ _), List.findSome?_cons, hnull]
    rfl
  refine ⟨cfg, hparse, hfound, halone, hlist, ?_⟩
  rw [hlist, byUsable, hfound]
  exact fun h => absurd (Value.string.inj (h.trans halone)) (by decide)

end Mapping

end PolicyFields

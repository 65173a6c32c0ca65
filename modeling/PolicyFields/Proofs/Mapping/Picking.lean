import Mathlib.Data.Set.Basic
import Mathlib.Order.Bounds.Basic
import PolicyFields.Mapping.Apply
import PolicyFields.Mapping.Config
import PolicyFields.Proofs.Amount.Grammar
import PolicyFields.Proofs.Number.Numeral

/-!
# What is picked from lists

A list is mapped as the text that is picked from it: the largest of the numbers that its items hold,
else the first text that is found in them.

* `captures` — all that is found in a list, and `IsCount`: which of it are numbers.
* `max?_counts_eq_some_iff` — the largest number, whatever the order.
* `apply_array_eq` — **a list is mapped as the text that is picked from it**.
* `apply_array_picks` — which text this is.
* `apply_array_alike` — **a text that is all that is found is mapped as if it stood alone**, but for
  zeros before a number, which it loses.
-/

namespace PolicyFields.Mapping

open Amount (IsNumeral)
open Json (Value)
open Regex (Machine)

/-- What a picker captures in a text: its group in the first match of its pattern, if there is one
and the group took part. -/
def Picker.capture? (p : Picker) (text : String) : Option String :=
  (p.source.machine.first? text.toList).bind fun m => Machine.groupText? m text.toList p.group

/-- The text is a numeral, and its number `n` has 128 bits. -/
def IsCount (s : String) (n : Nat) : Prop :=
  IsNumeral s.toList ∧ Nat.ofDigitChars 10 s.toList 0 = n ∧ n < 2 ^ 128

/-- A number without zeros before its digits. -/
def countText (n : Nat) : String := String.ofList (Nat.toDigits 10 n)

/-- The text is a zero with digits behind it. -/
def IsPadded (s : String) : Prop := ∃ r, r ≠ [] ∧ s.toList = '0' :: r

namespace PickRules

/-- All that is found in a list, item by item and, within an item, picker by picker. -/
def captures (cfg : PickRules) (items : List Value) : List String :=
  items.flatMap fun v => cfg.pickers.filterMap fun p => p.capture? v.plain

/-- The numbers that are found in a list. -/
def counts (cfg : PickRules) (items : List Value) : Set Nat :=
  {n | ∃ s ∈ cfg.captures items, IsCount s n}

variable {cfg : PickRules} {items : List Value} {s c : String} {n : Nat}

/-! ## The largest number -/

theorem digitsNumber?_eq_some_iff : digitsNumber? s = some n ↔ IsCount s n := by
  have hvalue : Number.digitsValue s.toList = Nat.ofDigitChars 10 s.toList 0 := rfl
  unfold digitsNumber? IsCount
  dsimp only
  rw [hvalue, ← Amount.isDigits_iff]
  split
  · rename_i hdigits
    rw [Option.ite_none_right_eq_some, Option.some.injEq]
    constructor
    · rintro ⟨hbound, rfl⟩
      exact ⟨hdigits, rfl, hbound⟩
    · rintro ⟨-, rfl, hbound⟩
      exact ⟨hbound, rfl⟩
  · rename_i hdigits
    exact iff_of_false (Option.some_ne_none n).symm fun h => hdigits h.1

/-- The largest number that is found does not depend on the order of what is found. -/
theorem max?_counts_eq_some_iff :
    ((cfg.captures items).filterMap digitsNumber?).max? = some n ↔
      IsGreatest (cfg.counts items) n := by
  have hmem (m : Nat) :
      m ∈ (cfg.captures items).filterMap digitsNumber? ↔ m ∈ cfg.counts items := by
    rw [List.mem_filterMap]
    exact exists_congr fun s => and_congr_right fun _ => digitsNumber?_eq_some_iff
  rw [List.max?_eq_some_iff, IsGreatest, hmem]
  exact and_congr_right fun _ => forall_congr' fun m => by rw [hmem]

theorem counts_eq_of_perm {items' : List Value} {pickers' : List Picker}
    (hitems : items'.Perm items) (hpickers : pickers'.Perm cfg.pickers) :
    { cfg with pickers := pickers' }.counts items' = cfg.counts items := by
  have hcaptures : ({ cfg with pickers := pickers' }.captures items').Perm (cfg.captures items) :=
    hitems.flatMap fun v _ => hpickers.filterMap _
  ext n
  exact exists_congr fun s => and_congr_left fun _ => hcaptures.mem_iff

/-! ## Lists -/

theorem pick?_eq (cfg : PickRules) (items : List Value) : cfg.pick? items =
    ((((cfg.captures items).filterMap digitsNumber?).max?).map countText).or
      (cfg.captures items).head? := by
  have hfound : (items.flatMap fun v => cfg.pickFrom v.plain) = cfg.captures items := rfl
  unfold pick?
  dsimp only
  rw [hfound]
  cases ((cfg.captures items).filterMap digitsNumber?).max? with
  | none => rfl
  | some n => rfl

theorem pick?_of_isGreatest (h : IsGreatest (cfg.counts items) n) :
    cfg.pick? items = some (countText n) := by
  rw [pick?_eq, max?_counts_eq_some_iff.2 h, Option.map_some, Option.some_or]

theorem pick?_of_counts_eq_empty (h : cfg.counts items = ∅) :
    cfg.pick? items = (cfg.captures items).head? := by
  have hnone : ((cfg.captures items).filterMap digitsNumber?).max? = none := by
    refine Option.eq_none_iff_forall_ne_some.2 fun n hn => ?_
    have hcount := (max?_counts_eq_some_iff.1 hn).1
    rw [h] at hcount
    exact hcount
  rw [pick?_eq, hnone, Option.map_none, Option.none_or]

/-- If numbers are found, then there is a largest. -/
theorem exists_isGreatest_counts (h : (cfg.counts items).Nonempty) :
    ∃ n, IsGreatest (cfg.counts items) n := by
  obtain ⟨m, s, hs, hm⟩ := h
  have hmem : m ∈ (cfg.captures items).filterMap digitsNumber? :=
    List.mem_filterMap.2 ⟨s, hs, digitsNumber?_eq_some_iff.2 hm⟩
  obtain ⟨n, hn⟩ := Option.ne_none_iff_exists'.1
    fun hnone => List.ne_nil_of_mem hmem (List.max?_eq_none_iff.1 hnone)
  exact ⟨n, max?_counts_eq_some_iff.1 hn⟩

theorem apply_empty (cfg : PickRules) : cfg.apply (.string "") = cfg.default := rfl

theorem apply_string (cfg : PickRules) (hs : s ≠ "") : cfg.apply (.string s) = cfg.lookup s := by
  have hfull : (Value.string s).isFalsy = false := String.isEmpty_eq_false_iff.2 hs
  exact if_neg (Bool.eq_false_iff.1 hfull)

/-- **A list is mapped as the text that is picked from it.** -/
theorem apply_array_eq (cfg : PickRules) (items : List Value) : cfg.apply (.array items) =
    (cfg.pick? items).elim cfg.default fun s => cfg.apply (.string s) := by
  cases items with
  | nil => rfl
  | cons v r =>
    have hfull : (Value.array (v :: r)).isFalsy = false := rfl
    rw [apply, if_neg (Bool.eq_false_iff.1 hfull)]
    cases cfg.pick? (v :: r) with
    | none => rfl
    | some s =>
      by_cases hs : s = ""
      · rw [hs]
        rfl
      · rw [Option.elim_some, apply_string cfg hs]
        exact if_neg (by rwa [String.isEmpty_iff])

end PickRules

open PickRules

variable {cfg : PickRules} {items : List Value} {c : String}

/-- **Which text is picked from a list.** If numbers are found in it, then the largest, and the
order of items and pickers does not matter; else the first text that is found. Without any, or if
it is empty, the list is mapped to the default. -/
theorem apply_array_picks (cfg : PickRules) (items : List Value) :
    ((cfg.counts items).Nonempty → ∃ n, IsGreatest (cfg.counts items) n ∧
      cfg.apply (.array items) = cfg.apply (.string (countText n)) ∧
      ∀ items' pickers', items'.Perm items → pickers'.Perm cfg.pickers →
        { cfg with pickers := pickers' }.apply (.array items') = cfg.apply (.array items)) ∧
    (cfg.counts items = ∅ →
      (∀ s ∈ (cfg.captures items).head?, cfg.apply (.array items) = cfg.apply (.string s)) ∧
      (cfg.captures items = [] ∨ (cfg.captures items).head? = some "" →
        cfg.apply (.array items) = cfg.default)) := by
  refine ⟨fun hsome => ?_, fun hnone => ⟨fun s hs => ?_, ?_⟩⟩
  · obtain ⟨n, hn⟩ := exists_isGreatest_counts hsome
    have hpicked : cfg.apply (.array items) = cfg.apply (.string (countText n)) := by
      rw [apply_array_eq, pick?_of_isGreatest hn, Option.elim_some]
    refine ⟨n, hn, hpicked, fun items' pickers' hitems hpickers => ?_⟩
    have hsame := counts_eq_of_perm hitems hpickers
    rw [hpicked, apply_array_eq, pick?_of_isGreatest (hsame.symm ▸ hn), Option.elim_some]
    rfl
  · rw [apply_array_eq, pick?_of_counts_eq_empty hnone, Option.mem_def.1 hs, Option.elim_some]
  · rw [apply_array_eq, pick?_of_counts_eq_empty hnone]
    rintro (hnil | hempty)
    · rw [hnil]
      rfl
    · rw [hempty, Option.elim_some, apply_empty]

/-- A number with a zero before it is the largest, and without numbers the first text counts. -/
theorem apply_array_picks_two :
    let run (low high : Nat) : Machine := ⟨#[.step (.ranges [(low, high)]) 1, .split 0 2, .done], 1⟩
    let digits : Picker := ⟨⟨"[0-9]+", run 48 57⟩, 0⟩
    let letters : Picker := ⟨⟨"[a-z]+", run 97 122⟩, 0⟩
    let cfg : PickRules :=
      ⟨[digits, letters], [("88", .string "LONG"), ("to", .string "WORD")], .null⟩
    let items : List Value := [.string "7 days", .string "up to 088"]
    cfg.captures items = ["7", "days", "088", "up"] ∧
      cfg.apply (.array items) = .string "LONG" ∧
      { cfg with pickers := [letters, digits] }.apply (.array items.reverse) = .string "LONG" ∧
      cfg.apply (.array [.string "to", .string "be"]) = .string "WORD" := by
  intro run digits letters cfg items
  have hcaptures : cfg.captures items = ["7", "days", "088", "up"] := by decide +kernel
  have hwords : cfg.captures [.string "to", .string "be"] = ["to", "be"] := by decide +kernel
  have hgreatest : IsGreatest (cfg.counts items) 88 :=
    max?_counts_eq_some_iff.1 (by rw [hcaptures]; decide)
  have hnone : cfg.counts [.string "to", .string "be"] = ∅ := by
    refine Set.eq_empty_of_forall_notMem ?_
    rintro n ⟨s, hs, hdigits, -⟩
    rw [hwords] at hs
    have hno : ∀ s ∈ ["to", "be"], ¬ Amount.isDigits s.toList = true := by decide
    exact hno s hs (Amount.isDigits_iff.2 hdigits)
  obtain ⟨n, hn, hpicked, hperm⟩ := (apply_array_picks cfg items).1 ⟨88, hgreatest.1⟩
  obtain rfl := hn.unique hgreatest
  have hlong : cfg.apply (.array items) = .string "LONG" := hpicked.trans rfl
  refine ⟨hcaptures, hlong, ?_, ?_⟩
  · exact (hperm _ _ items.reverse_perm (List.Perm.swap _ _ _)).trans hlong
  · exact ((apply_array_picks cfg _).2 hnone).1 "to" (by rw [hwords]; rfl)

/-- **A text that is all that is found is mapped as if it stood alone**, if it is no number with
zeros before it. A number is mapped without such zeros. -/
theorem apply_array_alike (hsome : cfg.captures items ≠ [])
    (hall : ∀ s ∈ cfg.captures items, s = c) :
    (¬ (IsPadded c ∧ ∃ n, IsCount c n) → cfg.apply (.array items) = cfg.apply (.string c)) ∧
      ∀ n, IsCount c n → cfg.apply (.array items) = cfg.apply (.string (countText n)) := by
  have hfirst : c ∈ (cfg.captures items).head? := by
    obtain ⟨s, r, hcaptures⟩ := List.exists_cons_of_ne_nil hsome
    rw [hcaptures, ← hall s (hcaptures ▸ List.mem_cons_self)]
    rfl
  have hcounts (n : Nat) : n ∈ cfg.counts items ↔ IsCount c n := by
    constructor
    · rintro ⟨s, hs, hn⟩
      exact hall s hs ▸ hn
    · exact fun hn => ⟨c, List.mem_of_mem_head? hfirst, hn⟩
  have hnumber (n : Nat) (hn : IsCount c n) :
      cfg.apply (.array items) = cfg.apply (.string (countText n)) := by
    have hgreatest : IsGreatest (cfg.counts items) n :=
      ⟨(hcounts n).2 hn, fun m hm => (((hcounts m).1 hm).2.1.symm.trans hn.2.1).le⟩
    rw [apply_array_eq, pick?_of_isGreatest hgreatest, Option.elim_some]
  refine ⟨fun hpadded => ?_, hnumber⟩
  by_cases hcount : ∃ n, IsCount c n
  · obtain ⟨n, hn⟩ := hcount
    have hzero : ∀ r, c.toList = '0' :: r → r = [] := fun r hr => by
      by_contra hne
      exact hpadded ⟨⟨r, hne, hr⟩, n, hn⟩
    have htext : countText n = c := by
      rw [countText, ← hn.2.1, Number.toDigits_ofDigitChars hn.1.1 hn.1.2 hzero,
        String.ofList_toList]
    rw [hnumber n hn, htext]
  · have hnone : cfg.counts items = ∅ :=
      Set.eq_empty_of_forall_notMem fun n hn => hcount ⟨n, (hcounts n).1 hn⟩
    rw [apply_array_eq, pick?_of_counts_eq_empty hnone, Option.mem_def.1 hfirst, Option.elim_some]

/-- A number that is found twice, and one with zeros before it. -/
theorem apply_array_alike_two :
    let digits : Machine := ⟨#[.step (.ranges [(48, 57)]) 1, .split 0 2, .done], 1⟩
    let cfg : PickRules := ⟨[⟨⟨"[0-9]+", digits⟩, 0⟩], [("7", .string "WEEK")], .null⟩
    cfg.captures [.string "7 days", .string "in 7"] = ["7", "7"] ∧
      cfg.apply (.array [.string "7 days", .string "in 7"]) = cfg.apply (.string "7") ∧
      cfg.captures [.string "007"] = ["007"] ∧
      cfg.apply (.array [.string "007"]) = cfg.apply (.string "7") := by
  intro digits cfg
  have htwice : cfg.captures [.string "7 days", .string "in 7"] = ["7", "7"] := by decide +kernel
  have hpadded : cfg.captures [.string "007"] = ["007"] := by decide +kernel
  have hseven : ¬ (IsPadded "7" ∧ ∃ n, IsCount "7" n) := by
    rintro ⟨⟨r, hr, h⟩, -⟩
    exact hr (List.cons.inj h).2.symm
  have hcount : IsCount "007" 7 :=
    ⟨Amount.isDigits_iff.1 (by decide), by decide, by decide⟩
  refine ⟨htwice, ?_, hpadded, ?_⟩
  · exact (@apply_array_alike cfg _ "7" (by simp [htwice]) (by simp [htwice])).1 hseven
  · exact (@apply_array_alike cfg _ "007" (by simp [hpadded]) (by simp [hpadded])).2 7 hcount

/-- Found in a list, a number with zeros before it is not looked up as it is written. -/
theorem apply_array_padded :
    let v : Value := .object [("default", .string "YOK"),
      ("extract_patterns", .array [.object [("pattern", .string "0*7")]]),
      ("mappings", .array [.object [("input", .string "007"), ("output", .string "AJAN")]]),
      ("type", .string "extract_normalize")]
    ∃ cfg : PickRules, Strategy.parse "Kod" .plain v = .ok (.pick cfg) ∧
      cfg.captures [.string "No 007"] = ["007"] ∧
      cfg.apply (.array [.string "No 007"]) = .string "YOK" ∧
      cfg.apply (.string "007") = .string "AJAN" ∧
      cfg.apply (.array [.string "No 007"]) ≠ cfg.apply (.string "007") := by
  intro v
  have hrules : ∃ cfg : PickRules, Strategy.parse "Kod" .plain v = .ok (.pick cfg) ∧
      cfg.captures [.string "No 007"] = ["007"] ∧ cfg.pick? [.string "No 007"] = some "7" ∧
      cfg.apply (.string "7") = .string "YOK" ∧ cfg.apply (.string "007") = .string "AJAN" :=
    ⟨_, rfl, by decide +kernel, by decide +kernel, rfl, rfl⟩
  obtain ⟨cfg, hparse, hcaptures, hpick, hseven, htext⟩ := hrules
  have hlist : cfg.apply (.array [.string "No 007"]) = .string "YOK" := by
    rw [apply_array_eq, hpick, Option.elim_some, hseven]
  refine ⟨cfg, hparse, hcaptures, hlist, htext, fun h => ?_⟩
  exact absurd (Value.string.inj (hlist.symm.trans (h.trans htext))) (by decide)

end PolicyFields.Mapping

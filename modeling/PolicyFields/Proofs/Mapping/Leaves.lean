import PolicyFields.Mapping.Apply
import PolicyFields.Proofs.Json.Equality

/-!
# Lists under substring rules

A list is searched for the first item that is mapped to something else than the list would be
without rules. Items that are lists are searched in the same way, each with its own answer for "no
item".

* `Value.leaves` — what is left of a value when its lists are opened.
* `applyLeaf` — what the rules make of a value that is no list.
* `apply_array` — one level: **a list is mapped to the first other outcome of its items**.
* `apply_leaves` — all levels: **with a default, a list is mapped to the first other outcome of its
  leaves**, so that the nesting does not matter.
* `apply_texts` — without a default nothing that no rule matches is passed over, because it is
  mapped to itself and not to the list.
-/

namespace PolicyFields.Json.Value

mutual

/-- The parts of a value that are no lists, from left to right. -/
def leaves : Value → List Value
  | null => [null]
  | bool b => [bool b]
  | number n => [number n]
  | string s => [string s]
  | object members => [object members]
  | array items => itemLeaves items

/-- The leaves of items, one item after the other. -/
def itemLeaves : List Value → List Value
  | [] => []
  | v :: r => leaves v ++ itemLeaves r

end

theorem leaves_eq_self {v : Value} (h : ∀ items, v ≠ array items) : v.leaves = [v] := by
  cases v with
  | array items => exact absurd rfl (h items)
  | null | bool _ | number _ | string _ | object _ => rw [leaves]

theorem itemLeaves_append (items items' : List Value) :
    itemLeaves (items ++ items') = itemLeaves items ++ itemLeaves items' := by
  induction items with
  | nil => rfl
  | cons v r ih => rw [List.cons_append, itemLeaves, itemLeaves, ih, List.append_assoc]

/-- An item that is a list may be replaced by its items. -/
theorem leaves_splice (before items after : List Value) :
    (array (before ++ array items :: after)).leaves =
      (array (before ++ items ++ after)).leaves := by
  rw [leaves, leaves, itemLeaves_append, itemLeaves, leaves, itemLeaves_append, itemLeaves_append,
    List.append_assoc]

end PolicyFields.Json.Value

namespace PolicyFields.Mapping

open Json (Value)
open Json.Value (leaves itemLeaves)

/-- The first outcome that differs from `d`, else `d`. -/
def firstOther (d : Value) (outcomes : List Value) : Value :=
  (outcomes.find? fun out => !out.same d).getD d

theorem firstOther_cons (d out : Value) (outcomes : List Value) :
    firstOther d (out :: outcomes) = if out.same d then firstOther d outcomes else out := by
  rw [firstOther, List.find?_cons]
  cases out.same d <;> rfl

namespace SubstringRules

variable {cfg cfg' : SubstringRules} {d : Value}

/-! ## Values that are no lists -/

/-- The first rule that matches a text. -/
def rule? (cfg : SubstringRules) (s : String) : Option SubstringRule :=
  cfg.rules.find? fun r => r.matchesText s

/-- The output of the first rule that matches a text. -/
def outcome? (cfg : SubstringRules) (s : String) : Option Value :=
  (cfg.rule? s).map SubstringRule.output

/-- The outcome of a value as a whole: that of the rules for the missing value, the default where a
value is empty, and else that of the first rule that matches its text. -/
def applyLeaf (cfg : SubstringRules) (v : Value) : Value :=
  if v.isNull then ((cfg.rules.find? SubstringRule.matchesNull).map SubstringRule.output).getD
    (cfg.default.getD .null)
  else if v.isFalsy then cfg.default.getD v
  else (cfg.outcome? v.plain).getD (cfg.default.getD v)

theorem applyText_eq (v : Value) :
    cfg.applyText v = (cfg.outcome? v.plain).getD (cfg.default.getD v) := by
  unfold applyText outcome? rule? defaultOr
  cases cfg.rules.find? fun r => r.matchesText v.plain <;> rfl

theorem applyNull_eq : cfg.applyNull =
    ((cfg.rules.find? SubstringRule.matchesNull).map SubstringRule.output).getD
      (cfg.default.getD .null) := by
  unfold applyNull
  cases cfg.rules.find? SubstringRule.matchesNull <;> rfl

/-- Where a value is no list, it is mapped as a whole. -/
theorem apply_of_not_array {v : Value} (h : ∀ items, v ≠ .array items) :
    cfg.apply v = cfg.applyLeaf v := by
  cases v with
  | array items => exact absurd rfl (h items)
  | null => rw [apply, applyNull_eq]; rfl
  | bool b =>
    cases b <;> simp [apply, applyLeaf, Value.isNull, Value.isFalsy, applyText_eq, defaultOr]
  | number _ | string _ | object _ =>
    simp only [apply, applyLeaf, Value.isNull, Value.isFalsy, applyText_eq, defaultOr,
      Bool.false_eq_true, if_false]
    rfl

/-! ## One level -/

theorem applyItems_eq (fallback : Value) (items : List Value) :
    cfg.applyItems fallback items = firstOther fallback (items.map cfg.apply) := by
  induction items with
  | nil => rfl
  | cons v r ih => rw [applyItems, List.map_cons, firstOther_cons, ih]

/-- **A list is mapped to the first other outcome of its items.** -/
theorem apply_array (items : List Value) : cfg.apply (.array items) =
    firstOther (cfg.default.getD (.array items)) (items.map cfg.apply) := by
  rw [apply, ← applyItems_eq, defaultOr]
  cases items <;> rfl

mutual

/-- Rules that agree on the leaves of a value and on the default agree on the value. -/
theorem apply_congr (hdefault : cfg.default = cfg'.default) : ∀ {v : Value},
    (∀ w ∈ leaves v, cfg.applyLeaf w = cfg'.applyLeaf w) → cfg.apply v = cfg'.apply v
  | .array items, h => by
    rw [apply_array, apply_array, map_apply_congr hdefault h, hdefault]
  | .null, h | .bool _, h | .number _, h | .string _, h | .object _, h => by
    rw [apply_of_not_array fun _ => Value.noConfusion,
      apply_of_not_array fun _ => Value.noConfusion]
    exact h _ List.mem_cons_self

theorem map_apply_congr (hdefault : cfg.default = cfg'.default) : ∀ {items : List Value},
    (∀ w ∈ itemLeaves items, cfg.applyLeaf w = cfg'.applyLeaf w) →
    items.map cfg.apply = items.map cfg'.apply
  | [], _ => rfl
  | v :: r, h => by
    rw [itemLeaves, List.forall_mem_append] at h
    rw [List.map_cons, List.map_cons, apply_congr hdefault h.1, map_apply_congr hdefault h.2]

end

/-! ## All levels -/

mutual

/-- Among the leaves of a value its own outcome is found, unless it is the default. -/
theorem find?_leaves (hdefault : cfg.default = some d) (hd : d.same d = true) : ∀ v : Value,
    ((leaves v).map cfg.applyLeaf).find? (fun out => !out.same d) =
      (some (cfg.apply v)).filter fun out => !out.same d
  | .array items => by
    rw [leaves, find?_itemLeaves hdefault hd items, apply_array, hdefault, Option.getD_some,
      firstOther]
    cases h : (items.map cfg.apply).find? fun out => !out.same d with
    | none => simp [Option.filter, hd]
    | some out =>
      have hother := List.find?_some h
      simpa [Option.filter] using hother
  | .null | .bool _ | .number _ | .string _ | .object _ => by
    rw [Value.leaves_eq_self (fun _ => Value.noConfusion),
      apply_of_not_array (fun _ => Value.noConfusion), List.map_singleton, List.find?_singleton,
      Option.filter_some]

theorem find?_itemLeaves (hdefault : cfg.default = some d) (hd : d.same d = true) :
    ∀ items : List Value, ((itemLeaves items).map cfg.applyLeaf).find? (fun out => !out.same d) =
      (items.map cfg.apply).find? fun out => !out.same d
  | [] => rfl
  | v :: r => by
    rw [itemLeaves, List.map_append, List.find?_append, find?_leaves hdefault hd v,
      find?_itemLeaves hdefault hd r, List.map_cons, List.find?_cons]
    cases h : (cfg.apply v).same d <;> simp [Option.filter, h]

end

/-- **With a default, a list is mapped to the first other outcome of its leaves.** -/
theorem apply_array_leaves (hdefault : cfg.default = some d) (hd : d.same d = true)
    (items : List Value) :
    cfg.apply (.array items) = firstOther d ((leaves (.array items)).map cfg.applyLeaf) := by
  rw [apply_array, hdefault, Option.getD_some, firstOther, firstOther, leaves,
    find?_itemLeaves hdefault hd]

/-- A leaf is mapped to the default or by a rule. -/
theorem applyLeaf_cases (hdefault : cfg.default = some d) (v : Value) :
    cfg.applyLeaf v = d ∨ ∃ r ∈ cfg.rules, cfg.applyLeaf v = r.output := by
  unfold applyLeaf
  rw [hdefault, Option.getD_some, Option.getD_some]
  split
  · cases h : cfg.rules.find? SubstringRule.matchesNull with
    | none => exact .inl rfl
    | some r => exact .inr ⟨r, List.mem_of_find?_eq_some h, rfl⟩
  · split
    · exact .inl rfl
    · cases h : cfg.outcome? v.plain with
      | none => exact .inl rfl
      | some out =>
        obtain ⟨r, hr, rfl⟩ := Option.map_eq_some_iff.1 h
        exact .inr ⟨r, List.mem_of_find?_eq_some hr, rfl⟩

theorem firstOther_cases (outcomes : List Value) :
    firstOther d outcomes = d ∨ firstOther d outcomes ∈ outcomes := by
  unfold firstOther
  cases h : outcomes.find? fun out => !out.same d with
  | none => exact .inl rfl
  | some out => exact .inr (List.mem_of_find?_eq_some h)

/-- A value is mapped to the default or by a rule. -/
theorem apply_cases (hdefault : cfg.default = some d) (hd : d.same d = true) (v : Value) :
    cfg.apply v = d ∨ ∃ r ∈ cfg.rules, cfg.apply v = r.output := by
  by_cases hv : ∃ items, v = .array items
  · obtain ⟨items, rfl⟩ := hv
    rw [apply_array_leaves hdefault hd]
    rcases firstOther_cases (d := d) ((leaves (.array items)).map cfg.applyLeaf) with h | h
    · exact .inl h
    · obtain ⟨w, -, hw⟩ := List.mem_map.1 h
      rw [← hw]
      exact applyLeaf_cases hdefault w
  · rw [apply_of_not_array (not_exists.1 hv)]
    exact applyLeaf_cases hdefault v

end SubstringRules

open SubstringRules

/-- **The nesting of a list does not matter if there is a default.** A value that is no list is
mapped as a whole, by the first rule for it. A list is mapped to the first outcome of its leaves,
each mapped as a whole, that differs from the default, and else to the default, so that lists with
the same leaves are mapped alike. The same can be said of all values if equal values are not told
apart. -/
theorem apply_leaves {cfg : SubstringRules} {d : Value} (hdefault : cfg.default = some d)
    (hd : d.IsFinite) (houtputs : ∀ r ∈ cfg.rules, r.output.IsFinite) :
    (∀ v, (∀ items, v ≠ .array items) → cfg.apply v = cfg.applyLeaf v) ∧
    (∀ items, cfg.apply (.array items) =
      firstOther d ((leaves (.array items)).map cfg.applyLeaf)) ∧
    (∀ v, (cfg.apply v).same (firstOther d (v.leaves.map cfg.applyLeaf)) = true) ∧
    (∀ items items', leaves (.array items) = leaves (.array items') →
      cfg.apply (.array items) = cfg.apply (.array items')) ∧
    (∀ before items after, cfg.apply (.array (before ++ .array items :: after)) =
      cfg.apply (.array (before ++ items ++ after))) ∧
    ∀ v, cfg.apply v = d ∨ ∃ r ∈ cfg.rules, cfg.apply v = r.output := by
  have hself : d.same d = true := hd.same_self
  have hlist := apply_array_leaves hdefault hself
  have hcases := apply_cases hdefault hself
  have hnested {items items' : List Value} (h : leaves (.array items) = leaves (.array items')) :
      cfg.apply (.array items) = cfg.apply (.array items') := by
    rw [hlist, hlist, h]
  have hfinite (v : Value) : (cfg.apply v).IsFinite := by
    rcases hcases v with h | ⟨r, hr, h⟩
    · exact h ▸ hd
    · exact h ▸ houtputs r hr
  refine ⟨fun v => apply_of_not_array, hlist, fun v => ?_, fun _ _ => hnested,
    fun before items after => hnested (Value.leaves_splice before items after), hcases⟩
  by_cases hv : ∃ items, v = .array items
  · obtain ⟨items, rfl⟩ := hv
    rw [← hlist]
    exact (hfinite _).same_self
  · -- A value as a whole may be equal to the default and yet another one, a zero of the other sign.
    have hv := not_exists.1 hv
    have hleaf : cfg.apply v = cfg.applyLeaf v := apply_of_not_array hv
    rw [Value.leaves_eq_self hv, List.map_singleton, firstOther_cons, ← hleaf]
    split
    · assumption
    · exact (hfinite v).same_self

/-- A rule for the missing value, one that gives the default, and lists within lists. -/
theorem apply_leaves_nested :
    let cfg : SubstringRules := ⟨[⟨some "sel", .string "YOK"⟩, ⟨some "cam", .string "CAM"⟩,
      ⟨none, .null⟩], some (.string "YOK")⟩
    let items : List Value := [.string "Sel", .array [.array [], .string ""],
      .array [.array [.string "Konut"], .string "Cam"], .null]
    cfg.apply (.array items) = .string "CAM" ∧
      cfg.apply (.array (leaves (.array items))) = .string "CAM" := by
  intro cfg items
  have houtputs : ∀ r ∈ cfg.rules, r.output.IsFinite :=
    List.forall_mem_cons.2 ⟨.string _, List.forall_mem_cons.2 ⟨.string _,
      List.forall_mem_singleton.2 .null⟩⟩
  obtain ⟨-, hlist, -, hnested, -, -⟩ := @apply_leaves cfg (.string "YOK") rfl (.string _) houtputs
  have hcam : cfg.apply (.array items) = .string "CAM" := (hlist items).trans rfl
  exact ⟨hcam, (hnested _ items rfl).trans hcam⟩

/-! ## Without a default -/

/-- A list of texts. -/
def textList (texts : List String) : Value := .array (texts.map .string)

theorem same_textList {v : Value} {texts : List String} :
    v.same (textList texts) = true ↔ v = textList texts := by
  refine Value.same_iff (Value.itemsFloatFree_iff.2 fun w hw => ?_)
  obtain ⟨s, -, rfl⟩ := List.mem_map.1 hw
  rfl

namespace SubstringRules

variable {cfg : SubstringRules} {texts : List String}

/-- A text that no rule matches is mapped to itself. -/
theorem apply_string (hdefault : cfg.default = none) {s : String} (hs : s ≠ "") :
    cfg.apply (.string s) = (cfg.outcome? s).getD (.string s) := by
  have hfalsy : (Value.string s).isFalsy = false := by
    rw [Value.isFalsy, String.isEmpty_eq_false_iff]
    exact hs
  rw [apply_of_not_array fun _ => Value.noConfusion, applyLeaf, hfalsy, hdefault]
  rfl

theorem apply_textList (hdefault : cfg.default = none) (hne : ∀ s ∈ texts, s ≠ "") :
    cfg.apply (textList texts) =
      firstOther (textList texts) (texts.map fun s => (cfg.outcome? s).getD (.string s)) := by
  rw [textList, apply_array, hdefault, Option.getD_none, List.map_map]
  congr 1
  exact List.map_congr_left fun s hs => apply_string hdefault (hne s hs)

/-- A list of texts that are all mapped to the list, and no other, is mapped to itself. -/
theorem firstOther_textList {outcomes : List Value} :
    firstOther (textList texts) outcomes = textList texts ↔
      ∀ out ∈ outcomes, out = textList texts := by
  induction outcomes with
  | nil => simp [firstOther]
  | cons out r ih =>
    by_cases hout : out = textList texts
    · rw [firstOther_cons, if_pos (same_textList.2 hout), List.forall_mem_cons, ih]
      exact (and_iff_right hout).symm
    · rw [firstOther_cons, if_neg (mt same_textList.1 hout)]
      exact iff_of_false hout fun h => hout (h out List.mem_cons_self)

/-- Only a rule can map a text to a list. -/
theorem getD_eq_textList {s : String} {o : Option Value} :
    o.getD (.string s) = textList texts ↔ o = some (textList texts) := by
  cases o with
  | none => simp [textList]
  | some out => simp

end SubstringRules

/-- **Without a default, the first text of a list hides the others if no rule matches it**: it is
then mapped to itself, which is not the list, and so it is the outcome. So the output for the first
text that a rule matches is the outcome of the list only if that is the very first one, unless the
output happens to be the first text. (An output that is the list itself is passed over like the
list.) -/
theorem apply_texts {cfg : SubstringRules} (hdefault : cfg.default = none) {first : String}
    {rest : List String} (hne : ∀ s ∈ first :: rest, s ≠ "") {out : Value}
    (hfound : (first :: rest).findSome? cfg.outcome? = some out) :
    (cfg.outcome? first = none → cfg.apply (textList (first :: rest)) = .string first) ∧
    (cfg.apply (textList (first :: rest)) = out ↔
      (cfg.outcome? first = none ∧ out = .string first) ∨
      (cfg.outcome? first = some out ∧
        (out = textList (first :: rest) → ∀ s ∈ rest, cfg.outcome? s = some out))) := by
  have hlist := apply_textList hdefault hne
  rw [List.map_cons, firstOther_cons] at hlist
  cases hfirst : cfg.outcome? first with
  | none =>
    have hother : (Value.string first).same (textList (first :: rest)) = false := rfl
    rw [hfirst, Option.getD_none, hother] at hlist
    rw [hlist]
    simp [eq_comm]
  | some o =>
    obtain rfl : o = out := by
      rw [List.findSome?_cons, hfirst] at hfound
      exact Option.some.inj hfound
    rw [hfirst, Option.getD_some] at hlist
    refine ⟨nofun, ?_⟩
    simp only [reduceCtorEq, false_and, true_and, false_or]
    by_cases hself : o = textList (first :: rest)
    · rw [if_pos (same_textList.2 hself)] at hlist
      rw [hlist, hself, firstOther_textList, List.forall_mem_map]
      simp only [getD_eq_textList, true_imp_iff]
    · rw [if_neg (mt same_textList.1 hself)] at hlist
      exact iff_of_true hlist fun h => absurd h hself

/-- The first text is matched, by the second rule. -/
theorem apply_texts_first :
    let cfg : SubstringRules := ⟨[⟨some "sel", .string "SEL"⟩, ⟨some "kasko", .string "KASKO"⟩], none⟩
    cfg.apply (textList ["Tam Kasko", "Konut", "Sel"]) = .string "KASKO" := by
  intro cfg
  have hfound : ["Tam Kasko", "Konut", "Sel"].findSome? cfg.outcome? = some (.string "KASKO") :=
    rfl
  have hiff := (@apply_texts cfg rfl "Tam Kasko" ["Konut", "Sel"] (by decide) _ hfound).2
  exact hiff.2 (.inr ⟨rfl, fun h => Value.noConfusion h⟩)

/-- The second text is matched, and the outcome is the first. -/
theorem apply_texts_hidden :
    let cfg : SubstringRules := ⟨[⟨some "kasko", .string "KASKO"⟩], none⟩
    let texts := ["Sel", "Kasko"]
    (∀ s ∈ texts, s ≠ "") ∧ texts.findSome? cfg.outcome? = some (.string "KASKO") ∧
      cfg.apply (textList texts) = .string "Sel" ∧
      cfg.apply (textList texts) ≠ .string "KASKO" := by
  intro cfg texts
  have hne : ∀ s ∈ texts, s ≠ "" := by decide
  have hsel : cfg.apply (textList texts) = .string "Sel" :=
    (apply_textList rfl hne).trans rfl
  refine ⟨hne, rfl, hsel, fun h => ?_⟩
  exact absurd (Value.string.inj (hsel.symm.trans h)) (by decide)

end PolicyFields.Mapping

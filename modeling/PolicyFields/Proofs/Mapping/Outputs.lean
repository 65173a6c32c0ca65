import PolicyFields.Mapping.Processing
import PolicyFields.Proofs.Json.Parts
import PolicyFields.Proofs.Json.Reading
import PolicyFields.Proofs.Mapping.Accounting
import PolicyFields.Proofs.Mapping.Loading

/-!
# What mapping puts out

Every value that mapping gives is null, a text, a number it made itself, a value of the
configuration or a part of the value that was mapped.

* `Admits` — properties that the values mapping makes itself have, and that parts inherit.
* `Strategy.Holds` — such a property of all values that a strategy holds.
* `Strategy.apply_keeps` — **it holds of what the strategy puts out** if it holds of the value.
* `Config.load_holds` — the values of a configuration that is read from a file are readable.
* `Config.mapArtifact_readable` — **what is mapped from a readable artifact is readable**.
-/

namespace PolicyFields.Mapping

open Json (Value InRange PartsHold Shape Field Source)
open Traversal (bind_eq_ok_iff map_eq_ok_iff exists_of_mem_mapM keyed_eq_ok_iff)

/-- The property holds of the values that mapping makes itself, and parts inherit it. -/
structure Admits (Q : Value → Prop) : Prop where
  null : Q .null
  string : ∀ s, Q (.string s)
  int : ∀ n, fitsInt64 n = true → Q (.int n)
  float : ∀ x, Q (.float x)
  item : ∀ {items}, Q (.array items) → ∀ v ∈ items, Q v
  member : ∀ {members}, Q (.object members) → ∀ m ∈ members, Q m.2

theorem admits_readable (k : Nat) : Admits (Value.Readable k) where
  null := .null
  string := .string
  int n hn := by
    rw [fitsInt64_iff] at hn
    exact .int ⟨by omega, by omega⟩
  float := .float
  item h v hv := by
    cases h with
    | array hitems => exact (hitems v hv).mono (Nat.le_succ _)
  member h m hm := by
    cases k with
    | zero => generalize hv : Value.object _ = v at h; cases h <;> cases hv
    | succ k =>
      obtain ⟨_, -, hmembers⟩ := h.exists_dict
      exact (hmembers m hm).mono (Nat.le_succ _)

variable {Q : Value → Prop}

/-! ## Strategies -/

/-- The property holds of all values that the strategy holds. -/
def Strategy.Holds (Q : Value → Prop) : Strategy → Prop
  | fixed output => Q output
  | substring rules => (∀ r ∈ rules.rules, Q r.output) ∧ ∀ d ∈ rules.default, Q d
  | pick rules => (∀ e ∈ rules.outputs, Q e.2) ∧ Q rules.default
  | amount rules => (∀ r ∈ rules.rules, ∀ output, r.action = .literal output → Q output) ∧
    ∀ d ∈ rules.default, Q d
  | numeric rules => (∀ r ∈ rules.rules, Q r.output) ∧ ∀ d ∈ rules.default, Q d
  | unrecognized _ => True

theorem Strategy.Holds.imp {R : Value → Prop} (hQR : ∀ v, Q v → R v) {s : Strategy}
    (h : s.Holds Q) : s.Holds R := by
  cases s with
  | fixed output => exact hQR output h
  | substring rules => exact ⟨fun r hr => hQR _ (h.1 r hr), fun d hd => hQR d (h.2 d hd)⟩
  | pick rules => exact ⟨fun e he => hQR _ (h.1 e he), hQR _ h.2⟩
  | amount rules =>
    exact ⟨fun r hr output ho => hQR output (h.1 r hr output ho), fun d hd => hQR d (h.2 d hd)⟩
  | numeric rules => exact ⟨fun r hr => hQR _ (h.1 r hr), fun d hd => hQR d (h.2 d hd)⟩
  | unrecognized _ => trivial

theorem getD_keeps {default : Option Value} (hdefault : ∀ d ∈ default, Q d) {v : Value} (hv : Q v) :
    Q (default.getD v) := by
  cases default with
  | none => exact hv
  | some d => exact hdefault d rfl

section Substrings

variable {cfg : SubstringRules} (hrules : ∀ r ∈ cfg.rules, Q r.output)
  (hdefault : ∀ d ∈ cfg.default, Q d)

include hrules hdefault

theorem SubstringRules.applyText_keeps {v : Value} (hv : Q v) : Q (cfg.applyText v) := by
  unfold applyText
  split
  · rename_i r hr
    exact hrules r (List.mem_of_find?_eq_some hr)
  · exact getD_keeps hdefault hv

theorem SubstringRules.applyNull_keeps (hQ : Admits Q) : Q cfg.applyNull := by
  unfold applyNull
  split
  · rename_i r hr
    exact hrules r (List.mem_of_find?_eq_some hr)
  · exact getD_keeps hdefault hQ.null

end Substrings

mutual

theorem SubstringRules.apply_keeps (hQ : Admits Q) {cfg : SubstringRules}
    (hrules : ∀ r ∈ cfg.rules, Q r.output) (hdefault : ∀ d ∈ cfg.default, Q d) :
    ∀ {v : Value}, Q v → Q (cfg.apply v)
  | .null, _ => by
    rw [apply]
    exact applyNull_keeps hrules hdefault hQ
  | .array items, hv => by
    rw [apply]
    split
    · exact getD_keeps hdefault hv
    · exact applyItems_keeps hQ hrules hdefault (getD_keeps hdefault hv) (hQ.item hv)
  | .bool b, hv | .number n, hv | .string s, hv | .object ms, hv => by
    rw [apply]
    split
    · first | exact applyText_keeps hrules hdefault hv | exact getD_keeps hdefault hv
    · first | exact applyText_keeps hrules hdefault hv | exact getD_keeps hdefault hv

theorem SubstringRules.applyItems_keeps (hQ : Admits Q) {cfg : SubstringRules}
    (hrules : ∀ r ∈ cfg.rules, Q r.output) (hdefault : ∀ d ∈ cfg.default, Q d)
    {fallback : Value} (hfallback : Q fallback) :
    ∀ {items : List Value}, (∀ v ∈ items, Q v) → Q (cfg.applyItems fallback items)
  | [], _ => by
    rw [applyItems]
    exact hfallback
  | v :: vs, h => by
    obtain ⟨hv, hvs⟩ := List.forall_mem_cons.1 h
    rw [applyItems]
    split
    · exact applyItems_keeps hQ hrules hdefault hfallback hvs
    · exact apply_keeps hQ hrules hdefault hv

end

theorem PickRules.apply_keeps {cfg : PickRules} (houtputs : ∀ e ∈ cfg.outputs, Q e.2)
    (hdefault : Q cfg.default) (v : Value) : Q (cfg.apply v) := by
  have hlookup (text : String) : Q (cfg.lookup text) := by
    unfold lookup
    cases h : cfg.outputs.lookup text with
    | none => exact hdefault
    | some output =>
      obtain ⟨l₁, l₂, heq, -⟩ := List.lookup_eq_some_iff.1 h
      exact houtputs (text, output) (heq ▸ List.mem_append_right _ List.mem_cons_self)
  unfold apply
  split
  · exact hdefault
  · split
    · split
      · split
        · exact hdefault
        · exact hlookup _
      · exact hdefault
    · exact hlookup _

theorem AmountRules.apply_keeps {cfg : AmountRules} (hQ : Admits Q)
    (hrules : ∀ r ∈ cfg.rules, ∀ output, r.action = .literal output → Q output)
    (hdefault : ∀ d ∈ cfg.default, Q d) (v : Value) : Q (cfg.apply v) := by
  have hhit {w out : Value} (h : cfg.hit? w = some out) : Q out := by
    obtain ⟨r, hr, h⟩ := List.exists_of_findSome?_eq_some h
    obtain ⟨m, -, rfl⟩ := Option.map_eq_some_iff.1 h
    split
    · rename_i output haction
      exact hrules r hr output haction
    · exact hQ.string _
  unfold apply
  split
  · exact getD_keeps hdefault (hQ.string "")
  · refine getD_keeps (fun out hout => ?_) (getD_keeps hdefault (hQ.string _))
    split at hout
    · obtain ⟨w, -, hw⟩ := List.exists_of_findSome?_eq_some hout
      exact hhit hw
    · exact hhit hout

section Numbers

theorem decimalValue_keeps (hQ : Admits Q) {kind : NumericType} {d : Number.Decimal} {w : Value}
    (h : decimalValue kind d = .ok w) : Q w := by
  unfold decimalValue at h
  split at h
  · split at h
    · obtain rfl := Except.ok.inj h
      exact hQ.int _ ‹_›
    · cases h
  · split at h
    · obtain rfl := Except.ok.inj h
      exact hQ.float _
    · cases h

theorem floatValue_keeps (hQ : Admits Q) {kind : NumericType} {x : Float} {w : Value}
    (h : floatValue kind x = .ok w) : Q w := by
  unfold floatValue at h
  split at h
  · split at h
    · obtain rfl := Except.ok.inj h
      exact hQ.int _ ‹_›
    · cases h
  · obtain rfl := Except.ok.inj h
    exact hQ.float _

theorem readInt64?_fits {s : String} {n : Int} (h : readInt64? s = some n) :
    fitsInt64 n = true := by
  simp only [readInt64?, Option.ite_none_right_eq_some, Option.some.injEq] at h
  obtain ⟨-, hfits, rfl⟩ := h
  exact hfits

theorem coerce_keeps (hQ : Admits Q) (kind : NumericType) {output : Value} (h : Q output) :
    Q (coerce kind output) := by
  unfold coerce
  split
  · dsimp only
    split
    · refine getD_keeps (fun n hn => ?_) h
      obtain ⟨i, hi, rfl⟩ := Option.map_eq_some_iff.1 hn
      exact hQ.int i (readInt64?_fits hi)
    · refine getD_keeps (fun n hn => ?_) h
      obtain ⟨x, -, rfl⟩ := Option.map_eq_some_iff.1 hn
      exact hQ.float x
  · exact h

namespace NumericRules

variable {cfg : NumericRules}

theorem ruleOutcome_keeps (hQ : Admits Q) {r : NumericRule} (hr : Q r.output) {w : Value}
    (h : cfg.ruleOutcome r = .ok w) : Q w := by
  unfold ruleOutcome at h
  split at h
  · rename_i n hn
    obtain rfl := Except.ok.inj h
    rwa [← hn]
  · split at h
    · unfold scaled at h
      dsimp only at h
      split at h
      · exact decimalValue_keeps hQ h
      · cases h
    · obtain rfl := Except.ok.inj h
      exact coerce_keeps hQ _ hr

theorem readNumber_keeps (hQ : Admits Q) {text : String} {w : Value}
    (h : cfg.readNumber text = .ok (some w)) : Q w := by
  unfold readNumber at h
  dsimp only at h
  split at h
  · obtain ⟨b, hb, hw⟩ := map_eq_ok_iff.1 h
    obtain rfl := Option.some.inj hw
    exact decimalValue_keeps hQ hb
  · split at h
    · split at h
      · obtain ⟨b, hb, hw⟩ := map_eq_ok_iff.1 h
        obtain rfl := Option.some.inj hw
        exact floatValue_keeps hQ hb
      · cases h
    · cases h

theorem convert_keeps (hQ : Admits Q) (hrules : ∀ r ∈ cfg.rules, Q r.output) {v w : Value}
    (h : cfg.convert v = .ok (some w)) : Q w := by
  unfold convert at h
  split at h
  · cases h
  · split at h
    · rename_i r hr
      obtain ⟨b, hb, hw⟩ := map_eq_ok_iff.1 h
      obtain rfl := Option.some.inj hw
      exact ruleOutcome_keeps hQ (hrules r (List.mem_of_find?_eq_some hr)) hb
    · exact readNumber_keeps hQ h

theorem apply_keeps (hQ : Admits Q) (hrules : ∀ r ∈ cfg.rules, Q r.output)
    (hdefault : ∀ d ∈ cfg.default, Q d) {v w : Value} (h : cfg.apply v = .ok w) : Q w := by
  have hfallback : Q (cfg.default.getD .null) := getD_keeps hdefault hQ.null
  unfold apply at h
  dsimp only at h
  split at h
  · exact Except.ok.inj h ▸ hfallback
  · split at h
    · obtain rfl := Except.ok.inj h
      refine getD_keeps (fun out hout => ?_) hfallback
      obtain ⟨x, -, hx⟩ := List.exists_of_findSome?_eq_some hout
      unfold convertItem? at hx
      split at hx
      · split at hx
        · cases hx
        · obtain rfl := Option.some.inj hx
          exact convert_keeps hQ hrules ‹_›
      · cases hx
    · obtain ⟨out, hout, rfl⟩ := map_eq_ok_iff.1 h
      cases out with
      | none => exact hfallback
      | some x => exact convert_keeps hQ hrules hout

end NumericRules

end Numbers

/-- **What a strategy puts out** has the property if its own values and the value have. -/
theorem Strategy.apply_keeps (hQ : Admits Q) {s : Strategy} (hs : s.Holds Q) {v w : Value}
    (hv : Q v) (h : s.apply v = .ok w) : Q w := by
  cases s with
  | fixed output => exact Except.ok.inj h ▸ hs
  | substring rules =>
    exact Except.ok.inj h ▸ SubstringRules.apply_keeps hQ hs.1 hs.2 hv
  | pick rules => exact Except.ok.inj h ▸ PickRules.apply_keeps hs.1 hs.2 v
  | amount rules => exact Except.ok.inj h ▸ AmountRules.apply_keeps hQ hs.1 hs.2 v
  | numeric rules => exact NumericRules.apply_keeps hQ hs.1 hs.2 h
  | unrecognized kind => exact Except.ok.inj h ▸ hv

/-! ## Configurations that are read -/

section Loading

variable {field : String} {o : Regex.Options} {v : Value}

theorem Admits.parts (hQ : Admits Q) (hv : Q v) : PartsHold Q v := by
  intro view hview
  obtain rfl := Except.ok.inj hview
  cases v with
  | array items => exact hQ.item hv
  | object members =>
    intro x hx
    simp only [Value.view, Json.View.parts, List.map_map, List.mem_map, Function.comp] at hx
    obtain ⟨m, hm, rfl⟩ := hx
    exact hQ.member hv m hm
  | null | bool _ | number _ | string _ => exact fun _ hx => absurd hx List.not_mem_nil

theorem some_keeps {x a : Value} (hx : Q x) (ha : Source.value x = .ok a) :
    ∀ d ∈ some a, Q d := by
  intro d hd
  obtain rfl := Option.some.inj hd
  exact Json.value_eq_ok_iff.1 ha ▸ hx

theorem readFixed_holds (hQ : Admits Q) (hv : Q v) {x : Value} (h : readFixed v = .ok x) : Q x := by
  obtain ⟨r, hr, h⟩ := bind_eq_ok_iff.1 h
  have hkeeps : Shape.Keeps fixedShape.fields Q fun r => ∀ d ∈ r, Q d :=
    .mandatory (fun x a r hx ha _ => some_keeps hx ha) .nil
  exact Shape.read_keeps hkeeps (hQ.parts hv) (by simp) hr x (present_eq_ok_iff.1 h)

theorem readSubstringRule_holds (hQ : Admits Q) (hv : Q v) {r : SubstringRule}
    (h : readSubstringRule v = .ok r) : Q r.output := by
  obtain ⟨⟨pattern, output⟩, hr, h⟩ := bind_eq_ok_iff.1 h
  obtain ⟨x, hx, h⟩ := bind_eq_ok_iff.1 h
  obtain rfl := Except.ok.inj h
  have hkeeps : Shape.Keeps substringRuleShape.fields Q fun r => ∀ d ∈ r.2, Q d :=
    .optional (fun _ _ _ _ _ hr => hr) (.mandatory (fun x a r hx ha _ => some_keeps hx ha) .nil)
  exact Shape.read_keeps hkeeps (hQ.parts hv) (by simp) hr x (present_eq_ok_iff.1 hx)

theorem readSubstring_holds (hQ : Admits Q) (hv : Q v) {rules : SubstringRules}
    (h : substringShape.read ⟨[], none⟩ v = .ok rules) : (Strategy.substring rules).Holds Q := by
  have hkeeps : Shape.Keeps substringShape.fields Q fun r =>
      (∀ rule ∈ r.rules, Q rule.output) ∧ ∀ d ∈ r.default, Q d := by
    refine .optional (fun x a r hx ha hr => ⟨fun rule hrule => ?_, hr.2⟩)
      (.optional (fun x a r hx ha hr => ⟨hr.1, some_keeps hx ha⟩) .nil)
    obtain ⟨y, hy, hrule⟩ := Json.exists_of_mem_readList ha (hQ.parts hx) hrule
    exact readSubstringRule_holds hQ hy hrule
  have hrules := Shape.read_keeps hkeeps (hQ.parts hv) ⟨by simp, by simp⟩ h
  exact hrules

theorem readExactRule_holds (hQ : Admits Q) (hv : Q v) {e : String × Value}
    (h : readExactRule v = .ok e) : Q e.2 := by
  obtain ⟨⟨input, output⟩, hr, h⟩ := bind_eq_ok_iff.1 h
  obtain ⟨_, -, h⟩ := bind_eq_ok_iff.1 h
  obtain ⟨x, hx, h⟩ := bind_eq_ok_iff.1 h
  obtain rfl := Except.ok.inj h
  have hkeeps : Shape.Keeps exactRuleShape.fields Q fun r => ∀ d ∈ r.2, Q d :=
    .mandatory (fun _ _ _ _ _ hr => hr) (.mandatory (fun x a r hx ha _ => some_keeps hx ha) .nil)
  exact Shape.read_keeps hkeeps (hQ.parts hv) (by simp) hr x (present_eq_ok_iff.1 hx)

theorem readPick_holds (hQ : Admits Q) (hv : Q v) {parts : PickParts}
    (h : pickShape.read ⟨[], [], none⟩ v = .ok parts) {rules : PickRules}
    (hcheck : checkPick field o parts = .ok rules) : (Strategy.pick rules).Holds Q := by
  have hkeeps : Shape.Keeps pickShape.fields Q fun r =>
      (∀ e ∈ r.outputs, Q e.2) ∧ ∀ d ∈ r.default, Q d := by
    refine .optional (fun _ _ _ _ _ hr => hr)
      (.optional (fun x a r hx ha hr => ⟨fun e he => ?_, hr.2⟩)
        (.optional (fun x a r hx ha hr => ⟨hr.1, some_keeps hx ha⟩) .nil))
    obtain ⟨y, hy, he⟩ := Json.exists_of_mem_readList ha (hQ.parts hx) he
    exact readExactRule_holds hQ hy he
  obtain ⟨houtputs, hdefault⟩ := Shape.read_keeps hkeeps (hQ.parts hv) ⟨by simp, by simp⟩ h
  unfold checkPick at hcheck
  split at hcheck
  · cases hcheck
  · rename_i d hd
    obtain ⟨pickers, -, hrules⟩ := bind_eq_ok_iff.1 hcheck
    obtain rfl := Except.ok.inj hrules
    exact ⟨houtputs, hdefault d hd⟩

theorem readAmountRule_holds (hQ : Admits Q) (hv : Q v)
    {rule : String × Option Value × Option String} (h : readAmountRule v = .ok rule) :
    ∀ d ∈ rule.2.1, Q d := by
  obtain ⟨r, hr, h⟩ := bind_eq_ok_iff.1 h
  obtain ⟨x, -, h⟩ := bind_eq_ok_iff.1 h
  obtain rfl := Except.ok.inj h
  have hkeeps : Shape.Keeps amountRuleShape.fields Q fun r => ∀ d ∈ r.output, Q d :=
    .mandatory (fun _ _ _ _ _ hr => hr) (.optional (fun x a r hx ha _ => some_keeps hx ha)
      (.optional (fun _ _ _ _ _ hr => hr) .nil))
  exact Shape.read_keeps hkeeps (hQ.parts hv) (by simp) hr

theorem checkAmountRule_literal {rule : String × Option Value × Option String} {r : AmountRule}
    (h : checkAmountRule field o rule = .ok r) {output : Value}
    (hr : r.action = .literal output) : rule.2.1 = some output := by
  obtain ⟨m, -, h⟩ := bind_eq_ok_iff.1 h
  obtain ⟨action, haction, h⟩ := bind_eq_ok_iff.1 h
  have hsame : r.action = action := by
    split at h
    · split at h
      · cases h
      · exact Except.ok.inj h ▸ rfl
    · exact Except.ok.inj h ▸ rfl
  obtain rfl := hsame.symm.trans hr
  unfold amountAction at haction
  split at haction
  · rename_i heq
    rw [heq]
    exact congrArg some (AmountAction.literal.inj (Except.ok.inj haction))
  · split at haction <;> cases haction
  · cases haction

theorem readAmount_holds (hQ : Admits Q) (hv : Q v) {parts : AmountParts}
    (h : amountShape.read ⟨[], none⟩ v = .ok parts) {rules : List AmountRule}
    (hcheck : parts.rules.mapM (checkAmountRule field o) = .ok rules) :
    (Strategy.amount ⟨rules, parts.default⟩).Holds Q := by
  have hkeeps : Shape.Keeps amountShape.fields Q fun r =>
      (∀ rule ∈ r.rules, ∀ d ∈ rule.2.1, Q d) ∧ ∀ d ∈ r.default, Q d := by
    refine .optional (fun x a r hx ha hr => ⟨fun rule hrule => ?_, hr.2⟩)
      (.optional (fun x a r hx ha hr => ⟨hr.1, some_keeps hx ha⟩) .nil)
    obtain ⟨y, hy, hrule⟩ := Json.exists_of_mem_readList ha (hQ.parts hx) hrule
    exact readAmountRule_holds hQ hy hrule
  obtain ⟨hrules, hdefault⟩ := Shape.read_keeps hkeeps (hQ.parts hv) ⟨by simp, by simp⟩ h
  refine ⟨fun r hr output houtput => ?_, hdefault⟩
  obtain ⟨rule, hrule, hok⟩ := exists_of_mem_mapM hcheck hr
  exact hrules rule hrule output (checkAmountRule_literal hok houtput)

theorem readNumericRule_holds (hQ : Admits Q) (hv : Q v) {r : NumericRuleParts}
    (h : readNumericRule v = .ok r) : Q r.output := by
  have hkeeps : Shape.Keeps numericRuleShape.fields Q fun r => Q r.output :=
    .optional (fun _ _ _ _ _ hr => hr)
      (.optional (fun x a r hx ha _ => Json.value_eq_ok_iff.1 ha ▸ hx)
        (.optional (fun _ _ _ _ _ hr => hr) .nil))
  exact Shape.read_keeps (P := fun r => Q r.output) hkeeps (hQ.parts hv) hQ.null h

theorem readNumeric_holds (hQ : Admits Q) (hv : Q v) {parts : NumericParts}
    (h : numericShape.read ⟨[], .integer, none, none⟩ v = .ok parts) {rules : List NumericRule}
    (hcheck : parts.rules.mapM (checkNumericRule field) = .ok rules) :
    (Strategy.numeric ⟨rules, parts.kind, parts.turkish, parts.default⟩).Holds Q := by
  have hkeeps : Shape.Keeps numericShape.fields Q fun r =>
      (∀ rule ∈ r.rules, Q rule.output) ∧ ∀ d ∈ r.default, Q d := by
    refine .optional (fun x a r hx ha hr => ⟨fun rule hrule => ?_, hr.2⟩)
      (.optional (fun _ _ _ _ _ hr => hr) (.optional (fun _ _ _ _ _ hr => hr)
        (.optional (fun x a r hx ha hr => ⟨hr.1, some_keeps hx ha⟩) .nil)))
    obtain ⟨y, hy, hrule⟩ := Json.exists_of_mem_readList ha (hQ.parts hx) hrule
    exact readNumericRule_holds hQ hy hrule
  obtain ⟨hrules, hdefault⟩ := Shape.read_keeps hkeeps (hQ.parts hv) ⟨by simp, by simp⟩ h
  refine ⟨fun r hr => ?_, hdefault⟩
  obtain ⟨rule, hrule, hok⟩ := exists_of_mem_mapM hcheck hr
  obtain ⟨d, -, hok⟩ := bind_eq_ok_iff.1 hok
  obtain rfl := Except.ok.inj hok
  exact hrules rule hrule

/-- **The values of a strategy are parts of what it is read from.** -/
theorem Strategy.parse_holds (hQ : Admits Q) (hv : Q v) {s : Strategy}
    (h : Strategy.parse field o v = .ok s) : s.Holds Q := by
  unfold Strategy.parse at h
  split at h
  · cases h
  · unfold parseKind? at h
    split_ifs at h
    · obtain ⟨x, hx, h⟩ := bind_eq_ok_iff.1 h
      obtain rfl := Except.ok.inj h
      exact readFixed_holds hQ hv (shaped_eq_ok_iff.1 hx)
    · obtain ⟨rules, hrules, h⟩ := bind_eq_ok_iff.1 h
      obtain rfl := Except.ok.inj h
      exact readSubstring_holds hQ hv (shaped_eq_ok_iff.1 hrules)
    · obtain ⟨parts, hparts, h⟩ := bind_eq_ok_iff.1 h
      obtain ⟨rules, hrules, h⟩ := bind_eq_ok_iff.1 h
      obtain rfl := Except.ok.inj h
      exact readPick_holds hQ hv (shaped_eq_ok_iff.1 hparts) hrules
    · obtain ⟨parts, hparts, h⟩ := bind_eq_ok_iff.1 h
      obtain ⟨rules, hrules, h⟩ := bind_eq_ok_iff.1 h
      obtain rfl := Except.ok.inj h
      exact readAmount_holds hQ hv (shaped_eq_ok_iff.1 hparts) hrules
    · obtain ⟨parts, hparts, h⟩ := bind_eq_ok_iff.1 h
      obtain ⟨rules, hrules, h⟩ := bind_eq_ok_iff.1 h
      obtain rfl := Except.ok.inj h
      exact readNumeric_holds hQ hv (shaped_eq_ok_iff.1 hparts) hrules
    · obtain rfl := Except.ok.inj h
      trivial
  · cases h

end Loading

/-! ## Configurations -/

/-- The property holds of all values of a configuration. -/
def Config.Holds (Q : Value → Prop) (c : Config) : Prop :=
  ∀ name s, c.fields.find? name = some s → s.Holds Q

theorem Config.Holds.imp {R : Value → Prop} (hQR : ∀ v, Q v → R v) {c : Config}
    (h : c.Holds Q) : c.Holds R :=
  fun name s hs => (h name s hs).imp hQR

/-- Every strategy of a configuration has been read from one of its members. -/
theorem Config.check_parse {o : Regex.Options} {parts : ConfigParts × Dict Value} {c : Config}
    (h : Config.check o parts = .ok c) {name : String} {s : Strategy}
    (hs : c.fields.find? name = some s) :
    ∃ e ∈ parts.2.entries, Strategy.parse e.1 o e.2 = .ok s := by
  obtain ⟨fields, hfields, h⟩ := bind_eq_ok_iff.1 h
  obtain rfl := Except.ok.inj h
  obtain ⟨e, he, hstep⟩ := exists_of_mem_mapM hfields (Dict.mem_of_find?_ofList hs)
  exact ⟨e, he, (keyed_eq_ok_iff.1 hstep).2⟩

open Json (Tree) in
/-- The strategies of a text stand inside two objects, or an object in a list. -/
theorem readConfig_readable {k : Nat} {t : Tree} (ht : t.Readable (k + 2))
    {parts : ConfigParts × Dict Value} (h : readConfig t = .ok parts) :
    ∀ e ∈ parts.2.entries, e.2.Readable k := by
  obtain ⟨r, hr, h⟩ := bind_eq_ok_iff.1 h
  obtain ⟨d, hd, h⟩ := bind_eq_ok_iff.1 h
  obtain rfl := Except.ok.inj h
  have hkeeps : Shape.Keeps configShape.fields (Tree.Readable (k + 1)) fun r =>
      ∀ d ∈ r.fields, ∀ e ∈ d.entries, e.2.Readable k := by
    refine .optional (fun _ _ _ _ _ hr => hr) (.optional (fun _ _ _ _ _ hr => hr)
      (.mandatory (fun x a r hx ha _ => ?_) .nil))
    intro d hd
    obtain rfl := Option.some.inj hd
    exact (hx.value (Json.readDict_tree_eq_ok_iff.1 ha)).entries
  exact Shape.read_keeps hkeeps ht.parts (by simp) hr d (present_eq_ok_iff.1 hd)

/-- Every strategy of a configuration that is read from a file has been read from a readable
value. -/
theorem Config.load_parse {o : Regex.Options} {f : Files} {p : Path} {c : Config}
    (h : Config.load o f p = .ok c) {name : String} {s : Strategy}
    (hs : c.fields.find? name = some s) :
    ∃ field v, v.Readable 125 ∧ Strategy.parse field o v = .ok s := by
  obtain ⟨parts, hparts, h⟩ := bind_eq_ok_iff.1 h
  obtain ⟨e, he, hparse⟩ := check_parse h hs
  refine ⟨e.1, e.2, ?_, hparse⟩
  unfold readConfigFile at hparts
  split at hparts
  · split at hparts
    · cases hparts
    · rename_i text _
      cases hwhole : Json.readWhole readConfig text with
      | error e => rw [hwhole] at hparts; cases hparts
      | ok parts' =>
        rw [hwhole] at hparts
        obtain rfl := Except.ok.inj hparts
        exact readConfig_readable (Json.Tree.ofText_readable _) (Json.readWhole_eq_ok hwhole) e he
  · cases hparts

/-- **The values of a configuration that is read from a file are readable.** -/
theorem Config.load_holds {o : Regex.Options} {f : Files} {p : Path} {c : Config}
    (h : Config.load o f p = .ok c) : c.Holds (Value.Readable 125) := by
  intro name s hs
  obtain ⟨field, v, hv, hparse⟩ := load_parse h hs
  exact Strategy.parse_holds (admits_readable 125) hv hparse

/-! ## Artifacts -/

namespace Config

variable {c : Config} {k : Nat}

theorem mapValue_keeps (hQ : Admits Q) (hc : c.Holds Q) {name : String} {v w : Value} (hv : Q v)
    (h : c.mapValue name v = .ok w) : Q w := by
  unfold mapValue at h
  split at h
  · rename_i s hs
    exact Strategy.apply_keeps hQ (hc name s hs) hv h
  · exact Except.ok.inj h ▸ hv

theorem mapField_readable (hc : c.Holds (Value.Readable k)) {name : String} {data : Value}
    (h : data.Readable (k + 1)) : (c.mapField name data).Readable (k + 1) := by
  unfold mapField
  split
  · rename_i results hok
    obtain ⟨documents, rfl, hall⟩ := mapDocuments_eq_ok_iff.1 hok
    obtain ⟨d, rfl, hdocuments⟩ := h.exists_dict
    have hkeys : results.map Prod.fst = d.keys := by
      rw [Dict.keys, ← List.forall₂_eq_eq_eq, List.forall₂_map_left_iff,
        List.forall₂_map_right_iff]
      exact (hall.imp fun _ _ hr => hr.1).flip
    have hvalues : ∀ r ∈ results, r.2.Readable k := by
      intro r hr
      obtain ⟨e, he, hstep⟩ := exists_of_mem_mapM hok hr
      exact mapValue_keeps (admits_readable k) hc (hdocuments e he)
        (mapDocument_eq_ok_iff.1 hstep).2
    -- The documents keep their ids, so they are a dictionary again.
    exact .object (d := ⟨results, List.pairwise_map.1 (hkeys ▸ d.keys_sorted)⟩) hvalues
  · exact h

/-- **What is mapped from a readable artifact is readable.** -/
theorem mapArtifact_readable (hc : c.Holds (Value.Readable k)) {raw : Dict Value}
    (h : (Value.ofDict raw).Readable (k + 2)) :
    (Value.ofDict (c.mapArtifact raw).fields).Readable (k + 2) := by
  rw [fields_mapArtifact]
  refine .object fun m hm => ?_
  obtain ⟨e, he, rfl⟩ := List.mem_map.1 hm
  exact mapField_readable hc (h.entries e (List.mem_of_mem_filter he))

end Config

end PolicyFields.Mapping

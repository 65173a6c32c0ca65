import PolicyFields.Proofs.Amount.Digits
import PolicyFields.Proofs.Mapping.Outputs
import PolicyFields.Proofs.Mapping.Overflow
import PolicyFields.Proofs.Number.Range

/-!
# Which values cannot be mapped

* `Fails` — a result that is an error.
* `NumericRules.FirstRule` — the first rule whose pattern is a text.
* `NumericRules.Overflows` — the four ways in which a number is out of range: a product, a product
  as a whole number, an amount as a whole number, a float as a whole number.
* `Strategy.apply_fails_iff` — **values fail on these and on nothing else**.
-/

namespace PolicyFields.Amount

open Number (Decimal)

/-- What is read as an amount is a decimal in its range. -/
theorem parse?_fits {style : Style} {s : String} {d : Decimal} (h : parse? style s = some d) :
    d.Fits := by
  obtain ⟨whole, fraction, hdigits⟩ := exists_ofDigits?_of_parse? h
  exact Decimal.ofDigits?_fits hdigits

end PolicyFields.Amount

namespace PolicyFields.Mapping

open Json (Value)
open Number (Decimal roundHalfEven)
open Traversal (bind_eq_ok_iff exists_of_mem_mapM)

/-! ## Failures -/

/-- The result is an error. -/
def Fails {ε α : Type} (x : Except ε α) : Prop := ∃ e, x = .error e

section Results

variable {ε α β : Type}

theorem fails_error (e : ε) : Fails (.error e : Except ε α) := ⟨e, rfl⟩

theorem not_fails_ok (a : α) : ¬ Fails (.ok a : Except ε α) := by
  rintro ⟨e, he⟩
  cases he

theorem fails_map_iff (x : Except ε α) (f : α → β) : Fails (x.map f) ↔ Fails x := by
  cases x with
  | ok a => exact iff_of_false (not_fails_ok _) (not_fails_ok _)
  | error e => exact iff_of_true (fails_error e) (fails_error e)

/-- A result that is checked fails where the check does. -/
theorem fails_checked_iff (p : Prop) [Decidable p] (a : α) (e : ε) :
    Fails (if p then .ok a else .error e) ↔ ¬ p := by
  split
  · exact iff_of_false (not_fails_ok _) (not_not_intro ‹_›)
  · exact iff_of_true (fails_error e) ‹_›

end Results

/-! ## Numbers -/

/-- A decimal that fits is too large for a whole number of 64 bits, or it is not too large. -/
theorem decimalValue_fails_iff (kind : NumericType) {d : Decimal} (hd : d.Fits) :
    Fails (decimalValue kind d) ↔ kind = .integer ∧ fitsInt64 d.toInt = false := by
  cases kind with
  | integer =>
    rw [decimalValue, fails_checked_iff, Bool.not_eq_true]
    exact (and_iff_right rfl).symm
  | float =>
    rw [decimalValue, fails_checked_iff]
    have hfinite := Decimal.isFinite_toFloat hd
    exact iff_of_false (not_not_intro hfinite) fun h => NumericType.noConfusion h.1

theorem floatValue_fails_iff (kind : NumericType) (x : Float) :
    Fails (floatValue kind x) ↔ kind = .integer ∧ fitsInt64 (Number.truncate x) = false := by
  cases kind with
  | integer =>
    rw [floatValue, fails_checked_iff, Bool.not_eq_true]
    exact (and_iff_right rfl).symm
  | float => exact iff_of_false (not_fails_ok _) fun h => NumericType.noConfusion h.1

/-- What is multiplied of an amount: for whole numbers its whole part. -/
def NumericType.cut (kind : NumericType) (d : Decimal) : Decimal :=
  match kind with
  | .integer => d.truncate
  | .float => d

theorem NumericType.fits_cut (kind : NumericType) {d : Decimal} (hd : d.Fits) :
    (kind.cut d).Fits := by
  cases kind with
  | integer => exact hd.truncate
  | float => exact hd

namespace NumericRules

variable {cfg : NumericRules} {r : NumericRule} {text t : String}

/-- The first rule whose pattern is `t`, blanks around it not regarded. -/
def FirstRule (cfg : NumericRules) (t : String) (r : NumericRule) : Prop :=
  Text.trim r.pattern = t ∧ ∃ before after, cfg.rules = before ++ r :: after ∧
    ∀ q ∈ before, Text.trim q.pattern ≠ t

/-- A number is out of range in the conversion of the text `t`. -/
inductive Overflows (cfg : NumericRules) (t : String) : Prop
  /-- The amount of the rule times its factor has more than 96 bits before the point. -/
  | product {r : NumericRule} {x : Decimal} : cfg.FirstRule t r → (∀ n, r.output ≠ .number n) →
    cfg.turkish = some true → Amount.parse? .turkish r.pattern = some x →
    Decimal.unitBound ≤ roundHalfEven ((cfg.kind.cut x).units * r.multiplier.units)
      (10 ^ ((cfg.kind.cut x).scale + r.multiplier.scale)) →
    Overflows cfg t
  /-- It has more than 63. -/
  | wholeProduct {r : NumericRule} {x product : Decimal} : cfg.FirstRule t r →
    (∀ n, r.output ≠ .number n) → cfg.turkish = some true →
    Amount.parse? .turkish r.pattern = some x → cfg.kind = .integer →
    x.truncate.mul? r.multiplier = some product → fitsInt64 product.toInt = false →
    Overflows cfg t
  /-- No rule applies, and the text is a large amount. -/
  | amount {x : Decimal} : (∀ r ∈ cfg.rules, Text.trim r.pattern ≠ t) → cfg.kind = .integer →
    Amount.parse? (.ofFlag cfg.turkish) t = some x → fitsInt64 x.toInt = false → Overflows cfg t
  /-- No rule applies, and the text is no amount but a large float. -/
  | float {x : Float} : (∀ r ∈ cfg.rules, Text.trim r.pattern ≠ t) → cfg.kind = .integer →
    Amount.parse? (.ofFlag cfg.turkish) t = none → Number.readFloat? t = some x →
    Number.isFinite x = true → fitsInt64 (Number.truncate x) = false → Overflows cfg t

/-! ### Rules -/

theorem rule?_eq_some_iff :
    cfg.rule? text = some r ↔ cfg.FirstRule (Text.trim text) r := by
  rw [rule?, List.find?_eq_some_iff_append, FirstRule]
  simp

theorem rule?_eq_none_iff :
    cfg.rule? text = none ↔ ∀ r ∈ cfg.rules, Text.trim r.pattern ≠ Text.trim text := by
  rw [rule?, List.find?_eq_none]
  simp

theorem FirstRule.unique {q : NumericRule} (h : cfg.FirstRule (Text.trim text) r)
    (h' : cfg.FirstRule (Text.trim text) q) : r = q :=
  Option.some.inj ((rule?_eq_some_iff.2 h).symm.trans (rule?_eq_some_iff.2 h'))

theorem scaled_fails_iff {x : Decimal} (hx : x.Fits) (hr : r.multiplier.Fits) :
    Fails (cfg.scaled r x) ↔
      Decimal.unitBound ≤ roundHalfEven ((cfg.kind.cut x).units * r.multiplier.units)
          (10 ^ ((cfg.kind.cut x).scale + r.multiplier.scale)) ∨
        cfg.kind = .integer ∧ ∃ product, x.truncate.mul? r.multiplier = some product ∧
          fitsInt64 product.toInt = false := by
  have hcut := cfg.kind.fits_cut hx
  have hscaled : cfg.scaled r x = ((cfg.kind.cut x).mul? r.multiplier).elim
      (.error (.overflow r.pattern)) (decimalValue cfg.kind) := by
    unfold scaled
    dsimp only
    split
    · rename_i product hproduct
      rw [show (cfg.kind.cut x).mul? r.multiplier = some product from hproduct, Option.elim_some]
    · rename_i hproduct
      rw [show (cfg.kind.cut x).mul? r.multiplier = none from hproduct, Option.elim_none]
  rw [hscaled, ← Decimal.mul?_eq_none_iff hcut hr]
  cases hproduct : (cfg.kind.cut x).mul? r.multiplier with
  | none => exact iff_of_true (fails_error _) (.inl rfl)
  | some product =>
    rw [Option.elim_some, decimalValue_fails_iff _ (Decimal.mul?_fits hcut hr hproduct)]
    constructor
    · rintro ⟨hkind, hlarge⟩
      rw [hkind] at hproduct
      exact .inr ⟨hkind, product, hproduct, hlarge⟩
    · rintro (hnone | ⟨hkind, product', hproduct', hlarge⟩)
      · cases hnone
      · rw [hkind] at hproduct
        obtain rfl := Option.some.inj (hproduct.symm.trans hproduct')
        exact ⟨hkind, hlarge⟩

theorem ruleOutcome_fails_iff : Fails (cfg.ruleOutcome r) ↔ (∀ n, r.output ≠ .number n) ∧
    cfg.turkish = some true ∧ ∃ x, Amount.parse? .turkish r.pattern = some x ∧
      Fails (cfg.scaled r x) := by
  unfold ruleOutcome
  split
  · rename_i n hn
    exact iff_of_false (not_fails_ok _) fun h => h.1 n hn
  · rename_i houtput
    by_cases hturkish : cfg.turkish = some true
    · rw [if_pos hturkish]
      cases hparse : Amount.parse? .turkish r.pattern with
      | none =>
        refine iff_of_false (not_fails_ok _) ?_
        rintro ⟨-, -, x, hx, -⟩
        cases hx
      | some x =>
        constructor
        · exact fun h => ⟨houtput, hturkish, x, rfl, h⟩
        · rintro ⟨-, -, y, hy, h⟩
          obtain rfl := Option.some.inj hy
          exact h
    · rw [if_neg hturkish]
      exact iff_of_false (not_fails_ok _) fun h => hturkish h.2.1

/-! ### Texts -/

theorem readNumber_fails_iff : Fails (cfg.readNumber text) ↔ cfg.kind = .integer ∧
    ((∃ x, Amount.parse? (.ofFlag cfg.turkish) (Text.trim text) = some x ∧
        fitsInt64 x.toInt = false) ∨
      (Amount.parse? (.ofFlag cfg.turkish) (Text.trim text) = none ∧
        ∃ x, Number.readFloat? (Text.trim text) = some x ∧ Number.isFinite x = true ∧
          fitsInt64 (Number.truncate x) = false)) := by
  unfold readNumber
  dsimp only
  cases hamount : Amount.parse? (.ofFlag cfg.turkish) (Text.trim text) with
  | some d =>
    dsimp only
    rw [fails_map_iff, decimalValue_fails_iff _ (Amount.parse?_fits hamount)]
    simp
  | none =>
    cases hfloat : Number.readFloat? (Text.trim text) with
    | none => exact iff_of_false (not_fails_ok _) (by simp)
    | some x =>
      by_cases hfinite : Number.isFinite x = true
      · simp [hfinite, fails_map_iff, floatValue_fails_iff]
      · simp [hfinite, not_fails_ok]

/-! ### Conversion -/

theorem convert_fails_iff (hfits : ∀ r ∈ cfg.rules, r.multiplier.Fits) {v : Value}
    (hv : v.isFalsy = false) : Fails (cfg.convert v) ↔ cfg.Overflows (Text.trim v.plain) := by
  unfold convert
  rw [hv, if_neg (by decide)]
  cases hrule : cfg.rule? v.plain with
  | some r =>
    have hfirst := rule?_eq_some_iff.1 hrule
    have hr : r ∈ cfg.rules := List.mem_of_find?_eq_some hrule
    dsimp only
    rw [fails_map_iff, ruleOutcome_fails_iff]
    constructor
    · rintro ⟨houtput, hturkish, x, hx, hfails⟩
      rcases (scaled_fails_iff (Amount.parse?_fits hx) (hfits r hr)).1 hfails with
        hproduct | ⟨hkind, product, hproduct, hlarge⟩
      · exact .product hfirst houtput hturkish hx hproduct
      · exact .wholeProduct hfirst houtput hturkish hx hkind hproduct hlarge
    · rintro (⟨hq, houtput, hturkish, hx, hproduct⟩ |
        ⟨hq, houtput, hturkish, hx, hkind, hproduct, hlarge⟩ | ⟨hnone, -⟩ | ⟨hnone, -⟩)
      · obtain rfl := hq.unique hfirst
        exact ⟨houtput, hturkish, _, hx,
          (scaled_fails_iff (Amount.parse?_fits hx) (hfits _ hr)).2 (.inl hproduct)⟩
      · obtain rfl := hq.unique hfirst
        exact ⟨houtput, hturkish, _, hx, (scaled_fails_iff (Amount.parse?_fits hx) (hfits _ hr)).2
          (.inr ⟨hkind, _, hproduct, hlarge⟩)⟩
      · exact absurd hfirst.1 (hnone r hr)
      · exact absurd hfirst.1 (hnone r hr)
  | none =>
    have hnone := rule?_eq_none_iff.1 hrule
    dsimp only
    rw [readNumber_fails_iff]
    constructor
    · rintro ⟨hkind, ⟨x, hx, hlarge⟩ | ⟨hx, x, hfloat, hfinite, hlarge⟩⟩
      · exact .amount hnone hkind hx hlarge
      · exact .float hnone hkind hx hfloat hfinite hlarge
    · have hnorule {q : NumericRule} (hq : cfg.FirstRule (Text.trim v.plain) q) : False := by
        rw [rule?_eq_some_iff.2 hq] at hrule
        cases hrule
      rintro (⟨hq, -⟩ | ⟨hq, -⟩ | ⟨-, hkind, hx, hlarge⟩ | ⟨-, hkind, hx, hfloat, hfinite, hlarge⟩)
      · exact (hnorule hq).elim
      · exact (hnorule hq).elim
      · exact ⟨hkind, .inl ⟨_, hx, hlarge⟩⟩
      · exact ⟨hkind, .inr ⟨hx, _, hfloat, hfinite, hlarge⟩⟩

theorem fails_apply_iff (hfits : ∀ r ∈ cfg.rules, r.multiplier.Fits) (v : Value) :
    Fails (cfg.apply v) ↔ v.isFalsy = false ∧ (∀ items, v ≠ .array items) ∧
      cfg.Overflows (Text.trim v.plain) := by
  unfold apply
  dsimp only
  cases hv : v.isFalsy with
  | true => exact iff_of_false (not_fails_ok _) fun h => Bool.noConfusion h.1
  | false =>
    rw [if_neg (by decide)]
    split
    · rename_i items
      exact iff_of_false (not_fails_ok _) fun h => h.2.1 items rfl
    · rename_i hitems
      rw [fails_map_iff, convert_fails_iff hfits hv]
      exact ⟨fun h => ⟨rfl, hitems, h⟩, fun h => h.2.2⟩

end NumericRules

/-! ## Strategies -/

/-- The factors of a strategy are decimals in their range. -/
def Strategy.Fits : Strategy → Prop
  | numeric cfg => ∀ r ∈ cfg.rules, r.multiplier.Fits
  | _ => True

section Loading

variable {Q : Value → Prop} {field : String} {o : Regex.Options} {v : Value}

open Json (Shape) in
theorem checkNumericRule_fits (hQ : Admits Q)
    (hrange : ∀ i, Q (.int i) → i.natAbs < Decimal.unitBound) (hv : Q v) {parts : NumericRuleParts}
    (h : readNumericRule v = .ok parts) {r : NumericRule}
    (hcheck : checkNumericRule field parts = .ok r) : r.multiplier.Fits := by
  have hkeeps : Shape.Keeps numericRuleShape.fields Q fun r : NumericRuleParts =>
      ∀ i, r.multiplier = some (.int i) → i.natAbs < Decimal.unitBound := by
    refine .optional (fun _ _ _ _ _ hr => hr) (.optional (fun _ _ _ _ _ hr => hr)
      (.optional (fun x a r hx ha _ i hi => ?_) .nil))
    rcases Json.readOption_eq_ok_iff.1 ha with ⟨-, rfl⟩ | ⟨-, n, rfl, hn⟩
    · cases hi
    · obtain rfl := Option.some.inj hi
      rw [Json.readNumber_eq_ok_iff.1 hn] at hx
      exact hrange i hx
  have hint := Shape.read_keeps (P := fun r : NumericRuleParts =>
    ∀ i, r.multiplier = some (.int i) → i.natAbs < Decimal.unitBound) hkeeps (hQ.parts hv)
      (fun i hi => by cases hi) h
  obtain ⟨d, hd, hcheck⟩ := bind_eq_ok_iff.1 hcheck
  obtain rfl := Except.ok.inj hcheck
  dsimp only
  unfold multiplierOf at hd
  split at hd
  · obtain rfl := Except.ok.inj hd
    exact Decimal.fits_one
  · rename_i n hn
    split at hd
    · rename_i d' hd'
      obtain rfl := Except.ok.inj hd
      cases n with
      | int i =>
        obtain rfl := Option.some.inj hd'
        exact Decimal.fits_ofInt (hint i hn)
      | float x => exact Decimal.ofFloat?_fits hd'
    · cases hd

open Json (Shape) in
/-- The factors of a strategy that is read are in their range, as long as whole numbers are. -/
theorem Strategy.parse_fits (hQ : Admits Q)
    (hrange : ∀ i, Q (.int i) → i.natAbs < Decimal.unitBound) (hv : Q v) {s : Strategy}
    (h : Strategy.parse field o v = .ok s) : s.Fits := by
  unfold Strategy.parse at h
  split at h
  · cases h
  · unfold parseKind? at h
    split_ifs at h
    · obtain ⟨x, -, h⟩ := bind_eq_ok_iff.1 h
      obtain rfl := Except.ok.inj h
      trivial
    · obtain ⟨x, -, h⟩ := bind_eq_ok_iff.1 h
      obtain rfl := Except.ok.inj h
      trivial
    · obtain ⟨x, -, h⟩ := bind_eq_ok_iff.1 h
      obtain ⟨y, -, h⟩ := bind_eq_ok_iff.1 h
      obtain rfl := Except.ok.inj h
      trivial
    · obtain ⟨x, -, h⟩ := bind_eq_ok_iff.1 h
      obtain ⟨y, -, h⟩ := bind_eq_ok_iff.1 h
      obtain rfl := Except.ok.inj h
      trivial
    · obtain ⟨parts, hparts, h⟩ := bind_eq_ok_iff.1 h
      obtain ⟨rules, hrules, h⟩ := bind_eq_ok_iff.1 h
      obtain rfl := Except.ok.inj h
      have hkeeps : Shape.Keeps numericShape.fields Q fun r => ∀ rule ∈ r.rules,
          ∃ x, Q x ∧ readNumericRule x = .ok rule := by
        refine .optional (fun x a r hx ha _ rule hrule => ?_) (.optional (fun _ _ _ _ _ hr => hr)
          (.optional (fun _ _ _ _ _ hr => hr) (.optional (fun _ _ _ _ _ hr => hr) .nil)))
        exact Json.exists_of_mem_readList ha (hQ.parts hx) hrule
      intro r hr
      obtain ⟨rule, hrule, hcheck⟩ := exists_of_mem_mapM hrules hr
      obtain ⟨x, hx, hread⟩ := Shape.read_keeps hkeeps (hQ.parts hv) (by simp)
        (shaped_eq_ok_iff.1 hparts) rule hrule
      exact checkNumericRule_fits hQ hrange hx hread hcheck
    · obtain rfl := Except.ok.inj h
      trivial
  · cases h

/-- **The factors of a configuration that is read from a file are in their range.** -/
theorem Config.load_fits {f : Files} {p : Path} {c : Config} (h : Config.load o f p = .ok c)
    {name : String} {s : Strategy} (hs : c.fields.find? name = some s) : s.Fits := by
  obtain ⟨field, v, hv, hparse⟩ := load_parse h hs
  refine Strategy.parse_fits (admits_readable 125) (fun i hi => ?_) hv hparse
  generalize hx : Value.int i = x at hi
  cases hi with
  | int hrange =>
    obtain rfl := Json.Number.int.inj (Value.number.inj hx)
    obtain ⟨hlow, hhigh⟩ := hrange
    unfold Decimal.unitBound
    omega
  | null | bool | float | string | array | object => cases hx

end Loading

/-- The value is one whose conversion to a number is out of range: no list, and it holds
something. -/
def Strategy.Overflows (s : Strategy) (v : Value) : Prop :=
  ∃ cfg, s = .numeric cfg ∧ v.isFalsy = false ∧ (∀ items, v ≠ .array items) ∧
    cfg.Overflows (Text.trim v.plain)

/-- **Mapping fails exactly on numbers out of range.** The error says so, and in every other case
there is a value. A factor is a decimal, so that it fits; by `Config.load_fits` every factor that is
read from a file does. -/
theorem Strategy.apply_fails_iff {s : Strategy} (hs : s.Fits) (v : Value) :
    (s.Overflows v ↔ ∃ number, s.apply v = .error (.overflow number)) ∧
      (¬ s.Overflows v ↔ ∃ w, s.apply v = .ok w) := by
  have hfails : Fails (s.apply v) ↔ s.Overflows v := by
    cases s with
    | numeric cfg =>
      rw [Strategy.apply, NumericRules.fails_apply_iff hs]
      simp [Overflows]
    | fixed | substring | pick | amount | unrecognized =>
      exact iff_of_false (not_fails_ok _) (by simp [Overflows])
  rw [← hfails]
  cases hresult : s.apply v with
  | ok w => exact ⟨by simp [Fails], by simp [Fails]⟩
  | error e =>
    obtain ⟨rules, -, hrules⟩ := Strategy.apply_error hresult
    obtain ⟨⟨number, rfl⟩, -⟩ := NumericRules.apply_error hrules
    exact ⟨by simp [Fails], by simp [Fails]⟩

/-- A product and an amount beyond 64 bits, and the greatest number within. -/
theorem Strategy.apply_fails_iff_three :
    let s : Strategy :=
      .numeric ⟨[⟨"1.500", .null, ⟨false, 10000000000000000, 0⟩⟩], .integer, some true, none⟩
    (∃ number, s.apply (.string " 1.500 ") = .error (.overflow number)) ∧
      (∃ number, s.apply (.string "9223372036854775808") = .error (.overflow number)) ∧
      ¬ s.Overflows (.string "9223372036854775807") := by
  intro s
  have hs : s.Fits := by
    rintro r hr
    obtain rfl := List.mem_singleton.1 hr
    exact ⟨by decide, by decide⟩
  have hpattern : Amount.parse? .turkish "1.500" = some ⟨false, 1500, 0⟩ := by decide
  have hscaled : (Decimal.mk false 1500 0).truncate.mul? ⟨false, 10000000000000000, 0⟩ =
      some ⟨false, 15000000000000000000, 0⟩ := by cbv
  have hproduct : s.Overflows (.string " 1.500 ") :=
    ⟨_, rfl, by decide, by simp, .wholeProduct ⟨by decide, [], [], rfl, by simp⟩ (by simp) rfl
      hpattern rfl hscaled (by decide)⟩
  have hread : Amount.parse? .turkish (Text.trim "9223372036854775808") =
      some ⟨false, 9223372036854775808, 0⟩ := by decide
  have hamount : s.Overflows (.string "9223372036854775808") :=
    ⟨_, rfl, by decide, by simp, .amount (by decide) rfl hread (by decide)⟩
  exact ⟨(apply_fails_iff hs _).1.1 hproduct, (apply_fails_iff hs _).1.1 hamount,
    (apply_fails_iff hs _).2.2 ⟨.int 9223372036854775807, by rfl⟩⟩

end PolicyFields.Mapping

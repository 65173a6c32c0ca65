import PolicyFields.Proofs.Mapping.Failures
import PolicyFields.Proofs.Mapping.Integers

/-!
# Lists that are converted to numbers

A list is converted to the number of its first item that has one. Nothing else in it matters: items
without a number, whatever the reason, are passed over, and those behind the first number are not
looked at.

* `NumericRules.Converts`, `NumericRules.Idle` — items with something to give, and the four kinds of
  items without.
* `idle_iff` — **there is no fifth kind**.
* `ListOutcome` — what a list is converted to, and `apply_array`: every list is converted to it.
* `Padded` — a list with idle items put between its items.
* `apply_array_isolated` — **idle items change nothing**, wherever they stand, and neither does what
  stands behind the first number.
-/

namespace PolicyFields.Mapping

open Json (Value)
open Number (Decimal)

variable {kind : NumericType} {x : Except MappingError Value}

/-! ## Numbers as results -/

/-- If there is a result, then it is a number. -/
def OnlyNumbers (x : Except MappingError Value) : Prop := ∀ out, x = .ok out → ∃ n, out = .number n

namespace OnlyNumbers

theorem number (n : Json.Number) : OnlyNumbers (.ok (.number n)) :=
  fun _ h => ⟨n, (Except.ok.inj h).symm⟩

theorem error (e : MappingError) : OnlyNumbers (.error e) := nofun

theorem checked (p : Prop) [Decidable p] (n : Json.Number) (e : MappingError) :
    OnlyNumbers (if p then .ok (.number n) else .error e) := by
  split
  · exact number n
  · exact error e

theorem ne_null (h : OnlyNumbers x) : x ≠ .ok .null := by
  intro hnull
  obtain ⟨n, hn⟩ := h _ hnull
  cases hn

end OnlyNumbers

theorem decimalValue_onlyNumbers (kind : NumericType) (d : Decimal) :
    OnlyNumbers (decimalValue kind d) := by
  cases kind with
  | integer => exact .checked _ _ _
  | float => exact .checked _ _ _

theorem floatValue_onlyNumbers (kind : NumericType) (x : Float) :
    OnlyNumbers (floatValue kind x) := by
  cases kind with
  | integer => exact .checked _ _ _
  | float => exact .number _

/-- No output but `null` itself becomes `null`. -/
theorem coerce_eq_null_iff {output : Value} : coerce kind output = .null ↔ output = .null := by
  cases output with
  | string s =>
    refine iff_of_false ?_ Value.noConfusion
    unfold coerce
    dsimp only
    cases kind with
    | integer => cases readInt64? (Text.trim s) <;> exact Value.noConfusion
    | float =>
      cases (Number.readFloat? (Text.trim s)).filter Number.isFinite <;> exact Value.noConfusion
  | null | bool _ | number _ | array _ | object _ => exact Iff.rfl

namespace NumericRules

variable {cfg : NumericRules} {r : NumericRule} {v out : Value} {text : String}
  {items items' : List Value}

theorem scaled_onlyNumbers (cfg : NumericRules) (r : NumericRule) (d : Decimal) :
    OnlyNumbers (cfg.scaled r d) := by
  unfold scaled
  dsimp only
  split
  · exact decimalValue_onlyNumbers _ _
  · exact .error _

/-- A rule gives `null` only if that is its output and its pattern is not read as an amount. -/
theorem ruleOutcome_eq_null_iff : cfg.ruleOutcome r = .ok .null ↔ r.output = .null ∧
    (cfg.turkish = some true → Amount.parse? .turkish r.pattern = none) := by
  unfold ruleOutcome
  split
  · rename_i n hn
    rw [hn]
    exact iff_of_false (OnlyNumbers.number n).ne_null fun h => Value.noConfusion h.1
  · by_cases hturkish : cfg.turkish = some true
    · rw [if_pos hturkish]
      cases hparse : Amount.parse? .turkish r.pattern with
      | some d =>
        exact iff_of_false (cfg.scaled_onlyNumbers r d).ne_null fun h => nomatch h.2 hturkish
      | none =>
        dsimp only
        rw [Except.ok.injEq, coerce_eq_null_iff]
        exact (and_iff_left fun _ => rfl).symm
    · rw [if_neg hturkish]
      dsimp only
      rw [Except.ok.injEq, coerce_eq_null_iff]
      exact (and_iff_left fun h => absurd h hturkish).symm

/-! ## Items -/

/-- The value is converted, and not to `null`. -/
def Converts (cfg : NumericRules) (v out : Value) : Prop :=
  cfg.convert v = .ok (some out) ∧ out ≠ .null

/-- The text is neither an amount nor a finite float. -/
def Unreadable (cfg : NumericRules) (text : String) : Prop :=
  Amount.parse? (.ofFlag cfg.turkish) text = none ∧
    ∀ x, Number.readFloat? text = some x → Number.isFinite x = false

/-- A value that has nothing to give to a list. -/
inductive Idle (cfg : NumericRules) (v : Value) : Prop
  | falsy : v.isFalsy = true → Idle cfg v
  /-- No rule applies, and no number is written. -/
  | unreadable : (∀ r ∈ cfg.rules, Text.trim r.pattern ≠ Text.trim v.plain) →
    cfg.Unreadable (Text.trim v.plain) → Idle cfg v
  | outOfRange {number : String} : cfg.convert v = .error (.overflow number) → Idle cfg v
  /-- The first rule for the text has the output `null`, and no amount to take its place. -/
  | nulled {r : NumericRule} : cfg.FirstRule (Text.trim v.plain) r → r.output = .null →
    (cfg.turkish = some true → Amount.parse? .turkish r.pattern = none) → Idle cfg v

theorem convert_ruled (hv : v.isFalsy = false) (hrule : cfg.rule? v.plain = some r) :
    cfg.convert v = (cfg.ruleOutcome r).map some := by
  rw [convert, hv, if_neg Bool.false_ne_true, hrule]

theorem convert_unruled (hv : v.isFalsy = false) (hrule : cfg.rule? v.plain = none) :
    cfg.convert v = cfg.readNumber v.plain := by
  rw [convert, hv, if_neg Bool.false_ne_true, hrule]

theorem convert_amount (hv : v.isFalsy = false) (hrule : cfg.rule? v.plain = none) {d : Decimal}
    (hparse : Amount.parse? (.ofFlag cfg.turkish) v.plain = some d) :
    cfg.convert v = (decimalValue cfg.kind d).map some := by
  rw [convert_unruled hv hrule, readNumber, Amount.parse?_trim, hparse]

/-- What is read as a number is a number, or out of range. -/
theorem readNumber_of_readable (h : ¬ cfg.Unreadable (Text.trim text)) :
    ∃ x, OnlyNumbers x ∧ cfg.readNumber text = x.map some := by
  unfold readNumber
  dsimp only
  cases hamount : Amount.parse? (.ofFlag cfg.turkish) (Text.trim text) with
  | some d => exact ⟨_, decimalValue_onlyNumbers _ d, rfl⟩
  | none =>
    cases hfloat : Number.readFloat? (Text.trim text) with
    | none => exact absurd ⟨hamount, by simp [hfloat]⟩ h
    | some x =>
      dsimp only
      split
      · exact ⟨_, floatValue_onlyNumbers _ x, rfl⟩
      · rename_i hinfinite
        refine absurd ⟨hamount, fun y hy => ?_⟩ h
        obtain rfl := Option.some.inj (hfloat.symm.trans hy)
        exact Bool.not_eq_true _ ▸ hinfinite

theorem readNumber_of_unreadable (h : cfg.Unreadable (Text.trim text)) :
    cfg.readNumber text = .ok none := by
  unfold readNumber
  dsimp only
  rw [h.1]
  dsimp only
  split
  · rename_i x hx
    rw [h.2 x hx, if_neg Bool.false_ne_true]
  · rfl

/-- Idle values have nothing to give. -/
theorem Idle.not_converts (h : cfg.Idle v) (out : Value) : ¬ cfg.Converts v out := by
  rintro ⟨hconvert, hnull⟩
  by_cases hv : v.isFalsy = true
  · rw [convert, if_pos hv] at hconvert
    cases hconvert
  have hv := Bool.eq_false_of_not_eq_true hv
  cases h with
  | falsy h => exact Bool.noConfusion (hv.symm.trans h)
  | unreadable hrules htext =>
    rw [convert_unruled hv (rule?_eq_none_iff.2 hrules), readNumber_of_unreadable htext] at hconvert
    cases hconvert
  | outOfRange h => cases h.symm.trans hconvert
  | nulled hfirst houtput hpattern =>
    rw [convert_ruled hv (rule?_eq_some_iff.2 hfirst),
      ruleOutcome_eq_null_iff.2 ⟨houtput, hpattern⟩] at hconvert
    cases hconvert
    exact hnull rfl

/-- **A value that is not idle is converted.** -/
theorem exists_converts (h : ¬ cfg.Idle v) : ∃ out, cfg.Converts v out := by
  have hv : v.isFalsy = false := Bool.eq_false_of_not_eq_true fun hv => h (.falsy hv)
  -- Whatever the conversion is, it did not fail and did not end with `null`.
  have hresult {x : Except MappingError Value} (hx : cfg.convert v = x.map some)
      (hnull : x ≠ .ok .null) : ∃ out, cfg.Converts v out := by
    cases x with
    | ok out => exact ⟨out, hx, fun hout => hnull (congrArg _ hout)⟩
    | error e =>
      obtain ⟨number, rfl⟩ := cfg.convert_onlyOverflow v e hx
      exact absurd (.outOfRange hx) h
  cases hrule : cfg.rule? v.plain with
  | some r =>
    refine hresult (convert_ruled hv hrule) fun hnull => h ?_
    obtain ⟨houtput, hpattern⟩ := ruleOutcome_eq_null_iff.1 hnull
    exact .nulled (rule?_eq_some_iff.1 hrule) houtput hpattern
  | none =>
    have hreadable : ¬ cfg.Unreadable (Text.trim v.plain) := fun htext =>
      h (.unreadable (rule?_eq_none_iff.1 hrule) htext)
    obtain ⟨x, hx, hread⟩ := readNumber_of_readable hreadable
    exact hresult ((convert_unruled hv hrule).trans hread) hx.ne_null

/-- **There is no fifth kind of idle values.** -/
theorem idle_iff : cfg.Idle v ↔ ∀ out, ¬ cfg.Converts v out := by
  constructor
  · exact Idle.not_converts
  · intro h
    by_contra hidle
    obtain ⟨out, hout⟩ := exists_converts hidle
    exact h out hout

theorem convertItem?_eq_some_iff : cfg.convertItem? v = some out ↔ cfg.Converts v out := by
  have hnull (w : Value) : w.isNull = false ↔ w ≠ .null := by
    cases w <;> simp [Value.isNull]
  unfold convertItem?
  split
  · rename_i w hw
    rw [Converts, hw, Except.ok.injEq, Option.some.injEq]
    cases hw' : w.isNull with
    | true =>
      refine iff_of_false (by simp) ?_
      rintro ⟨rfl, hne⟩
      exact Bool.noConfusion (hw'.symm.trans ((hnull w).2 hne))
    | false =>
      rw [if_neg Bool.false_ne_true, Option.some.injEq]
      refine (and_iff_left_of_imp ?_).symm
      rintro rfl
      exact (hnull w).1 hw'
  · rename_i hother
    exact iff_of_false nofun fun h => hother out h.1

theorem convertItem?_eq_none_iff : cfg.convertItem? v = none ↔ cfg.Idle v := by
  rw [idle_iff, Option.eq_none_iff_forall_ne_some]
  exact forall_congr' fun out => not_congr convertItem?_eq_some_iff

/-! ## Lists -/

/-- What a list is converted to: the number of its first item that is not idle, or the default. -/
inductive ListOutcome (cfg : NumericRules) : List Value → Value → Prop
  | default {items : List Value} : (∀ v ∈ items, cfg.Idle v) →
    ListOutcome cfg items (cfg.default.getD .null)
  | first {before : List Value} {v out : Value} (after : List Value) :
    (∀ w ∈ before, cfg.Idle w) → cfg.Converts v out → ListOutcome cfg (before ++ v :: after) out

/-- `items'` are `items` with idle ones put between them, anywhere. -/
inductive Padded (cfg : NumericRules) : List Value → List Value → Prop
  | nil : Padded cfg [] []
  | item (v : Value) {items items' : List Value} :
    Padded cfg items items' → Padded cfg (v :: items) (v :: items')
  | idle {v : Value} {items items' : List Value} :
    cfg.Idle v → Padded cfg items items' → Padded cfg items (v :: items')

theorem apply_array (items : List Value) : cfg.apply (.array items) =
    .ok ((items.findSome? cfg.convertItem?).getD (cfg.default.getD .null)) := by
  cases items <;> rfl

/-- Idle items are not found. -/
theorem Padded.findSome?_eq (h : cfg.Padded items items') :
    items'.findSome? cfg.convertItem? = items.findSome? cfg.convertItem? := by
  induction h with
  | nil => rfl
  | item v _ ih => rw [List.findSome?_cons, List.findSome?_cons, ih]
  | idle hv _ ih => rw [List.findSome?_cons, convertItem?_eq_none_iff.2 hv, ih]

theorem ListOutcome.apply_array (h : cfg.ListOutcome items out) :
    cfg.apply (.array items) = .ok out := by
  rw [NumericRules.apply_array]
  cases h with
  | default hidle =>
    rw [List.findSome?_eq_none_iff.2 fun v hv => convertItem?_eq_none_iff.2 (hidle v hv)]
    rfl
  | @first before v _ after hidle hv =>
    have hfound : (before ++ v :: after).findSome? cfg.convertItem? = some out :=
      List.findSome?_eq_some_iff.2 ⟨before, v, after, rfl, convertItem?_eq_some_iff.2 hv,
        fun w hw => convertItem?_eq_none_iff.2 (hidle w hw)⟩
    rw [hfound]
    rfl

/-- Every list has an outcome. -/
theorem exists_listOutcome (cfg : NumericRules) (items : List Value) :
    ∃ out, cfg.ListOutcome items out := by
  cases hfound : items.findSome? cfg.convertItem? with
  | none =>
    refine ⟨_, .default fun v hv => convertItem?_eq_none_iff.1 ?_⟩
    exact List.findSome?_eq_none_iff.1 hfound v hv
  | some out =>
    obtain ⟨before, v, after, rfl, hv, hbefore⟩ := List.findSome?_eq_some_iff.1 hfound
    exact ⟨out, .first after (fun w hw => convertItem?_eq_none_iff.1 (hbefore w hw))
      (convertItem?_eq_some_iff.1 hv)⟩

end NumericRules

open NumericRules

/-- **Items that cannot be converted do no harm to a list.** Every list is converted, to the number
of its first item that has one, as that item would be alone, or else to the default. An item has
none in four cases only: it is empty, no number is written, the number is out of range, or a rule
makes it `null`. Such items may be put anywhere or left out, and behind the first number any items
may stand. -/
theorem apply_array_isolated (cfg : NumericRules) :
    (∀ items, ∃ out, cfg.ListOutcome items out ∧
      Strategy.apply (.numeric cfg) (.array items) = .ok out) ∧
    (∀ v, cfg.Idle v ↔ ∀ out, ¬ cfg.Converts v out) ∧
    (∀ v out, cfg.Converts v out → (∀ items, v ≠ .array items) → cfg.apply v = .ok out) ∧
    (∀ items items', cfg.Padded items items' →
      cfg.apply (.array items') = cfg.apply (.array items)) ∧
    ∀ before v out after after', cfg.Converts v out →
      cfg.apply (.array (before ++ v :: after)) = cfg.apply (.array (before ++ v :: after')) := by
  refine ⟨fun items => ?_, fun v => idle_iff, fun v out hv hitems => ?_, fun items items' h => ?_,
    fun before v out after after' hv => ?_⟩
  · obtain ⟨out, hout⟩ := cfg.exists_listOutcome items
    exact ⟨out, hout, hout.apply_array⟩
  · have hfull : v.isFalsy = false := Bool.eq_false_of_not_eq_true fun hfalsy =>
      (Idle.falsy hfalsy).not_converts out hv
    rw [apply_scalar hfull hitems, hv.1]
    rfl
  · rw [apply_array, apply_array, h.findSome?_eq]
  · have hfound := convertItem?_eq_some_iff.2 hv
    rw [apply_array, apply_array, List.findSome?_append, List.findSome?_append,
      List.findSome?_cons, List.findSome?_cons, hfound]

/-- All four kinds of idle items before a number, and another number behind it. -/
theorem apply_array_isolated_five :
    let cfg : NumericRules := ⟨[⟨"YOK", .null, .one⟩], .integer, some true, some (.int (-1))⟩
    let idle : List Value :=
      [.string "", .string "beş", .string "99.999.999.999.999.999.999", .string " YOK "]
    (∀ v ∈ idle, cfg.Idle v) ∧
      cfg.apply (.array [.string "1.500,75"]) = .ok (.int 1500) ∧
      cfg.apply (.array (idle ++ [.string "1.500,75", .string "7"])) = .ok (.int 1500) := by
  intro cfg idle
  obtain ⟨-, -, -, hpadded, hbehind⟩ := apply_array_isolated cfg
  have hempty : cfg.Idle (.string "") := .falsy rfl
  have hword : cfg.Idle (.string "beş") := by
    refine .unreadable (by decide) ⟨by decide, fun x hx => ?_⟩
    have hnone : Number.readFloat? (Text.trim "beş") = none := by decide
    cases hnone.symm.trans hx
  have hlarge : cfg.Idle (.string "99.999.999.999.999.999.999") := by
    have hread : Amount.parse? .turkish (Text.trim "99.999.999.999.999.999.999") =
        some ⟨false, 99999999999999999999, 0⟩ := by decide
    have hfits : ∀ r ∈ cfg.rules, r.multiplier.Fits :=
      List.forall_mem_singleton.2 Decimal.fits_one
    have hfails : Fails (cfg.convert (.string "99.999.999.999.999.999.999")) :=
      (convert_fails_iff hfits rfl).2 (.amount (by decide) rfl hread (by decide))
    obtain ⟨e, he⟩ := hfails
    obtain ⟨number, rfl⟩ := cfg.convert_onlyOverflow _ e he
    exact .outOfRange he
  have hnulled : cfg.Idle (.string " YOK ") :=
    .nulled ⟨by decide, [], [], rfl, List.forall_mem_nil _⟩ rfl fun _ => by decide
  have hconverts : cfg.Converts (.string "1.500,75") (.int 1500) := by
    have hread : Amount.parse? (.ofFlag cfg.turkish) "1.500,75" = some ⟨false, 150075, 2⟩ := by
      decide
    have hrule : cfg.rule? "1.500,75" = none := rule?_eq_none_iff.2 (by decide)
    have htoInt : (⟨false, 150075, 2⟩ : Number.Decimal).toInt = 1500 := by decide
    have hcut : decimalValue .integer ⟨false, 150075, 2⟩ = .ok (.int 1500) := by
      rw [decimalValue, htoInt]
      rfl
    refine ⟨(convert_amount (v := .string "1.500,75") rfl hrule hread).trans ?_, Value.noConfusion⟩
    exact congrArg (Except.map some) hcut
  have halone : cfg.apply (.array [.string "1.500,75"]) = .ok (.int 1500) :=
    (@ListOutcome.first cfg [] _ _ [] (List.forall_mem_nil _) hconverts).apply_array
  refine ⟨?_, halone, ?_⟩
  · simp only [idle, List.forall_mem_cons]
    exact ⟨hempty, hword, hlarge, hnulled, List.forall_mem_nil _⟩
  · rw [hbehind idle _ _ [.string "7"] [] hconverts]
    refine (hpadded [.string "1.500,75"] _ ?_).trans halone
    exact .idle hempty (.idle hword (.idle hlarge (.idle hnulled (.item _ .nil))))

end PolicyFields.Mapping

import PolicyFields.Mapping.Artifact

/-!
# Why values cannot be mapped

* `OnlyOverflow` — a result that, if it is an error, is a number out of range.
* `NumericRules.convert_onlyOverflow` — conversions to numbers are such results.
* `Config.mapValue_error` — **no strategy but the conversion to numbers fails**, and that one
  neither at lists nor at values that hold nothing.
-/

namespace PolicyFields.Mapping

open Json (Value)

variable {α β : Type} {x : Except MappingError α}

/-- If the result is an error, then because of a number out of range. -/
def OnlyOverflow (x : Except MappingError α) : Prop :=
  ∀ e, x = .error e → ∃ number, e = .overflow number

namespace OnlyOverflow

theorem ok (a : α) : OnlyOverflow (.ok a) := by
  intro e h
  cases h

theorem overflow (number : String) : OnlyOverflow (.error (.overflow number) : Except _ α) := by
  intro e h
  exact ⟨number, (Except.error.inj h).symm⟩

/-- A number that is checked against its range. -/
theorem checked (p : Prop) [Decidable p] (a : α) (number : String) :
    OnlyOverflow (if p then .ok a else .error (.overflow number)) := by
  split
  · exact ok a
  · exact overflow number

theorem map (hx : OnlyOverflow x) (f : α → β) : OnlyOverflow (x.map f) := by
  intro e h
  cases x with
  | ok a => cases h
  | error e' => exact hx e (congrArg Except.error (Except.error.inj h))

end OnlyOverflow

/-! ## Numbers -/

theorem decimalValue_onlyOverflow (kind : NumericType) (d : Number.Decimal) :
    OnlyOverflow (decimalValue kind d) := by
  cases kind with
  | integer => exact .checked _ _ _
  | float => exact .checked _ _ _

theorem floatValue_onlyOverflow (kind : NumericType) (x : Float) :
    OnlyOverflow (floatValue kind x) := by
  cases kind with
  | integer => exact .checked _ _ _
  | float => exact .ok _

namespace NumericRules

theorem scaled_onlyOverflow (cfg : NumericRules) (r : NumericRule) (d : Number.Decimal) :
    OnlyOverflow (cfg.scaled r d) := by
  unfold scaled
  dsimp only
  split
  · exact decimalValue_onlyOverflow _ _
  · exact .overflow _

theorem ruleOutcome_onlyOverflow (cfg : NumericRules) (r : NumericRule) :
    OnlyOverflow (cfg.ruleOutcome r) := by
  unfold ruleOutcome
  split
  · exact .ok _
  · split
    · exact cfg.scaled_onlyOverflow r _
    · exact .ok _

theorem readNumber_onlyOverflow (cfg : NumericRules) (text : String) :
    OnlyOverflow (cfg.readNumber text) := by
  unfold readNumber
  dsimp only
  split
  · exact (decimalValue_onlyOverflow _ _).map some
  · split
    · split
      · exact (floatValue_onlyOverflow _ _).map some
      · exact .ok _
    · exact .ok _

theorem convert_onlyOverflow (cfg : NumericRules) (v : Value) : OnlyOverflow (cfg.convert v) := by
  unfold convert
  split
  · exact .ok _
  · split
    · exact (cfg.ruleOutcome_onlyOverflow _).map some
    · exact cfg.readNumber_onlyOverflow _

/-- A conversion fails only at values that hold something and are no lists: the items of a list that
cannot be converted are passed over. -/
theorem apply_error {cfg : NumericRules} {v : Value} {e : MappingError}
    (h : cfg.apply v = .error e) :
    (∃ number, e = .overflow number) ∧ v.isFalsy = false ∧ ∀ items, v ≠ .array items := by
  unfold apply at h
  dsimp only at h
  split at h
  · cases h
  · rename_i hfull
    split at h
    · cases h
    · rename_i hitems
      exact ⟨(cfg.convert_onlyOverflow v).map _ e h, Bool.not_eq_true _ ▸ hfull, hitems⟩

end NumericRules

/-! ## Strategies -/

/-- No other strategy fails. -/
theorem Strategy.apply_error {s : Strategy} {v : Value} {e : MappingError}
    (h : s.apply v = .error e) : ∃ rules, s = .numeric rules ∧ rules.apply v = .error e := by
  cases s with
  | numeric rules => exact ⟨rules, rfl, h⟩
  | fixed _ | substring _ | pick _ | amount _ | unrecognized _ => cases h

/-- **A value that cannot be mapped belongs to a field that is converted to numbers.** It is no list
and holds something, and a number is out of range. -/
theorem Config.mapValue_error {c : Config} {name : String} {v : Value} {e : MappingError}
    (h : c.mapValue name v = .error e) :
    ∃ rules number, c.fields.find? name = some (.numeric rules) ∧ e = .overflow number ∧
      rules.apply v = .error (.overflow number) ∧ v.isFalsy = false ∧
      ∀ items, v ≠ .array items := by
  unfold mapValue at h
  split at h
  · rename_i s hs
    obtain ⟨rules, rfl, hrules⟩ := Strategy.apply_error h
    obtain ⟨⟨number, rfl⟩, hfull, hitems⟩ := NumericRules.apply_error hrules
    exact ⟨rules, number, hs, rfl, hrules, hfull, hitems⟩
  · cases h

end PolicyFields.Mapping

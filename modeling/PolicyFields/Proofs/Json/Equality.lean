import PolicyFields.Proofs.Json.Reading
import PolicyFields.Proofs.Number.Bits

/-!
# Equal values

`Value.same` compares floats as numbers, so that zeros of either sign are equal and what is not a
number is not even equal to itself.

* `Value.IsFinite` — values whose floats are finite, as all numbers of JSON are.
* `Value.IsFinite.same_self` — **a finite value is equal to itself**.
* `Value.same_iff` — nothing is equal to a value without floats but that value.
-/

namespace PolicyFields.Json.Value

/-- A value all whose floats are finite. -/
inductive IsFinite : Value → Prop
  | null : IsFinite .null
  | bool (b : Bool) : IsFinite (.bool b)
  | int (n : Int) : IsFinite (.int n)
  | float {x : Float} : Number.isFinite x = true → IsFinite (.float x)
  | string (s : String) : IsFinite (.string s)
  | array {items : List Value} : (∀ v ∈ items, v.IsFinite) → IsFinite (.array items)
  | object {members : List (String × Value)} :
    (∀ m ∈ members, m.2.IsFinite) → IsFinite (.object members)

theorem sameItems_self {items : List Value} (h : ∀ v ∈ items, v.same v = true) :
    sameItems items items = true := by
  induction items with
  | nil => rfl
  | cons v r ih =>
    obtain ⟨hv, hr⟩ := List.forall_mem_cons.1 h
    rw [sameItems, hv, ih hr, Bool.and_self]

theorem sameMembers_self {members : List (String × Value)}
    (h : ∀ m ∈ members, m.2.same m.2 = true) :
    sameMembers members members = true := by
  induction members with
  | nil => rfl
  | cons m r ih =>
    obtain ⟨hm, hr⟩ := List.forall_mem_cons.1 h
    rw [sameMembers, hm, ih hr, beq_self_eq_true, Bool.and_self, Bool.and_self]

/-- **A finite value is equal to itself.** -/
theorem IsFinite.same_self {v : Value} (h : v.IsFinite) : v.same v = true := by
  induction h with
  | null => rfl
  | bool b => simp [same]
  | int n => exact beq_self_eq_true n
  | float hx => exact Number.beq_self hx
  | string s => simp [same]
  | array _ ih => exact sameItems_self ih
  | object _ ih => exact sameMembers_self ih

mutual

/-- **Without floats, equal values are the same value.** -/
theorem same_iff : ∀ {w v : Value}, w.floatFree = true → (v.same w = true ↔ v = w)
  | .null, v, _ | .bool _, v, _ | .string _, v, _ => by cases v <;> simp [same]
  | .number (.int n), v, _ => by
    cases v with
    | number a => cases a <;> simp [same, Number.same]
    | null | bool _ | string _ | array _ | object _ => simp [same]
  | .number (.float x), _, h => Bool.noConfusion h
  | .array items, v, h => by
    cases v with
    | array vs => rw [same, sameItems_iff h, array.injEq]
    | null | bool _ | number _ | string _ | object _ => simp [same]
  | .object members, v, h => by
    cases v with
    | object vs => rw [same, sameMembers_iff h, object.injEq]
    | null | bool _ | number _ | string _ | array _ => simp [same]

theorem sameItems_iff : ∀ {ws vs : List Value}, itemsFloatFree ws = true →
    (sameItems vs ws = true ↔ vs = ws)
  | [], vs, _ => by cases vs <;> simp [sameItems]
  | w :: ws, [], _ => by simp [sameItems]
  | w :: ws, v :: vs, h => by
    obtain ⟨hw, hws⟩ := Bool.and_eq_true_iff.1 h
    rw [sameItems, Bool.and_eq_true, same_iff hw, sameItems_iff hws, List.cons.injEq]

theorem sameMembers_iff : ∀ {ws vs : List (String × Value)}, membersFloatFree ws = true →
    (sameMembers vs ws = true ↔ vs = ws)
  | [], vs, _ => by cases vs <;> simp [sameMembers]
  | w :: ws, [], _ => by simp [sameMembers]
  | (l, w) :: ws, (k, v) :: vs, h => by
    obtain ⟨hw, hws⟩ := Bool.and_eq_true_iff.1 h
    rw [sameMembers, Bool.and_eq_true, Bool.and_eq_true, beq_iff_eq, same_iff hw,
      sameMembers_iff hws, List.cons.injEq, Prod.mk.injEq]

end

end PolicyFields.Json.Value

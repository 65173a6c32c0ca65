import Mathlib.Data.List.Forall2

/-!
# Traversals that stop at the first error

* `mapM_eq_ok_iff` — a traversal succeeds iff every step does, and holds the results in order.
* `mapM_eq_error_iff` — it fails with the error of the first step that fails.
* `mapM_eq_some_map`, `findSomeM?_eq_some_findSome?` — traversals none of whose steps stops.
-/

namespace PolicyFields.Traversal

universe u v

variable {ε α : Type u} {β : Type v} {γ : Type v} {f : α → Except ε β}

theorem bind_eq_ok_iff {r : Except ε β} {g : β → Except ε γ} {c : γ} :
    (r >>= g) = .ok c ↔ ∃ b, r = .ok b ∧ g b = .ok c := by
  cases r with
  | error e => simp [bind, Except.bind]
  | ok b => simp [bind, Except.bind]

theorem bind_eq_error_iff {r : Except ε β} {g : β → Except ε γ} {e : ε} :
    (r >>= g) = .error e ↔ r = .error e ∨ ∃ b, r = .ok b ∧ g b = .error e := by
  cases r with
  | error e => simp [bind, Except.bind]
  | ok b => simp [bind, Except.bind]

theorem map_eq_ok_iff {r : Except ε β} {g : β → γ} {c : γ} :
    r.map g = .ok c ↔ ∃ b, r = .ok b ∧ g b = c := by
  cases r <;> simp [Except.map]

theorem mapError_eq_ok_iff {ε' : Type u} {r : Except ε β} {g : ε → ε'} {b : β} :
    r.mapError g = .ok b ↔ r = .ok b := by
  cases r <;> simp [Except.mapError]

/-- A result put beside a key. -/
theorem keyed_eq_ok_iff {κ : Type v} {k : κ} {r : Except ε β} {p : κ × β} :
    (do return (k, ← r) : Except ε (κ × β)) = .ok p ↔ p.1 = k ∧ r = .ok p.2 := by
  rw [bind_eq_ok_iff]
  constructor
  · rintro ⟨b, hb, h⟩
    obtain rfl := Except.ok.inj h
    exact ⟨rfl, hb⟩
  · rintro ⟨h, hb⟩
    exact ⟨p.2, hb, congrArg Except.ok (Prod.ext h.symm rfl)⟩

theorem keyed_eq_error_iff {κ : Type v} {k : κ} {r : Except ε β} {e : ε} :
    (do return (k, ← r) : Except ε (κ × β)) = .error e ↔ r = .error e := by
  rw [bind_eq_error_iff]
  constructor
  · rintro (h | ⟨_, _, h⟩)
    · exact h
    · cases h
  · exact .inl

/-- A traversal of `x :: xs` is a step, then a traversal of `xs`. -/
theorem mapM_cons_eq (x : α) (xs : List α) :
    (x :: xs).mapM f = f x >>= fun y => xs.mapM f >>= fun ys => .ok (y :: ys) := List.mapM_cons

/-- **A traversal succeeds iff every step does.** -/
theorem mapM_eq_ok_iff {xs : List α} {ys : List β} :
    xs.mapM f = .ok ys ↔ List.Forall₂ (fun x y => f x = .ok y) xs ys := by
  induction xs generalizing ys with
  | nil =>
    rw [List.mapM_nil, List.forall₂_nil_left_iff]
    exact ⟨fun h => (Except.ok.inj h).symm, fun h => congrArg Except.ok h.symm⟩
  | cons x xs ih =>
    rw [mapM_cons_eq, bind_eq_ok_iff, List.forall₂_cons_left_iff]
    constructor
    · rintro ⟨y, hy, h⟩
      obtain ⟨ys', hys, h⟩ := bind_eq_ok_iff.1 h
      exact ⟨y, ys', hy, ih.1 hys, (Except.ok.inj h).symm⟩
    · rintro ⟨y, ys', hy, hys, rfl⟩
      exact ⟨y, hy, bind_eq_ok_iff.2 ⟨ys', ih.2 hys, rfl⟩⟩

/-- **A traversal fails with the error of the first step that fails.** -/
theorem mapM_eq_error_iff {xs : List α} {e : ε} :
    xs.mapM f = .error e ↔ ∃ pre x post, xs = pre ++ x :: post ∧
      (∀ p ∈ pre, ∃ y, f p = .ok y) ∧ f x = .error e := by
  induction xs with
  | nil => simp [List.mapM_nil, pure, Except.pure]
  | cons x xs ih =>
    rw [mapM_cons_eq, bind_eq_error_iff]
    constructor
    · rintro (hx | ⟨y, hy, h⟩)
      · exact ⟨[], x, xs, rfl, by simp, hx⟩
      · rcases bind_eq_error_iff.1 h with h | ⟨_, _, h⟩
        · obtain ⟨pre, z, post, rfl, hpre, hz⟩ := ih.1 h
          refine ⟨x :: pre, z, post, rfl, ?_, hz⟩
          intro p hp
          rcases List.mem_cons.1 hp with rfl | hp
          · exact ⟨y, hy⟩
          · exact hpre p hp
        · cases h
    · rintro ⟨pre, z, post, heq, hpre, hz⟩
      cases pre with
      | nil =>
        obtain ⟨rfl, rfl⟩ := List.cons.inj heq
        exact .inl hz
      | cons p pre =>
        obtain ⟨rfl, rfl⟩ := List.cons.inj heq
        obtain ⟨y, hy⟩ := hpre _ List.mem_cons_self
        refine .inr ⟨y, hy, bind_eq_error_iff.2 (.inl (ih.2 ⟨pre, z, post, rfl, ?_, hz⟩))⟩
        exact fun q hq => hpre q (List.mem_cons_of_mem _ hq)

theorem exists_mapM_iff {xs : List α} :
    (∃ ys, xs.mapM f = .ok ys) ↔ ∀ x ∈ xs, ∃ y, f x = .ok y := by
  simp only [mapM_eq_ok_iff]
  induction xs with
  | nil => simp
  | cons x xs ih =>
    simp only [List.forall₂_cons_left_iff, List.forall_mem_cons, ← ih]
    constructor
    · rintro ⟨_, y, ys, hy, hys, rfl⟩
      exact ⟨⟨y, hy⟩, ys, hys⟩
    · rintro ⟨⟨y, hy⟩, ys, hys⟩
      exact ⟨_, y, ys, hy, hys, rfl⟩

/-- Every result of a traversal comes from a step. -/
theorem exists_of_mem_mapM {xs : List α} {ys : List β} (h : xs.mapM f = .ok ys) {y : β}
    (hy : y ∈ ys) : ∃ x ∈ xs, f x = .ok y := by
  rw [mapM_eq_ok_iff] at h
  induction h with
  | nil => cases hy
  | cons hstep _ ih =>
    rcases List.mem_cons.1 hy with rfl | hy
    · exact ⟨_, List.mem_cons_self, hstep⟩
    · obtain ⟨x, hx, hxy⟩ := ih hy
      exact ⟨x, List.mem_cons_of_mem _ hx, hxy⟩

/-- A traversal whose steps all succeed. -/
theorem mapM_eq_ok_map {g : α → β} {xs : List α} (h : ∀ x ∈ xs, f x = .ok (g x)) :
    xs.mapM f = .ok (xs.map g) := by
  rw [mapM_eq_ok_iff, List.forall₂_map_right_iff, List.forall₂_same]
  exact h

/-! ## Traversals that may stop without a result -/

section Stopping

variable {σ : Type u} {τ : Type v}

theorem mapM_eq_some_map {f : σ → Option τ} {g : σ → τ} {xs : List σ}
    (h : ∀ x ∈ xs, f x = some (g x)) : xs.mapM f = some (xs.map g) := by
  induction xs with
  | nil => rfl
  | cons x xs ih =>
    rw [List.mapM_cons, h x List.mem_cons_self, ih fun y hy => h y (List.mem_cons_of_mem x hy)]
    rfl

theorem findSomeM?_eq_some_findSome? {f : σ → Option (Option τ)} {g : σ → Option τ} {xs : List σ}
    (h : ∀ x ∈ xs, f x = some (g x)) : xs.findSomeM? f = some (xs.findSome? g) := by
  induction xs with
  | nil => rfl
  | cons x xs ih =>
    rw [List.findSomeM?_cons, h x List.mem_cons_self, List.findSome?_cons,
      ih fun y hy => h y (List.mem_cons_of_mem x hy)]
    cases g x <;> rfl

end Stopping

end PolicyFields.Traversal

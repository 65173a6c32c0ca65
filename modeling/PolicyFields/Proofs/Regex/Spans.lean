import PolicyFields.Proofs.Regex.Groups

/-!
# Where matches lie

* `Match.Within` — a match lies between two places, and its groups lie within it.
* `find?_within` — **a search from a place finds nothing before the place or behind the text**.
* `findAll_ordered` — **successive matches do not overlap** and come from left to right.
-/

namespace PolicyFields.Regex

/-! ## One search -/

/-- A thread that has begun at `low` or later and has come to `index`, where it has not left its own
stretch with any group. -/
structure Thread.Within (low high index : Nat) (t : Thread) : Prop where
  begun : low ≤ t.start
  reached : t.start ≤ index
  inside : index ≤ high
  opened : ∀ e ∈ t.opened, t.start ≤ e.2 ∧ e.2 ≤ index
  closed : ∀ e ∈ t.closed, t.start ≤ e.2.start ∧ e.2.stop ≤ index

/-- The match lies between two places, and its groups lie within it. -/
structure Match.Within (low high : Nat) (m : Match) : Prop where
  start : low ≤ m.whole.start
  stop : m.whole.stop ≤ high
  groups : ∀ index span, m.group? index = some span →
    m.whole.start ≤ span.start ∧ span.stop ≤ m.whole.stop

theorem mem_of_lookup_eq_some {α : Type} {key : Nat} {value : α} {entries : List (Nat × α)}
    (h : entries.lookup key = some value) : (key, value) ∈ entries := by
  obtain ⟨before, after, rfl, -⟩ := List.lookup_eq_some_iff.1 h
  simp

/-- **No step of a search leaves the stretch of its thread.** -/
theorem invariant_within (program : Array Instruction) (low high : Nat) :
    Invariant program low high fun index t => t.Within low high index where
  begin hlow hhigh := ⟨hlow, Nat.le_refl _, hhigh, fun _ he => absurd he List.not_mem_nil,
    fun _ he => absurd he List.not_mem_nil⟩
  goto _ ht := ⟨ht.begun, ht.reached, ht.inside, ht.opened, ht.closed⟩
  step hhigh ht := by
    refine ⟨ht.begun, Nat.le_succ_of_le ht.reached, hhigh, fun e he => ?_, fun e he => ?_⟩
    · exact ⟨(ht.opened e he).1, Nat.le_succ_of_le (ht.opened e he).2⟩
    · exact ⟨(ht.closed e he).1, Nat.le_succ_of_le (ht.closed e he).2⟩
  openGroup _ ht := by
    refine ⟨ht.begun, ht.reached, ht.inside, fun e he => ?_, ht.closed⟩
    rcases List.mem_cons.1 he with rfl | he
    · exact ⟨ht.reached, Nat.le_refl _⟩
    · exact ht.opened e (List.mem_filter.1 he).1
  closeGroup _ ht := by
    unfold Thread.closeGroup
    split
    · rename_i start hstart
      obtain ⟨hbegun, hreached⟩ := ht.opened _ (mem_of_lookup_eq_some hstart)
      refine ⟨ht.begun, ht.reached, ht.inside, ht.opened, fun e he => ?_⟩
      rcases List.mem_cons.1 he with rfl | he
      · dsimp only [Span.stop]
        exact ⟨hbegun, by omega⟩
      · exact ht.closed e (List.mem_filter.1 he).1
    · exact ht

theorem Thread.Within.toMatch {low high index : Nat} {t : Thread} (h : t.Within low high index) :
    (t.toMatch index).Within low high := by
  obtain ⟨hbegun, hreached, hinside, -, hclosed⟩ := h
  have hstop : (t.toMatch index).whole.stop = index := by
    dsimp only [Thread.toMatch, Span.stop]
    omega
  refine ⟨hbegun, Nat.le_trans (Nat.le_of_eq hstop) hinside, fun group span hspan => ?_⟩
  rw [hstop]
  unfold Match.group? at hspan
  split at hspan
  · obtain rfl := Option.some.inj hspan
    exact ⟨Nat.le_refl _, Nat.le_of_eq hstop⟩
  · exact hclosed _ (mem_of_lookup_eq_some hspan)

/-- **A search finds nothing before its place or behind the text.** -/
theorem find?_within {program : Array Instruction} {p : Place} {m : Match}
    (h : find? program p = some m) : m.Within p.index (p.index + p.rest.length) := by
  obtain ⟨t, index, ht, rfl⟩ := find?_isMatchOf (invariant_within program _ _) h
  exact ht.toMatch

/-! ## Successive matches -/

theorem Match.Within.mono {low low' high : Nat} {m : Match} (h : m.Within low high)
    (hlow : low' ≤ low) : m.Within low' high :=
  ⟨Nat.le_trans hlow h.start, h.stop, h.groups⟩

theorem findNext?_within {program : Array Instruction} {p : Place} {last : Option Nat} {m : Match}
    (h : findNext? program p last = some m) : m.Within p.index (p.index + p.rest.length) := by
  unfold findNext? at h
  split at h
  · cases h
  · rename_i found hfound
    split at h
    · obtain ⟨q, hq, hm⟩ := Option.bind_eq_some_iff.1 h
      unfold Place.next? at hq
      split at hq
      · cases hq
      · rename_i c r hrest
        obtain rfl := Option.some.inj hq
        have hlength : p.index + p.rest.length = p.index + 1 + r.length := by
          rw [hrest, List.length_cons]
          omega
        rw [hlength]
        exact (find?_within hm).mono (Nat.le_succ _)
    · obtain rfl := Option.some.inj h
      exact find?_within hfound

theorem forward_index (n : Nat) (p : Place) (h : n ≤ p.rest.length) :
    (p.forward n).index = p.index + n ∧
      (p.forward n).index + (p.forward n).rest.length = p.index + p.rest.length := by
  induction n generalizing p with
  | zero => exact ⟨rfl, rfl⟩
  | succ n ih =>
    unfold Place.forward
    split
    · rename_i hrest
      rw [hrest] at h
      cases h
    · rename_i c r hrest
      rw [hrest, List.length_cons] at h
      obtain ⟨hindex, htotal⟩ := ih ⟨p.index + 1, some c, r⟩ (Nat.le_of_succ_le_succ h)
      rw [hrest, List.length_cons]
      dsimp only at hindex htotal
      omega

/-- **Successive matches do not overlap**, and each lies between the place of the search and the end
of the text. -/
theorem findAll_ordered (program : Array Instruction) (fuel : Nat) (p : Place)
    (last : Option Nat) :
    (findAll program fuel p last).Pairwise (fun a b => a.whole.stop ≤ b.whole.start) ∧
      ∀ m ∈ findAll program fuel p last, m.Within p.index (p.index + p.rest.length) := by
  induction fuel generalizing p last with
  | zero => exact ⟨.nil, fun m hm => absurd hm List.not_mem_nil⟩
  | succ fuel ih =>
    unfold findAll
    split
    · exact ⟨.nil, fun m hm => absurd hm List.not_mem_nil⟩
    · rename_i m hm
      have hwithin := findNext?_within hm
      have hstart := hwithin.start
      have hstop := hwithin.stop
      have hle : m.whole.start ≤ m.whole.stop := Nat.le_add_right _ _
      -- The search goes on where the match ends.
      obtain ⟨hindex, htotal⟩ := forward_index (m.whole.stop - p.index) p (by omega)
      obtain ⟨hordered, hbehind⟩ := ih (p.forward (m.whole.stop - p.index)) (some m.whole.stop)
      rw [htotal] at hbehind
      refine ⟨List.pairwise_cons.2 ⟨fun b hb => ?_, hordered⟩, fun b hb => ?_⟩
      · have hb := (hbehind b hb).start
        omega
      · rcases List.mem_cons.1 hb with rfl | hb
        · exact hwithin
        · exact (hbehind b hb).mono (by omega)

namespace Machine

/-- All matches lie in the text, one behind the other. -/
theorem all_ordered (machine : Machine) (text : List Char) :
    (machine.all text).Pairwise (fun a b => a.whole.stop ≤ b.whole.start) ∧
      ∀ m ∈ machine.all text, m.Within 0 text.length := by
  have hordered := findAll_ordered machine.program (text.length + 2) (.first text) none
  rwa [Place.first, Nat.zero_add] at hordered

end Machine

end PolicyFields.Regex

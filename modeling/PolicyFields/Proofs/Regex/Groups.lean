import PolicyFields.Regex.Machine

/-!
# The groups of a match

* `Invariant` — a property of threads that every step of a search between two places keeps, with
  `find?_isMatchOf`: **what every step keeps holds of the thread that has matched**.
* `Pattern.endsWithin_code` — the code of a pattern ends no groups but those of the pattern.
* `Machine.group?_eq_none` — **no match of a machine has a group beyond the groups of its pattern**.
-/

namespace PolicyFields.Regex

/-! ## Invariants of a search -/

/-- A property of a thread and the index of its place that every step of a search keeps, the places
being those from `low` to `high`. -/
structure Invariant (program : Array Instruction) (low high : Nat) (P : Nat → Thread → Prop) :
    Prop where
  begin {index : Nat} : low ≤ index → index ≤ high → P index ⟨0, index, [], []⟩
  goto {index : Nat} {t : Thread} (counter : Nat) : P index t → P index (t.goto counter)
  step {index : Nat} {t : Thread} : index < high → P index t → P (index + 1) t
  openGroup {index : Nat} {t : Thread} {group next : Nat} :
    program[t.counter]? = some (.opens group next) → P index t → P index (t.openGroup group index)
  closeGroup {index : Nat} {t : Thread} {group next : Nat} :
    program[t.counter]? = some (.closes group next) → P index t → P index (t.closeGroup group index)

section Search

variable {program : Array Instruction} {low high : Nat} {P : Nat → Thread → Prop}

/-- Every thread of a frontier at the place `index` has the property. -/
def Frontier.All (P : Nat → Thread → Prop) (index : Nat) (f : Frontier) : Prop :=
  ∀ t ∈ f.threads, P index t

theorem Frontier.all_empty (index : Nat) : Frontier.empty.All P index :=
  fun _ ht => absurd ht List.not_mem_nil

/-- The match is that of a thread with the property. -/
def IsMatchOf (P : Nat → Thread → Prop) (m : Match) : Prop :=
  ∃ t index, P index t ∧ m = t.toMatch index

theorem explore_all (h : Invariant program low high P) {p : Place} (fuel : Nat) {t : Thread}
    {f : Frontier} (ht : P p.index t) (hf : f.All P p.index) :
    (explore program p fuel t f).All P p.index := by
  induction fuel generalizing t f with
  | zero => exact hf
  | succ fuel ih =>
    have hadd : Frontier.All P p.index ⟨f.met ||| 1 <<< t.counter, t :: f.threads⟩ := by
      rintro u hu
      rcases List.mem_cons.1 hu with rfl | hu
      · exact ht
      · exact hf u hu
    rw [explore]
    split
    · exact hf
    · dsimp only
      split
      · exact hf
      · exact hadd
      · exact hadd
      · exact ih (h.goto _ ht) hf
      · exact ih (h.goto _ ht) (ih (h.goto _ ht) hf)
      · rename_i hopens
        exact ih (h.goto _ (h.openGroup hopens ht)) hf
      · rename_i hcloses
        exact ih (h.goto _ (h.closeGroup hcloses ht)) hf
      · split
        · exact ih (h.goto _ ht) hf
        · exact hf

theorem advance_all (h : Invariant program low high P) {p q : Place} {c : Option Char}
    (hnext : ∀ d ∈ c, p.index < high ∧ q.index = p.index + 1) {ts : List Thread} {f : Frontier}
    {best : Option Match} (hts : ∀ t ∈ ts, P p.index t) (hf : f.All P q.index)
    (hbest : ∀ m ∈ best, IsMatchOf P m) :
    (advance program p q c ts f best).1.All P q.index ∧
      ∀ m ∈ (advance program p q c ts f best).2, IsMatchOf P m := by
  induction ts generalizing f best with
  | nil => exact ⟨hf, hbest⟩
  | cons t ts ih =>
    have ht := hts t List.mem_cons_self
    have hrest := fun u hu => hts u (List.mem_cons_of_mem t hu)
    rw [advance]
    split
    · refine ⟨hf, fun m hm => ⟨t, p.index, ht, (Option.some.inj hm).symm⟩⟩
    · rename_i s next _
      split
      · rename_i hc
        obtain ⟨d, hd, -⟩ := (Option.any_eq_true _ _).1 hc
        obtain ⟨hhigh, hq⟩ := hnext d hd
        have hthere : P q.index t := hq ▸ h.step hhigh ht
        exact ih hrest (explore_all h _ (h.goto _ hthere) hf) hbest
      · exact ih hrest hf hbest
    · exact ih hrest hf hbest

/-- A new thread may begin at every place. -/
theorem begin_all (h : Invariant program low high P) {p : Place} (hlow : low ≤ p.index)
    (hhigh : p.index ≤ high) {f : Frontier} (best : Option Match) (hf : f.All P p.index) :
    Frontier.All P p.index (if best.isNone
      then explore program p (program.size + 1) ⟨0, p.index, [], []⟩ f else f) := by
  split
  · exact explore_all h _ (h.begin hlow hhigh) hf
  · exact hf

theorem searchFrom_isMatchOf (h : Invariant program low high P) {rest : List Char} {index : Nat}
    {before : Option Char} {f : Frontier} {best : Option Match} (hlow : low ≤ index)
    (hhigh : index + rest.length ≤ high) (hf : f.All P index)
    (hbest : ∀ m ∈ best, IsMatchOf P m) :
    ∀ m ∈ searchFrom program rest index before f best, IsMatchOf P m := by
  induction rest generalizing index before f best with
  | nil =>
    have hthreads := begin_all h (p := ⟨index, before, []⟩) hlow hhigh best hf
    rw [searchFrom]
    dsimp only at hthreads ⊢
    generalize (if best.isNone then _ else f) = begun at hthreads ⊢
    split
    · exact hbest
    · exact (advance_all h (c := none) (fun d hd => by cases hd)
        (fun t ht => hthreads t (List.mem_reverse.1 ht)) (Frontier.all_empty _) hbest).2
  | cons c r ih =>
    have hthere : index + 1 + r.length ≤ high := by
      rw [List.length_cons] at hhigh
      omega
    have hthreads := begin_all h (p := ⟨index, before, c :: r⟩) hlow (by dsimp only; omega) best hf
    rw [searchFrom]
    dsimp only at hthreads ⊢
    generalize (if best.isNone then _ else f) = begun at hthreads ⊢
    split
    · exact hbest
    · have hnext := advance_all h (p := ⟨index, before, c :: r⟩) (q := ⟨index + 1, some c, r⟩)
        (c := some c) (fun d _ => ⟨by dsimp only; omega, rfl⟩)
        (fun t ht => hthreads t (List.mem_reverse.1 ht)) (Frontier.all_empty _) hbest
      exact ih (by omega) hthere hnext.1 hnext.2

/-- **What every step keeps holds of the thread that has matched.** -/
theorem find?_isMatchOf {p : Place}
    (h : Invariant program p.index (p.index + p.rest.length) P) {m : Match}
    (hm : find? program p = some m) : IsMatchOf P m :=
  searchFrom_isMatchOf h (Nat.le_refl _) (Nat.le_refl _) (Frontier.all_empty _)
    (fun _ hn => by cases hn) m hm

end Search

/-! ## The groups of a program -/

/-- No group beyond `bound` ends in the code. -/
def EndsWithin (bound : Nat) (code : List Instruction) : Prop :=
  ∀ index next, .closes index next ∈ code → index ≤ bound

namespace EndsWithin

variable {bound other : Nat} {code rest : List Instruction}

theorem mono (h : EndsWithin bound code) (hle : bound ≤ other) : EndsWithin other code :=
  fun index next hmem => Nat.le_trans (h index next hmem) hle

theorem append (h : EndsWithin bound code) (hrest : EndsWithin bound rest) :
    EndsWithin bound (code ++ rest) :=
  fun index next hmem => (List.mem_append.1 hmem).elim (h index next) (hrest index next)

theorem nil : EndsWithin bound [] := fun _ _ hmem => absurd hmem List.not_mem_nil

/-- An instruction that ends no group. -/
theorem cons {i : Instruction} (hi : ∀ index next, i ≠ .closes index next)
    (h : EndsWithin bound code) : EndsWithin bound (i :: code) := by
  intro index next hmem
  rcases List.mem_cons.1 hmem with heq | hmem
  · exact absurd heq.symm (hi index next)
  · exact h index next hmem

theorem choice (greedy : Bool) (first second : Nat) (h : EndsWithin bound code) :
    EndsWithin bound (.choice greedy first second :: code) :=
  h.cons fun _ _ => by cases greedy <;> exact Instruction.noConfusion

theorem copies {body : Nat → Nat → List Instruction}
    (h : ∀ start next, EndsWithin bound (body start next)) (n k start next : Nat) :
    EndsWithin bound (Pattern.copies body n k start next) := by
  induction k generalizing start with
  | zero => exact nil
  | succ k ih =>
    cases k with
    | zero => exact h start next
    | succ k => exact (h _ _).append (ih _)

theorem optionalCopies {body : Nat → Nat → List Instruction}
    (h : ∀ start next, EndsWithin bound (body start next)) (greedy : Bool) (n k start next : Nat) :
    EndsWithin bound (Pattern.optionalCopies greedy body n k start next) := by
  induction k generalizing start with
  | zero => exact nil
  | succ k ih => exact choice _ _ _ ((h _ _).append (ih _))

theorem repetitionCode {body : Nat → Nat → List Instruction}
    (h : ∀ start next, EndsWithin bound (body start next)) (least : Nat) (most : Option Nat)
    (greedy consuming : Bool) (n start next : Nat) : EndsWithin bound
      (Pattern.repetitionCode least most greedy consuming body n start next) := by
  unfold Pattern.repetitionCode
  dsimp only
  split
  · exact (copies h _ _ _ _).append (optionalCopies h _ _ _ _ _)
  · split
    · split
      · exact choice _ _ _ (h _ _)
      · exact choice _ _ _ ((h _ _).append (choice _ _ _ nil))
    · exact (copies h _ _ _ _).append (choice _ _ _ nil)

end EndsWithin

/-- **The code of a pattern ends no groups but those of the pattern.** -/
theorem Pattern.endsWithin_code (p : Pattern) (start next : Nat) :
    EndsWithin p.lastGroup (p.code start next) := by
  induction p generalizing start next with
  | empty => exact .cons (fun _ _ => Instruction.noConfusion) .nil
  | set s => exact .cons (fun _ _ => Instruction.noConfusion) .nil
  | look l => exact .cons (fun _ _ => Instruction.noConfusion) .nil
  | group index p ih =>
    refine .cons (fun _ _ => Instruction.noConfusion) (.append ?_ ?_)
    · exact (ih _ _).mono (Nat.le_max_right _ _)
    · intro i n hmem
      obtain ⟨rfl, -⟩ := Instruction.closes.inj (List.mem_singleton.1 hmem)
      exact Nat.le_max_left _ _
  | concat p q ihp ihq =>
    exact ((ihp _ _).mono (Nat.le_max_left _ _)).append ((ihq _ _).mono (Nat.le_max_right _ _))
  | alternate p q ihp ihq =>
    exact .cons (fun _ _ => Instruction.noConfusion)
      (((ihp _ _).mono (Nat.le_max_left _ _)).append ((ihq _ _).mono (Nat.le_max_right _ _)))
  | repetition least most greedy p ih => exact .repetitionCode ih _ _ _ _ _ _ _

/-- No group beyond `bound` has ended. -/
def Thread.EndedWithin (bound : Nat) (t : Thread) : Prop := ∀ e ∈ t.closed, e.1 ≤ bound

theorem Pattern.invariant_endedWithin (p : Pattern) (low high : Nat) :
    Invariant p.program low high fun _ t => t.EndedWithin p.lastGroup where
  begin _ _ := fun _ he => absurd he List.not_mem_nil
  goto _ ht := ht
  step _ ht := ht
  openGroup _ ht := ht
  closeGroup := by
    intro index t group next hcloses ht
    have hgroup : group ≤ p.lastGroup := by
      rw [Pattern.program, List.getElem?_toArray] at hcloses
      rcases List.mem_append.1 (List.mem_of_getElem? hcloses) with hmem | hmem
      · exact p.endsWithin_code _ _ group next hmem
      · cases List.mem_singleton.1 hmem
    unfold Thread.closeGroup
    split
    · intro e he
      rcases List.mem_cons.1 he with rfl | he
      · exact hgroup
      · exact ht e (List.mem_filter.1 he).1
    · exact ht

/-- **No match of a machine has a group beyond the groups of its pattern.** -/
theorem Machine.group?_eq_none {o : Options} {pattern : String} {machine : Machine}
    (hmachine : o.compile pattern = .ok machine) {text : List Char} {m : Match}
    (hm : machine.first? text = some m) {index : Nat} (hindex : machine.groupCount ≤ index) :
    m.group? index = none := by
  unfold Options.compile at hmachine
  split at hmachine
  · cases hmachine
  · split at hmachine
    · cases hmachine
    · rename_i p _ _ _
      obtain rfl := Except.ok.inj hmachine
      change p.lastGroup + 1 ≤ index at hindex
      obtain ⟨t, place, ht, rfl⟩ := find?_isMatchOf (p.invariant_endedWithin _ _) hm
      rw [Match.group?, if_neg (by omega), List.lookup_eq_none_iff]
      intro e he
      have hbound := ht e he
      exact bne_iff_ne.2 (by omega)

end PolicyFields.Regex

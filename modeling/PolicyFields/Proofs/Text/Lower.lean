import Mathlib.Data.List.Forall2
import PolicyFields.Text.Case

/-!
# Texts in small letters

* `IsBelowLetters` — the characters in front of the letters of ASCII: digits, blanks, most marks.
* `mem_lowerChars_iff` — **such a character stands in a text in small letters iff it stands in the
  text**.
* `lowerChars_append_newLine` — **lines are put in small letters one by one**: no letter is written
  otherwise for what stands in another line.
* `lowerEach`, `forall₂_lowerChars` — **characters are put in small letters one by one**, but for
  the sigma at the end of a word.
-/

namespace PolicyFields.Text

variable {a c : Char} {cs ds : List Char} {s : String}

/-! ## One character -/

/-- No character becomes a smaller one than the small letters of ASCII. -/
theorem le_applyFirst_lowerShifts {n : Nat} (hn : 0x80 ≤ n) :
    0x60 ≤ Shift.applyFirst lowerShifts n := by
  have hshifts : ∀ s ∈ lowerShifts, 0x60 ≤ (s.first : Int) + s.delta := by decide +kernel
  rcases Shift.applyFirst_cases lowerShifts n with hself | ⟨s, hs, hcovers, hmoved⟩
  · omega
  · have hlow := hshifts s hs
    simp only [Shift.covers, Bool.and_eq_true, decide_eq_true_eq] at hcovers
    rw [hmoved, Int.ofNat_eq_natCast]
    omega

/-- A character in front of the letters of ASCII, but not the character 0. -/
structure IsBelowLetters (a : Char) : Prop where
  pos : 0 < a.toNat
  lt : a.toNat < 'A'.toNat

instance (a : Char) : Decidable (IsBelowLetters a) :=
  decidable_of_iff (0 < a.toNat ∧ a.toNat < 'A'.toNat) ⟨fun ⟨h₁, h₂⟩ => ⟨h₁, h₂⟩,
    fun ⟨h₁, h₂⟩ => ⟨h₁, h₂⟩⟩

theorem IsBelowLetters.ne (ha : IsBelowLetters a) (hc : ¬ c.toNat < 'A'.toNat) : a ≠ c := by
  rintro rfl
  exact hc ha.lt

theorem isBelowLetters_of_isDigit (h : a.isDigit = true) : IsBelowLetters a := by
  have hdigit := Char.isDigit_iff_toNat.1 h
  have hlow : '0'.toNat = 48 := rfl
  have hhigh : '9'.toNat = 57 := rfl
  have hletter : 'A'.toNat = 65 := rfl
  exact ⟨by omega, by omega⟩

/-- What holds of the first characters by their numbers. -/
theorem forall_toNat_lt {bound : Nat} {P : Char → Prop} (h : ∀ n < bound, P (Char.ofNat n))
    (hc : c.toNat < bound) : P c := by
  rw [← Char.ofNat_toNat c]
  exact h c.toNat hc

theorem toLower_of_toNat_lt (h : a.toNat < 'A'.toNat) : a.toLower = a :=
  forall_toNat_lt (P := fun a => a.toLower = a) (by decide) h

theorem eq_toLower_of_toNat_lt (hc : c.toNat < 0x80) (h : c.toLower.toNat < 'A'.toNat) :
    c = c.toLower :=
  forall_toNat_lt (P := fun c => c.toLower.toNat < 'A'.toNat → c = c.toLower) (by decide) hc h

theorem lowerChar_of_isBelowLetters (ha : IsBelowLetters a) : lowerChar a = [a] := by
  have hascii : a.toNat < 0x80 := Nat.lt_trans ha.lt (by decide)
  rw [lowerChar, if_pos hascii, toLower_of_toNat_lt ha.lt]

/-- Such a character comes from itself only. -/
theorem eq_of_mem_lowerChar (ha : IsBelowLetters a) (h : a ∈ lowerChar c) : c = a := by
  unfold lowerChar at h
  split at h
  · rename_i hc
    obtain rfl := List.mem_singleton.1 h
    exact eq_toLower_of_toNat_lt hc ha.lt
  · rename_i hc
    split at h
    · simp only [List.mem_cons, List.not_mem_nil, or_false] at h
      rcases h with h | h
      · exact absurd h (ha.ne (by decide))
      · exact absurd h (ha.ne (by decide))
    · have hval := congrArg Char.toNat (List.mem_singleton.1 h)
      have hle := le_applyFirst_lowerShifts (Nat.le_of_not_lt hc)
      have hletter : 'A'.toNat = 65 := rfl
      have hlt := ha.lt
      have hpos := ha.pos
      rw [toNat_ofNat] at hval
      split at hval <;> omega

theorem lowerChar_ne_nil (c : Char) : lowerChar c ≠ [] := by
  unfold lowerChar
  split
  · exact List.cons_ne_nil _ _
  · split <;> exact List.cons_ne_nil _ _

/-! ## Texts -/

theorem mem_lowerFrom_iff (ha : IsBelowLetters a) {casedBefore : Bool} :
    a ∈ lowerFrom casedBefore cs ↔ a ∈ cs := by
  induction cs generalizing casedBefore with
  | nil => exact Iff.rfl
  | cons c r ih =>
    rw [lowerFrom, List.mem_append, ih, List.mem_cons]
    refine or_congr_left ?_
    split
    · rename_i hc
      -- A capital sigma and its small letters are all behind the letters of ASCII.
      have hcapital : a ≠ 'Σ' := ha.ne (by decide)
      have hlast : a ≠ 'ς' := ha.ne (by decide)
      have hinner : a ≠ 'σ' := ha.ne (by decide)
      rw [eq_of_beq hc]
      split <;> simp [hcapital, hlast, hinner]
    · refine ⟨fun h => (eq_of_mem_lowerChar ha h).symm, ?_⟩
      rintro rfl
      rw [lowerChar_of_isBelowLetters ha]
      exact List.mem_singleton_self a

theorem mem_lowerChars_iff (ha : IsBelowLetters a) : a ∈ lowerChars cs ↔ a ∈ cs :=
  mem_lowerFrom_iff ha

theorem mem_lower_iff (ha : IsBelowLetters a) : a ∈ (lower s).toList ↔ a ∈ s.toList := by
  rw [lower, String.toList_ofList, mem_lowerChars_iff ha]

theorem lower_eq_empty_iff : lower s = "" ↔ s = "" := by
  rw [← String.toList_eq_nil_iff, ← String.toList_eq_nil_iff, lower, String.toList_ofList,
    lowerChars]
  cases s.toList with
  | nil => exact iff_of_true rfl rfl
  | cons c r =>
    refine iff_of_false (fun h => ?_) (List.cons_ne_nil c r)
    rw [lowerFrom, List.append_eq_nil_iff] at h
    obtain ⟨hfirst, -⟩ := h
    split at hfirst
    · cases hfirst
    · exact lowerChar_ne_nil c hfirst

/-! ## Lines -/

/-- A new line ends the search for a letter. -/
theorem casedAhead_append_newLine : casedAhead (cs ++ '\n' :: ds) = casedAhead cs := by
  induction cs with
  | nil => rfl
  | cons c r ih => rw [List.cons_append, casedAhead, casedAhead, ih]

theorem lowerFrom_append_newLine {casedBefore : Bool} :
    lowerFrom casedBefore (cs ++ '\n' :: ds) =
      lowerFrom casedBefore cs ++ '\n' :: lowerChars ds := by
  induction cs generalizing casedBefore with
  | nil => rfl
  | cons c r ih =>
    rw [List.cons_append, lowerFrom, lowerFrom, ih, casedAhead_append_newLine, List.append_assoc]

/-- **Lines are put in small letters one by one.** -/
theorem lowerChars_append_newLine :
    lowerChars (cs ++ '\n' :: ds) = lowerChars cs ++ '\n' :: lowerChars ds :=
  lowerFrom_append_newLine

/-! ## Characters one by one -/

/-- Every character in small letters, whatever stands around it. -/
def lowerEach (cs : List Char) : List Char := cs.flatMap lowerChar

@[simp] theorem lowerEach_nil : lowerEach [] = [] := rfl

@[simp] theorem lowerEach_cons (c : Char) (cs : List Char) :
    lowerEach (c :: cs) = lowerChar c ++ lowerEach cs := List.flatMap_cons

@[simp] theorem lowerEach_append (cs ds : List Char) :
    lowerEach (cs ++ ds) = lowerEach cs ++ lowerEach ds := List.flatMap_append

/-- What stands around a character matters to the capital sigma only. -/
theorem forall₂_lowerFrom (casedBefore : Bool) (cs : List Char) :
    List.Forall₂ (fun a b => a = b ∨ a = 'ς' ∧ b = 'σ') (lowerFrom casedBefore cs)
      (lowerEach cs) := by
  have hself (ds : List Char) : List.Forall₂ (fun a b => a = b ∨ a = 'ς' ∧ b = 'σ') ds ds :=
    List.forall₂_same.2 fun _ _ => .inl rfl
  induction cs generalizing casedBefore with
  | nil => exact .nil
  | cons c r ih =>
    rw [lowerFrom, lowerEach_cons]
    refine List.rel_append ?_ (ih _)
    split
    · rename_i hc
      have hsigma : lowerChar 'Σ' = ['σ'] := by decide
      rw [eq_of_beq hc, hsigma]
      split
      · exact .cons (.inr ⟨rfl, rfl⟩) .nil
      · exact hself _
    · exact hself _

/-- **Characters are put in small letters one by one**, but for the sigma at the end of a word. -/
theorem forall₂_lowerChars (cs : List Char) :
    List.Forall₂ (fun a b => a = b ∨ a = 'ς' ∧ b = 'σ') (lowerChars cs) (lowerEach cs) :=
  forall₂_lowerFrom false cs

end PolicyFields.Text

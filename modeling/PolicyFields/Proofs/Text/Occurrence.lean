import Mathlib.Data.List.Forall2
import PolicyFields.Text.Containment

/-!
# Occurrence, blanks and letter case

Folding the case of a character makes no blank of a letter and no letter of a blank, so it does not
matter whether blanks are removed before or after it.

* `EqFolded`, `StandsIn` — two texts that differ in case only, and a text that stands in another one
  but for its case.
* `isBlank_simpleFold` — folding keeps blanks apart from all other characters.
* `stripChars_collapseChars` — collapsing blanks leaves all other characters as they are.
* `occursLoosely_iff` — **blanks never count**: a text occurs loosely exactly if it occurs when the
  blanks of both sides are removed; what occurs with blanks collapsed does so, too.
-/

namespace PolicyFields.Text

/-! ## Case -/

/-- Equal character by character under simple folding. -/
def EqFolded (as bs : List Char) : Prop := List.Forall₂ (fun a b => simpleFold a = simpleFold b) as bs

/-- Some stretch of a text equals `needle` under simple folding. -/
def StandsIn (needle cs : List Char) : Prop := ∃ stretch, stretch <:+: cs ∧ EqFolded needle stretch

theorem eqFolded_iff {as bs : List Char} : EqFolded as bs ↔ foldChars as = foldChars bs := by
  rw [foldChars, foldChars, ← List.forall₂_eq_eq_eq, List.forall₂_map_left_iff,
    List.forall₂_map_right_iff, EqFolded]

theorem occursFolded_iff {needle cs : List Char} :
    occursFolded needle cs = true ↔ StandsIn needle cs := by
  rw [occursFolded, hasInfix_iff]
  constructor
  · intro h
    obtain ⟨stretch, hstretch, heq⟩ := List.infix_map_iff.1 h
    exact ⟨stretch, hstretch, eqFolded_iff.2 heq⟩
  · rintro ⟨stretch, hstretch, heq⟩
    rw [eqFolded_iff.1 heq]
    exact hstretch.map simpleFold

theorem StandsIn.nil (cs : List Char) : StandsIn [] cs :=
  ⟨[], List.nil_infix, .nil⟩

/-! ## Blanks under folding -/

/-- The code points of the blanks. -/
def blankCodes : List Nat :=
  [9, 10, 11, 12, 13, 0x20, 0x85, 0xA0, 0x1680, 0x2000, 0x2001, 0x2002, 0x2003, 0x2004, 0x2005, 0x2006,
    0x2007, 0x2008, 0x2009, 0x200A, 0x2028, 0x2029, 0x202F, 0x205F, 0x3000]

theorem isBlank_iff {c : Char} : isBlank c = true ↔ c.toNat ∈ blankCodes := by
  simp only [isBlank, blankCodes, Bool.or_eq_true, Bool.and_eq_true, decide_eq_true_eq, beq_iff_eq,
    List.mem_cons, List.not_mem_nil, or_false]
  omega

/-- No shift leads from a blank or to one. -/
theorem blankCodes_foldShifts : ∀ s ∈ foldShifts, ∀ n ∈ blankCodes,
    s.covers n = false ∧ s.covers (Int.ofNat n - s.delta).toNat = false := by
  decide +kernel

theorem mem_blankCodes_applyFirst {n : Nat} :
    Shift.applyFirst foldShifts n ∈ blankCodes ↔ n ∈ blankCodes := by
  rcases Shift.applyFirst_cases foldShifts n with hself | ⟨s, hs, hcovers, hmoved⟩
  · rw [hself]
  · have hfrom : n ∉ blankCodes := fun hn =>
      Bool.noConfusion (hcovers.symm.trans (blankCodes_foldShifts s hs n hn).1)
    refine iff_of_false (fun hto => ?_) hfrom
    -- The shift can be undone, because no blank has the code point 0.
    have hpos : ∀ m ∈ blankCodes, 0 < m := by decide
    have hback : (Int.ofNat (Shift.applyFirst foldShifts n) - s.delta).toNat = n := by
      have := hpos _ hto
      simp only [Int.ofNat_eq_natCast] at hmoved ⊢
      omega
    have hnot := (blankCodes_foldShifts s hs _ hto).2
    rw [hback, hcovers] at hnot
    exact Bool.noConfusion hnot

theorem isBlank_ofNat (n : Nat) : isBlank (Char.ofNat n) = true ↔ n ∈ blankCodes := by
  rw [isBlank_iff, toNat_ofNat]
  split
  · rfl
  · have hvalid : ∀ m ∈ blankCodes, m.isValidChar := by decide
    exact iff_of_false (by decide) fun h => absurd (hvalid n h) ‹_›

theorem isBlank_toLower {c : Char} (hc : c.toNat < 0x80) : isBlank c.toLower = isBlank c := by
  have hall : ∀ n < 0x80, isBlank (Char.ofNat n).toLower = isBlank (Char.ofNat n) := by decide
  have h := hall c.toNat hc
  rwa [Char.ofNat_toNat] at h

/-- **Folding makes no blank and removes none.** -/
theorem isBlank_simpleFold (c : Char) : isBlank (simpleFold c) = isBlank c := by
  unfold simpleFold
  split
  · exact isBlank_toLower ‹_›
  · rw [Bool.eq_iff_iff, isBlank_ofNat, mem_blankCodes_applyFirst, isBlank_iff]

theorem stripChars_foldChars (cs : List Char) :
    stripChars (foldChars cs) = foldChars (stripChars cs) := by
  simp only [stripChars, foldChars, List.filter_map, Function.comp_def, isBlank_simpleFold]

/-! ## Collapsing -/

theorem stripChars_dropBlanks (cs : List Char) : stripChars (dropBlanks cs) = stripChars cs := by
  induction cs with
  | nil => rfl
  | cons c r ih =>
    cases hc : isBlank c with
    | true => simpa [dropBlanks, stripChars, hc] using ih
    | false => simp [dropBlanks, hc]

theorem stripChars_trimChars (cs : List Char) : stripChars (trimChars cs) = stripChars cs := by
  have hback : stripChars (dropBlanks (dropBlanks cs).reverse).reverse =
      (stripChars (dropBlanks (dropBlanks cs).reverse)).reverse := List.filter_reverse
  have hfront : stripChars (dropBlanks cs).reverse = (stripChars (dropBlanks cs)).reverse :=
    List.filter_reverse
  rw [trimChars, hback, stripChars_dropBlanks, hfront, List.reverse_reverse, stripChars_dropBlanks]

theorem stripChars_squeezeFrom (inRun : Bool) (cs : List Char) :
    stripChars (squeezeFrom inRun cs) = stripChars cs := by
  induction cs generalizing inRun with
  | nil => rfl
  | cons c r ih =>
    cases hc : isBlank c with
    | true => cases inRun <;> simpa [squeezeFrom, stripChars, hc, isBlank_space] using ih true
    | false => simpa [squeezeFrom, stripChars, hc] using ih false

/-- **Collapsing touches nothing but blanks.** -/
theorem stripChars_collapseChars (cs : List Char) :
    stripChars (collapseChars cs) = stripChars cs := by
  rw [collapseChars, stripChars_squeezeFrom, stripChars_trimChars]

/-! ## Occurrence -/

/-- What occurs with its blanks occurs without them. -/
theorem occursFolded_stripChars {needle cs : List Char} (h : occursFolded needle cs = true) :
    occursFolded (stripChars needle) (stripChars cs) = true := by
  rw [occursFolded, hasInfix_iff] at h ⊢
  rw [← stripChars_foldChars, ← stripChars_foldChars]
  exact h.filter _

/-- With blanks collapsed nothing occurs that does not occur without them. -/
theorem occursFolded_of_collapseChars {needle cs : List Char}
    (h : occursFolded (collapseChars needle) (collapseChars cs) = true) :
    occursFolded (stripChars needle) (stripChars cs) = true := by
  have hstrip := occursFolded_stripChars h
  rwa [stripChars_collapseChars, stripChars_collapseChars] at hstrip

/-- **Blanks never count.** -/
theorem occursLoosely_iff {needle s : String} : occursLoosely needle s = true ↔
    StandsIn (stripChars needle.toList) (stripChars s.toList) := by
  rw [occursLoosely, Bool.or_eq_true, ← occursFolded_iff]
  exact ⟨fun h => h.elim occursFolded_of_collapseChars id, .inr⟩

end PolicyFields.Text

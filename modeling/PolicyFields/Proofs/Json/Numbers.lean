import Mathlib.Data.List.TakeWhile
import PolicyFields.Json.Reader
import PolicyFields.Json.Writer
import PolicyFields.Proofs.Number.Decimal

/-!
# Numbers in a text

* `Ends` — what may stand behind a value without being taken for a part of it.
* `readNumber?_natText` — whole numbers are read back.
* `readNumber?_used` — **a number is read from the characters that it uses, whatever stands
  behind**.
* `Number.ReadsBack` — numbers that are read wherever their text stands; so are all of 64 bits.
* `IsRestored` — floats whose text is read as that float; `IsRestored.readsBack`: **it is so
  wherever the text stands**.
-/

namespace PolicyFields.Json

open PolicyFields.Number (natText AllDigits spanDigits)

variable {negative : Bool} {cs ds rest r : List Char}

/-! ## Whole numbers -/

/-- What may stand behind a value: nothing, a comma or a new line. -/
def Ends (rest : List Char) : Prop := ∀ c ∈ rest.head?, c = ',' ∨ c = '\n'

theorem ends_nil : Ends [] := fun _ hc => by cases hc

theorem allDigits_natText (n : Nat) : AllDigits (natText n) := Number.allDigits_toDigits n

theorem natText_ne_nil (n : Nat) : natText n ≠ [] := Nat.toDigits_ne_nil

/-- No numeral begins with a zero but zero itself: it would be shorter. -/
theorem natText_ne_zero_cons (n : Nat) (c : Char) (ds : List Char) :
    natText n ≠ '0' :: c :: ds := by
  intro h
  have hvalue : Nat.ofDigitChars 10 ('0' :: c :: ds) 0 = n :=
    h ▸ Nat.ofDigitChars_toDigits (by omega) (by omega)
  have hdigits : AllDigits (c :: ds) := fun d hd =>
    allDigits_natText n d (h ▸ List.mem_cons_of_mem _ hd)
  have hlt : n < 10 ^ (c :: ds).length := by
    rw [← hvalue, Nat.ofDigitChars_cons]
    exact Number.ofDigitChars_lt hdigits
  have hlength := (Nat.length_toDigits_le_iff (by omega) (by simp)).2 hlt
  rw [show Nat.toDigits 10 n = '0' :: c :: ds from h, List.length_cons] at hlength
  omega

/-- Digits that fit are all counted. -/
theorem wholePart_eq {ds : List Char} (h : Nat.ofDigitChars 10 ds 0 < digitBound) :
    wholePart ds = ⟨Nat.ofDigitChars 10 ds 0, 0⟩ := by
  -- So do those that follow some digits that fit.
  suffices ∀ m, Nat.ofDigitChars 10 ds m < digitBound →
      ds.foldl (fun s c =>
        let n := 10 * s.digits + Number.digitsValue [c]
        if s.exponent = 0 ∧ n < digitBound then ⟨n, 0⟩ else ⟨s.digits, s.exponent + 1⟩)
        (⟨m, 0⟩ : Significand) = ⟨Nat.ofDigitChars 10 ds m, 0⟩ from this 0 h
  clear h
  induction ds with
  | nil => intro m _; rfl
  | cons c ds ih =>
    intro m hm
    rw [Nat.ofDigitChars_cons] at hm ⊢
    have hdigit : 10 * m + Number.digitsValue [c] = 10 * m + (c.toNat - '0'.toNat) := by
      simp [Number.digitsValue]
    have hnext := Nat.lt_of_le_of_lt (Number.le_ofDigitChars ds _) hm
    rw [List.foldl_cons, hdigit]
    dsimp only
    rw [if_pos ⟨rfl, hnext⟩]
    exact ih _ hm

/-- Digits are followed as far as they go. -/
theorem spanDigits_append_of (hds : AllDigits ds) (hrest : ∀ c ∈ rest.head?, c.isDigit = false) :
    spanDigits (ds ++ rest) = (ds, rest) := by
  rw [spanDigits, List.span_eq_takeWhile_dropWhile, List.takeWhile_append_of_pos hds,
    List.dropWhile_append_of_pos hds]
  cases rest with
  | nil => simp
  | cons c rest =>
    have hc := hrest c rfl
    rw [List.takeWhile_cons_of_neg (by simp [hc]), List.dropWhile_cons_of_neg (by simp [hc]),
      List.append_nil]

theorem Ends.no_digit (h : Ends rest) : ∀ c ∈ rest.head?, c.isDigit = false := by
  intro c hc
  rcases h c hc with rfl | rfl <;> rfl

theorem spanDigits_append (hds : AllDigits ds) (hrest : Ends rest) :
    spanDigits (ds ++ rest) = (ds, rest) :=
  spanDigits_append_of hds hrest.no_digit

/-- **A whole number is read back.** -/
theorem readNumber?_natText {n : Nat} (hn : n < digitBound) (hrest : Ends rest) :
    readNumber? negative (natText n ++ rest) =
      (⟨wholeNumber negative ⟨n, 0⟩, none⟩, some rest) := by
  have hvalue : Nat.ofDigitChars 10 (natText n) 0 = n :=
    Nat.ofDigitChars_toDigits (by omega) (by omega)
  have hwhole := wholePart_eq (hvalue.symm ▸ hn)
  rw [hvalue] at hwhole
  rw [readNumber?, spanDigits_append (allDigits_natText n) hrest]
  dsimp only
  split
  · exact absurd ‹_› (natText_ne_nil n)
  · exact absurd ‹_› (natText_ne_zero_cons n _ _)
  · rw [hwhole]
    cases rest with
    | nil => rfl
    | cons c rest => rcases hrest c rfl with rfl | rfl <;> rfl

/-! ## What a number uses -/

/-- The digits in front of a text and what stands behind them. -/
theorem spanDigits_eq (cs : List Char) : ∃ ds r, spanDigits cs = (ds, r) ∧ cs = ds ++ r ∧
    AllDigits ds ∧ ∀ c ∈ r.head?, c.isDigit = false := by
  refine ⟨cs.takeWhile Char.isDigit, cs.dropWhile Char.isDigit,
    List.span_eq_takeWhile_dropWhile _ cs, List.takeWhile_append_dropWhile.symm,
    fun d hd => List.mem_takeWhile_imp hd, fun c hc => ?_⟩
  have hne : cs.dropWhile Char.isDigit ≠ [] := by
    intro hnil
    rw [hnil] at hc
    cases hc
  obtain rfl := Option.some.inj ((List.head?_eq_some_head hne).symm.trans hc)
  exact List.head_dropWhile_not Char.isDigit hne

/-- A reader of numbers reads this token from `used`, and stops in front of `rest` whenever that
cannot be a part of a number. -/
structure Uses (read : List Char → Token Number × Option (List Char)) (token : Token Number)
    (used : List Char) : Prop where
  sound : token.skip = none
  reads : ∀ {rest}, Ends rest → read (used ++ rest) = (token, some rest)

variable {token : Token Number} {s : Significand} {plain : Except Fault Number}

/-- What stands first in a text stands first if something else follows what is used. -/
theorem head?_used {P : Char → Prop} {used : List Char} (h : ∀ c ∈ (used ++ r).head?, P c)
    (hrest : ∀ c ∈ rest.head?, P c) : ∀ c ∈ (used ++ rest).head?, P c := by
  cases used with
  | nil => exact hrest
  | cons d used => exact h

/-- The sign of an exponent and what stands behind it. -/
theorem readSign_eq (cs : List Char) : ∃ down sign r, Number.readSign cs = (down, r) ∧
    cs = sign ++ r ∧ ∀ ds rest, AllDigits ds → ds ≠ [] →
      Number.readSign (sign ++ (ds ++ rest)) = (down, ds ++ rest) := by
  unfold Number.readSign
  split
  · exact ⟨true, ['-'], _, rfl, rfl, fun _ _ _ _ => rfl⟩
  · exact ⟨false, ['+'], _, rfl, rfl, fun _ _ _ _ => rfl⟩
  · refine ⟨false, [], cs, rfl, rfl, fun ds rest hds hne => ?_⟩
    obtain ⟨d, ds, rfl⟩ := List.exists_cons_of_ne_nil hne
    have hd := hds d List.mem_cons_self
    rw [List.nil_append, List.cons_append]
    split
    · rename_i heq
      obtain rfl := (List.cons.inj heq).1
      cases hd
    · rename_i heq
      obtain rfl := (List.cons.inj heq).1
      cases hd
    · rfl

theorem readExponent_used (h : readExponent negative s cs = (token, some r)) :
    ∃ used, cs = used ++ r ∧ Uses (readExponent negative s) token used := by
  obtain ⟨down, sign, behind, hsign, rfl, hsigned⟩ := readSign_eq cs
  obtain ⟨ds, r', hspan, rfl, hds, -⟩ := spanDigits_eq behind
  simp only [readExponent, hsign, hspan] at h
  split at h
  · cases h
  · rename_i hempty
    obtain ⟨rfl, hr⟩ := Prod.mk.inj h
    obtain rfl := Option.some.inj hr
    refine ⟨sign ++ ds, (List.append_assoc _ _ _).symm, rfl, fun hrest => ?_⟩
    have hne : ds ≠ [] := fun hnil => hempty (List.isEmpty_iff.2 hnil)
    simp only [readExponent, List.append_assoc, hsigned ds _ hds hne, spanDigits_append hds hrest,
      if_neg hempty]

theorem readScale_used (h : readScale negative s plain cs = (token, some r)) :
    ∃ used, cs = used ++ r ∧ Uses (readScale negative s plain) token used := by
  unfold readScale at h
  split at h
  · obtain ⟨used, rfl, huses⟩ := readExponent_used h
    exact ⟨'e' :: used, rfl, huses.sound, fun hrest => huses.reads hrest⟩
  · obtain ⟨used, rfl, huses⟩ := readExponent_used h
    exact ⟨'E' :: used, rfl, huses.sound, fun hrest => huses.reads hrest⟩
  · obtain ⟨rfl, hr⟩ := Prod.mk.inj h
    obtain rfl := Option.some.inj hr
    refine ⟨[], rfl, rfl, fun {rest} hrest => ?_⟩
    cases rest with
    | nil => rfl
    | cons c rest => rcases hrest c rfl with rfl | rfl <;> rfl

/-- What follows the whole digits of a number. -/
def afterWhole (negative : Bool) (s : Significand) (cs : List Char) :
    Token Number × Option (List Char) :=
  match cs with
  | '.' :: r =>
    let (fs, r) := spanDigits r
    if fs.isEmpty then digitMissing r
    else
      let s := fractionPart s fs
      readScale negative s (signedFloat negative s) r
  | r => readScale negative s (wholeNumber negative s) r

/-- Digits that begin a number: one at least, and zero only alone. -/
def BeginNumber (ds : List Char) : Prop := ds ≠ [] ∧ ∀ d r, ds ≠ '0' :: d :: r

theorem readNumber?_eq (hspan : spanDigits cs = (ds, r)) (hds : BeginNumber ds) :
    readNumber? negative cs = afterWhole negative (wholePart ds) r := by
  obtain ⟨hne, hzero⟩ := hds
  rw [readNumber?, hspan]
  dsimp only
  split
  · exact absurd rfl hne
  · exact absurd rfl (hzero _ _)
  · rfl

theorem beginNumber_of_readNumber? (hspan : spanDigits cs = (ds, rest))
    (h : readNumber? negative cs = (token, some r)) : BeginNumber ds := by
  rw [readNumber?, hspan] at h
  dsimp only at h
  split at h
  · cases h
  · cases h
  · rename_i hne hzero
    exact ⟨hne, fun d r heq => hzero d r heq⟩

theorem afterWhole_used (h : afterWhole negative s cs = (token, some r)) :
    ∃ used, cs = used ++ r ∧ Uses (afterWhole negative s) token used := by
  unfold afterWhole at h
  split at h
  · rename_i fraction
    obtain ⟨fs, behind, hspan, rfl, hfs, hbehind⟩ := spanDigits_eq fraction
    rw [hspan] at h
    dsimp only at h
    split at h
    · cases h
    · rename_i hempty
      obtain ⟨used, rfl, huses⟩ := readScale_used h
      refine ⟨'.' :: (fs ++ used), by simp, huses.sound, fun {rest} hrest => ?_⟩
      have hnext := head?_used hbehind hrest.no_digit
      simp only [afterWhole, List.cons_append, List.append_assoc, spanDigits_append_of hfs hnext,
        if_neg hempty, huses.reads hrest]
  · rename_i hpoint
    obtain ⟨used, rfl, huses⟩ := readScale_used h
    refine ⟨used, rfl, huses.sound, fun {rest} hrest => ?_⟩
    unfold afterWhole
    split
    · rename_i heq
      cases used with
      | nil =>
        obtain rfl : rest = '.' :: _ := heq
        rcases hrest '.' rfl with hc | hc <;> cases hc
      | cons d used => exact absurd (congrArg (· :: _) (List.cons.inj heq).1) (hpoint _)
    · exact huses.reads hrest

/-- **A number is read from the characters that it uses, whatever stands behind.** -/
theorem readNumber?_used (h : readNumber? negative cs = (token, some r)) :
    ∃ used, cs = used ++ r ∧ Uses (readNumber? negative) token used := by
  obtain ⟨ds, behind, hspan, rfl, hds, hbehind⟩ := spanDigits_eq cs
  have hbegin := beginNumber_of_readNumber? hspan h
  rw [readNumber?_eq hspan hbegin] at h
  obtain ⟨used, rfl, huses⟩ := afterWhole_used h
  refine ⟨ds ++ used, (List.append_assoc _ _ _).symm, huses.sound, fun {rest} hrest => ?_⟩
  have hnext := head?_used hbehind hrest.no_digit
  rw [List.append_assoc, readNumber?_eq (spanDigits_append_of hds hnext) hbegin]
  exact huses.reads hrest

/-- A number that cannot be followed to its end is not read. -/
theorem readNumber?_none (h : readNumber? negative cs = (token, none)) :
    ∃ f, token.read = .error f := by
  have hmissing {r : List Char} (h : digitMissing r = (token, none)) : ∃ f, token.read = .error f :=
    (Prod.mk.inj h).1 ▸ ⟨_, rfl⟩
  have hexponent {s : Significand} {r : List Char}
      (h : readExponent negative s r = (token, none)) : ∃ f, token.read = .error f := by
    unfold readExponent at h
    dsimp only at h
    split at h
    · exact hmissing h
    · cases h
  have hscale {s : Significand} {plain : Except Fault Number} {r : List Char}
      (h : readScale negative s plain r = (token, none)) : ∃ f, token.read = .error f := by
    unfold readScale at h
    split at h
    · exact hexponent h
    · exact hexponent h
    · cases h
  unfold readNumber? at h
  dsimp only at h
  split at h
  · exact hmissing h
  · exact (Prod.mk.inj h).1 ▸ ⟨_, rfl⟩
  · split at h
    · split at h
      · exact hmissing h
      · exact hscale h
    · exact hscale h

/-! ## Numbers as values -/

theorem isSpace_of_isDigit {c : Char} (h : c.isDigit = true) : isSpace c = false := by
  rw [Bool.eq_false_iff]
  intro hspace
  simp only [isSpace, Bool.or_eq_true, beq_iff_eq] at hspace
  rcases hspace with ((rfl | rfl) | rfl) | rfl <;> cases h

theorem skipSpace_cons {c : Char} (h : isSpace c = false) (cs : List Char) :
    skipSpace (c :: cs) = c :: cs :=
  List.dropWhile_cons_of_neg (by simp [h])

theorem readTree_digit {fuel depth : Nat} {c : Char} {cs : List Char} (hc : c.isDigit = true) :
    readTree (fuel + 1) depth (c :: cs) =
      (.number (readNumber? false (c :: cs)).1, (readNumber? false (c :: cs)).2) := by
  rw [readTree, skipSpace_cons (isSpace_of_isDigit hc)]
  split
  · rename_i heq
    cases heq
  all_goals
    rename_i heq
    obtain ⟨rfl, rfl⟩ := List.cons.inj heq
    first | cases hc | rw [if_pos hc]

theorem readTree_minus (fuel depth : Nat) (cs : List Char) :
    readTree (fuel + 1) depth ('-' :: cs) =
      (.number (readNumber? true cs).1, (readNumber? true cs).2) := by
  rw [readTree, skipSpace_cons rfl]
  rfl

theorem eq_number_of_value {t : Tree} {number : Number} (h : t.value = .ok (.number number)) :
    ∃ token, t = .number token ∧ token.read = .ok number := by
  cases t with
  | number token => cases hread : token.read <;> simp_all [Tree.value, Tree.content, Except.map,
      Except.mapError]
  | null | bool _ | tooDeep _ | broken _ => cases h
  | string s => cases hs : Tree.content s <;> simp [Tree.value, hs, Except.map] at h
  | list items ending =>
    cases hi : Tree.itemValues items ending <;> simp [Tree.value, hi, Except.map] at h
  | object ms ending =>
    cases hm : Tree.memberValues ms ending <;> simp [Tree.value, hm, Except.map] at h

theorem readName_ne_number {name cs : List Char} {t : Tree} (ht : ∀ token, t ≠ .number token)
    (token : Token Number) : (readName name t cs).1 ≠ .number token := by
  induction name generalizing cs with
  | nil => exact ht token
  | cons a name ih =>
    cases cs with
    | nil => exact Tree.noConfusion
    | cons c cs =>
      rw [readName]
      split
      · exact ih
      · exact Tree.noConfusion

/-- Where a number is read, a minus sign or a digit stands first. -/
theorem first_of_readTree {fuel depth : Nat} {c : Char} (hspace : isSpace c = false)
    (h : (readTree (fuel + 1) depth (c :: cs)).1 = .number token) : c = '-' ∨ c.isDigit = true := by
  have hnested {t : Tree} (ht : t ≠ .number token) : nested depth t ≠ .number token := by
    unfold nested
    split
    · exact Tree.noConfusion
    · exact ht
  rw [readTree, skipSpace_cons hspace] at h
  split at h
  · cases h
  · exact absurd h (readName_ne_number (fun _ => Tree.noConfusion) _)
  · exact absurd h (readName_ne_number (fun _ => Tree.noConfusion) _)
  · exact absurd h (readName_ne_number (fun _ => Tree.noConfusion) _)
  · cases h
  · rename_i heq
    exact .inl (List.cons.inj heq).1
  · exact absurd h (hnested Tree.noConfusion)
  · exact absurd h (hnested Tree.noConfusion)
  · rename_i heq
    obtain ⟨rfl, rfl⟩ := List.cons.inj heq
    split at h
    · exact .inr ‹_›
    · cases h

/-- A number as a value is read from the characters that it uses, too. -/
theorem readTree_used {fuel depth : Nat} {c : Char} (hspace : isSpace c = false)
    (h : readTree (fuel + 1) depth (c :: cs) = (.number token, some r)) :
    ∃ used, c :: cs = used ++ r ∧ token.skip = none ∧ ∀ {fuel depth rest}, Ends rest →
      readTree (fuel + 1) depth (used ++ rest) = (.number token, some rest) := by
  rcases first_of_readTree hspace (congrArg Prod.fst h) with rfl | hdigit
  · rw [readTree_minus, Prod.mk.injEq, Tree.number.injEq] at h
    obtain ⟨used, rfl, huses⟩ := readNumber?_used (Prod.ext h.1 h.2)
    refine ⟨'-' :: used, rfl, huses.sound, fun hrest => ?_⟩
    rw [List.cons_append, readTree_minus, huses.reads hrest]
  · rw [readTree_digit hdigit, Prod.mk.injEq, Tree.number.injEq] at h
    obtain ⟨used, hused, huses⟩ := readNumber?_used (Prod.ext h.1 h.2)
    refine ⟨used, hused, huses.sound, fun hrest => ?_⟩
    cases used with
    | nil =>
      have hnothing : readNumber? false [] = (token, some []) := huses.reads ends_nil
      cases hnothing
    | cons d used =>
      obtain rfl := (List.cons.inj hused).1
      rw [List.cons_append, readTree_digit hdigit, ← List.cons_append, huses.reads hrest]

/-- The number is read wherever its text stands. -/
structure Number.ReadsBack (n : Number) : Prop where
  first : ∃ c cs, n.chars = c :: cs ∧ (c = '-' ∨ c.isDigit = true)
  reads : ∀ {fuel depth rest}, Ends rest →
    readTree (fuel + 1) depth (n.chars ++ rest) = (.number ⟨.ok n, none⟩, some rest)

theorem Number.readsBack_int {n : Int} (hlow : -2 ^ 63 ≤ n) (hhigh : n < 2 ^ 64) :
    (Number.int n).ReadsBack := by
  have hbound : n.natAbs < digitBound := by
    simp only [digitBound]
    omega
  have hchars : (Number.int n).chars = intChars n := rfl
  by_cases hn : n < 0
  · refine ⟨⟨'-', natText n.natAbs, if_pos hn, .inl rfl⟩, fun hrest => ?_⟩
    have hwhole : wholeNumber true ⟨n.natAbs, 0⟩ = .ok (.int n) := by
      unfold wholeNumber
      rw [if_neg (by simp), if_neg (by simp), if_neg (by dsimp only; omega)]
      have hneg : -Int.ofNat n.natAbs = n := by
        change -(n.natAbs : Int) = n
        omega
      rw [hneg]
    rw [hchars, intChars, if_pos hn, List.cons_append, readTree_minus,
      readNumber?_natText hbound hrest, hwhole]
  · obtain ⟨c, cs, hcs⟩ := List.exists_cons_of_ne_nil (natText_ne_nil n.natAbs)
    have hc : c.isDigit = true := allDigits_natText n.natAbs c (hcs ▸ List.mem_cons_self)
    refine ⟨⟨c, cs, (if_neg hn).trans hcs, .inr hc⟩, fun hrest => ?_⟩
    have hwhole : wholeNumber false ⟨n.natAbs, 0⟩ = .ok (.int n) := by
      unfold wholeNumber
      rw [if_neg (by simp), if_pos (by simp)]
      have hpos : (n.natAbs : Int) = n := by omega
      rw [hpos]
    rw [hchars, intChars, if_neg hn, hcs, List.cons_append, readTree_digit hc, ← List.cons_append,
      ← hcs, readNumber?_natText hbound hrest, hwhole]

theorem readTree_number_none {fuel depth : Nat} {c : Char} (hspace : isSpace c = false)
    (h : readTree (fuel + 1) depth (c :: cs) = (.number token, none)) :
    ∃ f, token.read = .error f := by
  rcases first_of_readTree hspace (congrArg Prod.fst h) with rfl | hdigit
  · rw [readTree_minus, Prod.mk.injEq, Tree.number.injEq] at h
    exact readNumber?_none (Prod.ext h.1 h.2)
  · rw [readTree_digit hdigit, Prod.mk.injEq, Tree.number.injEq] at h
    exact readNumber?_none (Prod.ext h.1 h.2)

/-! ## Floats -/

section Floats

open PolicyFields.Number (floatChars jsonStyle jsonText positionalText scientificText)

/-- No blank stands in a text. -/
def NoSpace (cs : List Char) : Prop := ∀ c ∈ cs, isSpace c = false

instance (cs : List Char) : Decidable (NoSpace cs) := List.decidableBAll _ _

theorem NoSpace.append {cs ds : List Char} (hcs : NoSpace cs) (hds : NoSpace ds) :
    NoSpace (cs ++ ds) :=
  List.forall_mem_append.2 ⟨hcs, hds⟩

theorem noSpace_of_allDigits (h : AllDigits cs) : NoSpace cs :=
  fun c hc => isSpace_of_isDigit (h c hc)

/-- Where only blanks would be passed over, nothing is. -/
theorem NoSpace.eq_nil {cs : List Char} (hcs : NoSpace cs) (h : skipSpace cs = []) : cs = [] := by
  cases cs with
  | nil => rfl
  | cons c cs =>
    rw [skipSpace_cons (hcs c List.mem_cons_self)] at h
    cases h

theorem noSpace_positionalText (d : PolicyFields.Number.Decimals) :
    NoSpace (positionalText jsonStyle d) := by
  have hdigits := noSpace_of_allDigits (allDigits_natText d.digits)
  have hzeros (n : Nat) : NoSpace (List.replicate n '0') := by
    intro c hc
    rw [List.eq_of_mem_replicate hc]
    rfl
  have hmark : NoSpace jsonStyle.wholeMark := by decide
  unfold positionalText
  dsimp only
  split
  · exact (hdigits.append (hzeros _)).append hmark
  · generalize (-d.exponent).toNat = places
    generalize hpadded : List.replicate (places + 1 - (natText d.digits).length) '0' ++
      natText d.digits = padded
    have hall : NoSpace padded := hpadded ▸ (hzeros _).append hdigits
    refine NoSpace.append (fun c hc => hall c (List.mem_of_mem_take hc)) ?_
    exact List.forall_mem_cons.2 ⟨rfl, fun c hc => hall c (List.mem_of_mem_drop hc)⟩

theorem noSpace_scientificText (d : PolicyFields.Number.Decimals) :
    NoSpace (scientificText d) := by
  have hdigits := noSpace_of_allDigits (allDigits_natText d.digits)
  unfold scientificText
  dsimp only
  refine ((NoSpace.append ?_ ?_).append ?_).append (noSpace_of_allDigits (allDigits_natText _))
  · exact fun c hc => hdigits c (List.mem_of_mem_take hc)
  · split
    · exact fun c hc => absurd hc List.not_mem_nil
    · exact List.forall_mem_cons.2 ⟨rfl, fun c hc => hdigits c (List.mem_of_mem_tail hc)⟩
  · split <;> decide

/-- The text of a float has no blanks. -/
theorem noSpace_floatChars (x : Float) : NoSpace (floatChars jsonStyle x) := by
  unfold floatChars
  split
  · refine NoSpace.append ?_ ?_
    · split <;> decide
    · split
      · exact noSpace_positionalText _
      · exact noSpace_scientificText _
  · split
    · split <;> decide
    · decide

/-- A text without blanks from which a number is read. -/
theorem readsBack_of_readWhole {number : Number} (hspace : NoSpace number.chars)
    (h : readWhole Tree.value (String.ofList number.chars) = .ok (.number number)) :
    number.ReadsBack := by
  unfold readWhole Tree.ofText at h
  rw [String.toList_ofList] at h
  cases hcs : number.chars with
  | nil =>
    rw [hcs, List.length_nil, readTree] at h
    cases h
  | cons c cs =>
    rw [hcs] at h hspace
    have hc : isSpace c = false := hspace c List.mem_cons_self
    generalize hread : readTree (3 * (c :: cs).length + 3) 0 (c :: cs) = result at h
    obtain ⟨t, behind⟩ := result
    dsimp only at h
    split at h
    · cases h
    · rename_i hvalue
      split at h
      · rename_i hbehind
        obtain rfl := Except.ok.inj h
        obtain ⟨token, rfl, htoken⟩ := eq_number_of_value hvalue
        refine ⟨⟨c, cs, hcs, first_of_readTree hc (congrArg Prod.fst hread)⟩, fun hrest => ?_⟩
        cases behind with
        | none =>
          obtain ⟨f, hf⟩ := readTree_number_none hc hread
          rw [htoken] at hf
          cases hf
        | some r =>
          obtain ⟨used, hused, hsound, hreads⟩ := readTree_used hc hread
          have hr : NoSpace r := fun d hd => hspace d (hused ▸ List.mem_append_right used hd)
          obtain rfl := hr.eq_nil hbehind
          rw [List.append_nil] at hused
          obtain ⟨read, skip⟩ := token
          obtain rfl := hsound
          obtain rfl := htoken
          rw [hcs, hused]
          exact hreads hrest
      · cases h

/-- The JSON text of the float is read as that float. -/
def IsRestored (x : Float) : Prop := Value.ofText (jsonText x) = .ok (.float x)

instance (x : Float) : Decidable (IsRestored x) :=
  decidable_of_iff ((match Value.ofText (jsonText x) with
    | .ok (.number (.float y)) => decide (y = x)
    | _ => false) = true) <| by
    unfold IsRestored Value.float
    split <;> simp_all

/-- **A restored float is read wherever its text stands.** -/
theorem IsRestored.readsBack {x : Float} (h : IsRestored x) : (Number.float x).ReadsBack :=
  readsBack_of_readWhole (noSpace_floatChars x) h

end Floats

end PolicyFields.Json

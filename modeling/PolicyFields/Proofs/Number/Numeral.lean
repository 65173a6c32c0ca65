import PolicyFields.Proofs.Number.Decimal

/-!
# Numerals in their proper form

A number is written without zeros before its digits, which a numeral may have.

* `ofDigitChars_inj` — numerals of one length have different numbers.
* `toDigits_append` — digits behind a number lengthen its numeral.
* `toDigits_ofDigitChars` — **a numeral without a leading zero is the one of its number**.
-/

namespace PolicyFields.Number

variable {cs ds : List Char} {c : Char} {m : Nat}

/-- Numerals of one length have different numbers. -/
theorem ofDigitChars_inj (hcs : AllDigits cs) (hds : AllDigits ds) (hlength : cs.length = ds.length)
    (h : Nat.ofDigitChars 10 cs 0 = Nat.ofDigitChars 10 ds 0) : cs = ds := by
  induction cs generalizing ds with
  | nil => exact (List.length_eq_zero_iff.1 hlength.symm).symm
  | cons c cs ih =>
    obtain ⟨d, ds, rfl⟩ := List.exists_cons_of_length_eq_add_one hlength.symm
    have hcs' : AllDigits cs := fun e he => hcs e (List.mem_cons_of_mem _ he)
    have hds' : AllDigits ds := fun e he => hds e (List.mem_cons_of_mem _ he)
    have htails : cs.length = ds.length := Nat.succ.inj hlength
    rw [Nat.ofDigitChars_cons, Nat.ofDigitChars_cons,
      Nat.ofDigitChars_eq_ofDigitChars_zero (l := cs),
      Nat.ofDigitChars_eq_ofDigitChars_zero (l := ds), htails] at h
    -- The first digit is the quotient, and the other digits are the remainder.
    have hpower : 0 < 10 ^ ds.length := Nat.pow_pos (by decide)
    obtain ⟨hc, hrest⟩ := (Nat.div_mod_unique hpower).2
      ⟨Nat.add_comm _ _, htails ▸ ofDigitChars_lt hcs'⟩
    obtain ⟨hd, hrest'⟩ := (Nat.div_mod_unique hpower).2 ⟨Nat.add_comm _ _, ofDigitChars_lt hds'⟩
    have hvalues : c.toNat - '0'.toNat = d.toNat - '0'.toNat := by
      have hquotients := hc.symm.trans ((congrArg (· / 10 ^ ds.length) h).trans hd)
      omega
    have hchars : c = d := by
      have hlow := (Char.isDigit_iff_toNat.1 (hcs c List.mem_cons_self)).1
      have hlow' := (Char.isDigit_iff_toNat.1 (hds d List.mem_cons_self)).1
      exact Char.toNat_inj.1 (by omega)
    have hrests := hrest.symm.trans ((congrArg (· % 10 ^ ds.length) h).trans hrest')
    rw [hchars, ih hcs' hds' htails hrests]

/-- A digit is the one of its value. -/
theorem toDigits_digit (h : c.isDigit = true) : Nat.toDigits 10 (c.toNat - '0'.toNat) = [c] := by
  have hlow : 48 ≤ c.toNat := (Char.isDigit_iff_toNat.1 h).1
  rw [Nat.toDigits_of_lt_base (digit_lt_ten h), List.singleton_inj, ← Char.toNat_inj,
    Nat.toNat_digitChar_of_lt_ten (digit_lt_ten h)]
  change 48 + (c.toNat - 48) = c.toNat
  omega

/-- Digits behind a number lengthen its numeral, unless the number is zero. -/
theorem toDigits_append (hm : 0 < m) (h : AllDigits cs) :
    Nat.toDigits 10 m ++ cs = Nat.toDigits 10 (Nat.ofDigitChars 10 cs m) := by
  induction cs generalizing m with
  | nil => exact List.append_nil _
  | cons c cs ih =>
    have hc : c.isDigit = true := h c List.mem_cons_self
    calc Nat.toDigits 10 m ++ c :: cs
        = Nat.toDigits 10 m ++ Nat.toDigits 10 (c.toNat - '0'.toNat) ++ cs := by
          rw [toDigits_digit hc, List.append_assoc, List.singleton_append]
      _ = Nat.toDigits 10 (10 * m + (c.toNat - '0'.toNat)) ++ cs := by
          rw [Nat.toDigits_append_toDigits (by decide) hm (digit_lt_ten hc)]
      _ = Nat.toDigits 10 (Nat.ofDigitChars 10 (c :: cs) m) := by
          rw [ih (by omega) fun d hd => h d (List.mem_cons_of_mem _ hd), Nat.ofDigitChars_cons]

/-- **A numeral without a leading zero is the one of its number.** A zero alone is none. -/
theorem toDigits_ofDigitChars (hne : cs ≠ []) (h : AllDigits cs)
    (hzero : ∀ r, cs = '0' :: r → r = []) : Nat.toDigits 10 (Nat.ofDigitChars 10 cs 0) = cs := by
  obtain ⟨c, r, rfl⟩ := List.exists_cons_of_ne_nil hne
  have hc : c.isDigit = true := h c List.mem_cons_self
  rw [Nat.ofDigitChars_cons, Nat.mul_zero, Nat.zero_add]
  by_cases hr : r = []
  · rw [hr, Nat.ofDigitChars_nil, toDigits_digit hc]
  · have hpositive : 0 < c.toNat - '0'.toNat := by
      have hlow := (Char.isDigit_iff_toNat.1 hc).1
      have hother : c.toNat ≠ '0'.toNat := fun heq => by
        obtain rfl := Char.toNat_inj.1 heq
        exact hr (hzero r rfl)
      omega
    rw [← toDigits_append hpositive fun d hd => h d (List.mem_cons_of_mem _ hd), toDigits_digit hc,
      List.singleton_append]

end PolicyFields.Number

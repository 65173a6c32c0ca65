import Mathlib.Data.List.TakeWhile
import PolicyFields.Text.Blank

/-!
# Blanks at the ends of a text

* `AllBlank`, `Trimmed` — texts of nothing but blanks, and texts without blanks at their ends.
* `exists_blanks` — trimming takes blanks off both ends and nothing else.
* `trimChars_append` — **what stands between blanks is what trimming leaves**.
-/

namespace PolicyFields.Text

variable {cs first core last : List Char}

/-- Every character is a blank. -/
def AllBlank (cs : List Char) : Prop := ∀ c ∈ cs, isBlank c = true

/-- No blank stands at either end, and there is something between them. -/
structure Trimmed (cs : List Char) : Prop where
  ne_nil : cs ≠ []
  head : ∀ c ∈ cs.head?, isBlank c = false
  last : ∀ c ∈ cs.getLast?, isBlank c = false

theorem Trimmed.trimChars_eq (h : Trimmed cs) : trimChars cs = cs := trimChars_eq_self h.head h.last

/-- Whatever trimming leaves is trimmed. -/
theorem trimmed_trimChars (h : trimChars cs ≠ []) : Trimmed (trimChars cs) where
  ne_nil := h
  head _ hc := isBlank_head?_trimChars hc
  last _ hc := isBlank_getLast?_trimChars hc

/-- Trimming takes blanks off both ends. -/
theorem exists_blanks (cs : List Char) :
    ∃ first last, AllBlank first ∧ AllBlank last ∧ cs = first ++ trimChars cs ++ last := by
  have hsplit (ds : List Char) : ds.takeWhile isBlank ++ dropBlanks ds = ds :=
    List.takeWhile_append_dropWhile
  refine ⟨cs.takeWhile isBlank, ((dropBlanks cs).reverse.takeWhile isBlank).reverse, ?_, ?_, ?_⟩
  · exact fun c hc => List.mem_takeWhile_imp hc
  · exact fun c hc => List.mem_takeWhile_imp (List.mem_reverse.1 hc)
  · rw [List.append_assoc, trimChars, ← List.reverse_append, hsplit, List.reverse_reverse, hsplit]

theorem dropBlanks_append (hfirst : AllBlank first) (cs : List Char) :
    dropBlanks (first ++ cs) = dropBlanks cs := by
  rw [dropBlanks, List.dropWhile_append_of_pos hfirst]
  rfl

theorem dropBlanks_eq_nil (h : AllBlank cs) : dropBlanks cs = [] :=
  List.dropWhile_eq_nil_iff.2 h

/-- Blanks in front make no difference. -/
theorem trimChars_append_left (hfirst : AllBlank first) (cs : List Char) :
    trimChars (first ++ cs) = trimChars cs := by
  rw [trimChars, dropBlanks_append hfirst, trimChars]

/-- Blanks behind make no difference. -/
theorem trimChars_append_right (hlast : AllBlank last) (cs : List Char) :
    trimChars (cs ++ last) = trimChars cs := by
  have hback : AllBlank last.reverse := fun c hc => hlast c (List.mem_reverse.1 hc)
  by_cases hcs : dropBlanks cs = []
  · have hall : AllBlank cs := List.dropWhile_eq_nil_iff.1 hcs
    rw [trimChars_append_left hall, trimChars, trimChars, hcs, dropBlanks_eq_nil hlast]
  · have hfront : dropBlanks (cs ++ last) = dropBlanks cs ++ last := by
      rw [dropBlanks, List.dropWhile_append, if_neg]
      · rfl
      · rwa [List.isEmpty_iff]
    rw [trimChars, hfront, List.reverse_append, dropBlanks_append hback, trimChars]

/-- **Nothing but blanks is taken off.** -/
theorem trimChars_append (hfirst : AllBlank first) (hcore : Trimmed core) (hlast : AllBlank last) :
    trimChars (first ++ core ++ last) = core := by
  rw [trimChars_append_right hlast, trimChars_append_left hfirst, hcore.trimChars_eq]

end PolicyFields.Text

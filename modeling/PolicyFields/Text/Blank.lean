/-!
# White space

* `isBlank` — the Unicode property `White_Space`, the only notion of blank in this library.
* `trim` — a text without the blanks at its two ends.
* `collapse` — trimmed, every inner run of blanks turned into one space.
* `strip` — every blank removed.
* `words` — the maximal runs of other characters, the view under which the last two are read:
  `collapse` joins the words by single spaces, `strip` joins them by nothing.
-/

namespace PolicyFields.Text

/-- White space in the sense of the Unicode property `White_Space`. -/
def isBlank (c : Char) : Bool :=
  let n := c.toNat
  (9 ≤ n && n ≤ 13) || n == 0x20 || n == 0x85 || n == 0xA0 || n == 0x1680 ||
    (0x2000 ≤ n && n ≤ 0x200A) || n == 0x2028 || n == 0x2029 || n == 0x202F || n == 0x205F ||
    n == 0x3000

/-- `cs` without the blanks in front. -/
def dropBlanks (cs : List Char) : List Char := cs.dropWhile isBlank

/-- `cs` without the blanks at its two ends. -/
def trimChars (cs : List Char) : List Char := (dropBlanks (dropBlanks cs).reverse).reverse

/-- `s` without the blanks at its two ends. -/
def trim (s : String) : String := String.ofList (trimChars s.toList)

/-- Every maximal run of blanks becomes one space; `inRun` says that a blank stands just before. -/
def squeezeFrom : Bool → List Char → List Char
  | _, [] => []
  | inRun, c :: r =>
    if isBlank c then
      if inRun then squeezeFrom true r else ' ' :: squeezeFrom true r
    else c :: squeezeFrom false r

/-- The characters of `collapse`. -/
def collapseChars (cs : List Char) : List Char := squeezeFrom false (trimChars cs)

/-- `s` trimmed, with every inner run of blanks turned into one space (`collapse_whitespace`). -/
def collapse (s : String) : String := String.ofList (collapseChars s.toList)

/-- The characters of `strip`. -/
def stripChars (cs : List Char) : List Char := cs.filter fun c => !isBlank c

/-- `s` without its blanks (`strip_whitespace`). -/
def strip (s : String) : String := String.ofList (stripChars s.toList)

/-- The maximal runs of characters that are not blank, in order. -/
def words : List Char → List (List Char)
  | [] => []
  | c :: r =>
    if isBlank c then words r
    else match r, words r with
      | [], _ => [[c]]
      | d :: _, w => if isBlank d then [c] :: w else match w with
        | [] => [[c]]
        | first :: others => (c :: first) :: others

theorem isBlank_space : isBlank ' ' = true := rfl

theorem trimChars_sublist (cs : List Char) : (trimChars cs).Sublist cs := by
  have h : (trimChars cs).reverse.Sublist (dropBlanks cs).reverse := by
    rw [trimChars, List.reverse_reverse]
    exact List.dropWhile_sublist _
  exact (List.reverse_sublist.1 h).trans (List.dropWhile_sublist _)

theorem dropBlanks_eq_self {cs : List Char} (h : ∀ c ∈ cs.head?, isBlank c = false) :
    dropBlanks cs = cs := by
  cases cs with
  | nil => rfl
  | cons c r => simp [dropBlanks, h c rfl]

theorem isBlank_head?_dropBlanks {cs : List Char} {c : Char} (h : c ∈ (dropBlanks cs).head?) :
    isBlank c = false := by
  have hhead := List.head?_dropWhile_not isBlank cs
  rw [← dropBlanks, Option.mem_def.1 h] at hhead
  exact hhead

theorem trimChars_isPrefix (cs : List Char) : trimChars cs <+: dropBlanks cs := by
  rw [← List.reverse_suffix, trimChars, List.reverse_reverse]
  exact List.dropWhile_suffix _

/-- Trimming leaves a stretch of the text. -/
theorem trimChars_isInfix (cs : List Char) : trimChars cs <:+: cs :=
  (trimChars_isPrefix cs).isInfix.trans (List.dropWhile_suffix _).isInfix

theorem isBlank_head?_trimChars {cs : List Char} {c : Char} (h : c ∈ (trimChars cs).head?) :
    isBlank c = false := by
  obtain ⟨rest, hrest⟩ := trimChars_isPrefix cs
  have hfirst : c ∈ (dropBlanks cs).head? := by
    rw [← hrest, List.head?_append, Option.mem_def.1 h]
    rfl
  exact isBlank_head?_dropBlanks hfirst

theorem isBlank_getLast?_trimChars {cs : List Char} {c : Char} (h : c ∈ (trimChars cs).getLast?) :
    isBlank c = false := by
  rw [trimChars, List.getLast?_reverse] at h
  exact isBlank_head?_dropBlanks h

/-- Nothing is trimmed off a text without blanks at its ends. -/
theorem trimChars_eq_self {cs : List Char} (hfirst : ∀ c ∈ cs.head?, isBlank c = false)
    (hlast : ∀ c ∈ cs.getLast?, isBlank c = false) : trimChars cs = cs := by
  rw [trimChars, dropBlanks_eq_self hfirst, dropBlanks_eq_self (by rwa [List.head?_reverse]),
    List.reverse_reverse]

theorem trimChars_trimChars (cs : List Char) : trimChars (trimChars cs) = trimChars cs :=
  trimChars_eq_self (fun _ hc => isBlank_head?_trimChars hc)
    fun _ hc => isBlank_getLast?_trimChars hc

@[simp] theorem trim_trim (s : String) : trim (trim s) = trim s := by
  rw [trim, trim, String.toList_ofList, trimChars_trimChars]

end PolicyFields.Text

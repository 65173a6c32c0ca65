import PolicyFields.Files.Store

/-!
# The text that simple pages show

Documents whose pages are written without compression show their lines by a text in parentheses with
`Tj` behind it. `Content.ofText` tells such documents from other texts. It stands for a parser of
documents; compressed and encrypted pages are not read.
-/

namespace PolicyFields

/-- Where a reader of a page is. -/
inductive PagePlace where
  | outside
  /-- Inside so many further parentheses, with what has been read in reverse. -/
  | inside (depth : Nat) (sofar : List Char)
  /-- Behind a text in parentheses. -/
  | behind (line : List Char)
deriving DecidableEq, Repr

/-- The lines that a page shows. -/
def shownFrom : PagePlace → List Char → List (List Char)
  | _, [] => []
  | .inside d sofar, '\\' :: c :: r => shownFrom (.inside d (c :: sofar)) r
  | .inside 0 sofar, ')' :: r => shownFrom (.behind sofar.reverse) r
  | .inside (d + 1) sofar, ')' :: r => shownFrom (.inside d (')' :: sofar)) r
  | .inside d sofar, '(' :: r => shownFrom (.inside (d + 1) ('(' :: sofar)) r
  | .inside d sofar, c :: r => shownFrom (.inside d (c :: sofar)) r
  | .behind line, 'T' :: 'j' :: r => line :: shownFrom .outside r
  | .behind line, ' ' :: r => shownFrom (.behind line) r
  | _, '(' :: r => shownFrom (.inside 0 []) r
  | _, _ :: r => shownFrom .outside r

/-- The mark at the beginning of a document. -/
def documentMark : List Char := ['%', 'P', 'D', 'F', '-']

/-- Whether a document has a page. -/
def hasPage : List Char → Bool
  | [] => false
  | '/' :: 'P' :: 'a' :: 'g' :: 'e' :: c :: r => c != 's' || hasPage (c :: r)
  | _ :: r => hasPage r

/-- What a text is as the content of a file. -/
def Content.ofText (s : String) : Content :=
  let cs := s.toList
  if documentMark.isPrefixOf cs then
    .pdf (if hasPage cs then some ((shownFrom .outside cs).map String.ofList) else none)
  else .text s

end PolicyFields

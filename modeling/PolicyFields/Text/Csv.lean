/-!
# Comma separated values

A record is written on one line. A field is put into quotes if it is empty and alone or holds a
comma, a quote or the end of a line; quotes in it are written twice.
-/

namespace PolicyFields.Text

/-- Whether a field with this character needs quotes. -/
def needsQuotes (c : Char) : Bool := c == ',' || c == '"' || c == '\n' || c == '\r'

/-- A field in quotes, quotes in it written twice. -/
def quotedField (cs : List Char) : List Char :=
  '"' :: cs.flatMap (fun c => if c = '"' then ['"', '"'] else [c]) ++ ['"']

/-- A field as it is written. -/
def csvField (s : String) : List Char :=
  if s.toList.any needsQuotes then quotedField s.toList else s.toList

/-- A record as it is written, with the end of its line. -/
def csvRecord (fields : List String) : List Char :=
  (if fields = [""] then quotedField [] else [','].intercalate (fields.map csvField)) ++ ['\n']

/-- The text of some records. -/
def csv (records : List (List String)) : String := String.ofList (records.flatMap csvRecord)

end PolicyFields.Text

import PolicyFields.Failure
import PolicyFields.Files.Store

/-!
# Documents

* `Document` — the path of a document and its id, the name of the file without its extension.
* `listDocuments` — the documents in a directory.
* `Content.documentText`, `documentText` — the text of a document.
* `listCompanies` — the names of the directories in a directory.

Names of files and directories are texts. A system may also have names that are no Unicode texts,
from which an id is made with replacement characters; there are none here. How a document is parsed
and decrypted is left out as well: a document is given by the lines of its text.
-/

namespace PolicyFields

/-- A document and its id. -/
structure Document where
  id : String
  path : Path
deriving DecidableEq, Repr

namespace Document

/-- The document at a path (`from_path`). The name is a text and stays as it is: replacing what is
no Unicode would change nothing. -/
def ofPath (p : Path) : Document := ⟨p.stem?.getD "", p⟩

/-- Whether a path names a document: its extension is `pdf` in any case. -/
def isNamed (p : Path) : Bool :=
  match p.extension? with
  | some e => e.toList.map Char.toLower == ['p', 'd', 'f']
  | none => false

end Document

/-- The documents in a directory, in the order of their paths (`list_documents`); all names in it
are texts. -/
def listDocuments (f : Files) (dir : Path) : Except Failure (List Document) :=
  match f.isDirectory dir, f.listDirectory dir with
  | true, .ok entries =>
    let paths := entries.filterMap fun e =>
      match e.2 with
      | .file _ => if Document.isNamed (dir.child e.1) then some (dir.child e.1) else none
      | .directory => none
    match paths.mergeSort fun p q => !q.before p with
    | [] => .error (.corpus (.noDocuments dir))
    | sorted => .ok (sorted.map Document.ofPath)
  | _, _ => .error (.corpus (.directoryNotFound dir))

/-- The names of the directories in a directory, in order (`list_companies`). -/
def listCompanies (f : Files) (dir : Path) : Except Failure (List String) :=
  match f.listDirectory dir with
  | .error e => .error (.file e)
  | .ok entries =>
    let names := entries.filterMap fun e =>
      match e.2 with
      | .directory => some e.1
      | .file _ => none
    .ok (names.mergeSort fun a b => a ≤ b)

/-- The text of a document: every line that is not empty, behind two line feeds. -/
def linesText (lines : List String) : String :=
  String.join ((lines.filter fun l => !l.isEmpty).map fun l => "\n\n" ++ l)

/-- The text of a content, if it is a document. -/
def Content.documentText : Content → Except DocumentError String
  | text _ => .error (.notParsed "couldn't parse input: invalid file header")
  | pdf none => .error .noPages
  | pdf (some lines) => .ok (linesText lines)

/-- The text of the document at a path (`get_text`). -/
def documentText (f : Files) (p : Path) : Except DocumentError String :=
  match f.read p with
  | .ok c => c.documentText
  | .error e => .error (.unreadable p e)

end PolicyFields

import DocStub.Comment.Compose
import DocStub.Declaration.Recognition
import DocStub.Source.Line

/-!
# Documenting a text

Every line of a text is judged by what it declares, and a comment is put in front of the lines that
declare something.  The lines themselves stay as they are.

* `Entry`, `entries` — the lines of a text with what they declare.
* `Entry.text` — a line with the comment in front of it.
* `document` — the text with its comments, and the numbers that go with it.
-/

namespace DocStub.Source

open Comment Declaration
open Text (trim)

/-- A line and the kind of its declaration, if it has one that lacks a comment. -/
structure Entry where
  line : Line
  kind? : Option Kind
deriving DecidableEq, Repr

namespace Entry

/-- Judges a line by itself and the content of the line before it. -/
def ofLine (line : Line) (previous : List Char) : Entry :=
  ⟨line, Declaration.kind? (trim line.content) previous⟩

/-- The comment that goes in front of the line. -/
def block? (e : Entry) : Option Block :=
  e.kind?.map fun kind => compose kind (trim e.line.content) (indentation e.line.content)

/-- The comment in front of the line, as text.  Its lines end as the line itself does. -/
def commentText (e : Entry) : List Char :=
  match e.block? with
  | none => []
  | some block => block.text (Ending.ofContent e.line.content).text

/-- The line with the comment in front of it. -/
def text (e : Entry) : List Char := e.commentText ++ e.line.text

end Entry

/-- The entries of a sequence of lines.  Nothing stands before the first one. -/
def entriesOf (ls : List Line) : List Entry :=
  List.zipWith Entry.ofLine ls ([] :: ls.map Line.content)

/-- The entries of a text. -/
def entries (t : List Char) : List Entry := entriesOf (lines t)

/-- A text with comments, the number of lines of the text without them, and the numbers of
comments. -/
structure Documented where
  text : List Char
  lineCount : Nat
  byKind : Counts
deriving DecidableEq, Repr

namespace Documented

/-- The number of comments. -/
def blockCount (d : Documented) : Nat := d.byKind.total

/-- Whether there is a comment at all. -/
def isChanged (d : Documented) : Bool := 0 < d.blockCount

end Documented

/-- Puts a comment in front of every line that declares something and lacks one. -/
def document (t : List Char) : Documented :=
  let es := entries t
  { text := es.flatMap Entry.text
    lineCount := es.length
    byKind := Counts.ofKinds (es.map Entry.kind?) }

/-- The entries that declare something, each with the number of its line. -/
def declarations (t : List Char) : List (Nat × Kind × List Char) :=
  (entries t).zipIdx.filterMap fun (e, i) =>
    e.kind?.map fun kind => (i + 1, kind, trim e.line.content)

end DocStub.Source

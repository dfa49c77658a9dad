/-!
# Comment blocks

* `Block` — an indentation and the lines of a comment.
* `Block.text` — the block as text: an opening line, one line per line of content, and a closing
  line, each of them indented.
-/

namespace DocStub.Comment

/-- A documentation comment: the blanks in front of every line, and the content, line by line. -/
structure Block where
  indentation : List Char
  lines : List (List Char)
deriving DecidableEq, Repr

namespace Block

/-- The lines of the comment as it is written. -/
def textLines (b : Block) : List (List Char) :=
  ["/**".toList] ++ b.lines.map (" * ".toList ++ ·) ++ [" */".toList]

/-- The text of the comment, with `eol` at the end of every line. -/
def text (b : Block) (eol : List Char) : List Char :=
  b.textLines.flatMap fun line => b.indentation ++ line ++ eol

theorem length_textLines (b : Block) : b.textLines.length = b.lines.length + 2 := by
  simp [textLines]

end Block

end DocStub.Comment

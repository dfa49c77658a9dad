import DocStub.Text.Blank

/-!
# Lines of a text

A text is a sequence of lines, each ended by a line feed except perhaps the last.  The empty piece
after a final line feed is not a line.

* `Line` — the content of a line and whether a line feed ends it.
* `lines` — the lines of a text; `Line.text` gives them back.
* `indentation`, `Ending` — what an inserted comment takes over from the line below it.
-/

namespace DocStub.Source

open Text (isBlank)

/-- A line of a text: its characters without the line feed, and whether one follows. -/
structure Line where
  content : List Char
  isTerminated : Bool
deriving DecidableEq, Repr

/-- The line as it stands in its text. -/
def Line.text (l : Line) : List Char := l.content ++ if l.isTerminated then ['\n'] else []

/-- The lines of a text that starts with `c` and goes on with the given lines. -/
def startLines (c : Char) (ls : List Line) : List Line :=
  if c = '\n' then ⟨[], true⟩ :: ls
  else
    match ls with
    | [] => [⟨[c], false⟩]
    | l :: ls => { l with content := c :: l.content } :: ls

/-- The lines of a text. -/
def lines (t : List Char) : List Line := t.foldr startLines []

@[simp] theorem lines_nil : lines [] = [] := rfl

@[simp] theorem lines_cons (c : Char) (t : List Char) :
    lines (c :: t) = startLines c (lines t) := rfl

theorem flatMap_text_startLines (c : Char) (ls : List Line) :
    (startLines c ls).flatMap Line.text = c :: ls.flatMap Line.text := by
  unfold startLines
  split
  · simp [Line.text, *]
  · cases ls <;> simp [Line.text]

/-- The lines of a text make up the text. -/
theorem flatMap_text_lines (t : List Char) : (lines t).flatMap Line.text = t := by
  induction t with
  | nil => rfl
  | cons c t ih => rw [lines_cons, flatMap_text_startLines, ih]

/-! ## What a comment takes over -/

/-- The blanks at the front of a line. -/
def indentation (content : List Char) : List Char := content.takeWhile isBlank

/-- How a line ends: with a line feed, or with a carriage return in front of it. -/
inductive Ending where
  | lf
  | crlf
deriving DecidableEq, Repr

/-- The characters of a line ending. -/
def Ending.text : Ending → List Char
  | lf => ['\n']
  | crlf => ['\r', '\n']

/-- The ending that goes with the content of a line: the carriage return is its last character. -/
def Ending.ofContent (content : List Char) : Ending :=
  if content.getLast? = some '\r' then crlf else lf

end DocStub.Source

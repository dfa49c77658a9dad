import DocStub.Declaration.Kind
import DocStub.Declaration.Shape
import DocStub.Text.Search

/-!
# What a line declares

A line is judged on its own, with one look at the line before it.  Two words and a parenthesis are
not yet a method, nor are two words and a semicolon a field: `else if (` and `return total;` look
the same.  The gates keep such statements out.

* `statementKeywords` — the words that start or steer a statement.
* `admitsMethod`, `admitsField` — the gates.
* `closesComment` — whether the line before already documents this one.
* `kind?` — the kind of a declaration that lacks a comment.
-/

namespace DocStub.Declaration

open Text (trim words)

/-- The words that mark a line as a statement. -/
def statementKeywords : List (List Char) :=
  ["if", "else", "for", "while", "do", "switch", "case", "return", "throw", "break", "continue",
    "package", "import"].map String.toList

/-- Whether one of the words of a text is a statement keyword. -/
def hasStatementKeyword (t : List Char) : Bool := (words t).any statementKeywords.contains

/-- Whether a line shaped like a method can declare one: it constructs nothing, assigns nothing
and is not a statement. -/
def admitsMethod (line : List Char) : Bool :=
  !Text.contains "new ".toList line && !line.contains '=' && !hasStatementKeyword line

/-- Whether a line shaped like a field can declare one: it ends with a semicolon, has no
parenthesis and is not a statement. -/
def admitsField (line : List Char) : Bool :=
  line.getLast? == some ';' && !line.contains '(' && !line.contains ')' &&
    !hasStatementKeyword line

/-- Whether a line ends a comment block, blanks after it aside. -/
def closesComment (line : List Char) : Bool := "*/".toList.isSuffixOf (trim line)

/-- The kind of declaration that a line starts, if it starts one and `previous`, the line before
it, does not end its comment.  The shapes are tried in a fixed order, and a line shaped like a
method is never a field. -/
def kind? (line previous : List Char) : Option Kind :=
  if closesComment previous then none
  else if isClassShaped line then some .classType
  else if isInterfaceShaped line then some .interfaceType
  else if isMethodShaped line then if admitsMethod line then some .method else none
  else if isFieldShaped line && admitsField line then some .field
  else none

end DocStub.Declaration

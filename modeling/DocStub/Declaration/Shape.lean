import DocStub.Declaration.Modifier
import DocStub.Text.WordChar

/-!
# The shapes of declarations

What a line has to look like to declare something, read from its front.

* `namedAfter?` — a keyword and the name after it: `class Shape`.
* `TypedName`, `typedName?` — two words in a row, the type and the name of a member: `int area`.
* `isClassShaped`, `isInterfaceShaped`, `isMethodShaped`, `isFieldShaped` — the four shapes.

A shape never reaches over a line feed after the name, so a text of several lines has a shape only
in part.
-/

namespace DocStub.Declaration

open Text (leadingWord? afterGap? skipBlanks)

/-- The keyword of a class. -/
def classKeyword : List Char := "class".toList

/-- The keyword of an interface. -/
def interfaceKeyword : List Char := "interface".toList

/-- The word after a keyword at the front of a text, with what follows the word.  At least one
blank separates the two. -/
def namedAfter? (keyword t : List Char) : Option (List Char × List Char) := do
  let t ← keyword.isPrefixOf? t
  let t ← afterGap? t
  leadingWord? t

/-- The front of a member: the word for its type, its name, and the text after the blanks that
follow the name. -/
structure TypedName where
  type : List Char
  name : List Char
  rest : List Char
deriving DecidableEq, Repr

/-- Reads two words in a row at the front of a text. -/
def typedName? (t : List Char) : Option TypedName := do
  let (type, t) ← leadingWord? t
  let t ← afterGap? t
  let (name, t) ← leadingWord? t
  return ⟨type, name, skipBlanks t⟩

/-- Whether a text opens a parameter list and closes it again, on one line. -/
def opensParameters : List Char → Bool
  | '(' :: t => ')' ∈ t ∧ '\n' ∉ t
  | _ => false

/-- Whether a text ends a field: with a semicolon alone, or with an initializer on one line that
has a semicolon as its last character. -/
def endsField : List Char → Bool
  | '=' :: t => t.getLast? = some ';' ∧ '\n' ∉ t
  | t => t = [';']

/-- Whether a text starts like the declaration of a class. -/
def isClassShaped (t : List Char) : Bool :=
  (afterModifiers t).any fun t => (namedAfter? classKeyword t).any fun (_, rest) => '\n' ∉ rest

/-- Whether a text starts like the declaration of an interface. -/
def isInterfaceShaped (t : List Char) : Bool :=
  (afterAccess t).any fun t => (namedAfter? interfaceKeyword t).any fun (_, rest) => '\n' ∉ rest

/-- Whether a text starts like the declaration of a method. -/
def isMethodShaped (t : List Char) : Bool :=
  (afterModifiers t).any fun t => (typedName? t).any fun d => opensParameters d.rest

/-- Whether a text is shaped like the declaration of a field. -/
def isFieldShaped (t : List Char) : Bool :=
  (afterModifiers t).any fun t => (typedName? t).any fun d => endsField d.rest

end DocStub.Declaration

import DocStub.Declaration.Shape
import DocStub.Text.Search

/-!
# Names, types and parameters of a declaration

What a declaration line says about its parts.  Each reader takes the leftmost place of the line
that fits, and where nothing fits it falls back on a default, so all of them answer on every text.

* `nameOfClass`, `nameOfInterface` — the names of types.
* `Method`, `Method.ofLine` — name, return type and parameters of a method.
* `Parameter`, `parameterList` — the parameters in a list.
* `thrownNames` — the pieces of a `throws` clause.
* `nameOfField`, `typeOfField` — the parts of a field.
-/

namespace DocStub.Declaration

open Text (afterGap? isBlank leadingWord? leftmost? lineUntil? skipBlanks tokens trim)

/-- Stands for a name or a type that cannot be found. -/
def unknown : List Char := "Unknown".toList

/-! ## Types -/

/-- The name of the class that a line declares. -/
def nameOfClass (line : List Char) : List Char :=
  ((leftmost? (namedAfter? classKeyword) line).map Prod.fst).getD unknown

/-- The name of the interface that a line declares. -/
def nameOfInterface (line : List Char) : List Char :=
  ((leftmost? (namedAfter? interfaceKeyword) line).map Prod.fst).getD unknown

/-! ## Methods -/

/-- A parameter of a method.  Its type is the last token before the name. -/
structure Parameter where
  type : List Char
  name : List Char
deriving DecidableEq, Repr

/-- The parameter in one segment of a list: its last two tokens.  A shorter segment has none. -/
def Parameter.ofSegment? (segment : List Char) : Option Parameter :=
  match (tokens segment).reverse with
  | name :: type :: _ => some ⟨type, name⟩
  | _ => none

/-- The parameters in the text between two parentheses.  A blank text is not cut at all. -/
def parameterList (t : List Char) : List Parameter :=
  if trim t = [] then [] else (t.splitOn ',').filterMap Parameter.ofSegment?

/-- The return type of a method that returns nothing. -/
def void : List Char := "void".toList

/-- The signature of a method.  The name is empty if there is none, and the type is the word before
the name, `void` for a constructor. -/
structure Method where
  name : List Char := []
  returnType : List Char := void
  parameters : List Parameter := []
deriving DecidableEq, Repr

/-- The front of a method, up to its parenthesis. -/
def methodFront? (t : List Char) : Option TypedName :=
  (typedName? t).filter fun d => d.rest.head? = some '('

/-- The text between a parenthesis at the front and the first closing one, on one line. -/
def parenthesized? : List Char → Option (List Char)
  | '(' :: t => lineUntil? ')' t
  | _ => none

/-- The signature on a line.  A modifier where the return type is expected belongs to a
constructor, which returns nothing. -/
def Method.ofLine (line : List Char) : Method :=
  let inside := (leftmost? parenthesized? line).getD []
  match leftmost? methodFront? line with
  | none => { parameters := parameterList inside }
  | some d =>
    { name := d.name
      returnType := if isModifier d.type then void else d.type
      parameters := parameterList inside }

/-! ## Exceptions -/

/-- The texts that remain when at least one of the blanks at the front is dropped, the shortest
first. -/
def gapRests : List Char → List (List Char)
  | [] => []
  | c :: t => if isBlank c then gapRests t ++ [t] else []

/-- The shortest text, of one character at least, that ends before a brace and the blanks in front
of it, on one line. -/
def untilBrace? : List Char → Option (List Char)
  | [] => none
  | c :: t =>
    if c = '\n' then none
    else if (skipBlanks t).head? = some '{' then some [c]
    else (untilBrace? t).map (c :: ·)

/-- The text between `throws` at the front and the brace that opens the body. -/
def throwsClause? (t : List Char) : Option (List Char) := do
  let t ← "throws".toList.isPrefixOf? t
  (gapRests t).findSome? untilBrace?

/-- The pieces between the commas of a `throws` clause, without the empty ones. -/
def thrownNames (line : List Char) : List (List Char) :=
  match leftmost? throwsClause? line with
  | none => []
  | some clause => ((clause.splitOn ',').map trim).filter fun e => !e.isEmpty

/-! ## Fields -/

/-- The text after the modifiers, the type word and the blanks at its front, or the whole text if
it does not start so. -/
def afterType (t : List Char) : List Char :=
  ((afterModifiers t).findSome? fun t => do
    let (_, t) ← leadingWord? t
    afterGap? t).getD t

/-- Deletes every initializer: an equals sign with the blanks before it and the rest of its line.
While `inside` holds, the text belongs to an initializer until its line ends. -/
def dropInitializers (inside : Bool) : List Char → List Char
  | [] => []
  | c :: t =>
    if inside && c != '\n' then dropInitializers true t
    else if c = '=' then dropInitializers true t
    else if isBlank c && (skipBlanks t).head? == some '=' then dropInitializers false t
    else c :: dropInitializers false t

/-- The name of the field on a line: what is left without modifiers, type, initializer and
semicolons. -/
def nameOfField (line : List Char) : List Char :=
  trim ((dropInitializers false (afterType line)).filter (· != ';'))

/-- The front of a field, up to its initializer or its end. -/
def fieldFront? (t : List Char) : Option TypedName :=
  (typedName? t).filter fun d => d.rest.head? = some '=' ∨ d.rest.head? = some ';'

/-- The type word of the field on a line. -/
def typeOfField (line : List Char) : List Char :=
  ((leftmost? fieldFront? line).map TypedName.type).getD unknown

end DocStub.Declaration

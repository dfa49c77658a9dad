/-!
# Paths

A path is kept as it was spelled, since messages repeat it.  Two spellings can mean the same path:
doubled and trailing slashes and inner dots do not count.  What counts are the components.

* `Path` — a spelling.
* `Path.components` — what the spelling means, and `Path.Same`, agreement in it.
* `Path.isBefore` — the order of paths: a leading dot comes before a double dot, and both come
  before names, which are ordered character by character.
* `Path.fileName?`, `extensionOf?` — the last name and the part after its last dot.
* `Path.join`, `Path.append` — longer paths.
-/

namespace DocStub.Files

/-- A path as it is spelled. -/
structure Path where
  spelling : List Char
deriving DecidableEq, Repr

namespace Path

/-- A part of a path between slashes, or the slash or the dot at its front. -/
inductive Component where
  | root
  | current
  | parent
  | name (n : List Char)
deriving DecidableEq, Repr

/-- The texts between the slashes. -/
def pieces (p : Path) : List (List Char) := p.spelling.splitOn '/'

/-- The component that a piece stands for.  Empty pieces and dots stand for none. -/
def Component.ofPiece? (piece : List Char) : Option Component :=
  if piece = [] ∨ piece = ['.'] then none
  else if piece = ['.', '.'] then some parent
  else some (name piece)

/-- The component at the front that is not a piece like the others. -/
def start? (p : Path) : Option Component :=
  if p.spelling.head? = some '/' then some .root
  else if p.pieces.head? = some ['.'] then some .current
  else none

/-- The components of a path. -/
def components (p : Path) : List Component :=
  p.start?.toList ++ p.pieces.filterMap Component.ofPiece?

/-- Paths are the same when their components are. -/
def Same (p q : Path) : Prop := p.components = q.components

instance (p q : Path) : Decidable (p.Same q) :=
  inferInstanceAs (Decidable (p.components = q.components))

/-! ## Order -/

/-- A component as a list of numbers: the rank of its form and the characters of a name. -/
def Component.key : Component → List Nat
  | root => [0]
  | current => [1]
  | parent => [2]
  | name n => 3 :: n.map Char.toNat

/-- The order key of a path. -/
def key (p : Path) : List (List Nat) := p.components.map Component.key

/-- Whether a path comes before another one.  The first components that differ decide, and a path
comes before those that go on from it. -/
def isBefore (p q : Path) : Bool := List.lex p.key q.key isBeforeIn
where
  /-- The order of the keys of components. -/
  isBeforeIn (a b : List Nat) : Bool := List.lex a b Nat.blt

/-! ## Names -/

/-- The name at the end of a path. -/
def fileName? (p : Path) : Option (List Char) :=
  match p.components.getLast? with
  | some (.name n) => some n
  | _ => none

/-- The part of a name after its last dot.  A dot at the very front does not count. -/
def extensionOf? (name : List Char) : Option (List Char) :=
  match name.reverse.dropWhile (· != '.') with
  | '.' :: _ :: _ => some (name.reverse.takeWhile (· != '.')).reverse
  | _ => none

/-- The path of a name inside a directory. -/
def join (p : Path) (name : List Char) : Path :=
  if p.spelling = [] ∨ p.spelling.getLast? = some '/' then ⟨p.spelling ++ name⟩
  else ⟨p.spelling ++ '/' :: name⟩

/-- The path with more characters at its end. -/
def append (p : Path) (suffix : List Char) : Path := ⟨p.spelling ++ suffix⟩

/-- The directory where relative paths start. -/
def here : Path := ⟨['.']⟩

end Path

end DocStub.Files

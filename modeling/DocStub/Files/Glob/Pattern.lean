import DocStub.Text.Decimal
import DocStub.Text.Search

/-!
# Glob patterns

A pattern describes paths segment by segment.  In a segment a question mark stands for one
character, a star for any text, and brackets for one character of a set, or outside of it after an
exclamation mark.  A segment of two stars stands for any number of directories.

* `Atom`, `Segment`, `Pattern` — a pattern and its parts.
* `Segment.admits` — whether a name fits a segment.
* `Pattern.Fault` — what is wrong with a pattern, and where.
* `Pattern.parse` — reads a pattern.
-/

namespace DocStub.Files.Glob

open Text (anySuffix decimal)

/-! ## Segments -/

/-- The characters from `first` to `last`. -/
structure Span where
  first : Char
  last : Char
deriving DecidableEq, Repr

/-- Whether a character lies in one of the spans. -/
def Span.covers (spans : List Span) (c : Char) : Bool :=
  spans.any fun s => s.first ≤ c ∧ c ≤ s.last

/-- The spans that a set of characters consists of: three characters with a hyphen in the middle
are a span, any other character stands for itself. -/
def Span.ofSet : List Char → List Span
  | a :: '-' :: b :: t => ⟨a, b⟩ :: ofSet t
  | a :: t => ⟨a, a⟩ :: ofSet t
  | [] => []

/-- A part of a segment: a character, any character, any text, or a character in one of the spans or
in none of them. -/
inductive Atom where
  | char (c : Char)
  | anyChar
  | anyText
  | oneOf (spans : List Span)
  | noneOf (spans : List Span)
deriving DecidableEq, Repr

/-- Whether an atom that stands for a single character stands for `c`. -/
def Atom.admits (a : Atom) (c : Char) : Bool :=
  match a with
  | char d => d == c
  | anyChar => true
  | anyText => false
  | oneOf spans => Span.covers spans c
  | noneOf spans => !Span.covers spans c

/-- Whether a name consists of texts that the atoms stand for, in their order. -/
def Atom.admitAll : List Atom → List Char → Bool
  | [], name => name.isEmpty
  | anyText :: as, name => anySuffix (admitAll as) name
  | a :: as, name =>
    match name with
    | [] => false
    | c :: name => a.admits c && admitAll as name

/-- The text that some atoms spell out, if all of them are characters. -/
def Atom.literal? (as : List Atom) : Option (List Char) :=
  as.mapM fun | char c => some c | _ => none

/-- What a pattern asks of one part of a path: any number of directories, or a name. -/
inductive Segment where
  | directories
  | name (atoms : List Atom)
deriving DecidableEq, Repr

/-! ## Reading a pattern -/

/-- What is wrong with a pattern: more than two stars in a row, two stars next to something else
than a slash, or a set of characters that does not end.  Positions count
characters from the front. -/
inductive Fault where
  | tooManyStars (position : Nat)
  | misplacedStars (position : Nat)
  | unclosedSet (position : Nat)
deriving DecidableEq, Repr

/-- The message about a fault. -/
def Fault.message (f : Fault) : List Char :=
  let (position, cause) : Nat × String :=
    match f with
    | tooManyStars p => (p, "wildcards are either regular `*` or recursive `**`")
    | misplacedStars p => (p, "recursive wildcards must form a single path component")
    | unclosedSet p => (p, "invalid range pattern")
  "Pattern syntax error near position ".toList ++ decimal position ++ ": ".toList ++ cause.toList

/-- A part of a pattern as it is read: an atom, or two stars. -/
inductive Token where
  | atom (a : Atom)
  | directories
deriving DecidableEq, Repr

/-- Reads a set of characters after its opening bracket: the atom, and the number of characters
up to the closing bracket and with it.  The first member never closes the set. -/
def readSet? : List Char → Option (Atom × Nat)
  | '!' :: a :: t =>
    let more := t.takeWhile (· != ']')
    if ']' ∈ t then some (.noneOf (Span.ofSet (a :: more)), more.length + 3) else none
  | a :: t =>
    let more := t.takeWhile (· != ']')
    if ']' ∈ t then some (.oneOf (Span.ofSet (a :: more)), more.length + 2) else none
  | [] => none

/-- Reads the part of a pattern that starts at `position`.  Two stars stand for directories only
where `isStart` holds, at the front or after a slash, and take the slash behind them along. -/
def scan (position : Nat) (isStart : Bool) : List Char → Except Fault (List Token)
  | [] => .ok []
  | '?' :: t => (.atom .anyChar :: ·) <$> scan (position + 1) false t
  | '[' :: t =>
    match readSet? t with
    | none => .error (.unclosedSet position)
    | some (set, n) => (.atom set :: ·) <$> scan (position + 1 + n) false (t.drop n)
  | ['*', '*'] => if isStart then .ok [.directories] else .error (.misplacedStars (position - 1))
  | '*' :: '*' :: '*' :: _ => .error (.tooManyStars (position + 2))
  | '*' :: '*' :: c :: t =>
    if !isStart then .error (.misplacedStars (position - 1))
    else if c = '/' then (.directories :: ·) <$> scan (position + 3) true t
    else .error (.misplacedStars (position + 2))
  | '*' :: t => (.atom .anyText :: ·) <$> scan (position + 1) false t
  | c :: t => (.atom (.char c) :: ·) <$> scan (position + 1) (c == '/') t
termination_by t => t.length

/-- The segment that some tokens make up. -/
def Segment.ofTokens (ts : List Token) : Segment :=
  if .directories ∈ ts then .directories
  else .name (ts.filterMap fun | .atom a => some a | .directories => none)

/-- A pattern for paths: what it asks of the parts of a path, whether it starts at the root of all
files, and whether it describes directories only. -/
structure Pattern where
  segments : List Segment
  isAbsolute : Bool
  wantsDirectory : Bool
deriving DecidableEq, Repr

/-- The texts between the slashes of a pattern, without the empty one after a slash at the end. -/
def Pattern.pieces (t : List Char) : List (List Char) :=
  let pieces := t.splitOn '/'
  if pieces.getLast? = some [] then pieces.dropLast else pieces

/-- Reads a pattern.  It is read as a whole first and then piece by piece, since a set of
characters may not reach over a slash. -/
def Pattern.parse (t : List Char) : Except Fault Pattern := do
  let _ ← scan 0 true t
  let tokens ← (pieces t).mapM (scan 0 true)
  return ⟨tokens.map Segment.ofTokens, t.head? = some '/', t.getLast? = some '/'⟩

end DocStub.Files.Glob

import DocStub.Regex.Escape

/-!
# Bracketed classes

A class lists characters, ranges, named sets and other classes between brackets.  Lists may be met,
subtracted, and so on: the operations have no precedence and group to the left.

* `asciiClass?` — a set of ASCII characters that is named between colons.
* `Listing` — the members so far.
* `bracket` — reads a class.
-/

namespace DocStub.Regex

open Text (CharSet)

/-- The sets of ASCII characters by their names. -/
def asciiSets : List (String × List (Nat × Nat)) :=
  [("alnum", [(0x30, 0x39), (0x41, 0x5A), (0x61, 0x7A)]), ("alpha", [(0x41, 0x5A), (0x61, 0x7A)]),
    ("ascii", [(0x00, 0x7F)]), ("blank", [(0x09, 0x09), (0x20, 0x20)]),
    ("cntrl", [(0x00, 0x1F), (0x7F, 0x7F)]), ("digit", [(0x30, 0x39)]), ("graph", [(0x21, 0x7E)]),
    ("lower", [(0x61, 0x7A)]), ("print", [(0x20, 0x7E)]),
    ("punct", [(0x21, 0x2F), (0x3A, 0x40), (0x5B, 0x60), (0x7B, 0x7E)]),
    ("space", [(0x09, 0x0D), (0x20, 0x20)]), ("upper", [(0x41, 0x5A)]),
    ("word", [(0x30, 0x39), (0x41, 0x5A), (0x5F, 0x5F), (0x61, 0x7A)]),
    ("xdigit", [(0x30, 0x39), (0x41, 0x46), (0x61, 0x66)])]

/-- A set such as `[:alpha:]` at the front of a text: whether the characters outside of it are
meant, the set, and the rest. -/
def asciiClass? (t : List Char) : Option (Bool × CharSet × List Char) :=
  let named (isNegated : Bool) (t : List Char) : Option (Bool × CharSet × List Char) :=
    let name := t.takeWhile (· != ':')
    match t.drop name.length with
    | ':' :: ']' :: rest =>
      (asciiSets.find? fun entry => entry.1.toList == name).map fun entry =>
        (isNegated, .ranges entry.2, rest)
    | _ => none
  match t with
  | '[' :: ':' :: '^' :: t => named true t
  | '[' :: ':' :: t => named false t
  | _ => none

/-- The members of a class so far, in their order. -/
structure Listing where
  span : Span
  parts : List Members := []

namespace Listing

/-- Adds a member. -/
def push (l : Listing) (m : Members) : Listing :=
  { span := ⟨if l.parts.isEmpty then m.span.start else l.span.start, m.span.stop⟩
    parts := l.parts ++ [m] }

/-- The members as one. -/
def finish (l : Listing) : Members :=
  match l.parts with
  | [] => .none l.span
  | [m] => m
  | parts => .union l.span parts

end Listing

/-- The operation of two equal signs, which is written with one of them twice. -/
def operation? : Char → Option SetOperation
  | '&' => some .inter
  | '-' => some .diff
  | '~' => some .symmDiff
  | _ => none

/-- What is done with the members before an operation and those behind it. -/
def combine (before? : Option (SetOperation × Members)) (m : Members) : Members :=
  match before? with
  | none => m
  | some (o, before) => .operation ⟨before.span.start, m.span.stop⟩ o before m

/-- An atom as a member of a class. -/
def asMember : Atom → Scan Members
  | .literal l => return .literal l
  | .named n => return .named n
  | .dot s | .sign s _ => fault .escapeInClass s

/-- An atom as an end of a range. -/
def asBoundary : Atom → Scan Literal
  | .literal l => return l
  | a => fault .classRangeBoundary a.span

/-- Reads one character or escape of a class.  The cursor is at `c`. -/
def classAtom (c : Char) : Scan Atom := do
  if c = '\\' then escape
  else
    let span ← hereChar
    bump
    return .literal ⟨span, c, false⟩

/-- Reads a member of a class or a range.  The cursor is at `c`, and the class starts with
`opening`. -/
def member (opening : Span) (c : Char) : Scan Members := do
  let first ← classAtom c
  skipSpace
  match ← peek? with
  | none => fault .classUnclosed opening
  | some d =>
    let second? := (← get).second?
    if d ≠ '-' ∨ second? = some ']' ∨ second? = some '-' then asMember first
    else
      match ← step? with
      | none => fault .classUnclosed opening
      | some e =>
        let last ← classAtom e
        let first ← asBoundary first
        let last ← asBoundary last
        if last.char < first.char then
          fault .classRangeOrder ⟨first.span.start, last.span.stop⟩
        return .range first last

/-- Reads the dashes at the front of a class, which stand for themselves.  `fuel` is at least their
number, and the class starts at `start`. -/
def leadingDashes (start : Nat) : Nat → Listing → Scan Listing
  | 0, l => return l
  | fuel + 1, l => do
    if (← peek?) = some '-' then
      let l := l.push (.literal ⟨(← hereChar), '-', false⟩)
      if (← step?).isNone then fault .classUnclosed ⟨start, start⟩
      leadingDashes start fuel l
    else return l

/-- Reads the front of a class: the bracket, a caret, and the characters that stand for themselves
only there.  Says whether there is a caret. -/
def classOpening : Scan (Bool × Listing) := do
  let start ← place
  let isNegated := (← step?) == some '^'
  if (← peek?).isNone then fault .classUnclosed (← since start)
  if isNegated then
    if (← step?).isNone then fault .classUnclosed (← since start)
  let l ← leadingDashes start (← get).rest.length ⟨(← here), []⟩
  if l.parts.isEmpty && (← peek?) == some ']' then
    let l := l.push (.literal ⟨(← hereChar), ']', false⟩)
    if (← step?).isNone then fault .classUnclosed (← since start)
    return (isNegated, l)
  else return (isNegated, l)

mutual

/-- Reads a class.  The cursor is at its bracket.  `fuel` is more than twice the number of
characters that are not read. -/
def bracketUpTo (fuel : Nat) : Scan (Span × Bool × Members) := do
  match fuel with
  | 0 => fault .classUnclosed (← hereChar)
  | fuel + 1 =>
    let start ← place
    let (isNegated, l) ← classOpening
    let ms ← members fuel (← since start) none l
    bump
    return ((← since start), isNegated, ms)

/-- Reads the members of a class up to its closing bracket.  The class starts with `opening`,
`before?` holds what is before the last operation, and `l` the members behind it.  `fuel` is more
than twice the number of characters that are not read, and one more at a bracket. -/
def members (fuel : Nat) (opening : Span) (before? : Option (SetOperation × Members))
    (l : Listing) : Scan Members := do
  match fuel with
  | 0 => fault .classUnclosed opening
  | fuel + 1 =>
    skipSpace
    match ← peek? with
    | none => fault .classUnclosed opening
    | some ']' => return combine before? l.finish
    | some '[' =>
      let k ← get
      match asciiClass? k.rest with
      | some (isNegated, chars, rest) =>
        set (k.moveTo rest)
        members fuel opening before? (l.push (.ascii (← since k.place) chars isNegated))
      | none =>
        let (span, isNegated, ms) ← bracketUpTo fuel
        members fuel opening before? (l.push (.bracketed span isNegated ms))
    | some c =>
      match operation? c, (← get).rest.tail.head? == some c with
      | some o, true =>
        bump
        bump
        members fuel opening (some (o, combine before? l.finish)) ⟨(← here), []⟩
      | _, _ => members fuel opening before? (l.push (← member opening c))

end

/-- Reads a class.  The cursor is at its bracket. -/
def bracket : Scan (Span × Bool × Members) := do
  bracketUpTo (2 * (← get).rest.length + 1)

end DocStub.Regex

import DocStub.Regex.Fault
import DocStub.Text.Property.Lookup

/-!
# Patterns as they are written

The parts of a pattern with their places, before anything is said about what they match.

* `Atom` — a part that matches at most one character.
* `Members` — what a bracketed class lists.
* `Tree` — a pattern.
* `Tree.tooDeep?` — the first part that is nested too deeply.
-/

namespace DocStub.Regex

open Text (CharSet)

/-- A switch that changes the meaning of what follows it.  With `i` letter case does not matter,
with `m` the anchors of a text also match at the ends of its lines, with `s` the dot matches a line
feed too, with `U` repetitions are short where that matters, with `u` characters are those of
Unicode, with `R` a carriage return belongs to the end of a line, and with `x` blanks and remarks
mean nothing. -/
inductive Flag where
  | anyCase
  | lines
  | dotAll
  | short
  | unicode
  | returns
  | spaced
deriving DecidableEq, Repr

/-- Flags, each with whether it is turned on. -/
abbrev Settings := List (Flag × Bool)

/-- Whether the settings turn a flag on or off. -/
def Settings.of? (s : Settings) (f : Flag) : Option Bool :=
  (s.find? fun entry => entry.1 == f).map Prod.snd

/-- A character that stands for itself, as it is or as the two digits of a byte. -/
structure Literal where
  span : Span
  char : Char
  isByte : Bool := false
deriving DecidableEq, Repr

/-- What is asked of a place in a text, as it is written.  What `^` and `$` ask depends on the
flags. -/
inductive Sign where
  | caret
  | dollar
  | textStart
  | textEnd
  | wordBoundary
  | noWordBoundary
  | wordStart
  | wordEnd
  | wordStartHalf
  | wordEndHalf
deriving DecidableEq, Repr

/-- The description of a set of characters by a name. -/
inductive SetName where
  | digit
  | space
  | word
  | property (q : Text.Property.Query)
deriving DecidableEq, Repr

/-- A set of characters that is given by a name, or the characters outside of it. -/
structure NamedSet where
  span : Span
  name : SetName
  isNegated : Bool
deriving DecidableEq, Repr

/-- A part of a pattern that matches at most one character. -/
inductive Atom where
  | literal (l : Literal)
  | dot (span : Span)
  | sign (span : Span) (s : Sign)
  | named (n : NamedSet)
deriving DecidableEq, Repr

/-- Where an atom is written. -/
def Atom.span : Atom → Span
  | literal l => l.span
  | dot s | sign s _ => s
  | named n => n.span

/-- What is done with two sets of characters: `&&`, `--` or `~~`. -/
inductive SetOperation where
  | inter
  | diff
  | symmDiff
deriving DecidableEq, Repr

/-- What a bracketed class lists.  The set of `ascii` is named between colons. -/
inductive Members where
  | none (span : Span)
  | literal (l : Literal)
  | range (first last : Literal)
  | ascii (span : Span) (set : CharSet) (isNegated : Bool)
  | named (n : NamedSet)
  | bracketed (span : Span) (isNegated : Bool) (ms : Members)
  | union (span : Span) (parts : List Members)
  | operation (span : Span) (o : SetOperation) (a b : Members)

/-- Where a part of a class is written. -/
def Members.span : Members → Span
  | none s | ascii s _ _ | bracketed s _ _ | union s _ | operation s _ _ _ => s
  | literal l => l.span
  | range first last => ⟨first.span.start, last.span.stop⟩
  | named n => n.span

/-- A pattern.  Flags are for what follows in the same group. -/
inductive Tree where
  | empty
  | flags (s : Settings)
  | atom (a : Atom)
  | bracketed (span : Span) (isNegated : Bool) (ms : Members)
  | repeated (span : Span) (least : Nat) (most? : Option Nat) (t : Tree)
  | group (span : Span) (s : Settings) (t : Tree)
  | choice (span : Span) (ts : List Tree)
  | sequence (span : Span) (ts : List Tree)

/-- Where a part that can be repeated starts. -/
def Tree.start : Tree → Nat
  | empty | flags _ => 0
  | atom a => a.span.start
  | bracketed s _ _ | repeated s _ _ _ | group s _ _ | choice s _ | sequence s _ => s.start

/-- The first part of a class that is nested too deeply, when `depth` levels are around it. -/
def Members.tooDeep? (depth : Nat) : Members → Option Span
  | none _ | literal _ | range _ _ | ascii _ _ _ | named _ => Option.none
  | bracketed s _ ms => if nestLimit ≤ depth then some s else ms.tooDeep? (depth + 1)
  | union s parts => if nestLimit ≤ depth then some s else go parts
  | operation s _ a b =>
    if nestLimit ≤ depth then some s else (a.tooDeep? (depth + 1)).or (b.tooDeep? (depth + 1))
where
  /-- The first of several parts that is nested too deeply. -/
  go : List Members → Option Span
    | [] => Option.none
    | m :: ms => (m.tooDeep? (depth + 1)).or (go ms)

/-- The first part of a pattern that is nested too deeply, when `depth` levels are around it. -/
def Tree.tooDeep? (depth : Nat) : Tree → Option Span
  | empty | flags _ | atom _ => none
  | bracketed s _ ms => if nestLimit ≤ depth then some s else ms.tooDeep? (depth + 1)
  | repeated s _ _ t | group s _ t => if nestLimit ≤ depth then some s else t.tooDeep? (depth + 1)
  | choice s ts | sequence s ts => if nestLimit ≤ depth then some s else go ts
where
  /-- The first of several parts that is nested too deeply. -/
  go : List Tree → Option Span
    | [] => none
    | t :: ts => (t.tooDeep? (depth + 1)).or (go ts)

end DocStub.Regex

import DocStub.Regex.Fault
import DocStub.Text.Blank

/-!
# Reading a pattern

A pattern is read from left to right.  Where the flag for it is on, blanks and remarks between the
parts are passed over; a remark runs from a number sign to the end of its line.

* `Cursor` — how far a pattern is read.
* `Scan` — a step of reading, which may find a fault.
* `peek?`, `bump`, `step?` — the next character, going past it, and the one behind it.
* `takeSpaced` — the characters from here on that satisfy a condition.
-/

namespace DocStub.Regex

open Text (isBlank skipBlanks)

/-- How far a pattern is read: the number of characters that are read, and those that are not.  In a
spaced pattern blanks and remarks mean nothing.  Groups have been given some names so far, at some
places. -/
structure Cursor where
  place : Nat
  rest : List Char
  isSpaced : Bool := false
  names : List (List Char × Span) := []
deriving DecidableEq, Repr

/-- A step of reading. -/
abbrev Scan := StateT Cursor (Except Fault)

/-- The text behind the blanks and remarks at its front.  It may start inside a remark. -/
def afterSpace (isRemark : Bool) : List Char → List Char
  | [] => []
  | c :: t =>
    if isRemark then afterSpace (c != '\n') t
    else if c = '#' then afterSpace true t
    else if isBlank c then afterSpace false t
    else c :: t

namespace Cursor

/-- The cursor at a later place, where `rest` is not read. -/
def moveTo (k : Cursor) (rest : List Char) : Cursor :=
  { k with place := k.place + (k.rest.length - rest.length), rest }

/-- The cursor behind blanks and remarks, if they mean nothing. -/
def skipSpace (k : Cursor) : Cursor := if k.isSpaced then k.moveTo (afterSpace false k.rest) else k

/-- The character behind the next one and the space there, if space means nothing.  Of a remark,
only the number sign is passed over. -/
def second? (k : Cursor) : Option Char :=
  let t := k.rest.tail
  if !k.isSpaced then t.head?
  else
    match skipBlanks t with
    | [] => t.head?
    | '#' :: u => (skipBlanks u).head?.or t.head?
    | c :: _ => some c

end Cursor

/-- Ends the reading with a fault. -/
def fault {α : Type} (cause : Cause) (span : Span) : Scan α := throw ⟨cause, span, none⟩

/-- The number of characters that are read. -/
def place : Scan Nat := return (← get).place

/-- The empty stretch at the cursor. -/
def here : Scan Span := return ⟨(← place), (← place)⟩

/-- The stretch of the next character. -/
def hereChar : Scan Span := return ⟨(← place), (← place) + 1⟩

/-- The stretch from an earlier place to the cursor. -/
def since (start : Nat) : Scan Span := return ⟨start, (← place)⟩

/-- The next character. -/
def peek? : Scan (Option Char) := return (← get).rest.head?

/-- Goes past the next character. -/
def bump : Scan Unit := modify fun k => k.moveTo k.rest.tail

/-- Goes past the blanks and remarks here, if they mean nothing. -/
def skipSpace : Scan Unit := modify Cursor.skipSpace

/-- Goes past the next character and the space behind it, and gives the character there. -/
def step? : Scan (Option Char) := do
  bump
  skipSpace
  peek?

/-- Whether `t` follows; the cursor goes past it. -/
def accept (t : String) : Scan Bool := do
  let k ← get
  if t.toList.isPrefixOf k.rest then
    set (k.moveTo (k.rest.drop t.length))
    return true
  else return false

/-- Reads the characters from here on that satisfy `p`, and the space between them.  `fuel` is at
least their number. -/
def takeSpacedUpTo (p : Char → Bool) : Nat → Scan (List Char)
  | 0 => return []
  | fuel + 1 => do
    match ← peek? with
    | none => return []
    | some c =>
      if p c then
        let _ ← step?
        return c :: (← takeSpacedUpTo p fuel)
      else return []

/-- Reads the characters from here on that satisfy `p`, and the space between them. -/
def takeSpaced (p : Char → Bool) : Scan (List Char) := do
  takeSpacedUpTo p (← get).rest.length

end DocStub.Regex

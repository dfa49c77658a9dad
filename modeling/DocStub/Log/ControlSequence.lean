/-!
# Control sequences

A log may repeat text that a terminal would obey instead of showing: colours, window titles, cursor
movements, bells.  What is written to the log is what a terminal shows.

* `Mode` — where a text stands with respect to the sequences in it.
* `Mode.after` — how a character changes that.
* `Mode.shows` — whether a character is shown after something was hidden.
* `shown` — the part of a text that is shown.

Once a character is shown, those behind it are shown too, up to the next control character.
-/

namespace DocStub.Log

/-- Where a text stands with respect to control sequences.  An escape character starts a short
sequence, a control sequence that a letter ends, a device command, a hidden text that a string
terminator ends, or an operating system command that a bell ends. -/
inductive Mode where
  | plain
  | escape
  | escapeTail
  | control
  | device
  | deviceParameters
  | deviceTail
  | hiddenText
  | systemCommand
deriving DecidableEq, Repr

/-- Whether the code point of a character lies in a closed range. -/
def within (first last : Nat) (c : Char) : Bool := first ≤ c.toNat && c.toNat ≤ last

/-- Whether the encoding of a character contains the byte `0x9C`, the string terminator. -/
def holdsTerminator (c : Char) : Bool := (0x9C : UInt8) ∈ (String.singleton c).toUTF8.data

namespace Mode

/-- The mode behind an escape character and one more character. -/
def afterEscape (c : Char) : Mode :=
  if within 0x20 0x2F c then escapeTail
  else if c = '[' then control
  else if c = ']' then systemCommand
  else if c = 'P' then device
  else if c = 'X' ∨ c = '^' ∨ c = '_' then hiddenText
  else if within 0x30 0x7E c then plain
  else escape

/-- The mode after one more character.  Two control characters end every sequence, and an escape
character starts a new one. -/
def after (m : Mode) (c : Char) : Mode :=
  if c = '\x18' ∨ c = '\x1A' then plain
  else if c = '\x1B' then escape
  else
    match m with
    | plain => plain
    | escape => afterEscape c
    | escapeTail => if within 0x30 0x7E c then plain else escapeTail
    | control => if within 0x40 0x7E c then plain else control
    | device =>
      if within 0x20 0x2F c then deviceTail
      else if within 0x30 0x3F c then deviceParameters
      else if within 0x40 0x7E c then hiddenText
      else device
    | deviceParameters =>
      if within 0x20 0x2F c then deviceTail
      else if within 0x3C 0x7E c then hiddenText
      else deviceParameters
    | deviceTail => if within 0x30 0x7E c then hiddenText else deviceTail
    | hiddenText => if holdsTerminator c then plain else hiddenText
    | systemCommand => if c = '\x07' then plain else systemCommand

/-- Whether a character moves on to another place in the text, as a line feed does. -/
def movesOn (c : Char) : Bool := c = '\t' || c = '\n' || c = '\x0C' || c = '\r'

/-- Whether a character is shown outside of all sequences. -/
def showsPlain (c : Char) : Bool := movesOn c || (0x20 ≤ c.toNat && c != '\x7F')

/-- Whether a character is shown after something was hidden.  Inside a short sequence, only white
space is. -/
def shows (m : Mode) (c : Char) : Bool :=
  match m with
  | plain => showsPlain c
  | escape | escapeTail | control => movesOn c
  | _ => false

end Mode

/-- The part of a text that is shown, in the mode `m`, where `isShowing` says whether the character
before it was shown.  A character beyond ASCII that is shown ends all sequences. -/
def shownFrom (m : Mode) (isShowing : Bool) : List Char → List Char
  | [] => []
  | c :: t =>
    if (isShowing && Mode.showsPlain c) || m.shows c then
      c :: shownFrom (if 0x80 ≤ c.toNat then .plain else m) true t
    else shownFrom (m.after c) false t

/-- The part of a text that is shown. -/
def shown (t : List Char) : List Char := shownFrom .plain false t

end DocStub.Log

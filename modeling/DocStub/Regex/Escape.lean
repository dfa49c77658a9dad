import DocStub.Regex.Cursor
import DocStub.Regex.Tree

/-!
# Escapes

A backslash takes the meaning from a character, or gives it one: a character by its number, a named
set of characters, a control character, or what is asked of a place.

* `escape` — reads an escape.
* `atom` — reads a part that matches at most one character.
-/

namespace DocStub.Regex

open Text (hexDigit? hexNumber)

/-- The characters with a meaning of their own, in or out of a class. -/
def metaCharacters : List Char := "\\.+*?()|[]\x7b\x7d^$#&-~".toList

/-- Whether a backslash makes a character stand for itself: any ASCII character may be written so,
except letters, digits and angle brackets. -/
def isEscapable (c : Char) : Bool :=
  metaCharacters.contains c || (c.toNat < 0x80 && !c.isAlphanum && c != '<' && c != '>')

/-- The character of a code point. -/
def character? (n : Nat) : Option Char := if n.isValidChar then some (Char.ofNat n) else none

/-- Reads `n` hexadecimal digits. -/
def fixedDigits : Nat → Scan (List Char)
  | 0 => return []
  | n + 1 => do
    match ← peek? with
    | none => fault .escapeUnfinished (← here)
    | some c =>
      if (hexDigit? c).isNone then fault .hexDigit (← hereChar)
      let _ ← step?
      return c :: (← fixedDigits n)

/-- Reads a character by its number: `n` digits, or any number of them in braces.  The cursor is at
the letter of the escape, which starts at `start`. -/
def numberedCharacter (start n : Nat) : Scan Literal := do
  match ← step? with
  | none => fault .escapeUnfinished (← here)
  | some '\x7b' =>
    let brace ← place
    let _ ← step?
    let digits ← takeSpaced fun c => (hexDigit? c).isSome
    match ← peek? with
    | none => fault .escapeUnfinished (← since brace)
    | some '\x7d' =>
      let stop ← place
      let _ ← step?
      if digits.isEmpty then fault .hexEmpty (← since brace)
      match character? (hexNumber digits) with
      | some c => return ⟨(← since start), c, false⟩
      | none => fault .hexNoCharacter ⟨brace + 1, stop⟩
    | some _ => fault .hexDigit (← hereChar)
  | some _ =>
    let first ← place
    let digits ← fixedDigits n
    match character? (hexNumber digits) with
    | some c => return ⟨(← since start), c, n == 2⟩
    | none => fault .hexNoCharacter (← since first)

/-- The parts of a text before and behind the first occurrence of `mark`. -/
def splitAt? (mark : List Char) : List Char → Option (List Char × List Char)
  | [] => none
  | c :: t =>
    if mark.isPrefixOf (c :: t) then some ([], (c :: t).drop mark.length)
    else (splitAt? mark t).map fun (a, b) => (c :: a, b)

/-- What a text in braces asks for, and whether the characters outside of it are meant. -/
def readQuery (t : List Char) : Text.Property.Query × Bool :=
  match splitAt? ['!', '='] t with
  | some (p, v) => (.value p v, true)
  | none =>
    match (splitAt? [':'] t).or (splitAt? ['='] t) with
    | some (p, v) => (.value p v, false)
    | none => (.name t, false)

/-- Reads a set of characters by a property.  The cursor is at the letter of the escape, which
starts at `start`. -/
def propertySet (start : Nat) (isNegated : Bool) : Scan NamedSet := do
  match ← step? with
  | none => fault .escapeUnfinished (← here)
  | some '\x7b' =>
    let _ ← step?
    let name ← takeSpaced (· != '\x7d')
    if (← peek?).isNone then fault .escapeUnfinished (← here)
    bump
    let (query, isUnequal) := readQuery name
    return ⟨(← since start), .property query, isNegated != isUnequal⟩
  | some c =>
    if c = '\\' then fault .propertyEscape (← hereChar)
    let _ ← step?
    return ⟨(← since start), .property (.name [c]), isNegated⟩

/-- The signs for the ends of a word, by the names that they have in braces. -/
def boundarySigns : List (String × Sign) :=
  [("start", .wordStart), ("end", .wordEnd), ("start-half", .wordStartHalf),
    ("end-half", .wordEndHalf)]

/-- Reads the kind of a word boundary in braces.  The cursor is at the brace, and the escape starts
at `start`.  What cannot be the name of a kind is left to be read as a count. -/
def boundaryKind? (start : Nat) : Scan (Option Sign) := do
  let isOfName (c : Char) : Bool := c.isAlpha || c == '-'
  let before ← get
  match ← step? with
  | none => fault .boundaryUnfinished (← since start)
  | some c =>
    if !isOfName c then
      set before
      return none
    else
      let nameStart ← place
      let name ← takeSpaced isOfName
      if (← peek?) != some '\x7d' then fault .boundaryUnclosed (← since before.place)
      let nameSpan ← since nameStart
      bump
      match boundarySigns.find? fun entry => entry.1.toList == name with
      | some (_, sign) => return some sign
      | none => fault .boundaryUnknown nameSpan

/-- The character that a letter behind a backslash stands for. -/
def controlCharacter? : Char → Option Char
  | 'a' => some '\x07'
  | 'f' => some '\x0C'
  | 't' => some '\t'
  | 'n' => some '\n'
  | 'r' => some '\r'
  | 'v' => some '\x0B'
  | _ => none

/-- What a character behind a backslash asks of a place. -/
def placeSign? : Char → Option Sign
  | 'A' => some .textStart
  | 'z' => some .textEnd
  | 'B' => some .noWordBoundary
  | '<' => some .wordStart
  | '>' => some .wordEnd
  | _ => none

/-- The set that a letter behind a backslash names, and whether the characters outside of it are
meant. -/
def shorthand? : Char → Option (SetName × Bool)
  | 'd' => some (.digit, false)
  | 'D' => some (.digit, true)
  | 's' => some (.space, false)
  | 'S' => some (.space, true)
  | 'w' => some (.word, false)
  | 'W' => some (.word, true)
  | _ => none

/-- The number of digits that follow a letter behind a backslash. -/
def digitCount? : Char → Option Nat
  | 'x' => some 2
  | 'u' => some 4
  | 'U' => some 8
  | _ => none

/-- Reads an escape.  The cursor is at the backslash. -/
def escape : Scan Atom := do
  let start ← place
  bump
  match ← peek? with
  | none => fault .escapeUnfinished (← since start)
  | some c =>
    if c.isDigit then fault .backreference ⟨start, (← place) + 1⟩
    else if c = 'p' ∨ c = 'P' then return .named (← propertySet start (c == 'P'))
    else
      match digitCount? c with
      | some n => return .literal (← numberedCharacter start n)
      | none =>
        bump
        let span ← since start
        match shorthand? c, controlCharacter? c, placeSign? c with
        | some (name, isNegated), _, _ => return .named ⟨span, name, isNegated⟩
        | none, some d, _ => return .literal ⟨span, d, false⟩
        | none, none, some sign => return .sign span sign
        | none, none, none =>
          if isEscapable c then return .literal ⟨span, c, false⟩
          else if c = 'b' then
            let kind? ← if (← peek?) = some '\x7b' then boundaryKind? start else pure none
            return .sign (← since start) (kind?.getD .wordBoundary)
          else fault .escapeUnknown span

/-- Reads a part that matches at most one character.  The cursor is at `c`. -/
def atom (c : Char) : Scan Atom := do
  if c = '\\' then escape
  else
    let span ← hereChar
    bump
    match c with
    | '.' => return .dot span
    | '^' => return .sign span .caret
    | '$' => return .sign span .dollar
    | _ => return .literal ⟨span, c, false⟩

end DocStub.Regex

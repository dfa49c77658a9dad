import DocStub.Regex.Bracket

/-!
# Reading a whole pattern

Groups, choices and repetitions, over the parts that match at most one character.

* `readFlags` — the flags of a group.
* `opening` — what a parenthesis opens.
* `Draft` — a group whose end is not read.
* `body` — reads a group up to its end.
* `Tree.ofPattern` — the parts of a pattern, or its fault.
-/

namespace DocStub.Regex

open Text (CharSet isBlank skipBlanks)
open Text.Property (alphabetic categoriesOf codes)

/-- The flag of a letter. -/
def flagOf? : Char → Option Flag
  | 'i' => some .anyCase
  | 'm' => some .lines
  | 's' => some .dotAll
  | 'U' => some .short
  | 'u' => some .unicode
  | 'R' => some .returns
  | 'x' => some .spaced
  | _ => none

/-- What the letters of flags mean together: those behind a minus sign, which is `none`, are turned
off. -/
def settings (isOn : Bool) : List (Option Flag) → Settings
  | [] => []
  | none :: fs => settings false fs
  | some f :: fs => (f, isOn) :: settings isOn fs

/-- Reads flags up to a colon or a parenthesis, which is left.  `seen` holds the flags and minus
signs so far with their places, the last of them first. -/
def readFlags (place : Nat) (seen : List (Option Flag × Nat)) :
    List Char → Except Fault (Settings × List Char)
  | [] => .error ⟨.flagsUnfinished, ⟨place, place⟩, none⟩
  | c :: t =>
    if c = ':' ∨ c = ')' then
      match seen with
      | (none, p) :: _ => .error ⟨.negationDangling, ⟨p, p + 1⟩, none⟩
      | _ => .ok (settings true (seen.reverse.map Prod.fst), c :: t)
    else if c ≠ '-' ∧ flagOf? c = none then .error ⟨.flagUnknown, ⟨place, place + 1⟩, none⟩
    else
      match seen.find? fun entry => entry.1 == flagOf? c with
      | some (f?, p) =>
        let cause := if f? = none then .negationRepeated else .flagRepeated
        .error ⟨cause, ⟨place, place + 1⟩, some ⟨p, p + 1⟩⟩
      | none => readFlags (place + 1) ((flagOf? c, place) :: seen) t

/-- Letters: those of the tables, and those that version 17.0 of the Unicode standard adds. -/
def nameLetters : CharSet :=
  .union alphabetic
    (codes "88F C5C CDC A7CE-A7CF A7D2 A7D4 A7F1 10940-10959 10EC5-10EC7 10EFA-10EFB 11B60-11B67
      11DB0-11DDB 16EA0-16EB8 16EBB-16ED3 16FF2-16FF6 187F8-187FF 18D09-18D1E 18D80-18DF2
      1E6C0-1E6DE 1E6E0-1E6F5 1E6FE-1E6FF 2B73A-2B73F 2CEA2-2CEAD 323B0-33479")

/-- Digits and other numbers: those of the tables, and those that version 17.0 adds. -/
def nameNumbers : CharSet :=
  .union (categoriesOf ["nd", "nl", "no"]) (codes "11DE0-11DE9 16FF4-16FF6")

/-- Whether a character may stand in the name of a group, perhaps as its first. -/
def isNameCharacter (isFirst : Bool) (c : Char) : Bool :=
  c == '_' || nameLetters.has c.toNat ||
    (!isFirst && (c ∈ ['.', '[', ']'] || nameNumbers.has c.toNat))

/-- Reads the name of a group, up to an angle bracket. -/
def groupName : Scan Unit := do
  let k ← get
  let name := k.rest.takeWhile (· != '>')
  let good := name.takeWhile (isNameCharacter false)
  if name = [] ∧ k.rest ≠ [] then fault .nameEmpty ⟨k.place, k.place⟩
  if !(name.head?.all (isNameCharacter true)) then fault .nameCharacter ⟨k.place, k.place + 1⟩
  let span : Span := ⟨k.place, k.place + name.length⟩
  if good ≠ name then
    fault .nameCharacter ⟨k.place + good.length, k.place + good.length + 1⟩
  if name = k.rest then fault .nameUnfinished ⟨span.stop, span.stop⟩
  match k.names.find? fun entry => entry.1 == name with
  | some (_, earlier) => throw ⟨.nameRepeated, span, some earlier⟩
  | none =>
    set { k.moveTo (k.rest.drop (name.length + 1)) with names := k.names ++ [(name, span)] }

/-- What a parenthesis opens: a group with flags of its own, or flags for the rest of the group
around it. -/
inductive Opening where
  | group (s : Settings)
  | flags (s : Settings)

/-- Reads the front of a group.  The cursor is at its parenthesis. -/
def opening : Scan Opening := do
  let start ← place
  bump
  skipSpace
  if (← accept "?=") || (← accept "?!") || (← accept "?<=") || (← accept "?<!") then
    fault .lookAround (← since start)
  let inner ← here
  if (← accept "?P<") || (← accept "?<") then
    groupName
    return .group []
  else if ← accept "?" then
    if (← peek?).isNone then fault .groupUnclosed ⟨start, start + 1⟩
    let k ← get
    let (s, rest) ← readFlags k.place [] k.rest
    set (k.moveTo rest)
    let isFlags := (← peek?) == some ')'
    bump
    if isFlags && s.isEmpty then fault .nothingToRepeat inner
    return if isFlags then .flags s else .group s
  else return .group []

/-- Reads the digits of a count, with space around them.  A fault is the caller's to report. -/
def count : Scan (Except Fault Nat) := do
  modify fun k => k.moveTo (skipBlanks k.rest)
  let start ← place
  let digits ← takeSpaced Char.isDigit
  let span ← since start
  let _ ← takeSpaced isBlank
  let n := digits.foldl (fun n c => 10 * n + (c.toNat - '0'.toNat)) 0
  if digits.isEmpty then return .error ⟨.numberMissing, span, none⟩
  else if 4294967296 ≤ n then return .error ⟨.numberTooLarge, span, none⟩
  else return .ok n

/-- Reads how often something is repeated: an exact count, a least count, or both bounds, in braces.
The cursor is at the opening brace. -/
def bounds : Scan (Nat × Option Nat) := do
  let start ← place
  if (← step?).isNone then fault .countUnclosed (← since start)
  let first ← count
  let (least, most?) ←
    match ← peek? with
    | none => fault .countUnclosed (← since start)
    | some ',' =>
      match ← step? with
      | none => fault .countUnclosed (← since start)
      | some '\x7d' => pure ((← first), none)
      | some _ =>
        let least ← first
        let most ← (← count)
        pure (least, some most)
    | some _ => let n ← first; pure (n, some n)
  if (← peek?) != some '\x7d' then fault .countUnclosed (← since start)
  if (← step?) = some '?' then bump
  if most?.any (· < least) then fault .countOrder (← since start)
  return (least, most?)

/-- Reads the sign of a repetition.  The cursor is at `c`. -/
def repetition (c : Char) : Scan (Nat × Option Nat) := do
  if c = '\x7b' then bounds
  else
    bump
    if (← peek?) = some '?' then bump
    return (if c = '+' then 1 else 0, if c = '?' then some 1 else none)

/-- A group whose end is not read: the choices before the last bar, and the parts behind it, the
last of them first. -/
structure Draft where
  start : Nat
  choices : List Tree := []
  lastStart : Nat := start
  parts : List Tree := []

namespace Draft

/-- The parts behind the last bar, which end at `stop`. -/
def lastChoice (d : Draft) (stop : Nat) : Tree :=
  match d.parts with
  | [] => .empty
  | [t] => t
  | ts => .sequence ⟨d.lastStart, stop⟩ ts.reverse

/-- Adds a part. -/
def push (d : Draft) (t : Tree) : Draft := { d with parts := t :: d.parts }

/-- Ends a choice at a bar, which stands behind `stop` characters. -/
def bar (d : Draft) (stop : Nat) : Draft :=
  { d with choices := d.choices ++ [d.lastChoice stop], lastStart := stop + 1, parts := [] }

/-- The contents, which end at `stop`. -/
def finish (d : Draft) (stop : Nat) : Tree :=
  match d.choices with
  | [] => d.lastChoice stop
  | ts => .choice ⟨d.start, stop⟩ (ts ++ [d.lastChoice stop])

end Draft

/-- Turns the flag for meaningless space on or off, if the settings say so. -/
def applySpaced (s : Settings) : Scan Unit :=
  modify fun k => { k with isSpaced := (s.of? .spaced).getD k.isSpaced }

/-- Reads a group up to its end, which is left: a parenthesis, or the end of the pattern where no
parenthesis is open.  `fuel` is more than the number of characters that are not read. -/
def body (fuel : Nat) (open? : Option Span) (d : Draft) : Scan Tree := do
  match fuel with
  | 0 => fault .groupUnclosed (open?.getD (← here))
  | fuel + 1 =>
    skipSpace
    match ← peek? with
    | none =>
      match open? with
      | none => return d.finish (← place)
      | some s => fault .groupUnclosed s
    | some ')' =>
      if open?.isNone then fault .groupUnopened (← hereChar)
      return d.finish (← place)
    | some '|' =>
      let stop ← place
      bump
      body fuel open? (d.bar stop)
    | some '(' =>
      let start ← place
      let isSpaced := (← get).isSpaced
      match ← opening with
      | .flags s =>
        applySpaced s
        body fuel open? (d.push (.flags s))
      | .group s =>
        applySpaced s
        let t ← body fuel (some ⟨start, start + 1⟩) { start := ← place }
        modify fun k => { k with isSpaced }
        bump
        body fuel open? (d.push (.group (← since start) s t))
    | some '[' =>
      let (span, isNegated, ms) ← bracket
      body fuel open? (d.push (.bracketed span isNegated ms))
    | some c =>
      if c ∈ ['?', '*', '+', '\x7b'] then
        match d.parts with
        | [] | .flags _ :: _ => fault .nothingToRepeat (← here)
        | t :: ts =>
          let (least, most?) ← repetition c
          let span ← since t.start
          body fuel open? { d with parts := .repeated span least most? t :: ts }
      else body fuel open? (d.push (.atom (← atom c)))

/-- The parts of a pattern, or its fault. -/
def Tree.ofPattern (pattern : List Char) : Except Fault Tree := do
  let (t, _) ← (body (pattern.length + 1) none { start := 0 }).run { place := 0, rest := pattern }
  match t.tooDeep? 0 with
  | some span => throw ⟨.nestedTooDeeply, span, none⟩
  | none => return t

end DocStub.Regex

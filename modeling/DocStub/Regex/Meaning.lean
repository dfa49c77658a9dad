import DocStub.Regex.Parse
import DocStub.Regex.Size

/-!
# What a pattern matches

The flags in force decide what the parts of a pattern mean, and some parts mean nothing under some
flags: without the Unicode flag, characters beyond ASCII cannot be told apart, so that a set may not
reach beyond ASCII.

* `Mode` — the flags in force.
* `Members.set` — the characters that a class lists.
* `Tree.expr` — the regular expression of a pattern.
* `Refusal` — why there is no expression for a pattern.
* `Expr.ofPattern` — the regular expression of a pattern, as it is written.
-/

namespace DocStub.Regex

open Text (CharSet)

/-- The flags in force. -/
structure Mode where
  anyCase : Bool := false
  lines : Bool := false
  dotAll : Bool := false
  unicode : Bool := true
  returns : Bool := false
deriving DecidableEq, Repr

namespace Mode

/-- The flags in force after some settings. -/
def apply (m : Mode) (s : Settings) : Mode :=
  { anyCase := (s.of? .anyCase).getD m.anyCase
    lines := (s.of? .lines).getD m.lines
    dotAll := (s.of? .dotAll).getD m.dotAll
    unicode := (s.of? .unicode).getD m.unicode
    returns := (s.of? .returns).getD m.returns }

/-- The set with the characters that count for the same as its own. -/
def fold (m : Mode) (set : CharSet) : CharSet :=
  if !m.anyCase then set else if m.unicode then .anyCase set else .anyAsciiCase set

/-- The set or, if it is negated, the characters outside of it.  Without the Unicode flag, it must
not reach beyond ASCII. -/
def close (m : Mode) (span : Span) (isNegated : Bool) (set : CharSet) : Except Fault CharSet :=
  let set := if isNegated then .complement set else set
  if !m.unicode && set.has 0x80 then .error ⟨.notText, span, none⟩ else .ok set

/-- The set of a name. -/
def named (m : Mode) (n : NamedSet) : Except Fault CharSet :=
  match n.name with
  | .digit =>
    m.close n.span n.isNegated
      (if m.unicode then Text.Property.category "nd" else .ranges [(0x30, 0x39)])
  | .space =>
    m.close n.span n.isNegated
      (.ranges (if m.unicode then Text.blankRanges else [(0x9, 0xD), (0x20, 0x20)]))
  | .word =>
    let ascii := [(0x30, 0x39), (0x41, 0x5A), (0x5F, 0x5F), (0x61, 0x7A)]
    m.close n.span n.isNegated (.ranges (if m.unicode then ascii ++ Text.wordRanges else ascii))
  | .property q =>
    if !m.unicode then .error ⟨.unicodeNotAllowed, n.span, none⟩
    else
      match q.answer with
      | .ok set => m.close n.span n.isNegated (m.fold set)
      | .error .property => .error ⟨.propertyUnknown, n.span, none⟩
      | .error .value => .error ⟨.propertyValueUnknown, n.span, none⟩

/-- The code point of a character, which must be a character of the text and not a byte of one. -/
def literal (m : Mode) (l : Literal) : Except Fault Nat :=
  if !m.unicode && l.isByte && 0x80 ≤ l.char.toNat then .error ⟨.notText, l.span, none⟩
  else .ok l.char.toNat

/-- The code point of a character in a class. -/
def classLiteral (m : Mode) (l : Literal) : Except Fault Nat := do
  let n ← m.literal l
  if !m.unicode && 0x80 ≤ n then throw ⟨.unicodeNotAllowed, l.span, none⟩
  return n

/-- The characters that the dot matches. -/
def dot (m : Mode) : CharSet :=
  if m.dotAll then .all
  else if m.returns then .complement (.ranges [(0xA, 0xA), (0xD, 0xD)])
  else .complement (.single 0xA)

/-- What a sign asks of a place. -/
def look (m : Mode) (s : Sign) : Look :=
  let word : WordKind := if m.unicode then .unicode else .ascii
  match s with
  | .caret => if !m.lines then .textStart else if m.returns then .returnLineStart else .lineStart
  | .dollar => if !m.lines then .textEnd else if m.returns then .returnLineEnd else .lineEnd
  | .textStart => .textStart
  | .textEnd => .textEnd
  | .wordBoundary => .wordBoundary word
  | .noWordBoundary => .noWordBoundary word
  | .wordStart => .wordStart word
  | .wordEnd => .wordEnd word
  | .wordStartHalf => .wordStartHalf word
  | .wordEndHalf => .wordEndHalf word

/-- The regular expression of an atom. -/
def atom (m : Mode) : Atom → Except Fault Expr
  | .literal l => do
    let n ← m.literal l
    return .one (m.fold (.single n))
  | .dot span => if m.unicode then .ok (.one m.dot) else .error ⟨.notText, span, none⟩
  | .sign _ s => .ok (.look (m.look s))
  | .named n => return .one (← m.named n)

end Mode

/-- The set that an operation makes of two sets. -/
def SetOperation.apply : SetOperation → CharSet → CharSet → CharSet
  | inter, a, b => .inter a b
  | diff, a, b => a.diff b
  | symmDiff, a, b => .symmDiff a b

/-- The characters that a class lists. -/
def Members.set (m : Mode) : Members → Except Fault CharSet
  | none _ => .ok .empty
  | literal l => return .single (← m.classLiteral l)
  | range first last => do
    let a ← m.classLiteral first
    let b ← m.classLiteral last
    return .ranges [(a, b)]
  | ascii span chars isNegated => m.close span isNegated (m.fold chars)
  | named n => m.named n
  | bracketed span isNegated ms => do m.close span isNegated (m.fold (← ms.set m))
  | union _ parts => go parts
  | operation _ o a b => do
    let a ← a.set m
    let b ← b.set m
    return o.apply (m.fold a) (m.fold b)
where
  /-- The characters of several parts. -/
  go : List Members → Except Fault CharSet
    | [] => .ok .empty
    | part :: parts => do
      let a ← part.set m
      let b ← go parts
      return .union a b

mutual

/-- The regular expression of a pattern, and the flags in force behind it. -/
def Tree.exprIn (m : Mode) : Tree → Except Fault (Expr × Mode)
  | .empty => .ok (.empty, m)
  | .flags s => .ok (.empty, m.apply s)
  | .atom a => return (← m.atom a, m)
  | .bracketed span isNegated ms => do
    return (.one (← m.close span isNegated (m.fold (← ms.set m))), m)
  | .repeated _ least most? t => do
    let (e, m) ← t.exprIn m
    return (.repeated e least most?, m)
  | .group _ s t => do
    let (e, _) ← t.exprIn (m.apply s)
    return (e, m)
  | .choice _ ts => exprOfChoices m ts
  | .sequence _ ts => exprOfSequence m ts

/-- The regular expression of some choices, and the flags in force behind them. -/
def exprOfChoices (m : Mode) : List Tree → Except Fault (Expr × Mode)
  | [] => .ok (.empty, m)
  | [t] => t.exprIn m
  | t :: ts => do
    let (a, m) ← t.exprIn m
    let (b, m) ← exprOfChoices m ts
    return (.alt a b, m)

/-- The regular expression of some parts, one behind the other, and the flags in force behind them.
-/
def exprOfSequence (m : Mode) : List Tree → Except Fault (Expr × Mode)
  | [] => .ok (.empty, m)
  | t :: ts => do
    let (a, m) ← t.exprIn m
    let (b, m) ← exprOfSequence m ts
    return (.seq a b, m)

end

/-- Why there is no regular expression for a pattern: it has a fault, or the machine for it would be
too large. -/
inductive Refusal where
  | fault (f : Fault)
  | tooLarge
deriving DecidableEq, Repr

/-- What is said about a pattern that is refused. -/
def Refusal.message (pattern : List Char) : Refusal → List Char
  | fault f => f.report pattern
  | tooLarge =>
    "Compiled regex exceeds size limit of ".toList ++ Text.decimal sizeLimit ++ " bytes.".toList

/-- The regular expression of a pattern. -/
def Expr.ofPattern (pattern : List Char) : Except Refusal Expr :=
  match (do let t ← Tree.ofPattern pattern; t.exprIn {}) with
  | .error f => .error (.fault f)
  | .ok (e, _) => if e.size ≤ sizeLimit then .ok e else .error .tooLarge

end DocStub.Regex

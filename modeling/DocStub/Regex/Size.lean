import DocStub.Regex.Expr

/-!
# Sizes of regular expressions

Counted repetitions make large expressions out of short patterns.  An expression is refused when
the machine for it would take more than ten mebibytes; the size of that machine is estimated.

* `Expr.size` — the estimate, in bytes.
* `sizeLimit` — the bound.
-/

namespace DocStub.Regex

open Text (CharSet)

/-- How many bytes a machine may take. -/
def sizeLimit : Nat := 10485760

/-- The bytes of one state of a machine. -/
def stateSize : Nat := 32

/-- Whether a set has ASCII characters alone, as far as its parts tell. -/
def isAscii : CharSet → Bool
  | .ranges rs => rs.all fun r => r.2 < 0x80
  | .union a b | .symmDiff a b => isAscii a && isAscii b
  | .inter a b => isAscii a || isAscii b
  | .complement _ => false
  | .anyCase a | .anyAsciiCase a => isAscii a

/-- The bytes for one character of a set: a state for each byte of a single character, a state with
many ways out for ASCII characters, and some states for each range beyond. -/
def setSize (set : CharSet) : Nat :=
  let many := if isAscii set then stateSize + 8 * set.rangeCount else 250 + 60 * set.rangeCount
  match set with
  | .ranges [(a, b)] => if a = b then stateSize * (Char.ofNat a).utf8Size else many
  | _ => many

namespace Expr

/-- Whether an expression matches no text but the empty one, as far as its parts tell. -/
def isEmptyOnly : Expr → Bool
  | empty | look _ => true
  | one _ => false
  | seq a b | alt a b => a.isEmptyOnly && b.isEmptyOnly
  | repeated a _ most? => a.isEmptyOnly || most? == some 0

/-- The bytes of the machine for an expression.  The machine has a copy of a part for every round
that is counted, but a part that only matches the empty text needs one round. -/
def size : Expr → Nat
  | empty => stateSize
  | one set => setSize set
  | look _ => stateSize
  | seq a b => a.size + b.size
  | alt a b => a.size + b.size + 2 * stateSize
  | repeated a least most? =>
    if a.isEmptyOnly then a.size + 2 * stateSize
    else
      match most? with
      | none => max 1 least * a.size + 2 * stateSize
      | some most => most * a.size + (most - least + 1) * stateSize

end Expr

end DocStub.Regex

import DocStub.Text.CharSet
import DocStub.Text.WordChar

/-!
# Regular expressions

A regular expression matches a text when it leads from some place of the text to another.  A place
lies between two characters, before the first or behind the last, and what an expression asks may
concern the characters around it.

* `Look` — what can be asked of a place.
* `Expr` — the expressions.
* `Front` — some places of a text.
* `Expr.reach` — the places that an expression leads to from those of a front.
* `Expr.occursIn` — whether an expression matches somewhere in a text.
-/

namespace DocStub.Regex

open Text (CharSet isWord)

/-- Which characters count as word characters: those of Unicode, or ASCII letters, digits and the
underscore. -/
inductive WordKind where
  | unicode
  | ascii
deriving DecidableEq, Repr

/-- Whether a character is a word character. -/
def WordKind.has : WordKind → Char → Bool
  | unicode, c => isWord c
  | ascii, c => c.isAlphanum || c == '_'

/-- What can be asked of a place in a text.  A half boundary asks of one side only that there is no
word character.  At the ends of lines that are told with returns, a carriage return before a line
feed belongs to the end. -/
inductive Look where
  | textStart
  | textEnd
  | lineStart
  | lineEnd
  | returnLineStart
  | returnLineEnd
  | wordBoundary (k : WordKind)
  | noWordBoundary (k : WordKind)
  | wordStart (k : WordKind)
  | wordEnd (k : WordKind)
  | wordStartHalf (k : WordKind)
  | wordEndHalf (k : WordKind)
deriving DecidableEq, Repr

/-- A place of a text: the characters before and behind it. -/
structure Spot where
  before? : Option Char
  behind? : Option Char
deriving DecidableEq, Repr

/-- Whether a place is as asked. -/
def Look.holds (l : Look) (s : Spot) : Bool :=
  let wordBefore (k : WordKind) := s.before?.any k.has
  let wordBehind (k : WordKind) := s.behind?.any k.has
  match l with
  | textStart => s.before?.isNone
  | textEnd => s.behind?.isNone
  | lineStart => s.before?.all (· == '\n')
  | lineEnd => s.behind?.all (· == '\n')
  | returnLineStart =>
    s.before?.all fun c => c == '\n' || (c == '\r' && s.behind? != some '\n')
  | returnLineEnd =>
    s.behind?.all fun c => c == '\r' || (c == '\n' && s.before? != some '\r')
  | wordBoundary k => wordBefore k != wordBehind k
  | noWordBoundary k => wordBefore k == wordBehind k
  | wordStart k => !wordBefore k && wordBehind k
  | wordEnd k => wordBefore k && !wordBehind k
  | wordStartHalf k => !wordBefore k
  | wordEndHalf k => !wordBehind k

/-- A regular expression.  `one` matches one character of a set, `look` the empty text at the places
that are as asked, and `repeated` a number of matches one behind the other: at least `least`, and at
most `most?` if there is a bound. -/
inductive Expr where
  | empty
  | one (set : CharSet)
  | look (l : Look)
  | seq (a b : Expr)
  | alt (a b : Expr)
  | repeated (a : Expr) (least : Nat) (most? : Option Nat)
deriving DecidableEq, Repr

/-- The places of a text, from the one behind the given character on. -/
def spotsFrom (before? : Option Char) : List Char → List Spot
  | [] => [⟨before?, none⟩]
  | c :: t => ⟨before?, some c⟩ :: spotsFrom (some c) t

/-- The places of a text. -/
def spots (t : List Char) : List Spot := spotsFrom none t

/-- Some of the places of a text: for each of them, whether it is meant. -/
abbrev Front := List Bool

namespace Front

/-- The places of either front. -/
def union (f g : Front) : Front := List.zipWith or f g

/-- The places of a front that satisfy a condition. -/
def filter (p : Spot → Bool) (spots : List Spot) (f : Front) : Front :=
  List.zipWith (fun s b => b && p s) spots f

/-- The places behind those of a front. -/
def shift (f : Front) : Front := false :: f.dropLast

/-- The front after at most `n` steps, all of which are made unless a step changes nothing. -/
def iterate (step : Front → Front) : Nat → Front → Front
  | 0, f => f
  | n + 1, f =>
    let g := step f
    if g = f then f else iterate step n g

/-- The places that at most `n` steps lead to. -/
def spread (step : Front → Front) : Nat → Front → Front
  | 0, f => f
  | n + 1, f =>
    let g := f.union (step f)
    if g = f then f else spread step n g

end Front

namespace Expr

/-- The places that an expression leads to from those of a front.  A repetition without a bound
leads to all of its places after as many rounds as there are places. -/
def reach (spots : List Spot) : Expr → Front → Front
  | empty, f => f
  | one set, f => (f.filter (fun s => s.behind?.any fun c => set.has c.toNat) spots).shift
  | look l, f => f.filter l.holds spots
  | seq a b, f => b.reach spots (a.reach spots f)
  | alt a b, f => (a.reach spots f).union (b.reach spots f)
  | repeated a least most?, f =>
    (f.iterate (a.reach spots) least).spread (a.reach spots)
      ((most?.map (· - least)).getD spots.length)

/-- Whether an expression matches somewhere in a text. -/
def occursIn (e : Expr) (t : List Char) : Bool :=
  (e.reach (spots t) ((spots t).map fun _ => true)).any id

end Expr

end DocStub.Regex

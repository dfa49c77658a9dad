import DocStub.Text.Blank

/-!
# Modifiers

A declaration may start with an access modifier, with `static` and with `final`, each of them
optional, in this order, and with any blanks after each.  The modifiers are recognised as text and
need not end where a word ends, so a line can often be read in several ways: in `static x(` the
first word is either a modifier or the type of what follows.

* `Modifier` — the five modifiers and their spelling.
* `afterOptional` — the readings of a text that may start with one of some modifiers.
* `afterModifiers` — the readings of a text that may start with all three groups.

Every reading is given by the text that it leaves.  Readings that take a modifier come before
those that leave it alone.
-/

namespace DocStub.Declaration

open Text (skipBlanks)

/-- A word that may stand in front of the type of a declaration. -/
inductive Modifier where
  | accessPublic
  | accessPrivate
  | accessProtected
  | static
  | final
deriving DecidableEq, Repr

namespace Modifier

/-- The modifier as it is written. -/
def spelling : Modifier → List Char
  | accessPublic => "public".toList
  | accessPrivate => "private".toList
  | accessProtected => "protected".toList
  | static => "static".toList
  | final => "final".toList

/-- The modifiers that regulate access. -/
def access : List Modifier := [accessPublic, accessPrivate, accessProtected]

/-- All modifiers. -/
def all : List Modifier := access ++ [static, final]

end Modifier

/-- Whether a word is the spelling of a modifier. -/
def isModifier (w : List Char) : Bool := Modifier.all.any fun m => m.spelling == w

/-- The readings of a text that may start with one of the given modifiers. -/
def afterOptional (options : List Modifier) (t : List Char) : List (List Char) :=
  options.filterMap (fun m => m.spelling.isPrefixOf? t) ++ [t]

/-- The readings of a text that may start with an access modifier, with the blanks after it. -/
def afterAccess (t : List Char) : List (List Char) :=
  (afterOptional Modifier.access t).map skipBlanks

/-- The readings of a text that may start with an access modifier, `static` and `final`, with the
blanks after each. -/
def afterModifiers (t : List Char) : List (List Char) :=
  (afterAccess t).flatMap fun t =>
    ((afterOptional [.static] t).map skipBlanks).flatMap fun t =>
      (afterOptional [.final] t).map skipBlanks

end DocStub.Declaration

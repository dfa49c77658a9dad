import DocStub.Prose.Words

/-!
# Naming conventions of methods

The name of a method often tells what it does: `getName` gets the name.

* `Convention` — the conventions that are recognised.
* `Convention.ofName` — the convention of a name.  How a name starts is looked at first, so
  `hashCode` counts as a name that starts with `has`.
* `summary` — the first sentence of the comment on a method.
-/

namespace DocStub.Prose

/-- What the name of a method tells: that it describes the object as text, compares it with another
one, computes a hash code, gets, sets or tests a property, tests for the possession of something, or
nothing of the kind. -/
inductive Convention where
  | description
  | comparison
  | hashing
  | getter
  | setter
  | test
  | possession
  | other
deriving DecidableEq, Repr

namespace Convention

/-- The conventions that are recognised by how a name starts, the first one that fits deciding. -/
def byStart : List (List Char × Convention) :=
  [("get".toList, getter), ("set".toList, setter), ("is".toList, test),
    ("has".toList, possession)]

/-- The conventions that are recognised by the whole name. -/
def byName : List (List Char × Convention) :=
  [("toString".toList, description), ("equals".toList, comparison), ("hashCode".toList, hashing)]

/-- The start that names of the convention share, empty for those told by the whole name. -/
def start (c : Convention) : List Char :=
  ((byStart.find? fun r => r.2 == c).map Prod.fst).getD []

/-- The convention of a name. -/
def ofName (name : List Char) : Convention :=
  match byStart.find? fun r => r.1.isPrefixOf name with
  | some r => r.2
  | none => ((byName.find? fun r => r.1 == name).map Prod.snd).getD other

end Convention

/-- The part of a name that its convention leaves. -/
def subject (name : List Char) : List Char :=
  ((Convention.ofName name).start.isPrefixOf? name).getD name

/-- The sentence about a method with the given name. -/
def summary (name : List Char) : List Char :=
  let phrase := spellOut (subject name)
  match Convention.ofName name with
  | .getter => "Gets the ".toList ++ phrase ++ ['.']
  | .setter => "Sets the ".toList ++ phrase ++ ['.']
  | .test => "Checks if ".toList ++ phrase ++ ['.']
  | .possession => "Checks if has ".toList ++ phrase ++ ['.']
  | .description => "Returns a string representation of this object.".toList
  | .comparison => "Checks if this object is equal to another object.".toList
  | .hashing => "Returns the hash code value for this object.".toList
  | .other => phrase ++ ['.']

end DocStub.Prose

import DocStub.Text.Property.Age
import DocStub.Text.Property.Break

/-!
# Properties by name

A set of characters is asked for by the name of a property, or by the name of a property and one of
its values.  Names are compared loosely: letter case, blanks, dashes, underscores and an `is` in
front do not count.

* `Query` — what is asked for.
* `Miss` — why there is no answer.
* `loose` — the part of a name that counts.
* `Query.answer` — the set that is asked for.
-/

namespace DocStub.Text.Property

/-- A description of a set of characters.  A single name is that of a property that characters have
or have not, of a general category, or of a script. -/
inductive Query where
  | name (name : List Char)
  | value (property value : List Char)
deriving DecidableEq, Repr

/-- Why a description describes no set.  There is no property of that name, or it needs a value, or
it has no value of that name, or none that characters have. -/
inductive Miss where
  | property
  | value
deriving DecidableEq, Repr

/-- The part of a name that counts.  A mere `is` in front of a `c` is part of the name. -/
def loose (name : List Char) : List Char :=
  let counts (c : Char) : Bool := c.toNat < 0x80 && c ∉ [' ', '_', '-']
  let keep (t : List Char) := (t.filter counts).map Char.toLower
  match name with
  | a :: b :: t =>
    if a.toLower = 'i' ∧ b.toLower = 's' then
      if keep t = ['c'] then "isc".toList else keep t
    else keep name
  | _ => keep name

/-- The names of some rows. -/
def allNames (rows : List Row) : List (List Char) := rows.flatMap Row.names

/-- Names of categories and scripts that are defined, but have no characters. -/
def vacantNames : List (List Char) :=
  tokens "cs surrogate zzzz unknown hrkt katakanaorhiragana".toList

/-- Short names of categories that properties have as well. -/
def categoryFirst : List (List Char) := tokens "cf sc lc".toList

/-- The properties with more than two values. -/
def valuedProperties : List (List (List Char) × List Row) :=
  [(tokens "gc generalcategory".toList, categories), (tokens "sc script".toList, scripts),
    (tokens "scx scriptextensions".toList, scriptExtensions), (tokens "age".toList, ages),
    (tokens "gcb graphemeclusterbreak".toList, graphemeBreaks),
    (tokens "wb wordbreak".toList, wordBreaks), (tokens "sb sentencebreak".toList, sentenceBreaks)]

/-- The set that a name stands for. -/
def answerName (name : List Char) : Except Miss CharSet :=
  if name ∉ categoryFirst ∧ (name ∈ allNames binaries ∨ name ∈ otherNames) then
    (find? binaries name).elim (.error .property) .ok
  else if name ∈ vacantNames then .error .value
  else (find? (categories ++ scripts) name).elim (.error .property) .ok

/-- The set that a value of a property stands for. -/
def answerValue (property value : List Char) : Except Miss CharSet :=
  match valuedProperties.find? fun p => property ∈ p.1 with
  | some (_, rows) => (find? rows value).elim (.error .value) .ok
  | none =>
    if property ∈ allNames binaries ∨ property ∈ otherNames then .error .value
    else .error .property

/-- The set that a description describes. -/
def Query.answer : Query → Except Miss CharSet
  | name n => answerName (loose n)
  | value p v => answerValue (loose p) (loose v)

end DocStub.Text.Property

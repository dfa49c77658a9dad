import DocStub.Declaration.Parts
import DocStub.Prose.Convention
import DocStub.Text.Lowercase
import DocStub.Text.Search

/-!
# Phrases for parameters, results and fields

What a comment says about a parameter, a result or a field depends on its name first, and on its
type where the name tells nothing.

* `Hint` — a phrase for every name that contains a given text.
* `hinted?` — the phrase of the first hint that fits a name, in any letter case.
* `parameterPhrase`, `resultPhrase?`, `fieldSentence` — the texts themselves.
-/

namespace DocStub.Prose

open Declaration (Parameter void)
open Text (contains lowercase)

/-- A phrase for names that contain `needle`, a text in small letters. -/
structure Hint where
  needle : List Char
  phrase : List Char
deriving DecidableEq, Repr

/-- The phrase of the first hint whose needle occurs in the lower-case form of a name. -/
def hinted? (hints : List Hint) (name : List Char) : Option (List Char) :=
  (hints.find? fun h => contains h.needle (lowercase name)).map Hint.phrase

/-- The hints for parameters. -/
def parameterHints : List Hint :=
  [⟨"name".toList, "the name to set".toList⟩,
    ⟨"id".toList, "the unique identifier".toList⟩,
    ⟨"index".toList, "the index position".toList⟩,
    ⟨"value".toList, "the value to set".toList⟩]

/-- The hints for fields. -/
def fieldHints : List Hint :=
  [⟨"count".toList, "The number of elements.".toList⟩,
    ⟨"size".toList, "The number of elements.".toList⟩,
    ⟨"name".toList, "The name identifier.".toList⟩,
    ⟨"id".toList, "The unique identifier.".toList⟩]

/-- The types whose values are told in a particular way: text, whole numbers, truth values, and all
others. -/
inductive TypeClass where
  | text
  | number
  | truth
  | other
deriving DecidableEq, Repr

/-- The class of a type, given by its name. -/
def TypeClass.ofName (type : List Char) : TypeClass :=
  if type = "String".toList then .text
  else if type = "int".toList ∨ type = "Integer".toList then .number
  else if type = "boolean".toList ∨ type = "Boolean".toList then .truth
  else .other

/-- The phrase for a parameter of the method with the given name. -/
def parameterPhrase (p : Parameter) (method : List Char) : List Char :=
  match hinted? parameterHints p.name with
  | some phrase => phrase
  | none =>
    let name := lowercase p.name
    match TypeClass.ofName p.type with
    | .text => "the ".toList ++ name ++ " string".toList
    | .number => "the ".toList ++ name ++ " number".toList
    | .truth => "true if ".toList ++ name ++ ", false otherwise".toList
    | .other =>
      if Convention.ofName method = .setter then "the ".toList ++ name ++ " to set".toList
      else "the ".toList ++ name

/-- The phrase for the result of a method, unless it returns nothing. -/
def resultPhrase? (type : List Char) : Option (List Char) :=
  if type = void then none
  else some <| match TypeClass.ofName type with
    | .text => "the result string".toList
    | .number => "the result value".toList
    | .truth => "true if successful, false otherwise".toList
    | .other => "the ".toList ++ type ++ " instance".toList

/-- The sentence about a field. -/
def fieldSentence (name type : List Char) : List Char :=
  match hinted? fieldHints name with
  | some sentence => sentence
  | none =>
    if TypeClass.ofName type = .truth then
      "Flag indicating if ".toList ++ spellOut name ++ ['.']
    else "The ".toList ++ spellOut name ++ ['.']

end DocStub.Prose

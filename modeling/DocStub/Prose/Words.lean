import DocStub.Text.LetterCase

/-!
# The words inside an identifier

* `spellOut` — an identifier in camel case as a phrase: `employeeCount` becomes `employee count`.

Each capital after the first character starts a word of its own, so a run of capitals falls apart
into letters: `parseURL` becomes `parse u r l`.
-/

namespace DocStub.Prose

open Text (isUpper lower)

/-- What a character inside an identifier contributes to the phrase. -/
def spellInner (c : Char) : List Char := if isUpper c then ' ' :: lower c else [c]

/-- The phrase for an identifier in camel case. -/
def spellOut : List Char → List Char
  | [] => []
  | c :: t => lower c ++ t.flatMap spellInner

@[simp] theorem spellOut_nil : spellOut [] = [] := rfl

theorem spellOut_cons (c : Char) (t : List Char) :
    spellOut (c :: t) = lower c ++ t.flatMap spellInner := rfl

end DocStub.Prose

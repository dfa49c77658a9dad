import DocStub.Text.LetterCase

/-!
# Lower-casing a text

A text is lower-cased character by character, with one exception: a capital sigma has a form of
its own at the end of a word.

* `meetsCased` — the neighbour test of that rule.
* `lowercase` — the lower-case form of a text.
-/

namespace DocStub.Text

/-- Whether a letter comes first, once the characters to be passed over are left out. -/
def meetsCased (t : List Char) : Bool := (t.dropWhile isCaseIgnorable).head?.any isCased

/-- The lower-case form of a capital sigma with `before` on its left, nearest character first, and
`after` on its right: a sigma that ends a word of several letters is final. -/
def lowerSigma (before after : List Char) : Char :=
  if meetsCased before && !meetsCased after then 'ς' else 'σ'

/-- The lower-case form of a text. -/
def lowercase (t : List Char) : List Char := go [] t
where
  /-- Lower-cases the text that follows `before`, whose nearest character comes first. -/
  go (before : List Char) : List Char → List Char
    | [] => []
    | c :: t => (if c = 'Σ' then [lowerSigma before t] else lower c) ++ go (c :: before) t

end DocStub.Text

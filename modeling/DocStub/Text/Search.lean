/-!
# Looking for something in a text

* `leftmost?` — the answer of a reader at the first place where it has one.
* `anySuffix` — whether some place of the text has a property.
* `contains` — whether a text occurs in another one.
* `lineUntil?` — the text up to the first occurrence of a closing character, within one line.
-/

namespace DocStub.Text

/-- The answer of `read` at the leftmost place of the text where it has one.  The end of the text
is a place too. -/
def leftmost? {α : Type} (read : List Char → Option α) : List Char → Option α
  | [] => read []
  | c :: t =>
    match read (c :: t) with
    | some a => some a
    | none => leftmost? read t

/-- Whether the text from some place on has the property `p`. -/
def anySuffix (p : List Char → Bool) : List Char → Bool
  | [] => p []
  | c :: t => p (c :: t) || anySuffix p t

/-- Whether `needle` occurs in the text. -/
def contains (needle t : List Char) : Bool := anySuffix needle.isPrefixOf t

theorem anySuffix_iff {p : List Char → Bool} {t : List Char} :
    anySuffix p t = true ↔ ∃ s, List.IsSuffix s t ∧ p s = true := by
  induction t with
  | nil => simp [anySuffix]
  | cons c t ih => simp [anySuffix, ih, List.suffix_cons_iff, or_and_right, exists_or]

theorem contains_iff {needle t : List Char} :
    contains needle t = true ↔ List.IsInfix needle t := by
  simp only [contains, anySuffix_iff, List.isPrefixOf_iff_prefix]
  constructor
  · rintro ⟨s, hs, hp⟩
    exact hp.isInfix.trans hs.isInfix
  · rintro ⟨a, b, rfl⟩
    exact ⟨needle ++ b, ⟨a, by simp⟩, List.prefix_append _ _⟩

/-- The text before the first `stop`, which must come before any line feed. -/
def lineUntil? (stop : Char) (t : List Char) : Option (List Char) :=
  let inner := t.takeWhile (· != stop)
  if stop ∈ t ∧ '\n' ∉ inner then some inner else none

end DocStub.Text

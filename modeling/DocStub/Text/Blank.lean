import DocStub.Text.CodeRange

/-!
# Blanks

A blank is a character with the Unicode property `White_Space`: the space, the tabulator, the line
feed and the carriage return among them, the zero-width space and the byte order mark not.

* `isBlank` — the property.
* `skipBlanks`, `trim` — a text without the blanks at its front, and at both ends.
* `afterGap?` — a text without the blanks at its front, if it starts with one.
* `tokens` — the maximal runs of characters that are not blank.
-/

namespace DocStub.Text

/-- The code points with the property `White_Space`. -/
def blankRanges : List (Nat × Nat) :=
  [(0x9, 0xD), (0x20, 0x20), (0x85, 0x85), (0xA0, 0xA0), (0x1680, 0x1680), (0x2000, 0x200A),
   (0x2028, 0x2029), (0x202F, 0x202F), (0x205F, 0x205F), (0x3000, 0x3000)]

/-- Whether a character is a blank. -/
def isBlank (c : Char) : Bool := inRanges blankRanges c.toNat

/-- The text without the blanks at its front. -/
def skipBlanks (t : List Char) : List Char := t.dropWhile isBlank

/-- The text after the blanks at the front, of which there must be one. -/
def afterGap? : List Char → Option (List Char)
  | [] => none
  | c :: t => if isBlank c then some (skipBlanks t) else none

/-- The text without the blanks at its end. -/
def dropTrailingBlanks (t : List Char) : List Char := (t.reverse.dropWhile isBlank).reverse

/-- The text without the blanks at both ends. -/
def trim (t : List Char) : List Char := dropTrailingBlanks (skipBlanks t)

/-- The maximal nonempty stretches of characters that satisfy `p`, in their order. -/
def runs (p : Char → Bool) (t : List Char) : List (List Char) :=
  (t.splitOnP fun c => !p c).filter fun r => !r.isEmpty

/-- The maximal stretches without blanks. -/
def tokens (t : List Char) : List (List Char) := runs (fun c => !isBlank c) t

end DocStub.Text

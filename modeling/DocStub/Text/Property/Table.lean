import DocStub.Text.Blank
import DocStub.Text.CharSet
import DocStub.Text.Hexadecimal

/-!
# Tables of character properties

A character property has a few thousand members in hundreds of ranges.  The tables are written as
text: the names of a set, a colon, its ranges in hexadecimal, and a semicolon.

* `Row` — a set of characters under its names.
* `codes` — the set of some ranges, as they are written.
* `readTable` — the rows of a table, as it is written.
* `find?` — the set of a given name.
-/

namespace DocStub.Text.Property

/-- A set of characters and the names that it goes by, in small letters and without blanks, dashes
and underscores. -/
structure Row where
  names : List (List Char)
  set : CharSet
deriving DecidableEq, Repr

/-- A set of characters under some names. -/
def row (names : List String) (set : CharSet) : Row := ⟨names.map String.toList, set⟩

/-- The ranges of a text such as `41-5A 5F`, after the digits of `number?` and, if the number ends a
range, its start `first?`. -/
def readRanges (first? number? : Option Nat) : List Char → List (Nat × Nat)
  | [] => number?.toList.map fun n => (first?.getD n, n)
  | c :: t =>
    match hexDigit? c, number? with
    | some d, _ => readRanges first? (some (16 * number?.getD 0 + d)) t
    | none, some n =>
      if c = '-' then readRanges (some n) none t else (first?.getD n, n) :: readRanges none none t
    | none, none => readRanges first? none t

/-- The set of the ranges between blanks. -/
def readCodes (t : List Char) : CharSet := .ranges (readRanges none none t)

/-- The set of the ranges between blanks. -/
def codes (t : String) : CharSet := readCodes t.toList

/-- The rows of a table.  A part without a colon is no row. -/
def readTable (t : String) : List Row :=
  (t.toList.splitOn ';').filterMap fun part =>
    match part.splitOn ':' with
    | [names, ranges] => some ⟨tokens names, readCodes ranges⟩
    | _ => none

/-- The set that goes by a name in a table. -/
def find? (rows : List Row) (name : List Char) : Option CharSet :=
  (rows.find? fun r => r.names.contains name).map Row.set

/-- The set that goes by a name in a table, which has it. -/
def named (rows : List Row) (name : String) : CharSet := (find? rows name.toList).getD .empty

end DocStub.Text.Property

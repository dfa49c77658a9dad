/-!
# Hexadecimal numbers

* `hexDigit?` — the value of one digit, in either letter case.
* `hexNumber` — the number that some digits spell.
-/

namespace DocStub.Text

/-- The value of a hexadecimal digit. -/
def hexDigit? (c : Char) : Option Nat :=
  if '0' ≤ c ∧ c ≤ '9' then some (c.toNat - '0'.toNat)
  else if 'a' ≤ c ∧ c ≤ 'f' then some (c.toNat - 'a'.toNat + 10)
  else if 'A' ≤ c ∧ c ≤ 'F' then some (c.toNat - 'A'.toNat + 10)
  else none

/-- The number that hexadecimal digits spell.  Other characters are passed over. -/
def hexNumber (t : List Char) : Nat := (t.filterMap hexDigit?).foldl (fun n d => 16 * n + d) 0

end DocStub.Text

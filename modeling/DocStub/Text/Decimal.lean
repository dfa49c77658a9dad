/-!
# Numbers in messages

* `decimal` — a number in decimal digits.
-/

namespace DocStub.Text

/-- The decimal digits of a number. -/
def decimal (n : Nat) : List Char := Nat.toDigits 10 n

end DocStub.Text

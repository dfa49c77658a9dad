/-!
# Ranges of code points

A character property is a set of code points, and the sets that matter here are long stretches
with gaps.  They are written down as tables of closed ranges, and a character has the property
when its code point lies in one of them.

* `inRanges` — membership in a list of closed ranges.
* `Stride` — every `step`-th code point of a range: capital and small letters that alternate.
-/

namespace DocStub.Text

/-- Whether `n` lies in one of the closed ranges. -/
def inRanges (ranges : List (Nat × Nat)) (n : Nat) : Bool :=
  ranges.any fun r => r.1 ≤ n && n ≤ r.2

theorem inRanges_iff {ranges : List (Nat × Nat)} {n : Nat} :
    inRanges ranges n = true ↔ ∃ r ∈ ranges, r.1 ≤ n ∧ n ≤ r.2 := by
  simp [inRanges]

/-- The code points `first`, `first + step`, and so on up to `last`, itself a member in every table
of this library. -/
structure Stride where
  first : Nat
  last : Nat
  step : Nat
deriving DecidableEq, Repr

/-- Whether `n` is a member of the stride. -/
def Stride.contains (s : Stride) (n : Nat) : Bool :=
  s.first ≤ n && n ≤ s.last && (n - s.first) % s.step == 0

end DocStub.Text

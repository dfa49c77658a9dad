import DocStub.Text.Folding

/-!
# Sets of characters

A set of characters, kept the way it was put together: ranges of code points, joined, met,
turned around, or widened to ignore letter case.

* `CharSet` — the sets.
* `CharSet.has` — membership.
* `CharSet.rangeCount` — how many ranges it takes, about, to write a set down.
-/

namespace DocStub.Text

/-- A set of code points.  `symmDiff` has those of just one of two sets, `anyCase` those that differ
in case only from one of a set, and `anyAsciiCase` the same among the ASCII letters alone. -/
inductive CharSet where
  | ranges (rs : List (Nat × Nat))
  | union (a b : CharSet)
  | inter (a b : CharSet)
  | symmDiff (a b : CharSet)
  | complement (a : CharSet)
  | anyCase (a : CharSet)
  | anyAsciiCase (a : CharSet)
deriving DecidableEq, Repr, Inhabited

namespace CharSet

/-- Whether a code point is in a set. -/
def has : CharSet → Nat → Bool
  | ranges rs, n => inRanges rs n
  | union a b, n => a.has n || b.has n
  | inter a b, n => a.has n && b.has n
  | symmDiff a b, n => a.has n != b.has n
  | complement a, n => !a.has n
  | anyCase a, n => (caseVariants n).any fun m => a.has m
  | anyAsciiCase a, n => (asciiVariants n).any fun m => a.has m

/-- The set without members. -/
def empty : CharSet := ranges []

/-- The set of all code points. -/
def all : CharSet := complement empty

/-- The set of a single code point. -/
def single (n : Nat) : CharSet := ranges [(n, n)]

/-- The code points of the first set that are not in the second. -/
def diff (a b : CharSet) : CharSet := inter a (complement b)

/-- The code points of some sets. -/
def unions (sets : List CharSet) : CharSet := sets.foldr union empty

/-- How many ranges it takes, about, to write a set down. -/
def rangeCount : CharSet → Nat
  | ranges rs => rs.length
  | union a b | inter a b | symmDiff a b => a.rangeCount + b.rangeCount
  | complement a | anyCase a | anyAsciiCase a => a.rangeCount + 1

@[simp] theorem has_empty (n : Nat) : empty.has n = false := by simp [empty, has, inRanges]

@[simp] theorem has_all (n : Nat) : all.has n = true := by simp [all, has]

@[simp] theorem has_diff (a b : CharSet) (n : Nat) : (diff a b).has n = (a.has n && !b.has n) := by
  simp [diff, has]

theorem has_unions (sets : List CharSet) (n : Nat) :
    (unions sets).has n = sets.any fun s => s.has n := by
  induction sets with
  | nil => simp [unions]
  | cons s sets ih => simpa [unions, has] using congrArg _ ih

end CharSet

end DocStub.Text

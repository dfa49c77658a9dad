/-!
# Kinds of declarations

The four kinds of declarations that receive a comment, and counts of them.  A line that declares
nothing has no kind: where that can happen, the kind is an `Option`.

* `Kind` — class, interface, method or field, with `Kind.label` for messages.
* `Counts` — how many declarations of each kind, with `Counts.add` and `Counts.total`.
-/

namespace DocStub.Declaration

/-- What a line declares.  A constructor counts as a method. -/
inductive Kind where
  | classType
  | interfaceType
  | method
  | field
deriving DecidableEq, Repr

/-- The word for a kind in messages. -/
def Kind.label : Kind → List Char
  | .classType => "class".toList
  | .interfaceType => "interface".toList
  | .method => "method".toList
  | .field => "field".toList

/-- Numbers of declarations, by kind. -/
structure Counts where
  classes : Nat := 0
  interfaces : Nat := 0
  methods : Nat := 0
  fields : Nat := 0
deriving DecidableEq, Repr

/-- Counts one more line.  A line without a kind leaves the numbers alone. -/
def Counts.add (n : Counts) : Option Kind → Counts
  | none => n
  | some .classType => { n with classes := n.classes + 1 }
  | some .interfaceType => { n with interfaces := n.interfaces + 1 }
  | some .method => { n with methods := n.methods + 1 }
  | some .field => { n with fields := n.fields + 1 }

/-- The number of declarations of all kinds. -/
def Counts.total (n : Counts) : Nat := n.classes + n.interfaces + n.methods + n.fields

/-- The counts of a sequence of lines. -/
def Counts.ofKinds (kinds : List (Option Kind)) : Counts := kinds.foldl Counts.add {}

theorem Counts.total_add (n : Counts) (k : Option Kind) :
    (n.add k).total = n.total + k.toList.length := by
  rcases k with _ | ⟨_ | _ | _ | _⟩ <;> simp [Counts.add, Counts.total] <;> omega

end DocStub.Declaration

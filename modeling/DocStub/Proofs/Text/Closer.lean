import Mathlib.Algebra.GroupWithZero.Nat
import Mathlib.Data.List.Infix
import DocStub.Proofs.Text.LetterCase

/-!
# Counting the places where a comment ends

A comment ends at the first `*/`, wherever that stands.  `closers t` is the number of places of `t` where
`*/` starts.

**Pieces.**  `closers_append`: the closers of two texts add up, unless the seam puts an asterisk in front
of a slash.  Fixed texts around a piece never do (`closers_framed`), and neither do lines with their
endings (`closers_flatMap`).

**Occurrence.**  `closers_eq_zero_iff`: a text without closers is one in which `*/` does not occur.

**Letter case.**  `closers_lowercase`: lower-casing keeps every closer and makes no new one.
-/

namespace DocStub.Text

/-- What ends a comment. -/
def closer : List Char := "*/".toList

/-- The number of places of a text where a closer starts. -/
def closers (t : List Char) : Nat := t.tails.countP closer.isPrefixOf

@[simp] lemma closers_nil : closers [] = 0 := by decide

lemma closers_cons (c : Char) (t : List Char) :
    closers (c :: t) = closers t + if c = '*' ∧ t.head? = some '/' then 1 else 0 := by
  have hplace : closer.isPrefixOf (c :: t) = true ↔ c = '*' ∧ t.head? = some '/' := by
    have hsplit : closer = ['*', '/'] := by decide
    rw [List.isPrefixOf_iff_prefix, hsplit, List.cons_prefix_cons, List.singleton_prefix_iff_head?_eq_some]
    exact and_congr_left' eq_comm
  unfold closers
  rw [List.tails_cons, List.countP_cons]
  simp only [hplace]

/-! ## Pieces -/

lemma closers_append {a b : List Char} (h : a.getLast? = some '*' → b.head? ≠ some '/') :
    closers (a ++ b) = closers a + closers b := by
  induction a with
  | nil => simp
  | cons c a ih =>
      rw [List.cons_append, closers_cons, closers_cons]
      cases a with
      | nil =>
          -- `c` is the last character in front of the seam
          have hseam : ¬ (c = '*' ∧ b.head? = some '/') := by
            rintro ⟨rfl, hb⟩
            exact h rfl hb
          simp [hseam]
      | cons d a =>
          rw [List.getLast?_cons_cons] at h
          rw [ih h, List.cons_append, List.head?_cons, List.head?_cons]
          omega

lemma closers_eq_zero_iff {t : List Char} : closers t = 0 ↔ ¬ closer <:+: t := by
  simp only [closers, List.countP_eq_zero, List.mem_tails, List.isPrefixOf_iff_prefix]
  constructor
  · intro h hin
    obtain ⟨s, hpre, hsuf⟩ := List.infix_iff_prefix_suffix.mp hin
    exact h s hsuf hpre
  · intro h s hsuf hpre
    exact h (hpre.isInfix.trans hsuf.isInfix)

lemma closers_of_star_not_mem {t : List Char} (h : '*' ∉ t) : closers t = 0 :=
  closers_eq_zero_iff.mpr fun hin => h (hin.subset (by decide))

lemma closers_of_slash_not_mem {t : List Char} (h : '/' ∉ t) : closers t = 0 :=
  closers_eq_zero_iff.mpr fun hin => h (hin.subset (by decide))

/-- A frame without the two signs adds no closer. -/
lemma closers_framed {a s b : List Char} (ha : '*' ∉ a) (hb : '/' ∉ b) :
    closers (a ++ s ++ b) = closers s := by
  have hleft : (a ++ s).getLast? = some '*' → b.head? ≠ some '/' :=
    fun _ h => hb (List.mem_of_mem_head? h)
  have hright : a.getLast? = some '*' → s.head? ≠ some '/' :=
    fun h => absurd (List.mem_of_getLast? h) ha
  rw [closers_append hleft, closers_append hright, closers_of_star_not_mem ha,
    closers_of_slash_not_mem hb, Nat.zero_add, Nat.add_zero]

/-- Pieces that do not end with an asterisk keep their closers apart. -/
lemma closers_flatMap {α : Type} {f : α → List Char} {as : List α}
    (h : ∀ a ∈ as, (f a).getLast? ≠ some '*') :
    closers (as.flatMap f) = (as.map fun a => closers (f a)).sum := by
  induction as with
  | nil => rfl
  | cons a as ih =>
      obtain ⟨ha, has⟩ := List.forall_mem_cons.mp h
      rw [List.flatMap_cons, closers_append fun hlast => absurd hlast ha, ih has, List.map_cons,
        List.sum_cons]

/-! ## Letter case -/

lemma head?_lowercase_go (before t : List Char) :
    (lowercase.go before t).head? = some '/' ↔ t.head? = some '/' := by
  cases t with
  | nil => rfl
  | cons c t =>
      rw [lowercase_go_cons, List.head?_append_of_ne_nil _ (lowerIn_ne_nil before c t)]
      constructor
      · intro h
        have hsign : IsSign c := isSign_of_mem_lowerIn (List.mem_of_mem_head? h) (by decide)
        rw [lowerIn_of_isSign hsign] at h
        exact h
      · intro h
        obtain rfl := Option.some.inj h
        rw [lowerIn_of_isSign (by decide)]
        rfl

theorem closers_lowercase (t : List Char) : closers (lowercase t) = closers t := by
  suffices h : ∀ before, closers (lowercase.go before t) = closers t from h []
  induction t with
  | nil => intro before; rfl
  | cons c t ih =>
      intro before
      rw [lowercase_go_cons, closers_cons]
      by_cases hsign : IsSign c
      · rw [lowerIn_of_isSign hsign, List.singleton_append, closers_cons, ih]
        simp only [head?_lowercase_go]
      · have hstar : '*' ∉ lowerIn before c t :=
          fun h => hsign (isSign_of_mem_lowerIn h (by decide))
        have hseam : (lowerIn before c t).getLast? = some '*' →
            (lowercase.go (c :: before) t).head? ≠ some '/' :=
          fun h => absurd (List.mem_of_getLast? h) hstar
        have hc : ¬ (c = '*' ∧ t.head? = some '/') := by
          rintro ⟨rfl, -⟩
          exact hsign (by decide)
        rw [closers_append hseam, closers_of_star_not_mem hstar, ih, if_neg hc]
        omega

end DocStub.Text

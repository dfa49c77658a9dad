import Mathlib.Data.List.Lex
import Mathlib.Data.List.Sort
import DocStub.Files.Survey

/-!
# Paths in order

The paths that a search came across are sorted, and of those that are the same path the first spelling
stays.  Neighbours are compared and nothing else, so it matters that the order keeps the spellings of a path
together.

**The order of paths.**  It is the order of their keys (`isBefore_iff`), and paths with the same key are
the same (`key_eq_iff`), so of two paths one comes before the other unless they are the same
(`same_of_isBefore_eq_false`).

**The first spelling.**  Sorting keeps the spellings of a path in their order (`firstSpelling?_mergeSort`),
and dropping repeats keeps the first of them (`mem_dropRepeats_iff`).

**Arranged paths.**  So a list of paths is arranged to the first spellings in it (`mem_arrange_iff`), in
order and each of them once (`pairwise_arrange`), and this says all about the result (`arrange_congr`).
-/

namespace DocStub.Files

namespace Path

variable {p q : Path}

/-! ## The order of paths -/

lemma Component.key_injective : Function.Injective Component.key := by
  intro c d h
  cases c <;> cases d <;> simp [Component.key] at h ⊢
  exact (List.map_injective_iff.mpr fun a b => Char.toNat_inj.mp) h

/-- Paths are the same if their keys are. -/
lemma key_eq_iff : p.key = q.key ↔ p.Same q :=
  (List.map_injective_iff.mpr Component.key_injective).eq_iff

lemma isBeforeIn_iff {a b : List Nat} : isBefore.isBeforeIn a b = true ↔ a < b := by
  rw [isBefore.isBeforeIn, List.lex_eq_true_iff_lex]
  simp only [Nat.blt_eq]
  exact (List.lt_iff_lex_lt a b).symm

/-- The order of paths is the order of their keys. -/
lemma isBefore_iff : p.isBefore q = true ↔ p.key < q.key := by
  rw [isBefore, List.lex_eq_true_iff_lex]
  simp only [isBeforeIn_iff]
  exact (List.lt_iff_lex_lt p.key q.key).symm

lemma isBefore_eq_false_iff : p.isBefore q = false ↔ q.key ≤ p.key := by
  rw [Bool.eq_false_iff, ne_eq, isBefore_iff, not_lt]

/-- Of two different paths one comes before the other. -/
lemma same_of_isBefore_eq_false (hpq : p.isBefore q = false) (hqp : q.isBefore p = false) : p.Same q :=
  key_eq_iff.mp (le_antisymm (isBefore_eq_false_iff.mp hqp) (isBefore_eq_false_iff.mp hpq))

end Path

variable {p q : Path} {ps ps' : List Path}

/-! ## The first spelling -/

/-- The first spelling of a path in a list of paths. -/
def firstSpelling? (ps : List Path) (p : Path) : Option Path := ps.find? fun q => p.Same q

lemma firstSpelling?_cons :
    firstSpelling? (q :: ps) p = if p.Same q then some q else firstSpelling? ps p := by
  rw [firstSpelling?, List.find?_cons]
  by_cases h : p.Same q <;> simp [h, firstSpelling?]

lemma mem_and_same_of_firstSpelling? (h : firstSpelling? ps p = some q) : q ∈ ps ∧ p.Same q := by
  rw [firstSpelling?] at h
  exact ⟨List.mem_of_find?_eq_some h, by simpa using List.find?_some h⟩

lemma firstSpelling?_eq_none_iff : firstSpelling? ps p = none ↔ ∀ q ∈ ps, ¬ p.Same q := by
  simp [firstSpelling?]

/-- In a list with one spelling of each path, the order does not matter. -/
lemma firstSpelling?_congr (hmem : ∀ p, p ∈ ps ↔ p ∈ ps') (hone : ∀ p ∈ ps, ∀ q ∈ ps, p.Same q → p = q)
    (p : Path) : firstSpelling? ps p = firstSpelling? ps' p := by
  cases hfirst : firstSpelling? ps' p with
  | none =>
      rw [firstSpelling?_eq_none_iff] at hfirst ⊢
      exact fun q hq => hfirst q ((hmem q).mp hq)
  | some q =>
      obtain ⟨hq, hpq⟩ := mem_and_same_of_firstSpelling? hfirst
      cases hfirst' : firstSpelling? ps p with
      | none => exact absurd hpq (firstSpelling?_eq_none_iff.mp hfirst' q ((hmem q).mpr hq))
      | some r =>
          obtain ⟨hr, hpr⟩ := mem_and_same_of_firstSpelling? hfirst'
          rw [hone r hr q ((hmem q).mpr hq) (hpr.symm.trans hpq)]

/-- Lists put together from such lists have the same first spellings. -/
lemma firstSpelling?_flatMap_congr {α : Type} {as : List α} {f g : α → List Path}
    (h : ∀ a ∈ as, firstSpelling? (f a) p = firstSpelling? (g a) p) :
    firstSpelling? (as.flatMap f) p = firstSpelling? (as.flatMap g) p := by
  induction as with
  | nil => rfl
  | cons a as ih =>
      obtain ⟨ha, has⟩ := List.forall_mem_cons.mp h
      have hrest := ih has
      rw [firstSpelling?, firstSpelling?] at ha hrest
      rw [firstSpelling?, firstSpelling?, List.flatMap_cons, List.flatMap_cons, List.find?_append,
        List.find?_append, ha, hrest]

/-! ## Sorting, and dropping repeats -/

/-- Whether a path may stand in front of another one. -/
def mayPrecede (p q : Path) : Bool := !q.isBefore p

lemma mayPrecede_iff : mayPrecede p q = true ↔ p.key ≤ q.key := by
  rw [mayPrecede, Bool.not_eq_true', Path.isBefore_eq_false_iff]

lemma mayPrecede_trans (p q r : Path) (hpq : mayPrecede p q = true) (hqr : mayPrecede q r = true) :
    mayPrecede p r = true := by
  rw [mayPrecede_iff] at *
  exact le_trans hpq hqr

lemma mayPrecede_total (p q : Path) : (mayPrecede p q || mayPrecede q p) = true := by
  rw [Bool.or_eq_true, mayPrecede_iff, mayPrecede_iff]
  exact le_total p.key q.key

/-- Sorting keeps the spellings of a path in their order. -/
lemma filter_same_mergeSort (ps : List Path) (p : Path) :
    (ps.mergeSort mayPrecede).filter (fun q => p.Same q) = ps.filter (fun q => p.Same q) := by
  have hperm := (List.mergeSort_perm ps mayPrecede).filter (fun q => p.Same q)
  have hordered : (ps.filter fun q => p.Same q).Pairwise fun q r => mayPrecede q r = true := by
    refine List.pairwise_of_forall_mem_list fun q hq r hr => ?_
    have hqr : q.key = r.key := by
      rw [← Path.key_eq_iff.mpr (of_decide_eq_true (List.mem_filter.mp hq).2),
        Path.key_eq_iff.mpr (of_decide_eq_true (List.mem_filter.mp hr).2)]
    exact mayPrecede_iff.mpr hqr.le
  have hsub := List.sublist_mergeSort mayPrecede_trans mayPrecede_total hordered List.filter_sublist
  have hfiltered := hsub.filter (fun q => p.Same q)
  simp only [List.filter_filter, Bool.and_self] at hfiltered
  exact (hfiltered.eq_of_length hperm.length_eq.symm).symm

lemma firstSpelling?_mergeSort (ps : List Path) (p : Path) :
    firstSpelling? (ps.mergeSort mayPrecede) p = firstSpelling? ps p := by
  rw [firstSpelling?, firstSpelling?, ← List.head?_filter, filter_same_mergeSort, List.head?_filter]

lemma dropRepeats_sublist (ps : List Path) : (dropRepeats ps).Sublist ps := by
  fun_induction dropRepeats ps with
  | case1 p q ps hsame ih => exact ih.trans ((List.sublist_cons_self q ps).cons_cons p)
  | case2 p q ps hother ih => exact ih.cons_cons p
  | case3 ps => exact List.Sublist.refl ps

/-- Neighbours that are not the same are in order, and so are all paths behind them. -/
lemma isBefore_of_mem_cons (hsorted : (p :: q :: ps).Pairwise fun a b => mayPrecede a b = true)
    (hother : ¬ p.Same q) {r : Path} (hr : r ∈ q :: ps) : p.isBefore r = true := by
  obtain ⟨hfront, hrest⟩ := List.pairwise_cons.mp hsorted
  have hqp : q.isBefore p = false := by simpa [mayPrecede] using hfront q List.mem_cons_self
  have hpq : p.isBefore q = true := by
    by_contra hbehind
    exact hother (Path.same_of_isBefore_eq_false (Bool.eq_false_iff.mpr hbehind) hqp)
  rw [Path.isBefore_iff] at hpq ⊢
  rcases List.mem_cons.mp hr with rfl | hr
  · exact hpq
  · exact lt_of_lt_of_le hpq (mayPrecede_iff.mp (List.rel_of_pairwise_cons hrest hr))

lemma pairwise_dropRepeats (hsorted : ps.Pairwise fun a b => mayPrecede a b = true) :
    (dropRepeats ps).Pairwise fun a b => a.isBefore b = true := by
  fun_induction dropRepeats ps with
  | case1 p q ps hsame ih => exact ih (hsorted.sublist ((List.sublist_cons_self q ps).cons_cons p))
  | case2 p q ps hother ih =>
      refine List.pairwise_cons.mpr ⟨fun r hr => ?_, ih hsorted.of_cons⟩
      exact isBefore_of_mem_cons hsorted hother ((dropRepeats_sublist (q :: ps)).subset hr)
  | case3 ps hshort =>
      rcases ps with _ | ⟨p, _ | ⟨q, ps⟩⟩
      · exact List.Pairwise.nil
      · exact List.pairwise_singleton _ p
      · exact (hshort p q ps rfl).elim

/-- Of the spellings of a path the first one stays. -/
lemma mem_dropRepeats_iff (hsorted : ps.Pairwise fun a b => mayPrecede a b = true) :
    p ∈ dropRepeats ps ↔ firstSpelling? ps p = some p := by
  fun_induction dropRepeats ps with
  | case1 q r ps hsame ih =>
      -- the path that is dropped is the first spelling of none
      rw [ih (hsorted.sublist ((List.sublist_cons_self r ps).cons_cons q)), firstSpelling?_cons,
        firstSpelling?_cons, firstSpelling?_cons]
      split_ifs with hq hr
      · rfl
      · exact absurd (hr.trans hsame.symm) hq
      · rfl
  | case2 q r ps hother ih =>
      rw [List.mem_cons, ih hsorted.of_cons, firstSpelling?_cons (p := p) (q := q)]
      split_ifs with hq
      · rw [Option.some.injEq, eq_comm (a := q), or_iff_left_iff_imp]
        intro hfirst
        have hbefore := isBefore_of_mem_cons hsorted hother (mem_and_same_of_firstSpelling? hfirst).1
        rw [Path.isBefore_iff, Path.key_eq_iff.mpr hq] at hbefore
        exact absurd hbefore (lt_irrefl _)
      · exact or_iff_right fun h => hq (h ▸ rfl)
  | case3 ps hshort =>
      rcases ps with _ | ⟨q, _ | ⟨r, ps⟩⟩
      · simp [firstSpelling?]
      · rw [firstSpelling?_cons, List.mem_singleton]
        split_ifs with hq
        · rw [Option.some.injEq, eq_comm]
        · simpa [firstSpelling?] using fun h : p = q => hq (h ▸ rfl)
      · exact (hshort q r ps rfl).elim

/-! ## Arranged paths -/

lemma arrange_eq (ps : List Path) : arrange ps = dropRepeats (ps.mergeSort mayPrecede) := rfl

lemma pairwise_mergeSort_mayPrecede (ps : List Path) :
    (ps.mergeSort mayPrecede).Pairwise fun a b => mayPrecede a b = true :=
  List.pairwise_mergeSort mayPrecede_trans mayPrecede_total ps

/-- Arranged paths are in order, and no two of them are the same. -/
theorem pairwise_arrange (ps : List Path) : (arrange ps).Pairwise fun a b => a.isBefore b = true :=
  pairwise_dropRepeats (pairwise_mergeSort_mayPrecede ps)

/-- Arranged are the first spellings of all paths. -/
theorem mem_arrange_iff : p ∈ arrange ps ↔ firstSpelling? ps p = some p := by
  rw [arrange_eq, mem_dropRepeats_iff (pairwise_mergeSort_mayPrecede ps), firstSpelling?_mergeSort]

/-- No path is made up. -/
lemma mem_of_mem_arrange (h : p ∈ arrange ps) : p ∈ ps :=
  (mem_and_same_of_firstSpelling? (mem_arrange_iff.mp h)).1

/-- **Lists with the same first spellings are arranged alike.** -/
theorem arrange_congr (h : ∀ p, firstSpelling? ps p = firstSpelling? ps' p) : arrange ps = arrange ps' := by
  have hirrefl : Std.Irrefl fun a b : Path => a.isBefore b = true :=
    ⟨fun a ha => lt_irrefl _ (Path.isBefore_iff.mp ha)⟩
  have hantisymm : Std.Antisymm fun a b : Path => a.isBefore b = true :=
    ⟨fun a b hab hba => absurd (Path.isBefore_iff.mp hab) (lt_asymm (Path.isBefore_iff.mp hba))⟩
  refine (pairwise_arrange ps).eq_of_mem_iff (pairwise_arrange ps') fun p => ?_
  rw [mem_arrange_iff, mem_arrange_iff, h]

end DocStub.Files

import Mathlib.Logic.Function.Iterate
import DocStub.Proofs.Source.Accounting

/-!
# Documenting twice

A documented text has nothing left to document.  A second pass judges other lines than the first one: the
lines of the comments are new, and the lines below them have new neighbours.  `judgedAfter p ls` makes the
neighbour explicit, and three facts settle the second pass.

**New lines.**  A line of a comment starts with a slash or an asterisk, blanks aside, so it declares
nothing, whatever stands before it (`kind?_eq_none_of_mem_commentLines`).

**Documented lines.**  The last line of a comment closes it, blanks and a carriage return aside
(`exists_commentLines_eq_append`), so the line below it counts as documented.

**Other lines.**  They keep the line before them, because every entry ends with the line that it is about.
This is what carries the induction in `forall_kind?_written`.
-/

namespace DocStub.Source

open Comment Declaration Text

variable {e : Entry}

lemma allBlank_indentation (c : List Char) : AllBlank (indentation c) :=
  fun _ h => List.mem_takeWhile_imp h

lemma Ending.allBlank_mark (e : Ending) : AllBlank e.mark := by
  cases e <;> decide

/-! ## Lines of a comment -/

lemma exists_ink_of_mem_textLines {b : Block} {s : List Char} (hs : s ∈ b.textLines) :
    ∃ g c r, s = g ++ c :: r ∧ AllBlank g ∧ isBlank c = false ∧ isWord c = false := by
  simp only [Block.textLines, List.mem_append, List.mem_singleton, List.mem_map] at hs
  rcases hs with (rfl | ⟨x, -, rfl⟩) | rfl
  · exact ⟨[], '/', "**".toList, rfl, by decide, by decide, by decide⟩
  · exact ⟨[' '], '*', ' ' :: x, rfl, by decide, by decide, by decide⟩
  · exact ⟨[' '], '*', ['/'], rfl, by decide, by decide, by decide⟩

lemma kind?_eq_none_of_mem_commentLines (hlf : '\n' ∉ e.line.content) {l : Line}
    (hl : l ∈ e.commentLines) (previous : List Char) : kind? (trim l.content) previous = none := by
  have hline : '\n' ∉ trim l.content :=
    fun h => (Entry.forall_commentLines hlf l hl).2 (mem_of_mem_trim h)
  cases hkind : e.kind? with
  | none =>
      rw [Entry.commentLines_of_none hkind] at hl
      exact absurd hl List.not_mem_nil
  | some kind =>
      rw [Entry.commentLines_of_some hkind] at hl
      obtain ⟨s, hs, rfl⟩ := List.mem_map.mp hl
      obtain ⟨g, c, r, rfl, hg, hblank, hword⟩ := exists_ink_of_mem_textLines hs
      have hfront : AllBlank (indentation e.line.content ++ g) :=
        allBlank_append.mpr ⟨allBlank_indentation _, hg⟩
      obtain ⟨u, hu⟩ := exists_trim_append_cons hfront hblank
        (r ++ (Ending.ofContent e.line.content).mark)
      simp only [List.append_assoc, List.cons_append] at hu hline ⊢
      rw [hu] at hline ⊢
      exact kind?_eq_none_of_head hblank hword hline previous

/-! ## The line below a comment -/

lemma trim_closing {g m : List Char} (hg : AllBlank g) (hm : AllBlank m) :
    trim (g ++ " */".toList ++ m) = "*/".toList := by
  have hfront : AllBlank (g ++ [' ']) := allBlank_append.mpr ⟨hg, by decide⟩
  have hsplit : g ++ " */".toList ++ m = (g ++ [' ']) ++ '*' :: ('/' :: m) := by simp
  have hrest : '*' :: '/' :: m = "*/".toList ++ m := by simp
  rw [hsplit, trim, skipBlanks_append hfront, skipBlanks_cons (by decide), hrest,
    dropTrailingBlanks_append hm]
  decide

/-- A comment ends with a line that closes it. -/
lemma exists_commentLines_eq_append {kind : Kind} (h : e.kind? = some kind) :
    ∃ front l, e.commentLines = front ++ [l] ∧ closesComment l.content = true := by
  rw [Entry.commentLines_of_some h, Block.textLines, List.map_append, List.map_singleton]
  refine ⟨_, _, rfl, ?_⟩
  rw [closesComment_iff, trim_closing (allBlank_indentation _) (Ending.allBlank_mark _)]

lemma kind?_eq_none_of_closesComment {previous : List Char} (h : closesComment previous = true)
    (line : List Char) : kind? line previous = none := by
  rw [kind?, if_pos h]

/-! ## The second pass -/

/-- One entry: judged where it was judged before, its lines declare nothing. -/
lemma forall_kind?_judgedAfter_written {l : Line} (hlf : '\n' ∉ l.content) (p : List Char) :
    ∀ x ∈ judgedAfter p (Entry.ofLine l p).written, x.kind? = none := by
  intro x hx
  have hline : (Entry.ofLine l p).line = l := rfl
  cases hkind : (Entry.ofLine l p).kind? with
  | none =>
      rw [Entry.written, Entry.commentLines_of_none hkind, hline] at hx
      rw [List.mem_singleton.mp hx]
      exact hkind
  | some kind =>
      obtain ⟨front, b, hcomment, hclose⟩ := exists_commentLines_eq_append hkind
      rw [Entry.written, hcomment, hline, judgedAfter_append] at hx
      -- the comment first, judged after whatever stood before the line, and then the line itself
      rcases List.mem_append.mp hx with hx | hx
      · rw [← hcomment] at hx
        obtain ⟨c, hc, previous, rfl⟩ := exists_of_mem_judgedAfter hx
        exact kind?_eq_none_of_mem_commentLines hlf hc previous
      · rw [List.mem_singleton.mp hx]
        exact kind?_eq_none_of_closesComment hclose _

/-- All entries: whatever stands before the lines stands before the documented lines too. -/
lemma forall_kind?_written {ls : List Line} (hls : ∀ l ∈ ls, '\n' ∉ l.content) (p : List Char) :
    ∀ x ∈ judgedAfter p ((judgedAfter p ls).flatMap Entry.written), x.kind? = none := by
  induction ls generalizing p with
  | nil => exact fun x hx => absurd hx List.not_mem_nil
  | cons l ls ih =>
      -- `l` ends what its entry contributes, so `l.content` is what both passes see next
      obtain ⟨hl, hrest⟩ := List.forall_mem_cons.mp hls
      intro x hx
      rw [judgedAfter_cons, List.flatMap_cons, Entry.written, judgedAfter_append] at hx
      rcases List.mem_append.mp hx with hx | hx
      · exact forall_kind?_judgedAfter_written hl p x hx
      · exact ih hrest l.content x hx

/-- **Nothing is left to document.** -/
theorem forall_kind?_entries_document (t : List Char) :
    ∀ e ∈ entries (document t).text, e.kind? = none := by
  rw [entries_eq_judgedAfter, lines_text_document, entries_eq_judgedAfter]
  exact forall_kind?_written (areLines_lines t).newline_not_mem []

/-- **Documenting is idempotent.**  A documented text comes back unchanged, without a new comment of any
kind, because none of its lines declares anything after the line before it.  So it comes back after any
number of passes. -/
theorem document_document (t : List Char) :
    (document (document t).text).text = (document t).text ∧
      (document (document t).text).blockCount = 0 ∧
      (∀ kind, (document (document t).text).byKind.get kind = 0) ∧
      (∀ i l, (lines (document t).text)[i]? = some l →
        kind? (trim l.content) (contentBefore (lines (document t).text) i) = none) ∧
      ∀ n, (fun x => (document x).text)^[n] (document t).text = (document t).text := by
  have hnone : ∀ e ∈ entries (document t).text, e.kind? = none := forall_kind?_entries_document t
  have htext : (document (document t).text).text = (document t).text :=
    text_document_eq_iff.mpr hnone
  refine ⟨htext, blockCount_document_eq_zero_iff.mpr hnone, ?_, ?_, ?_⟩
  · intro kind
    show (Counts.ofKinds ((entries (document t).text).map Entry.kind?)).get kind = 0
    rw [Counts.get_ofKinds, List.countP_map, List.countP_eq_zero]
    intro e he
    simp [hnone e he]
  · intro i l hl
    have hentry : (entries (document t).text)[i]? =
        some (Entry.ofLine l (contentBefore (lines (document t).text) i)) := by
      rw [getElem?_entries, hl, Option.map_some]
    exact hnone _ (List.mem_of_getElem? hentry)
  · intro n
    exact Function.iterate_fixed htext n

end DocStub.Source

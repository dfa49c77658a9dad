import DocStub.Proofs.Source.Accounting

/-!
# Documenting a text in parts

A text is documented line by line, and a line is judged with one look back.  So a text that is cut behind a
line feed is documented part by part, but for that look: the first line of the second part has lost the
line before it.

**Cutting.**  `entries_append`: the second part is judged after the last line of the first one, whatever
that line is.  The cut goes through no line (`lines_append`), so nothing else is different.

**Looking back.**  All that a line sees of the line before it is whether it closes a comment.  Where the
last line of the first part does not, the second part is judged as if it stood alone
(`entries_append_of_open`), and all that is counted adds up.
-/

namespace DocStub.Source

open Declaration Text

variable {a : List Char}

/-- The content of the last line of a text, empty if there is no line. -/
def lastContent (t : List Char) : List Char := ((lines t).getLast?.map Line.content).getD []

/-! ## Cutting -/

/-- The part behind a cut is judged after the last line of the part in front of it. -/
lemma entries_append (ha : a = [] ∨ a.getLast? = some '\n') (b : List Char) :
    entries (a ++ b) = entries a ++ judgedAfter (lastContent a) (lines b) := by
  rw [entries_eq_judgedAfter, entries_eq_judgedAfter, lines_append ha, lastContent]
  obtain hnone | ⟨front, l, hlast⟩ := List.eq_nil_or_concat' (lines a)
  · rw [hnone]
    rfl
  · rw [hlast, judgedAfter_append, List.getLast?_concat]
    rfl

/-! ## Looking back -/

lemma closesComment_lastContent (ha : ∀ l, (lines a).getLast? = some l → ¬ "*/".toList <:+ trim l.content) :
    closesComment (lastContent a) = false := by
  rw [lastContent]
  cases hlast : (lines a).getLast? with
  | none => decide
  | some l =>
      rw [Bool.eq_false_iff, ne_eq, closesComment_iff]
      exact ha l hlast

/-- Where no comment is left closed in front of the cut, the parts are judged each for itself. -/
lemma entries_append_of_open (ha : a = [] ∨ a.getLast? = some '\n')
    (hopen : ∀ l, (lines a).getLast? = some l → ¬ "*/".toList <:+ trim l.content) (b : List Char) :
    entries (a ++ b) = entries a ++ entries b := by
  have hlook : closesComment (lastContent a) = closesComment [] := closesComment_lastContent hopen
  rw [entries_append ha, judgedAfter_congr hlook, ← entries_eq_judgedAfter]

/-- **Documenting is local.**  A text that is cut behind a line feed, where no comment has just been
closed, is documented part by part: the documented parts make up the documented text, and their numbers
add up to its numbers. -/
theorem document_append (a b : List Char) (hcut : a = [] ∨ a.getLast? = some '\n')
    (hopen : ∀ l, (lines a).getLast? = some l → ¬ "*/".toList <:+ trim l.content) :
    (document (a ++ b)).text = (document a).text ++ (document b).text ∧
      (document (a ++ b)).lineCount = (document a).lineCount + (document b).lineCount ∧
      (document (a ++ b)).blockCount = (document a).blockCount + (document b).blockCount ∧
      ∀ kind, (document (a ++ b)).byKind.get kind =
        (document a).byKind.get kind + (document b).byKind.get kind := by
  have hentries := entries_append_of_open hcut hopen b
  refine ⟨?_, ?_, ?_, fun kind => ?_⟩
  · show (entries (a ++ b)).flatMap Entry.text = _
    rw [hentries, List.flatMap_append]
    rfl
  · show (entries (a ++ b)).length = _
    rw [hentries, List.length_append]
    rfl
  · rw [blockCount_document, blockCount_document, blockCount_document, hentries, List.countP_append]
  · rw [get_byKind_document, get_byKind_document, get_byKind_document, hentries, List.countP_append]

/-- The cut is behind a line with a comment that something else follows. -/
theorem document_append_class_field :
    let a := "class A { /* a */ }\r\n".toList
    let b := "int x;".toList
    a.getLast? = some '\n' ∧
      (∀ l, (lines a).getLast? = some l → ¬ "*/".toList <:+ trim l.content) ∧
      (document (a ++ b)).text = (document a).text ++ (document b).text ∧
      (document (a ++ b)).lineCount = (document a).lineCount + (document b).lineCount ∧
      (document (a ++ b)).blockCount = (document a).blockCount + (document b).blockCount ∧
      ∀ kind, (document (a ++ b)).byKind.get kind =
        (document a).byKind.get kind + (document b).byKind.get kind := by
  intro a b
  have hcut : a.getLast? = some '\n' := by decide
  have hlast : (lines a).getLast? = some ⟨"class A { /* a */ }\r".toList, true⟩ := by decide
  have hopen : ∀ l, (lines a).getLast? = some l → ¬ "*/".toList <:+ trim l.content := by
    intro l hl
    obtain rfl := Option.some.inj (hlast.symm.trans hl)
    decide
  exact ⟨hcut, hopen, document_append a b (Or.inr hcut) hopen⟩

end DocStub.Source

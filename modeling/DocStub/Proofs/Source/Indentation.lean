import DocStub.Proofs.Source.Accounting

/-!
# Indenting a text

Blanks in front of every line of a text change nothing but the indentation of its documented form.

**Lines.**  `indented w t` puts `w` in front of every line of `t`.  As long as `w` has no line feed, the
lines stay the same lines (`lines_indented`).

**Kinds.**  The blanks stand outside of what is judged, also for the line below, so every line declares
what it declared (`entries_indented`).

**Comments.**  A comment takes over the longer indentation, and its line ending is the old one: a line
that declares something is not empty, so the blanks in front of it do not reach its last character
(`Entry.commentLines_indented`).
-/

namespace DocStub.Source

open Comment Declaration Text

/-- The line with some characters in front of it. -/
def Line.indented (w : List Char) (l : Line) : Line := { l with content := w ++ l.content }

/-- The entry with some characters in front of its line. -/
def Entry.indented (w : List Char) (e : Entry) : Entry := { e with line := e.line.indented w }

/-- The text with some characters in front of every line. -/
def indented (w t : List Char) : List Char := (lines t).flatMap fun l => w ++ l.text

variable {w t : List Char} {e : Entry}

/-! ## Lines -/

lemma flatMap_text_map_indented (w : List Char) (ls : List Line) :
    (ls.map (Line.indented w)).flatMap Line.text = ls.flatMap fun l => w ++ l.text := by
  rw [List.flatMap_map]
  exact List.flatMap_congr fun l _ => List.append_assoc w l.content _

lemma AreLines.map_indented {ls : List Line} (h : AreLines ls) (hlf : '\n' ∉ w) :
    AreLines (ls.map (Line.indented w)) := by
  induction h with
  | nil => exact AreLines.nil
  | last hne hc =>
      exact AreLines.last (List.append_ne_nil_of_right_ne_nil w hne) (List.not_mem_append hlf hc)
  | cons hc _ ih => exact AreLines.cons (List.not_mem_append hlf hc) ih

lemma lines_indented (hlf : '\n' ∉ w) (t : List Char) :
    lines (indented w t) = (lines t).map (Line.indented w) := by
  rw [indented, ← flatMap_text_map_indented, lines_flatMap_text ((areLines_lines t).map_indented hlf)]

/-! ## Kinds -/

lemma entries_indented (hw : AllBlank w) (hlf : '\n' ∉ w) (t : List Char) :
    entries (indented w t) = (entries t).map (Entry.indented w) := by
  rw [entries_eq_judgedAfter, lines_indented hlf,
    judgedAfter_map (fun l _ => trim_append_left hw l.content) rfl, ← entries_eq_judgedAfter]
  rfl

lemma content_ne_nil_of_mem_entries (he : e ∈ entries t) (hkind : e.kind? ≠ none) :
    e.line.content ≠ [] := by
  obtain ⟨l, -, previous, rfl⟩ := exists_of_mem_judgedAfter he
  intro hnil
  have hempty : l.content = [] := hnil
  exact hkind (by rw [Entry.ofLine, hempty]; exact kind?_nil previous)

/-! ## Comments -/

lemma indentation_append (hw : AllBlank w) (c : List Char) : indentation (w ++ c) = w ++ indentation c :=
  List.takeWhile_append_of_pos hw

lemma Ending.ofContent_append {c : List Char} (hne : c ≠ []) (w : List Char) :
    Ending.ofContent (w ++ c) = Ending.ofContent c := by
  rw [Ending.ofContent, Ending.ofContent, List.getLast?_append_of_ne_nil w hne]

/-- Every line of a comment moves with the line below it. -/
lemma Entry.commentLines_indented (hw : AllBlank w) (hne : e.kind? ≠ none → e.line.content ≠ []) :
    (e.indented w).commentLines = e.commentLines.map (Line.indented w) := by
  have hkind : (e.indented w).kind? = e.kind? := rfl
  have hcontent : (e.indented w).line.content = w ++ e.line.content := rfl
  cases h : e.kind? with
  | none =>
      rw [Entry.commentLines_of_none h, Entry.commentLines_of_none (hkind.trans h), List.map_nil]
  | some kind =>
      have hending := Ending.ofContent_append (hne (by simp [h])) w
      rw [Entry.commentLines_of_some h, Entry.commentLines_of_some (hkind.trans h), hcontent,
        trim_append_left hw, indentation_append hw, hending, List.map_map]
      simp [Line.indented, Block.textLines, compose]

/-- The lines of the documented text move together. -/
lemma lines_text_document_indented (hw : AllBlank w) (hlf : '\n' ∉ w) (t : List Char) :
    lines (document (indented w t)).text = (lines (document t).text).map (Line.indented w) := by
  rw [lines_text_document, lines_text_document, entries_indented hw hlf, List.flatMap_map,
    List.map_flatMap]
  refine List.flatMap_congr fun e he => ?_
  rw [Entry.written, Entry.written, List.map_append,
    Entry.commentLines_indented hw (content_ne_nil_of_mem_entries he)]
  rfl

/-- **Indenting and documenting commute.**  Blanks in front of every line of a text are in front of every
line of its documented form, comments included, and the numbers stay. -/
theorem document_indented (w t : List Char) (hw : AllBlank w) (hlf : '\n' ∉ w) :
    (document (indented w t)).text = indented w (document t).text ∧
      (document (indented w t)).lineCount = (document t).lineCount ∧
      (document (indented w t)).blockCount = (document t).blockCount ∧
      (document (indented w t)).byKind = (document t).byKind := by
  have hentries := entries_indented hw hlf t
  have hkinds : (document (indented w t)).byKind = (document t).byKind := by
    show Counts.ofKinds ((entries (indented w t)).map Entry.kind?) = _
    rw [hentries, List.map_map]
    rfl
  refine ⟨?_, ?_, congrArg Counts.total hkinds, hkinds⟩
  · calc (document (indented w t)).text
        = (lines (document (indented w t)).text).flatMap Line.text := (flatMap_text_lines _).symm
      _ = ((lines (document t).text).map (Line.indented w)).flatMap Line.text := by
          rw [lines_text_document_indented hw hlf]
      _ = indented w (document t).text := flatMap_text_map_indented w _
  · show (entries (indented w t)).length = _
    rw [hentries, List.length_map]
    rfl

/-- The text has a blank line, a line with a carriage return alone, a documented line, and a last line
without a line feed. -/
theorem document_indented_class :
    let w := "\t\u2003\r".toList
    let t := "class A \x7b // */\r\n    int x;\n\r\n\n  int y;\r\nint z;".toList
    AllBlank w ∧ '\n' ∉ w ∧
      (document (indented w t)).text = indented w (document t).text ∧
      (document (indented w t)).lineCount = (document t).lineCount ∧
      (document (indented w t)).blockCount = (document t).blockCount ∧
      (document (indented w t)).byKind = (document t).byKind := by
  intro w t
  have hw : AllBlank w := by decide
  have hlf : '\n' ∉ w := by decide
  exact ⟨hw, hlf, document_indented w t hw hlf⟩

end DocStub.Source

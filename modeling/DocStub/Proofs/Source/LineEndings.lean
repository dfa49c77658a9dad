import DocStub.Proofs.Source.Accounting

/-!
# Line endings

A line feed ends a line, and where a carriage return stands in front of it, both do.  A comment takes its
line ending from the line below it.

**Uniform endings.**  `IsCrlf` texts have a carriage return in front of every line feed.  Documenting keeps
them so as long as the line that has no line feed, the last one, needs no comment
(`isCrlf_document_iff`): that line has no ending that its comment could take over.  In a text without
carriage returns there is nothing to take over either, and none comes up (`cr_not_mem_text_document`).

**Changed endings.**  `withCrlf` puts a carriage return in front of every line feed.  It stands behind the
content of the line, where it is trimmed away, so it changes neither the kind of a line
(`entries_withCrlf`) nor anything in a comment but the line endings (`Entry.filter_text_withCr`).
-/

namespace DocStub.Source

open Comment Declaration Text

/-- There is a carriage return in front of every line feed. -/
def IsCrlf (t : List Char) : Prop := ∀ a b, t = a ++ '\n' :: b → a.getLast? = some '\r'

/-- The text with a carriage return in front of every line feed. -/
def withCrlf (t : List Char) : List Char := t.flatMap fun c => if c = '\n' then ['\r', '\n'] else [c]

/-- The line with a carriage return in front of its line feed. -/
def Line.withCr (l : Line) : Line := if l.isTerminated then { l with content := l.content ++ ['\r'] } else l

variable {t c : List Char} {e : Entry}

/-! ## Uniform endings -/

lemma Ending.ofContent_of_not_mem (h : '\r' ∉ c) : Ending.ofContent c = .lf :=
  if_neg fun hlast => h (List.mem_of_getLast? hlast)

lemma isCrlf_append_newline (hlf : '\n' ∉ c) :
    IsCrlf (c ++ '\n' :: t) ↔ c.getLast? = some '\r' ∧ IsCrlf t := by
  constructor
  · refine fun h => ⟨h c t rfl, fun a b hab => ?_⟩
    have hlast := h (c ++ '\n' :: a) b (by rw [hab]; simp)
    rw [List.getLast?_append_of_ne_nil _ (List.cons_ne_nil _ a)] at hlast
    cases a with
    | nil => exact absurd hlast (by decide)
    | cons x a => rwa [List.getLast?_cons_cons] at hlast
  · rintro ⟨hc, ht⟩ a b hab
    rcases List.append_eq_append_iff.mp hab with ⟨m, rfl, hm⟩ | ⟨m, rfl, hm⟩
    · cases m with
      | nil => rwa [List.append_nil]
      | cons x m =>
          -- the line feed is behind the first one
          obtain ⟨rfl, hrest⟩ := List.cons.inj hm
          have hlast := ht m b hrest
          have hne : m ≠ [] := by
            rintro rfl
            exact absurd hlast (by decide)
          rw [List.getLast?_append_of_ne_nil _ (List.cons_ne_nil _ m), List.getLast?_cons_of_ne_nil hne,
            hlast]
    · cases m with
      | nil => rwa [List.append_nil] at hc
      | cons x m =>
          obtain ⟨rfl, -⟩ := List.cons.inj hm
          exact absurd (by simp) hlf

/-- The lines show whether the endings are uniform. -/
lemma isCrlf_iff (t : List Char) :
    IsCrlf t ↔ ∀ l ∈ lines t, l.isTerminated = true → l.content.getLast? = some '\r' := by
  induction t using line_induction with
  | empty => exact iff_of_true (fun a b hab => absurd hab (by simp)) (by simp)
  | last c hne hlf =>
      have hnone : IsCrlf c := fun a b hab => absurd (by simp [hab]) hlf
      rw [lines_of_newline_not_mem hne hlf]
      exact iff_of_true hnone (by simp)
  | ended c t hlf ih =>
      rw [isCrlf_append_newline hlf, lines_append_newline hlf, List.forall_mem_cons, ih]
      simp

instance (t : List Char) : Decidable (IsCrlf t) :=
  decidable_of_iff _ (isCrlf_iff t).symm

/-- **When endings stay uniform.**  All line feeds of a documented text follow a carriage return, if those
of the text do, exactly when a last line without a line feed declares nothing or ends with a carriage
return all the same. -/
lemma isCrlf_document_iff (h : IsCrlf t) :
    IsCrlf (document t).text ↔
      ∀ e ∈ entries t, e.kind?.isSome → e.line.isTerminated = false →
        e.line.content.getLast? = some '\r' := by
  rw [isCrlf_iff] at h
  rw [isCrlf_iff, lines_text_document]
  simp only [List.mem_flatMap, forall_exists_index, and_imp]
  have hended : ∀ e ∈ entries t, ∀ l ∈ e.commentLines, l.isTerminated = true :=
    fun e he l hl => (Entry.forall_commentLines ((areLines_lines t).newline_not_mem _ (line_mem_lines he)) l hl).1
  constructor
  · intro hdoc e he hkind _
    obtain ⟨kind, hkind⟩ := Option.isSome_iff_exists.mp hkind
    have hlength := Entry.length_commentLines hkind
    obtain ⟨l, hl⟩ := List.exists_mem_of_length_pos (l := e.commentLines) (by omega)
    have hcr := hdoc l e he (List.mem_append_left _ hl) (hended e he l hl)
    exact (Entry.getLast?_commentLines l hl).mp hcr
  · intro hopen l e he hl hend
    rcases List.mem_append.mp hl with hl | hl
    · rw [Entry.getLast?_commentLines l hl]
      by_cases hend : e.line.isTerminated = true
      · exact h _ (line_mem_lines he) hend
      · refine hopen e he ?_ (by simpa using hend)
        cases hkind : e.kind? with
        | none =>
            rw [Entry.commentLines_of_none hkind] at hl
            exact absurd hl List.not_mem_nil
        | some kind => rfl
    · rw [List.mem_singleton.mp hl] at hend ⊢
      exact h _ (line_mem_lines he) hend

lemma mem_of_mem_lines {l : Line} (hl : l ∈ lines t) {x : Char} (hx : x ∈ l.content) : x ∈ t := by
  rw [← flatMap_text_lines t, List.mem_flatMap]
  exact ⟨l, hl, List.mem_append_left _ hx⟩

lemma Entry.cr_not_mem_text (h : '\r' ∉ e.line.content) : '\r' ∉ e.text := by
  have hline : '\r' ∉ e.line.text := by
    rw [Line.text]
    refine List.not_mem_append h ?_
    split_ifs <;> decide
  have hcomment : '\r' ∉ e.commentText := by
    rw [Entry.commentText]
    cases hkind : e.kind? with
    | none => simp [Entry.block?, hkind]
    | some kind =>
        simp only [Entry.block?, hkind, Option.map_some, Block.text, Ending.ofContent_of_not_mem h,
          List.mem_flatMap, not_exists, not_and]
        intro s hs
        have htext : '\r' ∉ s :=
          not_mem_textLines (by decide) (by decide) (fun hmem => h (mem_of_mem_trim hmem)) hs
        exact List.not_mem_append (List.not_mem_append (not_mem_indentation h) htext) (by decide)
  exact List.not_mem_append hcomment hline

/-- Documenting brings in no carriage return. -/
lemma cr_not_mem_text_document (h : '\r' ∉ t) : '\r' ∉ (document t).text := by
  show '\r' ∉ (entries t).flatMap Entry.text
  simp only [List.mem_flatMap, not_exists, not_and]
  intro e he
  exact Entry.cr_not_mem_text fun hmem => h (mem_of_mem_lines (line_mem_lines he) hmem)

/-- **Line endings of a documented text.**  Where all line feeds of a text follow a carriage return, those
of the documented text do exactly when a last line without a line feed needs no comment or ends with a
carriage return.  Where there is no carriage return, there is none afterwards. -/
theorem lineEndings_document (t : List Char) :
    (IsCrlf t → (IsCrlf (document t).text ↔
        ∀ e ∈ entries t, e.kind?.isSome → e.line.isTerminated = false →
          e.line.content.getLast? = some '\r')) ∧
      ('\r' ∉ t → '\r' ∉ (document t).text) :=
  ⟨isCrlf_document_iff, cr_not_mem_text_document⟩

theorem lineEndings_document_class :
    let t := "class A \x7b\r\n    int x;\r\n\x7d".toList
    let u := "class A \x7b\n    int x;\n\x7d".toList
    IsCrlf t ∧ '\r' ∉ u ∧
      (IsCrlf (document t).text ↔
        ∀ e ∈ entries t, e.kind?.isSome → e.line.isTerminated = false →
          e.line.content.getLast? = some '\r') ∧
      '\r' ∉ (document u).text := by
  intro t u
  have ht : IsCrlf t := by decide
  have hu : '\r' ∉ u := by decide
  exact ⟨ht, hu, (lineEndings_document t).1 ht, (lineEndings_document u).2 hu⟩

/-- The last line has no line feed, so its comment is written without carriage returns. -/
theorem not_isCrlf_document_open_line :
    let t := "package shapes;\r\n\r\ninterface Shape \x7b\x7d".toList
    '\n' ∈ t ∧ IsCrlf t ∧ ¬ IsCrlf (document t).text := by
  intro t
  have ht : IsCrlf t := by decide
  have hopen : ∃ e ∈ entries t, e.kind?.isSome ∧ e.line.isTerminated = false ∧
      e.line.content.getLast? ≠ some '\r' := by decide
  obtain ⟨e, he, hkind, hend, hlast⟩ := hopen
  exact ⟨by decide, ht, fun hdoc => hlast ((isCrlf_document_iff ht).mp hdoc e he hkind hend)⟩

/-! ## Changed endings -/

lemma withCrlf_of_newline_not_mem (hlf : '\n' ∉ t) : withCrlf t = t := by
  have hsame : ∀ c ∈ t, (if c = '\n' then ['\r', '\n'] else [c]) = [c] := by
    intro c hc
    refine if_neg ?_
    rintro rfl
    exact hlf hc
  rw [withCrlf, List.flatMap_congr hsame, List.flatMap_singleton']

lemma withCrlf_append_newline (hlf : '\n' ∉ c) (t : List Char) :
    withCrlf (c ++ '\n' :: t) = (c ++ ['\r']) ++ '\n' :: withCrlf t := by
  rw [withCrlf, List.flatMap_append, ← withCrlf, withCrlf_of_newline_not_mem hlf, List.append_assoc]
  rfl

/-- The lines stay, each with its carriage return. -/
lemma lines_withCrlf (t : List Char) : lines (withCrlf t) = (lines t).map Line.withCr := by
  induction t using line_induction with
  | empty => rfl
  | last c hne hlf =>
      rw [withCrlf_of_newline_not_mem hlf, lines_of_newline_not_mem hne hlf]
      rfl
  | ended c t hlf ih =>
      rw [withCrlf_append_newline hlf, lines_append_newline (List.not_mem_append hlf (by decide)), ih,
        lines_append_newline hlf, List.map_cons]
      rfl

lemma trim_content_withCr (l : Line) : trim l.withCr.content = trim l.content := by
  rw [Line.withCr]
  split_ifs
  · exact trim_append_of_allBlank (by decide) l.content
  · rfl

/-- The lines declare what they declared. -/
lemma entries_withCrlf (t : List Char) :
    entries (withCrlf t) = (entries t).map fun e => ⟨e.line.withCr, e.kind?⟩ := by
  rw [entries_eq_judgedAfter, lines_withCrlf,
    judgedAfter_map (fun l _ => trim_content_withCr l) rfl, ← entries_eq_judgedAfter]

/-! ### Without the carriage returns -/

lemma filter_cr_of_not_mem (h : '\r' ∉ c) : c.filter (· != '\r') = c := by
  rw [List.filter_eq_self]
  intro x hx
  rw [bne_iff_ne]
  rintro rfl
  exact h hx

lemma filter_indentation_concat (h : '\r' ∉ c) :
    (indentation (c ++ ['\r'])).filter (· != '\r') = indentation c := by
  have hcr : ['\r'].takeWhile isBlank = ['\r'] := by decide
  rw [indentation, List.takeWhile_append]
  split_ifs with hall
  · -- the line is blank, and the carriage return is one more blank
    have hwhole : indentation c = c :=
      (List.takeWhile_prefix _).eq_of_length hall
    rw [hcr, List.filter_append, filter_cr_of_not_mem h, hwhole]
    exact List.append_nil c
  · exact filter_cr_of_not_mem (not_mem_indentation h)

lemma Ending.filter_text (x : Ending) : x.text.filter (· != '\r') = ['\n'] := by
  cases x <;> decide

lemma Line.filter_text_withCr {l : Line} (h : '\r' ∉ l.content) :
    l.withCr.text.filter (· != '\r') = l.text := by
  obtain ⟨c, ended⟩ := l
  cases ended with
  | true =>
      show ((c ++ ['\r']) ++ ['\n']).filter (· != '\r') = c ++ ['\n']
      rw [List.filter_append, List.filter_append, filter_cr_of_not_mem h, List.append_assoc]
      rfl
  | false =>
      show (c ++ []).filter (· != '\r') = c ++ []
      rw [List.append_nil, filter_cr_of_not_mem h]

lemma Line.filter_indentation_withCr {l : Line} (h : '\r' ∉ l.content) :
    (indentation l.withCr.content).filter (· != '\r') = indentation l.content := by
  rw [Line.withCr]
  split_ifs
  · exact filter_indentation_concat h
  · exact filter_cr_of_not_mem (not_mem_indentation h)

/-- Without the carriage returns a line and its comment are what they were. -/
lemma Entry.filter_text_withCr (h : '\r' ∉ e.line.content) :
    (Entry.mk e.line.withCr e.kind?).text.filter (· != '\r') = e.text := by
  rw [Entry.text, List.filter_append, Line.filter_text_withCr h, Entry.text]
  congr 1
  rw [Entry.commentText, Entry.commentText]
  cases hkind : e.kind? with
  | none => simp [Entry.block?, hkind]
  | some kind =>
      have hlines : ∀ s ∈ (compose kind (trim e.line.content) (indentation e.line.content)).textLines,
          (indentation e.line.withCr.content ++ s ++ (Ending.ofContent e.line.withCr.content).text).filter
            (· != '\r') = indentation e.line.content ++ s ++ (Ending.ofContent e.line.content).text := by
        intro s hs
        have htext : '\r' ∉ s :=
          not_mem_textLines (by decide) (by decide) (fun hmem => h (mem_of_mem_trim hmem)) hs
        rw [List.filter_append, List.filter_append, Line.filter_indentation_withCr h,
          filter_cr_of_not_mem htext, Ending.filter_text, Ending.ofContent_of_not_mem h]
        rfl
      simp only [Entry.block?, hkind, Option.map_some, Block.text, List.filter_flatMap,
        trim_content_withCr]
      exact List.flatMap_congr hlines

/-- **Line endings do not count.**  A text without carriage returns is documented in the same way after
one was put in front of every line feed: the numbers are the same, and without the carriage returns the
documented texts are the same. -/
theorem document_withCrlf (t : List Char) (h : '\r' ∉ t) :
    (document (withCrlf t)).lineCount = (document t).lineCount ∧
      (document (withCrlf t)).blockCount = (document t).blockCount ∧
      (document (withCrlf t)).byKind = (document t).byKind ∧
      (document (withCrlf t)).text.filter (· != '\r') = (document t).text := by
  have hentries := entries_withCrlf t
  have hkinds : (document (withCrlf t)).byKind = (document t).byKind := by
    show Counts.ofKinds ((entries (withCrlf t)).map Entry.kind?) = _
    rw [hentries, List.map_map]
    rfl
  refine ⟨?_, congrArg Counts.total hkinds, hkinds, ?_⟩
  · show (entries (withCrlf t)).length = _
    rw [hentries, List.length_map]
    rfl
  · show ((entries (withCrlf t)).flatMap Entry.text).filter (· != '\r') = (entries t).flatMap Entry.text
    rw [hentries, List.flatMap_map, List.filter_flatMap]
    refine List.flatMap_congr fun e he => Entry.filter_text_withCr fun hmem => h ?_
    exact mem_of_mem_lines (line_mem_lines he) hmem

/-- The second line is documented already, and the last one has no line feed. -/
theorem document_withCrlf_class :
    let t := "class A \x7b // */\n    int x;\n\n\tint y;".toList
    '\r' ∉ t ∧
      (document (withCrlf t)).lineCount = (document t).lineCount ∧
      (document (withCrlf t)).blockCount = (document t).blockCount ∧
      (document (withCrlf t)).byKind = (document t).byKind ∧
      (document (withCrlf t)).text.filter (· != '\r') = (document t).text := by
  intro t
  have ht : '\r' ∉ t := by decide
  exact ⟨ht, document_withCrlf t ht⟩

end DocStub.Source

import DocStub.Proofs.Comment.Content
import DocStub.Proofs.Source.Lines
import DocStub.Source.Document

/-!
# The lines of a documented text

A documented text is made of the lines of the text and of the lines of its comments.  Both the accounting
and the fixed point of `document` are read off from these lines.

**Judging.**  `judgedAfter p ls` judges the lines `ls` when the line before them has the content `p`.
`judgedAfter_append` cuts such a sequence in two: the second part only needs the last line of the first.
`getElem?_entries` says the same with line numbers.  What stands between the outer blanks of a line decides
what it declares, so lines that are rewritten outside of it keep their kinds (`judgedAfter_map`).

**Writing.**  `Entry.commentLines` are the lines of the comment on an entry, and `Entry.written` adds the
line itself.  `lines_text_document`: these are exactly the lines of the documented text.  The proof rests
on `not_mem_textLines`, since a line feed in a comment would make more lines of it.
-/

namespace DocStub.Source

open Comment Declaration Text

/-- The content of the line before a given one, empty for the first line. -/
def contentBefore (ls : List Line) : Nat → List Char
  | 0 => []
  | i + 1 => (ls[i]?.map Line.content).getD []

/-- What stands between the content of a line and its line feed. -/
def Ending.mark : Ending → List Char
  | lf => []
  | crlf => ['\r']

/-- The lines of the comment on an entry. -/
def Entry.commentLines (e : Entry) : List Line :=
  match e.block? with
  | none => []
  | some b => b.textLines.map fun s =>
      ⟨b.indentation ++ s ++ (Ending.ofContent e.line.content).mark, true⟩

/-- The lines that an entry contributes to the documented text. -/
def Entry.written (e : Entry) : List Line := e.commentLines ++ [e.line]

/-- The entries of lines that come after a line with the given content. -/
def judgedAfter (previous : List Char) (ls : List Line) : List Entry :=
  List.zipWith Entry.ofLine ls (previous :: ls.map Line.content)

/-! ## Judging -/

lemma entries_eq_judgedAfter (t : List Char) : entries t = judgedAfter [] (lines t) := rfl

lemma judgedAfter_cons (p : List Char) (l : Line) (ls : List Line) :
    judgedAfter p (l :: ls) = Entry.ofLine l p :: judgedAfter l.content ls := rfl

lemma exists_of_mem_judgedAfter {e : Entry} {p : List Char} {ls : List Line}
    (h : e ∈ judgedAfter p ls) :
    ∃ l ∈ ls, ∃ previous, e = Entry.ofLine l previous := by
  induction ls generalizing p with
  | nil => exact absurd h List.not_mem_nil
  | cons l ls ih =>
      rw [judgedAfter_cons] at h
      rcases List.mem_cons.mp h with h | h
      · exact ⟨l, List.mem_cons_self, p, h⟩
      · obtain ⟨l', hl', hprevious⟩ := ih h
        exact ⟨l', List.mem_cons_of_mem l hl', hprevious⟩

lemma judgedAfter_append (p : List Char) (front : List Line) (l : Line) (ls : List Line) :
    judgedAfter p (front ++ [l] ++ ls) =
      judgedAfter p (front ++ [l]) ++ judgedAfter l.content ls := by
  induction front generalizing p with
  | nil => rfl
  | cons x front ih =>
      simp only [List.cons_append, judgedAfter_cons]
      rw [ih]

/-- Of the line before, only whether it closes a comment counts. -/
lemma kind?_congr {p q : List Char} (h : closesComment q = closesComment p) (line : List Char) :
    kind? line q = kind? line p := by
  rw [kind?, kind?, h]

lemma judgedAfter_congr {p q : List Char} (h : closesComment q = closesComment p) (ls : List Line) :
    judgedAfter q ls = judgedAfter p ls := by
  cases ls with
  | nil => rfl
  | cons l ls =>
      rw [judgedAfter_cons, judgedAfter_cons, Entry.ofLine, Entry.ofLine, kind?_congr h]

/-- Lines that are rewritten without a change between their outer blanks declare what they declared. -/
lemma judgedAfter_map {f : Line → Line} {ls : List Line} {p q : List Char}
    (hls : ∀ l ∈ ls, trim (f l).content = trim l.content) (hp : trim q = trim p) :
    judgedAfter q (ls.map f) = (judgedAfter p ls).map fun e => ⟨f e.line, e.kind?⟩ := by
  induction ls generalizing p q with
  | nil => rfl
  | cons l ls ih =>
      obtain ⟨hl, hls⟩ := List.forall_mem_cons.mp hls
      have hbefore : closesComment q = closesComment p := by
        rw [closesComment, closesComment, hp]
      rw [List.map_cons, judgedAfter_cons, judgedAfter_cons, ih hls hl, List.map_cons, Entry.ofLine,
        Entry.ofLine, hl, kind?_congr hbefore]

lemma map_line_judgedAfter (p : List Char) (ls : List Line) :
    (judgedAfter p ls).map Entry.line = ls := by
  induction ls generalizing p with
  | nil => rfl
  | cons l ls ih =>
      rw [judgedAfter_cons, List.map_cons, ih]
      rfl

lemma map_line_entries (t : List Char) : (entries t).map Entry.line = lines t :=
  map_line_judgedAfter [] (lines t)

lemma line_mem_lines {t : List Char} {e : Entry} (he : e ∈ entries t) : e.line ∈ lines t := by
  rw [← map_line_entries]
  exact List.mem_map_of_mem he

lemma getElem?_entries (t : List Char) (i : Nat) :
    (entries t)[i]? = (lines t)[i]?.map fun l => Entry.ofLine l (contentBefore (lines t) i) := by
  rw [entries, entriesOf, List.getElem?_zipWith]
  cases i with
  | zero => cases (lines t)[0]? <;> rfl
  | succ i =>
      rw [List.getElem?_cons_succ, List.getElem?_map]
      cases hl : (lines t)[i + 1]? with
      | none => rfl
      | some l =>
          have hi : i + 1 < (lines t).length := (List.getElem?_eq_some_iff.mp hl).1
          have hbefore : (lines t)[i]? = some (lines t)[i] :=
            List.getElem?_eq_getElem (Nat.lt_of_succ_lt hi)
          simp [contentBefore, hbefore]

/-! ## Writing -/

lemma Ending.text_eq (e : Ending) : e.text = e.mark ++ ['\n'] := by
  cases e <;> rfl

lemma Entry.commentLines_of_none {e : Entry} (h : e.kind? = none) : e.commentLines = [] := by
  simp [Entry.commentLines, Entry.block?, h]

lemma Entry.commentLines_of_some {e : Entry} {kind : Kind} (h : e.kind? = some kind) :
    e.commentLines =
      (compose kind (trim e.line.content) (indentation e.line.content)).textLines.map fun s =>
        ⟨indentation e.line.content ++ s ++ (Ending.ofContent e.line.content).mark, true⟩ := by
  simp [Entry.commentLines, Entry.block?, h, compose]

lemma Entry.flatMap_text_written (e : Entry) : e.written.flatMap Line.text = e.text := by
  have hcomment : e.commentLines.flatMap Line.text = e.commentText := by
    unfold Entry.commentLines Entry.commentText
    cases e.block? with
    | none => rfl
    | some b => simp [List.flatMap_map, Block.text, Line.text, Ending.text_eq]
  simp [Entry.written, Entry.text, hcomment]

lemma not_mem_indentation {x : Char} {c : List Char} (h : x ∉ c) : x ∉ indentation c :=
  fun hmem => h (List.takeWhile_subset _ hmem)

/-- A sign that is not written by the comment itself comes from the line. -/
lemma not_mem_textLines {x : Char} {kind : Kind} {line indentation s : List Char}
    (hx : Prose.IsForeign x) (hframe : x ∉ "/** ".toList) (hline : x ∉ line)
    (hs : s ∈ (compose kind line indentation).textLines) : x ∉ s := by
  simp only [Block.textLines, List.mem_append, List.mem_singleton, List.mem_map] at hs
  rcases hs with (rfl | ⟨content, hcontent, rfl⟩) | rfl
  · exact fun h => hframe (List.mem_of_mem_take (i := 3) h)
  · have hnone : x ∉ content := fun h => hline (mem_of_mem_contentLines hx hcontent h)
    refine List.not_mem_append (fun h => hframe ?_) hnone
    exact (by decide : " * ".toList ⊆ "/** ".toList) h
  · exact fun h => hframe ((by decide : " */".toList ⊆ "/** ".toList) h)

/-- The lines of a comment are lines: they are ended, and no line feed breaks them. -/
lemma Entry.forall_commentLines {e : Entry} (hlf : '\n' ∉ e.line.content) :
    ∀ l ∈ e.commentLines, l.isTerminated = true ∧ '\n' ∉ l.content := by
  cases hkind : e.kind? with
  | none => simp [Entry.commentLines_of_none hkind]
  | some kind =>
      have hind : '\n' ∉ indentation e.line.content := not_mem_indentation hlf
      have hmark : '\n' ∉ (Ending.ofContent e.line.content).mark := by
        cases Ending.ofContent e.line.content <;> decide
      have htext : ∀ s ∈ (compose kind (trim e.line.content)
          (indentation e.line.content)).textLines, '\n' ∉ s :=
        fun s => not_mem_textLines (by decide) (by decide) fun h => hlf (mem_of_mem_trim h)
      intro l hl
      rw [Entry.commentLines_of_some hkind] at hl
      obtain ⟨s, hs, rfl⟩ := List.mem_map.mp hl
      refine ⟨rfl, ?_⟩
      simp only [List.mem_append, not_or]
      exact ⟨⟨hind, htext s hs⟩, hmark⟩

lemma areLines_flatMap_written {es : List Entry} (h : AreLines (es.map Entry.line)) :
    AreLines (es.flatMap Entry.written) := by
  induction es with
  | nil => exact AreLines.nil
  | cons e es ih =>
      rw [List.flatMap_cons, Entry.written, List.append_assoc]
      rw [List.map_cons] at h
      have hlf : '\n' ∉ e.line.content := h.newline_not_mem _ List.mem_cons_self
      refine AreLines.append (Entry.forall_commentLines hlf) ?_
      generalize e.line = l at h
      generalize hls : es.map Entry.line = ls at h ih
      cases h with
      | last hne hlf =>
          -- without a line feed the line is the last one
          obtain rfl : es = [] := List.map_eq_nil_iff.mp hls
          exact AreLines.last hne hlf
      | cons hlf h => exact AreLines.cons hlf (ih h)

/-- **The lines of a documented text.** -/
theorem lines_text_document (t : List Char) :
    lines (document t).text = (entries t).flatMap Entry.written := by
  have hlines : AreLines ((entries t).map Entry.line) := by
    rw [map_line_entries]
    exact areLines_lines t
  have htext : (document t).text = ((entries t).flatMap Entry.written).flatMap Line.text := by
    rw [List.flatMap_assoc]
    simp only [Entry.flatMap_text_written]
    rfl
  rw [htext, lines_flatMap_text (areLines_flatMap_written hlines)]

end DocStub.Source

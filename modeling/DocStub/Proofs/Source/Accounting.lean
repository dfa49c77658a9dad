import Mathlib.Algebra.GroupWithZero.Nat
import DocStub.Proofs.Source.Entries

/-!
# The account of a documented text

`document` keeps every line of a text and says how many comments it added.  `Accounting t d` is the list
of what that means, and `document` keeps to it on every text.

**Numbers.**  `get_ofKinds` and `total_ofKinds`: counting line by line gives the number of declarations of
each kind, and of all kinds.

**Comments.**  `Entry.length_commentLines` and `Entry.getLast?_commentLines`: how many lines a comment
has, and that they end as the line below it does.

**Change.**  `text_document_eq_iff`: the text stays the same exactly when no line declares anything.  A
comment adds lines, so the number of lines tells the two cases apart.
-/

namespace DocStub.Declaration

/-- The number of declarations of one kind. -/
def Counts.get (n : Counts) : Kind → Nat
  | .classType => n.classes
  | .interfaceType => n.interfaces
  | .method => n.methods
  | .field => n.fields

/-! ## Numbers -/

lemma Counts.get_add (n : Counts) (k : Option Kind) (kind : Kind) :
    (n.add k).get kind = n.get kind + if k = some kind then 1 else 0 := by
  cases k with
  | none => rfl
  | some k => cases k <;> cases kind <;> rfl

lemma Counts.get_ofKinds (ks : List (Option Kind)) (kind : Kind) :
    (Counts.ofKinds ks).get kind = ks.countP (· = some kind) := by
  suffices h : ∀ n : Counts, (ks.foldl Counts.add n).get kind =
      n.get kind + ks.countP (· = some kind) by
    rw [Counts.ofKinds, h]
    cases kind <;> exact Nat.zero_add _
  induction ks with
  | nil => intro n; rfl
  | cons k ks ih =>
      intro n
      rw [List.foldl_cons, ih, Counts.get_add, List.countP_cons]
      simp only [decide_eq_true_eq]
      omega

lemma Counts.total_ofKinds (ks : List (Option Kind)) :
    (Counts.ofKinds ks).total = ks.countP Option.isSome := by
  suffices h : ∀ n : Counts, (ks.foldl Counts.add n).total = n.total + ks.countP Option.isSome by
    rw [Counts.ofKinds, h]
    exact Nat.zero_add _
  induction ks with
  | nil => intro n; rfl
  | cons k ks ih =>
      intro n
      rw [List.foldl_cons, ih, Counts.total_add, List.countP_cons]
      cases k with
      | none => simp
      | some k =>
          simp only [Option.toList_some, List.length_singleton, Option.isSome_some, if_true]
          omega

end DocStub.Declaration

namespace DocStub.Source

open Comment Declaration Text

/-- The lines that an entry contributes, each with whether it was added. -/
def Entry.marked (e : Entry) : List (Line × Bool) :=
  e.commentLines.map (·, true) ++ [(e.line, false)]

/-- What there is to say about a text `t` and its documented form `d`.

The lines of the text are its pieces, and with their line feeds they make up the text.  Each is judged by
itself and the line before it.  They stand in the documented text in their order, each after its comment.

A line that declares nothing has no comment.  A line that declares something has one comment block, written
with its indentation and its line ending, and with two lines more than its content, of which no line breaks.

The lines of the documented text are of two sorts, and without those that were added it is the text again.
The numbers are those of the lines and of the comments on declarations of each kind, and the text counts as
changed if it differs. -/
structure Accounting (t : List Char) (d : Documented) : Prop where
  contents : (lines t).map Line.content = pieces t
  whole : (lines t).flatMap Line.text = t
  judged : ∀ i, (entries t)[i]? = (lines t)[i]?.map fun l =>
    Entry.mk l (kind? (trim l.content) (contentBefore (lines t) i))
  written : lines d.text = (entries t).flatMap fun e => e.commentLines ++ [e.line]
  rewritten : ((entries t).flatMap fun e => e.commentLines ++ [e.line]).flatMap Line.text = d.text
  bare : ∀ e ∈ entries t, e.kind? = none → e.commentLines = []
  commented : ∀ e ∈ entries t, ∀ kind, e.kind? = some kind →
    e.commentLines =
      (compose kind (trim e.line.content) (indentation e.line.content)).textLines.map fun s =>
        ⟨indentation e.line.content ++ s ++
          if e.line.content.getLast? = some '\r' then ['\r'] else [], true⟩
  length : ∀ e ∈ entries t, ∀ kind, e.kind? = some kind →
    e.commentLines.length = (contentLines kind (trim e.line.content)).length + 2
  unbroken : ∀ e ∈ entries t, ∀ kind, ∀ s ∈ contentLines kind (trim e.line.content), '\n' ∉ s
  ending : ∀ e ∈ entries t, ∀ l ∈ e.commentLines,
    l.content.getLast? = some '\r' ↔ e.line.content.getLast? = some '\r'
  marks : ((entries t).flatMap Entry.marked).map Prod.fst = lines d.text
  erased : ((((entries t).flatMap Entry.marked).filter fun m => !m.2).map Prod.fst).flatMap
    Line.text = t
  lineCount : d.lineCount = (pieces t).length
  blockCount : d.blockCount = ((entries t).filterMap Entry.block?).length
  total : d.blockCount = d.byKind.total
  byKind : ∀ kind, d.byKind.get kind = (entries t).countP fun e => e.kind? = some kind
  isChanged : d.isChanged = true ↔ d.text ≠ t

variable {t : List Char} {e : Entry} {kind : Kind}

/-! ## Comments -/

lemma Ending.mark_ofContent (c : List Char) :
    (Ending.ofContent c).mark = if c.getLast? = some '\r' then ['\r'] else [] := by
  unfold Ending.ofContent
  split_ifs <;> rfl

lemma Entry.length_commentLines (h : e.kind? = some kind) :
    e.commentLines.length = (contentLines kind (trim e.line.content)).length + 2 := by
  rw [Entry.commentLines_of_some h, List.length_map, Block.length_textLines]
  rfl

lemma getLast?_textLines {b : Block} (hlines : ∀ s ∈ b.lines, s.getLast? ≠ some '\r') :
    ∀ s ∈ b.textLines, s ≠ [] ∧ s.getLast? ≠ some '\r' := by
  intro s hs
  simp only [Block.textLines, List.mem_append, List.mem_singleton, List.mem_map] at hs
  rcases hs with (rfl | ⟨x, hx, rfl⟩) | rfl
  · exact ⟨by decide, by decide⟩
  · refine ⟨by simp, ?_⟩
    cases x with
    | nil => decide
    | cons c x =>
        rw [List.getLast?_append_of_ne_nil _ (List.cons_ne_nil c x)]
        exact hlines _ hx
  · exact ⟨by decide, by decide⟩

lemma Entry.getLast?_commentLines :
    ∀ l ∈ e.commentLines, l.content.getLast? = some '\r' ↔ e.line.content.getLast? = some '\r' := by
  cases hkind : e.kind? with
  | none => simp [Entry.commentLines_of_none hkind]
  | some kind =>
      intro l hl
      rw [Entry.commentLines_of_some hkind] at hl
      obtain ⟨s, hs, rfl⟩ := List.mem_map.mp hl
      obtain ⟨hne, hlast⟩ := getLast?_textLines
        (fun x hx => getLast?_ne_of_mem_contentLines hx) s hs
      rw [Ending.mark_ofContent]
      by_cases hcr : e.line.content.getLast? = some '\r'
      · simp [hcr]
      · simp only [hcr, if_false, List.append_nil, iff_false]
        rw [List.getLast?_append_of_ne_nil _ hne]
        exact hlast

/-! ## Marks -/

lemma map_fst_marked (es : List Entry) :
    (es.flatMap Entry.marked).map Prod.fst = es.flatMap Entry.written := by
  have hmarked : ∀ e : Entry, e.marked.map Prod.fst = e.written := by
    intro e
    simp [Entry.marked, Entry.written, Function.comp_def]
  rw [List.map_flatMap]
  simp only [hmarked]

lemma filter_marked (es : List Entry) :
    ((es.flatMap Entry.marked).filter fun m => !m.2).map Prod.fst = es.map Entry.line := by
  induction es with
  | nil => rfl
  | cons e es ih =>
      rw [List.flatMap_cons, List.filter_append, List.map_append, ih, List.map_cons]
      simp [Entry.marked]

/-! ## Change -/

lemma lineCount_document (t : List Char) : (document t).lineCount = (pieces t).length := by
  show (entries t).length = (pieces t).length
  rw [← map_content_lines, ← map_line_entries, List.length_map, List.length_map]

lemma blockCount_document (t : List Char) :
    (document t).blockCount = (entries t).countP fun e => e.kind?.isSome := by
  show (Counts.ofKinds ((entries t).map Entry.kind?)).total = _
  rw [Counts.total_ofKinds, List.countP_map]
  rfl

lemma get_byKind_document (t : List Char) (kind : Kind) :
    (document t).byKind.get kind = (entries t).countP fun e => e.kind? = some kind := by
  show (Counts.ofKinds ((entries t).map Entry.kind?)).get kind = _
  rw [Counts.get_ofKinds, List.countP_map]
  rfl

lemma blockCount_document_eq_zero_iff :
    (document t).blockCount = 0 ↔ ∀ e ∈ entries t, e.kind? = none := by
  rw [blockCount_document, List.countP_eq_zero]
  simp

lemma length_flatMap_written (es : List Entry) :
    (es.flatMap Entry.written).length = (es.map fun e => e.commentLines.length).sum + es.length := by
  induction es with
  | nil => rfl
  | cons e es ih =>
      simp only [List.flatMap_cons, List.length_append, ih, Entry.written, List.map_cons,
        List.sum_cons, List.length_cons, List.length_nil]
      omega

/-- **When documenting changes a text.** -/
lemma text_document_eq_iff : (document t).text = t ↔ ∀ e ∈ entries t, e.kind? = none := by
  constructor
  · intro h e he
    have hlength : ((entries t).flatMap Entry.written).length = (entries t).length := by
      rw [← lines_text_document, h, ← map_line_entries, List.length_map]
    rw [length_flatMap_written] at hlength
    have hsum : ((entries t).map fun e => e.commentLines.length).sum = 0 := by omega
    rw [List.sum_eq_zero_iff_forall_eq_nat, List.forall_mem_map] at hsum
    have hnone : e.commentLines.length = 0 := hsum e he
    cases hkind : e.kind? with
    | none => rfl
    | some kind =>
        rw [Entry.length_commentLines hkind] at hnone
        omega
  · intro h
    have htext : ∀ e ∈ entries t, e.text = e.line.text := by
      intro e he
      simp [Entry.text, Entry.commentText, Entry.block?, h e he]
    show (entries t).flatMap Entry.text = t
    rw [List.flatMap_congr htext, ← List.flatMap_map, map_line_entries, flatMap_text_lines]

lemma isChanged_document_iff : (document t).isChanged = true ↔ (document t).text ≠ t := by
  rw [ne_eq, text_document_eq_iff, ← blockCount_document_eq_zero_iff, Documented.isChanged,
    decide_eq_true_eq, Nat.pos_iff_ne_zero]

/-- **Documenting a text is accounted for**, whatever the text is. -/
theorem accounting_document (t : List Char) : Accounting t (document t) where
  contents := map_content_lines t
  whole := flatMap_text_lines t
  judged := getElem?_entries t
  written := lines_text_document t
  rewritten := by
    show ((entries t).flatMap Entry.written).flatMap Line.text = (document t).text
    rw [← lines_text_document, flatMap_text_lines]
  bare := fun _ _ h => Entry.commentLines_of_none h
  commented := by
    intro e _ kind h
    rw [Entry.commentLines_of_some h, Ending.mark_ofContent]
  length := fun _ _ _ h => Entry.length_commentLines h
  unbroken := by
    intro e he kind s hs
    have hline : e.line ∈ lines t := map_line_entries t ▸ List.mem_map_of_mem he
    have hlf : '\n' ∉ e.line.content := (areLines_lines t).newline_not_mem _ hline
    exact newline_not_mem_contentLines (fun h => hlf (mem_of_mem_trim h)) hs
  ending := fun _ _ => Entry.getLast?_commentLines
  marks := by rw [map_fst_marked, lines_text_document]
  erased := by rw [filter_marked, map_line_entries, flatMap_text_lines]
  lineCount := lineCount_document t
  blockCount := by
    rw [blockCount_document, List.length_filterMap_eq_countP]
    simp [Entry.block?]
  total := rfl
  byKind := by
    intro kind
    show (Counts.ofKinds ((entries t).map Entry.kind?)).get kind = _
    rw [Counts.get_ofKinds, List.countP_map]
    rfl
  isChanged := isChanged_document_iff

end DocStub.Source

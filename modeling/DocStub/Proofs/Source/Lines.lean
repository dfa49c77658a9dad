import Mathlib.Data.List.Infix
import DocStub.Proofs.Text.Search
import DocStub.Source.Line

/-!
# Reading lines back

`lines` cuts a text after its line feeds.  `flatMap_text_lines` says that the lines give the text back.
This file is about the other direction.

**Sequences of lines.**  `AreLines ls` holds when `ls` can be the lines of a text: no content has a line
feed, and only the last line may lack one, provided that it is not empty.  Every text has such lines
(`areLines_lines`), and such lines are read back from their text (`lines_flatMap_text`).

**Line by line.**  `line_induction` takes a text apart at its first line feed.  By it, a text that is cut
behind a line feed has the lines of both parts (`lines_append`).

**Pieces.**  `map_content_lines`: the contents of the lines are the pieces between the line feeds, an
empty last piece aside.
-/

namespace DocStub.Source

open Text

/-- `ls` is a possible sequence of lines of a text. -/
inductive AreLines : List Line → Prop where
  | nil : AreLines []
  | last {c : List Char} : c ≠ [] → '\n' ∉ c → AreLines [⟨c, false⟩]
  | cons {c : List Char} {ls : List Line} : '\n' ∉ c → AreLines ls → AreLines (⟨c, true⟩ :: ls)

/-- The pieces of a text between line feeds, without an empty last one. -/
def pieces (t : List Char) : List (List Char) :=
  let ps := t.splitOn '\n'
  if ps.getLast? = some [] then ps.dropLast else ps

/-! ## Sequences of lines -/

lemma AreLines.startLines {ls : List Line} (h : AreLines ls) (c : Char) :
    AreLines (startLines c ls) := by
  unfold Source.startLines
  by_cases hc : c = '\n'
  · rw [if_pos hc]
    exact AreLines.cons (by simp) h
  · rw [if_neg hc]
    cases h with
    | nil => exact AreLines.last (by simp) (by simp [Ne.symm hc])
    | last hne hlf => exact AreLines.last (by simp) (by simp [Ne.symm hc, hlf])
    | cons hlf h => exact AreLines.cons (by simp [Ne.symm hc, hlf]) h

theorem areLines_lines (t : List Char) : AreLines (lines t) := by
  induction t with
  | nil => exact AreLines.nil
  | cons c t ih => exact ih.startLines c

lemma AreLines.newline_not_mem {ls : List Line} (h : AreLines ls) :
    ∀ l ∈ ls, '\n' ∉ l.content := by
  induction h with
  | nil => simp
  | last _ hlf =>
      intro l hl
      rw [List.mem_singleton.mp hl]
      exact hlf
  | cons hlf _ ih => exact List.forall_mem_cons.mpr ⟨hlf, ih⟩

/-- Ended lines may stand in front of other lines. -/
lemma AreLines.append {front ls : List Line}
    (hfront : ∀ l ∈ front, l.isTerminated = true ∧ '\n' ∉ l.content) (h : AreLines ls) :
    AreLines (front ++ ls) := by
  induction front with
  | nil => exact h
  | cons l front ih =>
      obtain ⟨⟨hend, hlf⟩, hrest⟩ := List.forall_mem_cons.mp hfront
      obtain ⟨c, ended⟩ := l
      obtain rfl : ended = true := hend
      exact AreLines.cons hlf (ih hrest)

lemma lines_append_newline {c : List Char} (hlf : '\n' ∉ c) (t : List Char) :
    lines (c ++ '\n' :: t) = ⟨c, true⟩ :: lines t := by
  induction c with
  | nil => rfl
  | cons x c ih =>
      rw [List.mem_cons, not_or] at hlf
      rw [List.cons_append, lines_cons, ih hlf.2, startLines, if_neg (Ne.symm hlf.1)]

lemma lines_of_newline_not_mem {c : List Char} (hne : c ≠ []) (hlf : '\n' ∉ c) :
    lines c = [⟨c, false⟩] := by
  induction c with
  | nil => exact absurd rfl hne
  | cons x c ih =>
      rw [List.mem_cons, not_or] at hlf
      rw [lines_cons]
      cases c with
      | nil => exact if_neg (Ne.symm hlf.1)
      | cons y c =>
          rw [ih (by simp) hlf.2]
          exact if_neg (Ne.symm hlf.1)

/-- **Lines are read back from their text.** -/
theorem lines_flatMap_text {ls : List Line} (h : AreLines ls) : lines (ls.flatMap Line.text) = ls := by
  induction h with
  | nil => rfl
  | @last c hne hlf =>
      have htext : [(⟨c, false⟩ : Line)].flatMap Line.text = c := by simp [Line.text]
      rw [htext, lines_of_newline_not_mem hne hlf]
  | @cons c ls hlf _ ih =>
      have htext : ((⟨c, true⟩ : Line) :: ls).flatMap Line.text =
          c ++ '\n' :: ls.flatMap Line.text := by
        simp [Line.text]
      rw [htext, lines_append_newline hlf, ih]

/-! ## Line by line -/

/-- Induction over the lines of a text.  The last one need not be ended. -/
@[elab_as_elim]
theorem line_induction {motive : List Char → Prop} (empty : motive [])
    (last : ∀ c, c ≠ [] → '\n' ∉ c → motive c)
    (ended : ∀ c t, '\n' ∉ c → motive t → motive (c ++ '\n' :: t)) (t : List Char) : motive t := by
  induction t using cut_induction (p := (· == '\n')) with
  | whole t hfree =>
      have hlf : '\n' ∉ t := fun hmem => by simpa using hfree '\n' hmem
      by_cases hne : t = []
      · exact hne ▸ empty
      · exact last t hne hlf
  | cut c x t hfree hx ih =>
      have hlf : '\n' ∉ c := fun hmem => by simpa using hfree '\n' hmem
      obtain rfl : x = '\n' := by simpa using hx
      exact ended c t hlf ih

/-- A cut behind a line feed goes through no line. -/
lemma lines_append {a : List Char} (ha : a = [] ∨ a.getLast? = some '\n') (t : List Char) :
    lines (a ++ t) = lines a ++ lines t := by
  induction a using line_induction with
  | empty => rfl
  | last c hne hlf =>
      obtain hnil | hlast := ha
      · exact absurd hnil hne
      · exact absurd (List.mem_of_getLast? hlast) hlf
  | ended c a hlf ih =>
      have hrest : a = [] ∨ a.getLast? = some '\n' := by
        by_cases hne : a = []
        · exact Or.inl hne
        · obtain hnil | hlast := ha
          · exact absurd hnil (by simp)
          · rw [List.getLast?_append_of_ne_nil _ (List.cons_ne_nil _ a),
              List.getLast?_cons_of_ne_nil hne] at hlast
            exact Or.inr hlast
      rw [List.append_assoc, List.cons_append, lines_append_newline hlf, lines_append_newline hlf,
        ih hrest, List.cons_append]

/-! ## Pieces -/

lemma beq_newline_eq_false {c : List Char} (hlf : '\n' ∉ c) : ∀ x ∈ c, (x == '\n') = false := by
  intro x hx
  rw [beq_eq_false_iff_ne]
  rintro rfl
  exact hlf hx

lemma pieces_append_newline {c : List Char} (hlf : '\n' ∉ c) (t : List Char) :
    pieces (c ++ '\n' :: t) = c :: pieces t := by
  have hsplit : (c ++ '\n' :: t).splitOn '\n' = c :: t.splitOn '\n' :=
    List.splitOnP_append_cons_of_forall_mem (beq_newline_eq_false hlf) '\n' (by decide) t
  have hne : t.splitOn '\n' ≠ [] := List.splitOnP_ne_nil _ t
  unfold pieces
  rw [hsplit]
  simp only [List.getLast?_cons_of_ne_nil hne, List.dropLast_cons_of_ne_nil hne]
  split_ifs <;> rfl

lemma pieces_of_newline_not_mem {t : List Char} (hne : t ≠ []) (hlf : '\n' ∉ t) :
    pieces t = [t] := by
  have hsplit : t.splitOn '\n' = [t] := List.splitOnP_eq_singleton (beq_newline_eq_false hlf)
  unfold pieces
  rw [hsplit]
  simp [hne]

theorem map_content_lines (t : List Char) : (lines t).map Line.content = pieces t := by
  induction t using line_induction with
  | empty => rfl
  | last c hne hlf =>
      rw [lines_of_newline_not_mem hne hlf, pieces_of_newline_not_mem hne hlf]
      rfl
  | ended c t hlf ih =>
      rw [lines_append_newline hlf, pieces_append_newline hlf, List.map_cons, ih]

end DocStub.Source

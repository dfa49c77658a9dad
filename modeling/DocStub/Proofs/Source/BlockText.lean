import Mathlib.Data.List.DropRight
import DocStub.Proofs.Source.Indentation

/-!
# What the text of a comment tells

A comment block is written with an indentation and a line ending, and none of the three gets lost.  They may
look like each other: an indentation can hold carriage returns, and a line of the content can look like the
closing line, start with blanks, or end with a carriage return of its own.  It is still clear where one part
ends and the next one starts.

**Lines.**  `lines_blockText`: the lines of the text are the lines of the comment, as long as no line feed
breaks one of them.

**The opening line.**  Its first character that is no blank is the slash, and what stands behind its stars
is the line ending.  So both are read off it in the way in which a comment takes them over from the line
below it (`indentation_opening`, `ofContent_opening`).

**Reading.**  `readBlock` takes both away from the other lines, and gives back what was written
(`readBlock_text`).
-/

namespace DocStub.Source

open Comment Text

/-- Blanks stand in front of the lines of a comment, and no line feed breaks them. -/
structure IsUnbroken (b : Block) : Prop where
  blank : AllBlank b.indentation
  indentation : '\n' ∉ b.indentation
  content : ∀ s ∈ b.lines, '\n' ∉ s

/-- The lines of a comment as they stand in its text. -/
def blockLines (b : Block) (e : Ending) : List Line :=
  b.textLines.map fun s => ⟨b.indentation ++ s ++ e.mark, true⟩

/-- Reads a comment back, with its line ending.  The opening line tells what stands in front of every line
and behind it. -/
def readBlock (t : List Char) : Block × Ending :=
  let contents := (lines t).map Line.content
  let opening := contents.headD []
  let content (s : List Char) := (s.drop (indentation opening ++ " * ".toList).length).rdrop
    (Ending.ofContent opening).mark.length
  (⟨indentation opening, contents.tail.dropLast.map content⟩, Ending.ofContent opening)

variable {b : Block} {w : List Char}

/-! ## Lines -/

lemma newline_not_mem_textLines (hb : IsUnbroken b) : ∀ s ∈ b.textLines, '\n' ∉ s := by
  intro s hs
  simp only [Block.textLines, List.mem_append, List.mem_singleton, List.mem_map] at hs
  rcases hs with (rfl | ⟨x, hx, rfl⟩) | rfl
  · decide
  · exact List.not_mem_append (by decide) (hb.content x hx)
  · decide

lemma forall_blockLines (hb : IsUnbroken b) (e : Ending) :
    ∀ l ∈ blockLines b e, l.isTerminated = true ∧ '\n' ∉ l.content := by
  have hmark : '\n' ∉ e.mark := by cases e <;> decide
  rw [blockLines, List.forall_mem_map]
  intro s hs
  have hline : '\n' ∉ b.indentation ++ s :=
    List.not_mem_append hb.indentation (newline_not_mem_textLines hb s hs)
  exact ⟨rfl, List.not_mem_append hline hmark⟩

lemma lines_blockText (hb : IsUnbroken b) (e : Ending) : lines (b.text e.text) = blockLines b e := by
  have htext : (blockLines b e).flatMap Line.text = b.text e.text := by
    simp [blockLines, List.flatMap_map, Block.text, Line.text, Ending.text_eq]
  have hlines : AreLines (blockLines b e ++ []) := AreLines.append (forall_blockLines hb e) AreLines.nil
  rw [List.append_nil] at hlines
  rw [← htext, lines_flatMap_text hlines]

/-! ## The opening line -/

lemma indentation_opening (hw : AllBlank w) (e : Ending) :
    indentation (w ++ ("/**".toList ++ e.mark)) = w := by
  have hink : indentation ("/**".toList ++ e.mark) = [] := by cases e <;> decide
  rw [indentation_append hw, hink, List.append_nil]

/-- A carriage return in the indentation is not taken for that of the line ending. -/
lemma ofContent_opening (w : List Char) (e : Ending) :
    Ending.ofContent (w ++ ("/**".toList ++ e.mark)) = e := by
  rw [Ending.ofContent_append (by simp)]
  cases e <;> decide

/-! ## Reading -/

/-- **A comment is read back from its text.** -/
theorem readBlock_text (hb : IsUnbroken b) (e : Ending) : readBlock (b.text e.text) = (b, e) := by
  have hcontents : (lines (b.text e.text)).map Line.content =
      (b.indentation ++ ("/**".toList ++ e.mark)) ::
        (b.lines.map (fun s => (b.indentation ++ " * ".toList) ++ s ++ e.mark) ++
          [b.indentation ++ " */".toList ++ e.mark]) := by
    rw [lines_blockText hb]
    simp [blockLines, Block.textLines]
  have hcontent : ∀ s : List Char, (((b.indentation ++ " * ".toList) ++ s ++ e.mark).drop
      (b.indentation ++ " * ".toList).length).rdrop e.mark.length = s := by
    intro s
    rw [List.append_assoc, List.drop_left, List.rdrop_append_length]
  rw [readBlock, hcontents]
  simp only [List.headD_cons, List.tail_cons, List.dropLast_concat, indentation_opening hb.blank,
    ofContent_opening, List.map_map, Function.comp_def, hcontent, List.map_id']

/-- **Nothing gets lost.**  Comments with the same text have the same line ending, the same indentation and
the same content. -/
theorem blockText_injective (b c : Block) (e f : Ending) (hb : IsUnbroken b) (hc : IsUnbroken c)
    (h : b.text e.text = c.text f.text) :
    e = f ∧ b.indentation = c.indentation ∧ b.lines = c.lines := by
  have hread : (b, e) = (c, f) := by rw [← readBlock_text hb, h, readBlock_text hc]
  obtain ⟨rfl, rfl⟩ := Prod.mk.inj hread
  exact ⟨rfl, rfl, rfl⟩

/-- The indentation has a carriage return, and a line of the content has a closer. -/
theorem blockText_injective_commented_parameter :
    let b := compose .method "void load(int n /* count */);".toList "\t\r".toList
    let c : Block := ⟨['\t', '\r'], ["load.".toList, "@param */ the */".toList]⟩
    IsUnbroken b ∧ IsUnbroken c ∧ b.text Ending.crlf.text = c.text Ending.crlf.text ∧
      Ending.crlf = Ending.crlf ∧ b.indentation = c.indentation ∧ b.lines = c.lines := by
  intro b c
  have hb : IsUnbroken b := ⟨by decide, by decide, by decide⟩
  have hc : IsUnbroken c := ⟨by decide, by decide, by decide⟩
  have htext : b.text Ending.crlf.text = c.text Ending.crlf.text := by decide
  exact ⟨hb, hc, htext, blockText_injective b c .crlf .crlf hb hc htext⟩

end DocStub.Source

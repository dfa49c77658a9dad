import DocStub.Proofs.Comment.Content
import DocStub.Proofs.Text.Closer
import DocStub.Source.Line

/-!
# Where a comment ends

A comment is meant to end with its last line.  It ends earlier if its content holds a closer.

**Blocks.**  `closers_text`: the closers of a block are those of its content and one more, which the last
line holds.

**Contents.**  The comments on classes, interfaces and fields have no closer in their content.  In the
comment on a method the closers come from the spans that it copies: `closers_parameterTag`,
`closers_exceptionTag`.

**The condition.**  The comment on a declaration ends with its last line, and not before, exactly when
none of the copied spans holds a closer.  A line without a closer of its own is always fine
(`closedOnce_of_not_infix`).
-/

namespace DocStub.Comment

open Declaration Prose Text
open Source (Ending)

/-- The text of a block ends with the closing line, and no other place of it ends the comment. -/
def Block.ClosedOnce (b : Block) (eol : List Char) : Prop :=
  closers (b.text eol) = 1 ∧ b.indentation ++ " */".toList ++ eol <:+ b.text eol

/-- The spans of a method's line that its comment copies as they stand. -/
def copiedSpans (line : List Char) : List (List Char) :=
  (Method.ofLine line).parameters.map Parameter.name ++ thrownNames line

/-! ## Blocks -/

lemma getLast?_text (a : List Char) (e : Ending) : (a ++ e.text).getLast? = some '\n' := by
  cases e <;> simp [Ending.text]

lemma slash_not_mem_text (e : Ending) : '/' ∉ e.text := by
  cases e <;> decide

/-- The star in front of a content line does not join with it. -/
lemma closers_star_append (s : List Char) : closers (" * ".toList ++ s) = closers s := by
  have hstar : closers " * ".toList = 0 := by decide
  have hseam : " * ".toList.getLast? ≠ some '*' := by decide
  rw [closers_append fun h => absurd h hseam, hstar, Nat.zero_add]

lemma closers_text {b : Block} (hind : AllBlank b.indentation) (e : Ending) :
    closers (b.text e.text) = (b.lines.map closers).sum + 1 := by
  have hline : ∀ s, closers (b.indentation ++ s ++ e.text) = closers s :=
    fun s => closers_framed (hind.not_mem (by decide)) (slash_not_mem_text e)
  have hlast : ∀ s ∈ b.textLines, (b.indentation ++ s ++ e.text).getLast? ≠ some '*' := by
    intro s _
    rw [getLast?_text]
    decide
  have hfirst : closers "/**".toList = 0 := by decide
  have hclose : closers " */".toList = 1 := by decide
  rw [Block.text, closers_flatMap hlast]
  simp only [hline, Block.textLines, List.map_append, List.map_map, List.sum_append, List.map_cons,
    List.map_nil, List.sum_cons, List.sum_nil, hfirst, hclose, Function.comp_def,
    closers_star_append, Nat.zero_add, Nat.add_zero]

lemma suffix_text (b : Block) (eol : List Char) :
    b.indentation ++ " */".toList ++ eol <:+ b.text eol := by
  refine ⟨("/**".toList :: b.lines.map (" * ".toList ++ ·)).flatMap fun s =>
    b.indentation ++ s ++ eol, ?_⟩
  simp [Block.text, Block.textLines]

lemma closedOnce_iff {b : Block} (hind : AllBlank b.indentation) (e : Ending) :
    b.ClosedOnce e.text ↔ ∀ s ∈ b.lines, closers s = 0 := by
  rw [Block.ClosedOnce, closers_text hind e, and_iff_left (suffix_text b e.text),
    Nat.add_eq_right, List.sum_eq_zero_iff_forall_eq_nat, List.forall_mem_map]

/-! ## Contents -/

/-- A frame adds no closer to what it holds. -/
lemma closers_of_frames {s t : List Char} (h : Frames s t) (hs : closers s = 0) :
    closers t = 0 := by
  rcases h with ht | ⟨a, b, ha, hb, rfl⟩
  · exact closers_of_star_not_mem (ht.not_mem (by decide))
  · rw [closers_framed (ha.not_mem (by decide)) (hb.not_mem (by decide)), hs]

lemma closers_parameterTag {p : Parameter} {method : List Char} :
    closers (parameterTag method p) = 0 ↔ closers p.name = 0 := by
  have hseam : ("@param ".toList ++ p.name ++ [' ']).getLast? ≠ some '*' := by
    rw [List.getLast?_concat]
    decide
  have hfront : closers ("@param ".toList ++ p.name ++ [' ']) = closers p.name :=
    closers_framed (by decide) (by decide)
  have hphrase : closers p.name = 0 → closers (parameterPhrase p method) = 0 := by
    intro h
    exact closers_of_frames (frames_parameterPhrase p method) ((closers_lowercase p.name).trans h)
  unfold parameterTag
  rw [closers_append fun h => absurd h hseam, hfront]
  constructor
  · intro h
    omega
  · intro h
    rw [h, hphrase h]

lemma closers_exceptionTag {e : List Char} : closers (exceptionTag e) = closers e :=
  closers_framed (by decide) (by decide)

lemma forall_closers_methodLines_iff {line : List Char} :
    (∀ s ∈ methodLines line, closers s = 0) ↔ ∀ s ∈ copiedSpans line, closers s = 0 := by
  simp only [copiedSpans, List.forall_mem_append, List.forall_mem_map]
  constructor
  · intro h
    constructor
    · intro p hp
      exact closers_parameterTag.mp (h _ (mem_methodLines_iff.mpr (Or.inr (Or.inl ⟨p, hp, rfl⟩))))
    · intro e he
      rw [← closers_exceptionTag]
      exact h _ (mem_methodLines_iff.mpr (Or.inr (Or.inr (Or.inr ⟨e, he, rfl⟩))))
  · rintro ⟨hparameters, hthrown⟩ s hs
    rcases mem_methodLines_iff.mp hs with rfl | ⟨p, hp, rfl⟩ | hresult | ⟨e, he, rfl⟩
    · exact closers_of_star_not_mem (not_mem_summary (by decide))
    · exact closers_parameterTag.mpr (hparameters p hp)
    · exact closers_of_star_not_mem (not_mem_resultTag? (by decide) hresult)
    · rw [closers_exceptionTag, hthrown e he]

lemma infix_of_mem_copiedSpans {line s : List Char} (h : s ∈ copiedSpans line) : s <:+: line := by
  rcases List.mem_append.mp h with h | h
  · obtain ⟨p, hp, rfl⟩ := List.mem_map.mp h
    exact (infix_of_mem_parameters hp).2
  · exact infix_of_mem_thrownNames h

/-! ## The condition -/

variable {line previous indentation : List Char} {kind : Kind}

/-- The content of a comment has no closer exactly when its kind copies no closer from the line. -/
lemma forall_closers_contentLines_iff (hline : trim line = line) (hlf : '\n' ∉ line)
    (hkind : kind? line previous = some kind) :
    (∀ s ∈ contentLines kind line, closers s = 0) ↔
      (kind = .method → ∀ s ∈ copiedSpans line, closers s = 0) := by
  by_cases hmethod : kind = .method
  · subst hmethod
    rw [← forall_closers_methodLines_iff]
    exact ⟨fun h _ => h, fun h => h rfl⟩
  · have hfield : kind = .field → FieldForm line :=
      fun h => fieldForm_of_kind? (skipBlanks_of_trim hline) hlf (h ▸ hkind)
    refine iff_of_true (fun s hs => ?_) fun h => absurd h hmethod
    have hstar : '*' ∉ s := not_mem_contentLines (by decide) (by decide) hlf hmethod hfield hs
    exact closers_of_star_not_mem hstar

/-- A line without a closer gets a comment that is closed once. -/
theorem closedOnce_of_not_infix (hline : trim line = line) (hlf : '\n' ∉ line)
    (hind : AllBlank indentation) (hkind : kind? line previous = some kind)
    (hcloser : ¬ closer <:+: line) (e : Ending) :
    (compose kind line indentation).ClosedOnce e.text := by
  refine (closedOnce_iff hind e).mpr ((forall_closers_contentLines_iff hline hlf hkind).mpr ?_)
  intro _ s hs
  exact closers_eq_zero_iff.mpr fun hin => hcloser (hin.trans (infix_of_mem_copiedSpans hs))

/-- **When a comment ends with its last line and not before.**  Only the comment on a method can end
early, and it does so exactly when a parameter or a piece of the `throws` clause brings in a closer. -/
theorem closedOnce_compose_iff (hline : trim line = line) (hlf : '\n' ∉ line)
    (hind : AllBlank indentation) (hkind : kind? line previous = some kind) (e : Ending) :
    (compose kind line indentation).ClosedOnce e.text ↔
      (kind = .method → ∀ s ∈ copiedSpans line, ¬ closer <:+: s) := by
  have hcontent : (compose kind line indentation).ClosedOnce e.text ↔
      ∀ s ∈ contentLines kind line, closers s = 0 := closedOnce_iff hind e
  rw [hcontent, forall_closers_contentLines_iff hline hlf hkind]
  simp only [closers_eq_zero_iff]

/-- A comment in front of a parameter is left out of the copied spans, closer and all. -/
theorem closedOnce_compose_leading_comment :
    trim "void load(/* count */ int n, String path);".toList =
        "void load(/* count */ int n, String path);".toList ∧
      '\n' ∉ "void load(/* count */ int n, String path);".toList ∧ AllBlank [' '] ∧
      kind? "void load(/* count */ int n, String path);".toList [] = some .method ∧
      (compose .method "void load(/* count */ int n, String path);".toList [' ']).ClosedOnce
        Ending.crlf.text := by
  have hkind : kind? "void load(/* count */ int n, String path);".toList [] = some .method := by
    decide
  have hspans : ∀ s ∈ copiedSpans "void load(/* count */ int n, String path);".toList,
      ¬ closer <:+: s := by
    decide
  refine ⟨by decide, by decide, by decide, hkind, ?_⟩
  exact (closedOnce_compose_iff (by decide) (by decide) (by decide) hkind _).mpr fun _ => hspans

/-- The closer of a comment behind a parameter counts as the name of the parameter. -/
theorem not_closedOnce_compose_commented_parameter :
    trim "void load(int n /* count */);".toList = "void load(int n /* count */);".toList ∧
      '\n' ∉ "void load(int n /* count */);".toList ∧
      kind? "void load(int n /* count */);".toList [] = some .method ∧
      ¬ (compose .method "void load(int n /* count */);".toList []).ClosedOnce Ending.lf.text := by
  refine ⟨by decide, by decide, by decide, fun h => ?_⟩
  have hthree : closers ((compose .method "void load(int n /* count */);".toList []).text
      Ending.lf.text) = 3 := by decide +kernel
  have hone := h.1
  omega

end DocStub.Comment

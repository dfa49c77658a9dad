import DocStub.Proofs.Declaration.Parts

/-!
# Where the clause of exceptions is found

The clause starts at the leftmost `throws` with a blank behind it and ends before the next brace.

**Passing.**  A stretch without blanks that does not end with the keyword holds no such place, whatever
follows the blank behind it (`leftmost?_throwsClause?_token`).  A text is passed token by token this way.

**Reading.**  A clause ends with the next brace behind its first character (`untilBrace?_cons_append`).  So
after the keyword and one blank it is what stands in front of the blank and the brace that follow it
(`throwsClause?_keyword_append`).
-/

namespace DocStub.Declaration

open Text

/-- What introduces the exceptions of a method. -/
def throwsKeyword : List Char := "throws".toList

variable {t w clause : List Char} {b x : Char}

/-! ## Passing -/

lemma exists_blank_of_mem_gapRests (h : w ∈ gapRests t) : ∃ c r, t = c :: r ∧ isBlank c = true := by
  cases t with
  | nil => exact absurd h List.not_mem_nil
  | cons c r =>
      unfold gapRests at h
      split_ifs at h with hc
      · exact ⟨c, r, rfl, hc⟩
      · exact absurd h List.not_mem_nil

lemma exists_blank_of_throwsClause? (h : throwsClause? t = some clause) :
    ∃ c r, t = throwsKeyword ++ c :: r ∧ isBlank c = true := by
  simp only [throwsClause?, Option.bind_eq_bind, Option.bind_eq_some_iff,
    List.isPrefixOf?_eq_some_iff_append_eq] at h
  obtain ⟨u, rfl, h⟩ := h
  obtain ⟨r, hr, -⟩ := List.exists_of_findSome?_eq_some h
  obtain ⟨c, r, rfl, hc⟩ := exists_blank_of_mem_gapRests hr
  exact ⟨c, r, rfl, hc⟩

lemma wordlike_throwsKeyword : Wordlike throwsKeyword := by decide

/-- The search passes a token that does not end with the keyword, with the blank behind it. -/
lemma leftmost?_throwsClause?_token (hw : ∀ c ∈ w, isBlank c = false) {c : Char}
    (hc : isBlank c = true) (hend : ¬ throwsKeyword <:+ w) (t : List Char) :
    leftmost? throwsClause? (w ++ c :: t) = leftmost? throwsClause? t := by
  have hsplit : w ++ c :: t = (w ++ [c]) ++ t := by simp
  rw [hsplit]
  refine leftmost?_append fun u hne hu => ?_
  obtain ⟨v, rfl, hv⟩ := (List.suffix_concat_iff.mp hu).resolve_left hne
  rw [Option.eq_none_iff_forall_ne_some]
  intro clause hclause
  obtain ⟨d, r, heq, hd⟩ := exists_blank_of_throwsClause? hclause
  rw [List.append_assoc, List.singleton_append] at heq
  have hkeyword : ∀ x ∈ throwsKeyword, ¬ isBlank x = true := fun x hx => by
    rw [isBlank_of_isWord (wordlike_throwsKeyword.2 x hx)]
    exact Bool.false_ne_true
  -- the first blank of the place ends the keyword and the token at once
  have hvblank : ∀ x ∈ v, ¬ isBlank x = true := fun x hx => by
    rw [hw x (hv.subset hx)]
    exact Bool.false_ne_true
  obtain ⟨rfl, -⟩ := append_cons_inj hvblank hkeyword hc hd heq
  exact hend hv

lemma not_blank_of_wordlike (hw : Wordlike w) : ∀ c ∈ w, isBlank c = false :=
  fun c hc => isBlank_of_isWord (hw.2 c hc)

/-- The search passes a modifier with the blank behind it. -/
lemma leftmost?_throwsClause?_modifier (m : Modifier) (t : List Char) :
    leftmost? throwsClause? (m.spelling ++ ' ' :: t) = leftmost? throwsClause? t := by
  have hend : ¬ throwsKeyword <:+ m.spelling := by cases m <;> decide
  exact leftmost?_throwsClause?_token (not_blank_of_wordlike (wordlike_spelling m)) (by decide) hend t

lemma not_throwsKeyword_suffix_concat {c : Char} (hc : c ≠ 's') (w : List Char) :
    ¬ throwsKeyword <:+ w ++ [c] := by
  rintro ⟨a, ha⟩
  have hlast : throwsKeyword.getLast? = some 's' := by decide
  have hboth := congrArg List.getLast? ha
  rw [List.getLast?_append, hlast, Option.some_or, List.getLast?_concat] at hboth
  exact hc (Option.some.inj hboth).symm

/-- The search passes a token with a sign at its end. -/
lemma leftmost?_throwsClause?_sign (hw : ∀ c ∈ w, isBlank c = false) {c : Char}
    (hc : isBlank c = false) (hne : c ≠ 's') (t : List Char) :
    leftmost? throwsClause? (w ++ c :: ' ' :: t) = leftmost? throwsClause? t := by
  have htoken : ∀ x ∈ w ++ [c], isBlank x = false := by
    intro x hx
    rcases List.mem_append.mp hx with hx | hx
    · exact hw x hx
    · rw [List.mem_singleton.mp hx, hc]
  have hsplit : w ++ c :: ' ' :: t = (w ++ [c]) ++ ' ' :: t := by simp
  rw [hsplit, leftmost?_throwsClause?_token htoken (by decide) (not_throwsKeyword_suffix_concat hne w)]

/-- A sign in front of a token hides no part of the keyword. -/
lemma not_throwsKeyword_suffix_append {c : Char} (hc : c ∉ throwsKeyword)
    (hw : ¬ throwsKeyword <:+ w) (v : List Char) : ¬ throwsKeyword <:+ v ++ c :: w := by
  intro h
  rcases List.suffix_or_suffix_of_suffix h (List.suffix_append v (c :: w)) with h | h
  · rcases List.suffix_cons_iff.mp h with h | h
    · exact hc (h ▸ List.mem_cons_self)
    · exact hw h
  · exact hc (h.subset List.mem_cons_self)

/-! ## Reading -/

/-- The longest gap is tried first. -/
lemma exists_gapRests_cons (hb : isBlank b = true) (t : List Char) :
    ∃ more, gapRests (b :: t) = skipBlanks t :: more := by
  induction t generalizing b with
  | nil => exact ⟨[], by rw [gapRests, if_pos hb]; rfl⟩
  | cons c t ih =>
      by_cases hc : isBlank c = true
      · obtain ⟨more, hmore⟩ := ih hc
        exact ⟨more ++ [c :: t], by
          rw [gapRests, if_pos hb, hmore, skipBlanks_cons_of_isBlank hc, List.cons_append]⟩
      · refine ⟨[], ?_⟩
        rw [gapRests, if_pos hb, gapRests, if_neg hc, skipBlanks_cons (Bool.eq_false_iff.mpr hc)]
        rfl

/-- Skipping gets to a brace over blanks only. -/
lemma head?_skipBlanks_append_brace (hw : '{' ∉ w) (rest : List Char) :
    (skipBlanks (w ++ '{' :: rest)).head? = some '{' ↔ AllBlank w := by
  induction w with
  | nil =>
      rw [List.nil_append, skipBlanks_cons (by decide)]
      exact iff_of_true rfl allBlank_nil
  | cons c w ih =>
      rw [List.mem_cons, not_or] at hw
      by_cases hc : isBlank c = true
      · rw [List.cons_append, skipBlanks_cons_of_isBlank hc, ih hw.2]
        exact ⟨fun h => List.forall_mem_cons.mpr ⟨hc, h⟩, fun h => (List.forall_mem_cons.mp h).2⟩
      · rw [List.cons_append, skipBlanks_cons (Bool.eq_false_iff.mpr hc), List.head?_cons]
        exact iff_of_false (fun h => hw.1 (Option.some.inj h).symm) fun h => hc (List.forall_mem_cons.mp h).1

/-- After its first character the clause goes on to the next brace, but for the blanks in front of it. -/
lemma untilBrace?_cons_append (hlf : '\n' ∉ x :: w) (hw : '{' ∉ w) (rest : List Char) :
    untilBrace? (x :: (w ++ '{' :: rest)) = some (x :: dropTrailingBlanks w) := by
  have hbrace := head?_skipBlanks_append_brace hw rest
  induction w generalizing x with
  | nil =>
      rw [List.mem_cons, not_or] at hlf
      rw [untilBrace?, if_neg (Ne.symm hlf.1), if_pos (hbrace.mpr allBlank_nil)]
      rfl
  | cons c w ih =>
      rw [List.mem_cons, not_or] at hlf hw
      rw [untilBrace?, if_neg (Ne.symm hlf.1)]
      by_cases hblank : AllBlank (c :: w)
      · rw [if_pos (hbrace.mpr hblank), dropTrailingBlanks_of_allBlank hblank]
      · rw [if_neg (mt hbrace.mp hblank), List.cons_append,
          ih hlf.2 hw.2 (head?_skipBlanks_append_brace hw.2 rest), dropTrailingBlanks_cons hblank]
        rfl

/-- A text that ends with something else than a blank and holds no brace is what stands in front of the
brace. -/
lemma untilBrace?_append (hne : clause ≠ []) (hend : dropTrailingBlanks clause = clause)
    (hlf : '\n' ∉ clause) (hbrace : '{' ∉ clause) :
    untilBrace? (clause ++ " \x7b".toList) = some clause := by
  cases clause with
  | nil => exact absurd rfl hne
  | cons x w =>
      have hink : ¬ AllBlank (x :: w) := fun hblank =>
        hne (hend.symm.trans (dropTrailingBlanks_of_allBlank hblank))
      have hgap : AllBlank [' '] := by decide
      have hlf' : '\n' ∉ x :: (w ++ [' ']) := by
        rw [← List.cons_append]
        exact List.not_mem_append hlf (by decide)
      have hbrace' : '{' ∉ w ++ [' '] :=
        List.not_mem_append (fun hmem => hbrace (List.mem_cons_of_mem x hmem)) (hgap.not_mem (by decide))
      have hsplit : x :: w ++ " \x7b".toList = x :: ((w ++ [' ']) ++ '{' :: []) := by simp
      rw [hsplit, untilBrace?_cons_append hlf' hbrace', dropTrailingBlanks_append hgap,
        ← dropTrailingBlanks_cons hink, hend]

lemma throwsClause?_keyword (rest : List Char) :
    throwsClause? (throwsKeyword ++ rest) = (gapRests rest).findSome? untilBrace? := by
  have hkeyword : "throws".toList.isPrefixOf? (throwsKeyword ++ rest) = some rest :=
    List.isPrefixOf?_eq_some_iff_append_eq.mpr rfl
  rw [throwsClause?, hkeyword, Option.bind_eq_bind, Option.bind_some]

/-- **The clause is read back.** -/
lemma throwsClause?_keyword_append (hne : clause ≠ []) (htrim : trim clause = clause)
    (hlf : '\n' ∉ clause) (hbrace : '{' ∉ clause) :
    throwsClause? (throwsKeyword ++ ' ' :: (clause ++ " \x7b".toList)) = some clause := by
  have hfront : skipBlanks (clause ++ " \x7b".toList) = clause ++ " \x7b".toList :=
    skipBlanks_append_of_ne_nil (skipBlanks_of_trim htrim) hne _
  have hread : untilBrace? (clause ++ " \x7b".toList) = some clause :=
    untilBrace?_append hne (dropTrailingBlanks_of_trim htrim) hlf hbrace
  have hblank : isBlank ' ' = true := by decide
  obtain ⟨more, hmore⟩ := exists_gapRests_cons hblank (clause ++ " \x7b".toList)
  rw [throwsClause?_keyword, hmore, hfront, List.findSome?_cons, hread]

end DocStub.Declaration

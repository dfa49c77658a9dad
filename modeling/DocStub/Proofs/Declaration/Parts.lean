import DocStub.Declaration.Parts
import DocStub.Proofs.Declaration.Grammar
import DocStub.Proofs.Text.Search

/-!
# Where the parts of a declaration come from

The readers of parts answer on every text, and they do so in two ways.

**Words.**  The name of a type, the name of a method and the type of its result consist of word
characters, whatever the line is: `forall_isWord_nameOfClass` and its siblings.

**Spans.**  The type and the name of a parameter and the pieces of a `throws` clause are copied from the
line as they stand (`infix_of_mem_parameters`, `infix_of_mem_thrownNames`), punctuation included.

The name of a field is what is left when the front and the initializer are cut away.  On any line it is
a part of the line (`mem_of_mem_nameOfField`), and on the line of a field nothing but words and blanks
(`FieldForm.blank_or_word_of_mem_nameOfField`).
-/

namespace DocStub.Declaration

open Text

/-! ## Words -/

lemma wordlike_unknown : Wordlike unknown := by decide

lemma wordlike_void : Wordlike void := by decide

/-- The word after a keyword, or the default. -/
lemma forall_isWord_named (keyword line : List Char) :
    ∀ c ∈ ((leftmost? (namedAfter? keyword) line).map Prod.fst).getD unknown,
      isWord c = true := by
  cases hread : leftmost? (namedAfter? keyword) line with
  | none => exact wordlike_unknown.2
  | some p =>
      obtain ⟨s, -, hs⟩ := exists_suffix_of_leftmost? hread
      obtain ⟨-, -, -, hw, -, -⟩ := namedAfter?_eq_some_iff.mp hs
      exact hw.2

lemma forall_isWord_nameOfClass (line : List Char) : ∀ c ∈ nameOfClass line, isWord c = true :=
  forall_isWord_named classKeyword line

lemma forall_isWord_nameOfInterface (line : List Char) :
    ∀ c ∈ nameOfInterface line, isWord c = true :=
  forall_isWord_named interfaceKeyword line

lemma wordlike_of_methodFront? {t : List Char} {d : TypedName} (h : methodFront? t = some d) :
    Wordlike d.type ∧ Wordlike d.name := by
  obtain ⟨m, htype, hname, -⟩ := typedName?_eq_some_iff.mp (Option.filter_eq_some_iff.mp h).1
  exact ⟨htype ▸ m.wordlike.1, hname ▸ m.wordlike.2⟩

lemma forall_isWord_name (line : List Char) : ∀ c ∈ (Method.ofLine line).name, isWord c = true := by
  unfold Method.ofLine
  dsimp only
  split
  · simp
  · rename_i d hread
    obtain ⟨s, -, hs⟩ := exists_suffix_of_leftmost? hread
    exact (wordlike_of_methodFront? hs).2.2

lemma forall_isWord_returnType (line : List Char) :
    ∀ c ∈ (Method.ofLine line).returnType, isWord c = true := by
  unfold Method.ofLine
  dsimp only
  split
  · exact wordlike_void.2
  · rename_i d hread
    obtain ⟨s, -, hs⟩ := exists_suffix_of_leftmost? hread
    dsimp only
    split_ifs
    · exact wordlike_void.2
    · exact (wordlike_of_methodFront? hs).1.2

/-! ## Parameters -/

lemma parameters_ofLine (line : List Char) :
    (Method.ofLine line).parameters =
      parameterList ((leftmost? parenthesized? line).getD []) := by
  unfold Method.ofLine
  dsimp only
  split <;> rfl

lemma infix_of_parenthesized? {t inner : List Char} (h : parenthesized? t = some inner) :
    inner <:+: t := by
  unfold parenthesized? at h
  split at h
  · obtain ⟨rest, rfl, -, -⟩ := lineUntil?_eq_some_iff.mp h
    exact ⟨['('], ')' :: rest, by simp⟩
  · exact absurd h (by simp)

lemma infix_of_inside (line : List Char) :
    (leftmost? parenthesized? line).getD [] <:+: line := by
  cases hread : leftmost? parenthesized? line with
  | none => exact List.nil_infix
  | some inner =>
      obtain ⟨s, hs, hinner⟩ := exists_suffix_of_leftmost? hread
      exact (infix_of_parenthesized? hinner).trans hs.isInfix

lemma mem_tokens_of_ofSegment? {t : List Char} {p : Parameter}
    (h : Parameter.ofSegment? t = some p) : p.type ∈ tokens t ∧ p.name ∈ tokens t := by
  unfold Parameter.ofSegment? at h
  split at h
  · rename_i name type rest hrev
    obtain rfl := Option.some.inj h
    constructor
    · exact List.mem_reverse.mp (hrev ▸ by simp)
    · exact List.mem_reverse.mp (hrev ▸ by simp)
  · exact absurd h (by simp)

/-- A blank text could be cut as well: it has no tokens. -/
lemma parameterList_eq (t : List Char) :
    parameterList t = (t.splitOn ',').filterMap Parameter.ofSegment? := by
  rw [parameterList]
  split_ifs with hblank
  · have hall : AllBlank t := trim_eq_nil_iff.mp hblank
    have hcomma : ',' ∉ t := hall.not_mem (by decide)
    have hnone : Parameter.ofSegment? t = none := by
      rw [Parameter.ofSegment?, tokens_of_allBlank hall]
      rfl
    rw [List.splitOn_eq_singleton hcomma, List.filterMap_cons_none hnone, List.filterMap_nil]
  · rfl

lemma isBlank_of_mem_name {line : List Char} {p : Parameter}
    (h : p ∈ (Method.ofLine line).parameters) {c : Char} (hc : c ∈ p.name) : isBlank c = false := by
  rw [parameters_ofLine, parameterList_eq] at h
  obtain ⟨segment, -, hp⟩ := List.mem_filterMap.mp h
  exact (infix_of_mem_tokens (mem_tokens_of_ofSegment? hp).2).2 c hc

lemma infix_of_mem_parameterList {t : List Char} {p : Parameter} (h : p ∈ parameterList t) :
    p.type <:+: t ∧ p.name <:+: t := by
  rw [parameterList_eq] at h
  obtain ⟨segment, hsegment, hp⟩ := List.mem_filterMap.mp h
  have hin : segment <:+: t := (infix_of_mem_splitOnP hsegment).1
  obtain ⟨htype, hname⟩ := mem_tokens_of_ofSegment? hp
  exact ⟨(infix_of_mem_tokens htype).1.trans hin, (infix_of_mem_tokens hname).1.trans hin⟩

lemma infix_of_mem_parameters {line : List Char} {p : Parameter}
    (h : p ∈ (Method.ofLine line).parameters) : p.type <:+: line ∧ p.name <:+: line := by
  rw [parameters_ofLine] at h
  obtain ⟨htype, hname⟩ := infix_of_mem_parameterList h
  exact ⟨htype.trans (infix_of_inside line), hname.trans (infix_of_inside line)⟩

/-! ## Exceptions -/

lemma suffix_of_mem_gapRests {t r : List Char} (h : r ∈ gapRests t) : r <:+ t := by
  induction t with
  | nil => simp [gapRests] at h
  | cons c t ih =>
      unfold gapRests at h
      split_ifs at h
      · rcases List.mem_append.mp h with h | h
        · exact (ih h).trans (List.suffix_cons c t)
        · rw [List.mem_singleton.mp h]
          exact List.suffix_cons c t
      · simp at h

lemma isPrefix_of_untilBrace? {t r : List Char} (h : untilBrace? t = some r) : r <+: t := by
  induction t generalizing r with
  | nil => simp [untilBrace?] at h
  | cons c t ih =>
      unfold untilBrace? at h
      split_ifs at h
      · obtain rfl := Option.some.inj h
        exact ⟨t, rfl⟩
      · obtain ⟨s, hs, rfl⟩ := Option.map_eq_some_iff.mp h
        exact List.cons_prefix_cons.mpr ⟨rfl, ih hs⟩

lemma infix_of_throwsClause? {t clause : List Char} (h : throwsClause? t = some clause) :
    clause <:+: t := by
  simp only [throwsClause?, Option.bind_eq_bind, Option.bind_eq_some_iff,
    List.isPrefixOf?_eq_some_iff_append_eq] at h
  obtain ⟨u, rfl, h⟩ := h
  obtain ⟨r, hr, hclause⟩ := List.exists_of_findSome?_eq_some h
  have hin : clause <:+: u :=
    (isPrefix_of_untilBrace? hclause).isInfix.trans (suffix_of_mem_gapRests hr).isInfix
  exact hin.trans (List.suffix_append _ u).isInfix

lemma isInfix_trim (t : List Char) : trim t <:+: t :=
  (dropTrailingBlanks_isPrefix _).isInfix.trans (List.dropWhile_suffix _).isInfix

lemma infix_of_mem_thrownNames {line e : List Char} (h : e ∈ thrownNames line) : e <:+: line := by
  unfold thrownNames at h
  split at h
  · simp at h
  · rename_i clause hread
    obtain ⟨s, hs, hclause⟩ := exists_suffix_of_leftmost? hread
    obtain ⟨piece, hpiece, rfl⟩ := List.mem_map.mp (List.mem_filter.mp h).1
    have hin : piece <:+: clause := (infix_of_mem_splitOnP hpiece).1
    exact (isInfix_trim piece).trans (hin.trans ((infix_of_throwsClause? hclause).trans hs.isInfix))

/-! ## Fields -/

lemma exists_append_of_mem_readings {gs : List (List Modifier)} {t u : List Char}
    (h : u ∈ readings gs t) :
    ∃ a, t = a ++ u ∧ ∀ c ∈ a, isBlank c = true ∨ isWord c = true := by
  induction gs generalizing t with
  | nil => exact ⟨[], by rw [List.mem_singleton.mp h, List.nil_append], by simp⟩
  | cons g gs ih =>
      obtain ⟨t', ht', hu⟩ := List.mem_flatMap.mp h
      obtain ⟨a, rfl, ha⟩ := ih hu
      rcases mem_afterOptional_iff.mp ht' with ⟨m, -, r, rfl, hr⟩ | hr
      · obtain ⟨b, hb, hsplit⟩ := exists_allBlank_append_skipBlanks r
        refine ⟨m.spelling ++ (b ++ a), ?_, ?_⟩
        · rw [List.append_assoc, List.append_assoc, hr, ← hsplit]
        · intro c hc
          simp only [List.mem_append] at hc
          rcases hc with hc | hc | hc
          · exact Or.inr ((wordlike_spelling m).2 c hc)
          · exact Or.inl (hb c hc)
          · exact ha c hc
      · obtain ⟨b, hb, hsplit⟩ := exists_allBlank_append_skipBlanks t
        refine ⟨b ++ a, by rw [List.append_assoc, hr, ← hsplit], ?_⟩
        intro c hc
        rcases List.mem_append.mp hc with hc | hc
        · exact Or.inl (hb c hc)
        · exact ha c hc

/-- What is cut off in front of the name of a field is made of words and blanks. -/
lemma exists_append_afterType (t : List Char) :
    ∃ a, t = a ++ afterType t ∧ ∀ c ∈ a, isBlank c = true ∨ isWord c = true := by
  unfold afterType
  generalize hread : List.findSome? _ (afterModifiers t) = o
  cases o with
  | none => exact ⟨[], rfl, by simp⟩
  | some r =>
      obtain ⟨u, hu, h⟩ := List.exists_of_findSome?_eq_some hread
      simp only [Option.bind_eq_bind, Option.bind_eq_some_iff, Prod.exists,
        leadingWord?_eq_some_iff, afterGap?_eq_some_iff] at h
      obtain ⟨w, _, ⟨hw, -, rfl⟩, gap, -, hgap, rfl, -⟩ := h
      rw [afterModifiers_eq_readings] at hu
      obtain ⟨a, ht, ha⟩ := exists_append_of_mem_readings hu
      refine ⟨a ++ (w ++ gap), by rw [ht]; simp, ?_⟩
      intro c hc
      simp only [List.mem_append] at hc
      rcases hc with hc | hc | hc
      · exact ha c hc
      · exact Or.inr (hw.2 c hc)
      · exact Or.inl (hgap c hc)

lemma mem_of_mem_dropInitializers {c : Char} {inside : Bool} {t : List Char}
    (h : c ∈ dropInitializers inside t) : c ∈ t := by
  induction t generalizing inside with
  | nil => exact h
  | cons x t ih =>
      unfold dropInitializers at h
      split_ifs at h
      · exact List.mem_cons_of_mem x (ih h)
      · exact List.mem_cons_of_mem x (ih h)
      · exact List.mem_cons_of_mem x (ih h)
      · rcases List.mem_cons.mp h with rfl | h
        · exact List.mem_cons_self
        · exact List.mem_cons_of_mem x (ih h)

/-- On one line an initializer reaches to the end. -/
lemma dropInitializers_true {t : List Char} (ht : '\n' ∉ t) : dropInitializers true t = [] := by
  induction t with
  | nil => rfl
  | cons c t ih =>
      rw [List.mem_cons, not_or] at ht
      have hc : (c != '\n') = true := bne_iff_ne.mpr (Ne.symm ht.1)
      rw [dropInitializers, hc]
      exact ih ht.2

/-- On one line nothing from the first equals sign on survives. -/
lemma mem_of_mem_dropInitializers_append {c : Char} {front value : List Char}
    (hfront : '=' ∉ front) (hvalue : '\n' ∉ value)
    (h : c ∈ dropInitializers false (front ++ '=' :: value)) : c ∈ front := by
  induction front with
  | nil =>
      rw [List.nil_append, dropInitializers] at h
      simp [dropInitializers_true hvalue] at h
  | cons x front ih =>
      rw [List.mem_cons, not_or] at hfront
      rw [List.cons_append, dropInitializers, Bool.false_and, if_neg Bool.false_ne_true,
        if_neg (Ne.symm hfront.1)] at h
      split_ifs at h
      · exact List.mem_cons_of_mem x (ih hfront.2 h)
      · rcases List.mem_cons.mp h with rfl | h
        · exact List.mem_cons_self
        · exact List.mem_cons_of_mem x (ih hfront.2 h)

lemma mem_of_mem_nameOfField {c : Char} {line : List Char} (h : c ∈ nameOfField line) :
    c ∈ line := by
  have hmem : c ∈ afterType line :=
    mem_of_mem_dropInitializers (List.mem_filter.mp (mem_of_mem_trim h)).1
  obtain ⟨a, ht, -⟩ := exists_append_afterType line
  rw [ht]
  exact List.mem_append_right a hmem

/-- If the line of a field has a front of words and blanks, so has what is left after its type. -/
lemma exists_afterType_append {front rest : List Char}
    (hfront : ∀ c ∈ front, isBlank c = true ∨ isWord c = true)
    (hrest : ∃ c s, rest = c :: s ∧ isBlank c = false ∧ isWord c = false) :
    ∃ front', afterType (front ++ rest) = front' ++ rest ∧ ∀ c ∈ front', c ∈ front := by
  obtain ⟨a, ht, ha⟩ := exists_append_afterType (front ++ rest)
  rcases List.append_eq_append_iff.mp ht with ⟨b, rfl, hb⟩ | ⟨b, rfl, hb⟩
  · cases b with
    | nil => exact ⟨[], by simpa using hb.symm, by simp⟩
    | cons x b =>
        obtain ⟨c, s, rfl, hblank, hword⟩ := hrest
        rw [List.cons_append] at hb
        obtain ⟨rfl, -⟩ := List.cons.inj hb
        exact absurd (by simp) (not_mem_of_forall_blank_or_word ha hblank hword)
  · exact ⟨b, hb, fun c hc => List.mem_append_right a hc⟩

/-- **The name of a field is made of words.**  The front of the line is a header, the initializer is
cut off, and the semicolon is filtered out. -/
theorem FieldForm.blank_or_word_of_mem_nameOfField {line : List Char} (h : FieldForm line)
    (hlf : '\n' ∉ line) {c : Char} (hc : c ∈ nameOfField line) :
    isBlank c = true ∨ isWord c = true := by
  obtain ⟨front, rest, rfl, heq, -, hheader, hrest⟩ := h
  obtain ⟨hmem, hsemi⟩ := List.mem_filter.mp (mem_of_mem_trim hc)
  rw [bne_iff_ne] at hsemi
  rcases hrest with rfl | ⟨value, rfl⟩
  · obtain ⟨front', hafter, hsub⟩ :=
      exists_afterType_append hheader.1 ⟨';', [], rfl, by decide, by decide⟩
    rw [hafter] at hmem
    rcases List.mem_append.mp (mem_of_mem_dropInitializers hmem) with h | h
    · exact hheader.1 c (hsub c h)
    · exact absurd (List.mem_singleton.mp h) hsemi
  · obtain ⟨front', hafter, hsub⟩ :=
      exists_afterType_append hheader.1 ⟨'=', value ++ [';'], rfl, by decide, by decide⟩
    rw [hafter] at hmem
    have hvalue : '\n' ∉ value ++ [';'] := fun hv => hlf (by simp at hv; simp [hv])
    have hfront' : '=' ∉ front' := fun hx => heq (hsub _ hx)
    exact hheader.1 c (hsub c (mem_of_mem_dropInitializers_append hfront' hvalue hmem))

end DocStub.Declaration

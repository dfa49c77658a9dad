import DocStub.Proofs.Declaration.Modifiers

/-!
# The header of a member

What stands in front of the parenthesis of a method, or in front of the initializer of a field, is a
header: modifiers, a type and a name.  It is looked at in two ways.

**By words.**  `IsModifierPrefix ws` holds when the words `ws` are modifiers in order, with every break
between two words falling between two modifiers; `publicstatic final` is such a sequence.  `IsHeader t`
holds when `t` consists of blanks and words, the last two of them a type and a name and all others a
modifier prefix.

**By gaps.**  `Precedes gs t u` says with which modifiers and gaps the text in front of `u` is written,
and a `Member` is a type and a name with the gaps after them.

**The agreement.**  `isHeader_iff`.  Reading the words off the gaps glues a modifier without a gap to
what follows it (`exists_words_spaced_append`), and writing given words with gaps puts the gap of a
group behind its last modifier (`exists_spaced_of_words`).
-/

namespace DocStub.Declaration

open Text

/-- Modifiers, at most one from each group, and any blanks after each, stand in front of `u`. -/
def Precedes (gs : List (List Modifier)) (t u : List Char) : Prop :=
  ∃ ps : List (Modifier × List Char), Selects gs (ps.map Prod.fst) ∧ (∀ p ∈ ps, AllBlank p.2) ∧
    t = spaced ps ++ u

lemma Precedes.cons_head {gs : List (List Modifier)} {t u : List Char} (h : Precedes gs t u)
    (hu : ∃ c r, u = c :: r ∧ isWord c = true) : ∃ c r, t = c :: r ∧ isWord c = true := by
  obtain ⟨ps, -, -, rfl⟩ := h
  exact cons_head_spaced_append ps hu

/-- The words are modifiers in order, and every break between them is one between modifiers. -/
def IsModifierPrefix (ws : List (List Char)) : Prop :=
  ∃ groups : List (List Modifier), Selects modifierGroups groups.flatten ∧ ws = groups.map glued

/-- Blanks and words alone: a modifier prefix, a type and a name. -/
def IsHeader (t : List Char) : Prop :=
  (∀ c ∈ t, isBlank c = true ∨ isWord c = true) ∧
    ∃ mods type name, words t = mods ++ [type, name] ∧ IsModifierPrefix mods

/-- The type and the name of a member, both of them words, with the gaps after them.  The gaps are blank, and
the inner one keeps the words apart. -/
structure Member where
  type : List Char
  gap : List Char
  name : List Char
  trailing : List Char
  wordlike : Wordlike type ∧ Wordlike name
  blank : gap ≠ [] ∧ AllBlank gap ∧ AllBlank trailing

/-- The member as it is written. -/
def Member.text (m : Member) : List Char := m.type ++ (m.gap ++ (m.name ++ m.trailing))

lemma Member.cons_head (m : Member) : ∃ c r, m.text = c :: r ∧ isWord c = true := by
  obtain ⟨c, r, hr, hc⟩ := m.wordlike.1.cons_head
  exact ⟨c, r ++ (m.gap ++ (m.name ++ m.trailing)), by simp [Member.text, hr], hc⟩

lemma Member.endsWord_trailing (m : Member) : EndsWord m.trailing := by
  rintro c r h
  exact isWord_of_isBlank (m.blank.2.2 c (by simp [h]))

lemma Member.words_text (m : Member) : words m.text = [m.type, m.name] := by
  obtain ⟨hne, hgap, htr⟩ := m.blank
  rw [Member.text, words_append_of_wordlike m.wordlike.1 (hgap.endsWord_append hne _),
    words_append_of_allBlank hgap, words_append_of_wordlike m.wordlike.2 m.endsWord_trailing,
    words_of_allBlank htr]

lemma Member.forall_blank_or_word (m : Member) :
    ∀ c ∈ m.text, isBlank c = true ∨ isWord c = true := by
  intro c hc
  simp only [Member.text, List.mem_append] at hc
  rcases hc with hc | hc | hc | hc
  · exact Or.inr (m.wordlike.1.2 c hc)
  · exact Or.inl (m.blank.2.1 c hc)
  · exact Or.inr (m.wordlike.2.2 c hc)
  · exact Or.inl (m.blank.2.2 c hc)

/-- The words of a text with modifiers in front: whole groups of glued modifiers first, and then
those glued to the first word. -/
lemma exists_words_spaced_append {t w : List Char} {ws : List (List Char)}
    (ht : ∃ c r, t = c :: r ∧ isWord c = true) (hw : words t = w :: ws)
    {ps : List (Modifier × List Char)} (hps : ∀ p ∈ ps, AllBlank p.2) :
    ∃ (groups : List (List Modifier)) (ms : List Modifier),
      ps.map Prod.fst = groups.flatten ++ ms ∧
      words (spaced ps ++ t) = groups.map glued ++ (glued ms ++ w) :: ws := by
  induction ps with
  | nil => exact ⟨[], [], rfl, by simpa using hw⟩
  | cons p ps ih =>
      obtain ⟨hp, hps⟩ := List.forall_mem_cons.mp hps
      obtain ⟨groups, ms, hms, hwords⟩ := ih hps
      have hhead := cons_head_spaced_append ps ht
      rw [spaced_cons, List.append_assoc, List.append_assoc]
      by_cases hne : p.2 = []
      · -- without a gap the modifier joins the word that follows it
        rw [hne, List.nil_append]
        cases groups with
        | nil =>
            refine ⟨[], p.1 :: ms, by simpa using hms, ?_⟩
            rw [words_append_wordlike (wordlike_spelling p.1).2 hhead hwords]
            simp
        | cons g groups =>
            refine ⟨(p.1 :: g) :: groups, ms, by simpa using hms, ?_⟩
            rw [words_append_wordlike (wordlike_spelling p.1).2 hhead hwords]
            simp
      · refine ⟨[p.1] :: groups, ms, by simpa using hms, ?_⟩
        rw [words_append_of_wordlike (wordlike_spelling p.1) (hp.endsWord_append hne _),
          words_append_of_allBlank hp, hwords]
        simp

/-- A group of modifiers can be written with its gap behind the last one. -/
lemma exists_spaced_eq_glued {g : List Modifier} (hg : g ≠ []) {gap : List Char}
    (hgap : AllBlank gap) :
    ∃ ps : List (Modifier × List Char), ps.map Prod.fst = g ∧ (∀ p ∈ ps, AllBlank p.2) ∧
      spaced ps = glued g ++ gap := by
  induction g with
  | nil => exact absurd rfl hg
  | cons m g ih =>
      cases g with
      | nil => exact ⟨[(m, gap)], rfl, by simpa using hgap, by simp⟩
      | cons m' g =>
          obtain ⟨ps, hmap, hps, htext⟩ := ih (by simp)
          refine ⟨(m, []) :: ps, by simp [hmap], List.forall_mem_cons.mpr ⟨by simp, hps⟩, ?_⟩
          simp [htext]

lemma isWord_head {c : Char} {t : List Char} (ht : skipBlanks (c :: t) = c :: t)
    (hall : ∀ x ∈ c :: t, isBlank x = true ∨ isWord x = true) : isWord c = true := by
  rcases hall c List.mem_cons_self with hb | hc
  · rw [skipBlanks_eq_self_iff.mp ht c t rfl] at hb
    exact Bool.noConfusion hb
  · exact hc

lemma exists_append_of_words_cons {t w : List Char} {ws : List (List Char)}
    (ht : skipBlanks t = t) (hall : ∀ c ∈ t, isBlank c = true ∨ isWord c = true)
    (hw : words t = w :: ws) :
    ∃ gap r, t = w ++ (gap ++ r) ∧ Wordlike w ∧ AllBlank gap ∧ skipBlanks r = r ∧
      words r = ws ∧ (r ≠ [] → gap ≠ []) := by
  cases t with
  | nil => simp at hw
  | cons c t =>
      obtain ⟨v, r, hv, hr, hvr⟩ := exists_wordlike_append (isWord_head ht hall) t
      rw [hvr, words_append_of_wordlike hv hr] at hw
      obtain ⟨rfl, rfl⟩ := List.cons.inj hw
      obtain ⟨gap, hgap, hsplit⟩ := exists_allBlank_append_skipBlanks r
      refine ⟨gap, skipBlanks r, by rw [← hsplit, hvr], hv, hgap, skipBlanks_skipBlanks r, ?_, ?_⟩
      · conv_rhs => rw [hsplit]
        rw [words_append_of_allBlank hgap]
      · rintro hne rfl
        rw [List.nil_append] at hsplit
        obtain ⟨x, y, hxy⟩ := List.exists_cons_of_ne_nil hne
        have hx : isWord x = false := hr x y (hsplit.trans hxy)
        have hblank : isBlank x = false :=
          skipBlanks_eq_self_iff.mp (skipBlanks_skipBlanks r) x y hxy
        have hmem : x ∈ c :: t := by
          rw [hvr, hsplit, hxy]
          simp
        exact not_mem_of_forall_blank_or_word hall hblank hx hmem

lemma eq_nil_of_words_eq_nil {t : List Char} (ht : skipBlanks t = t)
    (hall : ∀ c ∈ t, isBlank c = true ∨ isWord c = true) (hw : words t = []) : t = [] := by
  cases t with
  | nil => rfl
  | cons c t =>
      obtain ⟨v, r, hv, hr, hvr⟩ := exists_wordlike_append (isWord_head ht hall) t
      rw [hvr, words_append_of_wordlike hv hr] at hw
      exact absurd hw (by simp)

lemma exists_member_of_words {t type name : List Char} (ht : skipBlanks t = t)
    (hall : ∀ c ∈ t, isBlank c = true ∨ isWord c = true) (hw : words t = [type, name]) :
    ∃ m : Member, t = m.text := by
  obtain ⟨gap, r, rfl, htype, hgap, hr, hwr, hne⟩ := exists_append_of_words_cons ht hall hw
  have hallr : ∀ c ∈ r, isBlank c = true ∨ isWord c = true :=
    fun c hc => hall c (by simp [hc])
  obtain ⟨gap', r', rfl, hname, hgap', hr', hwr', -⟩ := exists_append_of_words_cons hr hallr hwr
  obtain rfl : r' = [] :=
    eq_nil_of_words_eq_nil hr' (fun c hc => hallr c (by simp [hc])) hwr'
  have hgapne : gap ≠ [] := hne (by simp [hname.1])
  exact ⟨⟨type, gap, name, gap', ⟨htype, hname⟩, hgapne, hgap, hgap'⟩, by simp [Member.text]⟩

/-- Groups of glued modifiers at the front are modifiers with gaps in front of the other words. -/
lemma exists_spaced_append_of_words {groups : List (List Modifier)} {t : List Char}
    {ws : List (List Char)} (ht : skipBlanks t = t)
    (hall : ∀ c ∈ t, isBlank c = true ∨ isWord c = true) (hw : words t = groups.map glued ++ ws) :
    ∃ (ps : List (Modifier × List Char)) (r : List Char), ps.map Prod.fst = groups.flatten ∧
      (∀ p ∈ ps, AllBlank p.2) ∧ t = spaced ps ++ r ∧ skipBlanks r = r ∧ words r = ws := by
  induction groups generalizing t with
  | nil => exact ⟨[], t, rfl, by simp, rfl, ht, hw⟩
  | cons g groups ih =>
      obtain ⟨gap, r, rfl, hg, hgap, hr, hwr, -⟩ := exists_append_of_words_cons ht hall hw
      have hgne : g ≠ [] := by
        rintro rfl
        exact hg.1 rfl
      obtain ⟨ps, hmap, hps, htext⟩ := exists_spaced_eq_glued hgne hgap
      obtain ⟨qs, u, hmapq, hqs, rfl, hu, hwu⟩ := ih hr (fun c hc => hall c (by simp [hc])) hwr
      refine ⟨ps ++ qs, u, by simp [hmap, hmapq], ?_, ?_, hu, hwu⟩
      · intro p hp
        exact (List.mem_append.mp hp).elim (hps p) (hqs p)
      · rw [spaced_append, htext, List.append_assoc, List.append_assoc]

/-- Groups of glued modifiers in front of two words are modifiers with gaps in front of a member. -/
lemma exists_spaced_of_words {groups : List (List Modifier)} {t type name : List Char}
    (ht : skipBlanks t = t) (hall : ∀ c ∈ t, isBlank c = true ∨ isWord c = true)
    (hw : words t = groups.map glued ++ [type, name]) :
    ∃ (ps : List (Modifier × List Char)) (m : Member), ps.map Prod.fst = groups.flatten ∧
      (∀ p ∈ ps, AllBlank p.2) ∧ t = spaced ps ++ m.text := by
  obtain ⟨ps, r, hmap, hps, rfl, hr, hwr⟩ := exists_spaced_append_of_words ht hall hw
  obtain ⟨m, rfl⟩ := exists_member_of_words hr (fun c hc => hall c (by simp [hc])) hwr
  exact ⟨ps, m, hmap, hps, rfl⟩

/-- **The two views of a header agree.** -/
theorem isHeader_iff {t : List Char} (ht : skipBlanks t = t) :
    IsHeader t ↔ ∃ m : Member, Precedes modifierGroups t m.text := by
  constructor
  · rintro ⟨hall, mods, type, name, hwords, groups, hsel, rfl⟩
    obtain ⟨ps, m, hmap, hps, rfl⟩ := exists_spaced_of_words ht hall hwords
    exact ⟨m, ps, hmap ▸ hsel, hps, rfl⟩
  · rintro ⟨m, ps, hsel, hps, rfl⟩
    obtain ⟨groups, ms, hms, hwords⟩ := exists_words_spaced_append m.cons_head m.words_text hps
    refine ⟨?_, groups.map glued, glued ms ++ m.type, m.name, hwords, groups, ?_, rfl⟩
    · intro c hc
      rcases List.mem_append.mp hc with hc | hc
      · exact forall_blank_or_word_spaced hps c hc
      · exact m.forall_blank_or_word c hc
    · rw [hms] at hsel
      exact hsel.of_append

lemma IsHeader.ne_nil {t : List Char} (h : IsHeader t) : t ≠ [] := by
  rintro rfl
  obtain ⟨-, mods, type, name, hwords, -⟩ := h
  simp at hwords

lemma IsHeader.not_mem {t : List Char} (h : IsHeader t) {c : Char} (hb : isBlank c = false)
    (hw : isWord c = false) : c ∉ t :=
  not_mem_of_forall_blank_or_word h.1 hb hw

end DocStub.Declaration

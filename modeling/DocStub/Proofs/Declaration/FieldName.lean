import DocStub.Comment.Compose
import DocStub.Proofs.Declaration.Extraction
import DocStub.Proofs.Declaration.Parts

/-!
# The name of a field

To find the name of a field, its reader cuts off modifiers and a word for the type, and then the value.  It
takes the first reading of the line in which a word and a blank stand behind modifiers, and does not look
for a name behind them.

**Readings.**  They come in the order of what they leave, the shortest first (`pairwise_suffix_readings`).
So the first one that fits cuts off more than all others that fit (`exists_first_reading`).

**The cut.**  It leaves one word, the name, or none.  None is left when the words in front of the name are
modifiers alone and a blank follows the name, since then the name fits as the type (`words_left`).

**The name.**  The value and the semicolon are dropped behind the name (`nameOfField_eq_of_afterType`), so
the name of a field is its last word, or it is lost (`nameOfField_eq_lastWord_iff`).
-/

namespace DocStub.Declaration

open Text

variable {gs : List (List Modifier)} {m m' : Modifier}
  {line t u v s w gap left front rest name : List Char}

/-- The text in front of the value of a field, or in front of its semicolon if it has no value. -/
def beforeValue (line : List Char) : List Char :=
  if '=' ∈ line then line.takeWhile (· != '=') else line.takeWhile (· != ';')

/-- The last word of a text can be read as the type: modifiers alone stand in front of it, and a blank
behind it. -/
def EndsWithType (front : List Char) : Prop :=
  ∃ mods name c, words front = mods ++ [name] ∧ IsModifierPrefix mods ∧ front.getLast? = some c ∧
    isBlank c = true

/-! ## Readings -/

lemma eq_of_isPrefix_spelling (h : m.spelling <+: t) (h' : m'.spelling <+: t) : m = m' := by
  have hpre : ∀ m m' : Modifier, m.spelling <+: m'.spelling → m = m' := by
    intro m m'
    cases m <;> cases m' <;> decide
  rcases List.prefix_or_prefix_of_prefix h h' with h | h
  · exact hpre m m' h
  · exact (hpre m' m h).symm

/-- Without a modifier at the front there is one reading. -/
lemma eq_of_mem_readings (ht : skipBlanks t = t) (hnone : ∀ m ∈ gs.flatten, ¬ m.spelling <+: t)
    (hu : u ∈ readings gs t) : u = t := by
  obtain ⟨-, ps, hsel, -, rfl⟩ := (mem_readings_iff ht).mp hu
  cases ps with
  | nil => rfl
  | cons p ps =>
      have hp : p.1 ∈ gs.flatten := hsel.mem_flatten List.mem_cons_self
      exact absurd ⟨p.2 ++ spaced ps ++ u, by simp⟩ (hnone p.1 hp)

/-- Readings that take a modifier come first, and they leave less. -/
lemma pairwise_suffix_readings (hgs : gs.flatten.Nodup) (ht : skipBlanks t = t) :
    (readings gs t).Pairwise (· <:+ ·) := by
  induction gs generalizing t with
  | nil => exact List.pairwise_singleton _ t
  | cons g gs ih =>
      rw [List.flatten_cons, List.nodup_append] at hgs
      obtain ⟨hg, hgs, hother⟩ := hgs
      rw [readings, List.pairwise_flatMap]
      constructor
      · intro s hs
        refine ih hgs ?_
        rcases mem_afterOptional_iff.mp hs with ⟨m, -, r, -, rfl⟩ | rfl <;> exact skipBlanks_skipBlanks _
      · rw [afterOptional, List.map_append, List.pairwise_append]
        refine ⟨?_, List.pairwise_singleton _ _, ?_⟩
        · -- one modifier of the group at most stands at the front
          rw [List.pairwise_map, List.pairwise_filterMap]
          refine hg.imp fun hne r hr r' hr' => absurd ?_ hne
          exact eq_of_isPrefix_spelling (t := t) ⟨r, List.isPrefixOf?_eq_some_iff_append_eq.mp hr⟩
            ⟨r', List.isPrefixOf?_eq_some_iff_append_eq.mp hr'⟩
        · -- and then no modifier of a later group does
          intro s hs s' hs' x hx y hy
          obtain ⟨r, hr, rfl⟩ := List.mem_map.mp hs
          obtain ⟨m, hm, hr⟩ := List.mem_filterMap.mp hr
          rw [List.map_singleton, List.mem_singleton, ht] at hs'
          subst hs'
          have hsplit : m.spelling ++ r = s' := List.isPrefixOf?_eq_some_iff_append_eq.mp hr
          have hnone : ∀ m' ∈ gs.flatten, ¬ m'.spelling <+: s' := fun m' hm' hpre =>
            hother m hm m' hm' (eq_of_isPrefix_spelling ⟨r, hsplit⟩ hpre)
          obtain ⟨a, ha, -⟩ := exists_append_of_mem_readings hx
          rw [eq_of_mem_readings ht hnone hy]
          exact List.IsSuffix.trans ⟨a, ha.symm⟩
            ((List.dropWhile_suffix _).trans ⟨m.spelling, hsplit⟩)

/-- The text behind a word and the blanks after it. -/
def afterWord? (t : List Char) : Option (List Char) := (leadingWord? t).bind fun p => afterGap? p.2

lemma afterWord?_eq_some_iff : afterWord? t = some s ↔
    ∃ w gap, Wordlike w ∧ gap ≠ [] ∧ AllBlank gap ∧ skipBlanks s = s ∧ t = w ++ (gap ++ s) := by
  simp only [afterWord?, Option.bind_eq_some_iff, Prod.exists, leadingWord?_eq_some_iff,
    afterGap?_eq_some_iff]
  constructor
  · rintro ⟨w, _, ⟨hw, -, rfl⟩, gap, hne, hgap, rfl, hs⟩
    exact ⟨w, gap, hw, hne, hgap, hs, rfl⟩
  · rintro ⟨w, gap, hw, hne, hgap, hs, rfl⟩
    exact ⟨w, gap ++ s, ⟨hw, hgap.endsWord_append hne s, rfl⟩, gap, hne, hgap, rfl, hs⟩

/-- The reading that is taken leaves the end of what any other one leaves that fits. -/
lemma exists_first_reading (hline : skipBlanks line = line) (hv : v ∈ afterModifiers line)
    (hfits : afterWord? v ≠ none) :
    ∃ u ∈ afterModifiers line, afterWord? u = some (afterType line) ∧
      ∀ v ∈ afterModifiers line, afterWord? v ≠ none → u <:+ v := by
  have hsorted : (afterModifiers line).Pairwise (· <:+ ·) := by
    rw [afterModifiers_eq_readings]
    exact pairwise_suffix_readings (by decide) hline
  have hfound : afterType line = ((afterModifiers line).findSome? afterWord?).getD line := rfl
  cases hread : (afterModifiers line).findSome? afterWord? with
  | none => exact absurd (List.findSome?_eq_none_iff.mp hread v hv) hfits
  | some r =>
      rw [hread, Option.getD_some] at hfound
      obtain ⟨before, u, after, hsplit, hu, hnone⟩ := List.findSome?_eq_some_iff.mp hread
      rw [hsplit] at hsorted ⊢
      refine ⟨u, by simp, by rw [hu, hfound], fun v hv hfits => ?_⟩
      rcases List.mem_append.mp hv with hv | hv
      · exact absurd (hnone v hv) hfits
      · rcases List.mem_cons.mp hv with rfl | hv
        · exact List.suffix_refl v
        · exact (List.pairwise_cons.mp (List.pairwise_append.mp hsorted).2.1).1 v hv

/-! ## The cut -/

/-- What a reading cuts off is a front of words, with a word and blanks at its end. -/
lemma exists_cut {sign : Char} (hsign : IsMark sign)
    (hline : skipBlanks (front ++ sign :: rest) = front ++ sign :: rest)
    (hu : u ∈ afterModifiers (front ++ sign :: rest)) (hs : afterWord? u = some s) :
    ∃ ps w gap left, Selects modifierGroups (ps.map Prod.fst) ∧ (∀ p ∈ ps, AllBlank p.2) ∧ Wordlike w ∧
      gap ≠ [] ∧ AllBlank gap ∧ skipBlanks left = left ∧ front = spaced ps ++ (w ++ (gap ++ left)) ∧
      u = (w ++ (gap ++ left)) ++ sign :: rest ∧ s = left ++ sign :: rest := by
  rw [afterModifiers_eq_readings] at hu
  obtain ⟨-, ps, hsel, hps, hsplit⟩ := (mem_readings_iff hline).mp hu
  obtain ⟨w, gap, hw, hne, hgap, hskip, rfl⟩ := afterWord?_eq_some_iff.mp hs
  have hcut : front ++ sign :: rest = (spaced ps ++ (w ++ gap)) ++ s := by rw [hsplit]; simp
  have hmark : ∀ c ∈ spaced ps ++ (w ++ gap), ¬ IsMark c := by
    intro c hc
    refine not_isMark_of_blank_or_word ?_
    simp only [List.mem_append] at hc
    rcases hc with hc | hc | hc
    · exact forall_blank_or_word_spaced hps c hc
    · exact Or.inr (hw.2 c hc)
    · exact Or.inl (hgap c hc)
  obtain ⟨left, hfront, rfl⟩ : ∃ left, front = (spaced ps ++ (w ++ gap)) ++ left ∧
      s = left ++ sign :: rest := by
    rcases List.append_eq_append_iff.mp hcut with ⟨b, hb, hs⟩ | ⟨b, hb, hs⟩
    · cases b with
      | nil => exact ⟨[], by simpa using hb.symm, hs.symm⟩
      | cons c b =>
          obtain ⟨rfl, -⟩ := List.cons.inj hs
          exact absurd hsign (hmark sign (by simp [hb]))
    · exact ⟨b, hb, hs⟩
  refine ⟨ps, w, gap, left, hsel, hps, hw, hne, hgap, skipBlanks_of_append hskip, ?_, ?_, rfl⟩
  · rw [hfront]; simp
  · simp

lemma words_append_gap (hw : Wordlike w) (hne : gap ≠ []) (hgap : AllBlank gap) (left : List Char) :
    words (w ++ (gap ++ left)) = w :: words left := by
  rw [words_append_of_wordlike hw (hgap.endsWord_append hne left), words_append_of_allBlank hgap]

/-- Whatever the cut goes through, modifiers alone stand in front of the last word in it. -/
lemma exists_words_cut {ps : List (Modifier × List Char)} (hsel : Selects modifierGroups (ps.map Prod.fst))
    (hps : ∀ p ∈ ps, AllBlank p.2) (hw : Wordlike w) (hne : gap ≠ []) (hgap : AllBlank gap)
    (left : List Char) : ∃ mods last, IsModifierPrefix mods ∧
      words (spaced ps ++ (w ++ (gap ++ left))) = mods ++ last :: words left := by
  have hhead : ∃ c r, w ++ (gap ++ left) = c :: r ∧ isWord c = true := by
    obtain ⟨c, r, rfl, hc⟩ := hw.cons_head
    exact ⟨c, r ++ (gap ++ left), rfl, hc⟩
  obtain ⟨groups, ms, hms, hwords⟩ :=
    exists_words_spaced_append hhead (words_append_gap hw hne hgap left) hps
  rw [hms] at hsel
  exact ⟨groups.map glued, glued ms ++ w, ⟨groups, hsel.of_append, rfl⟩, hwords⟩

/-- Another text that fits has one more word than what is left. -/
lemma length_words_left_lt (hw : Wordlike w) (hne : gap ≠ []) (hgap : AllBlank gap)
    (h : (w ++ (gap ++ left)) ++ rest <:+ v ++ rest) : (words left).length < (words v).length := by
  obtain ⟨a, ha⟩ := h
  rw [← List.append_assoc, List.append_left_inj] at ha
  have hle := length_words_le_of_suffix ⟨a, ha⟩
  rwa [words_append_gap hw hne hgap, List.length_cons] at hle

/-- A header is read as modifiers in front of a member. -/
lemma exists_reading_member (hline : skipBlanks (front ++ rest) = front ++ rest) (hfront : IsHeader front) :
    ∃ m : Member, m.text ++ rest ∈ afterModifiers (front ++ rest) ∧ afterWord? (m.text ++ rest) ≠ none := by
  obtain ⟨m, ps, hsel, hps, rfl⟩ := (isHeader_iff (skipBlanks_of_append hline)).mp hfront
  obtain ⟨c, r, htext, hc⟩ := m.cons_head
  refine ⟨m, ?_, ?_⟩
  · rw [afterModifiers_eq_readings, mem_readings_iff hline]
    refine ⟨?_, ps, hsel, hps, List.append_assoc _ _ _⟩
    rw [htext, List.cons_append, skipBlanks_cons (isBlank_of_isWord hc)]
  · have hread : afterWord? (m.text ++ rest) = some (m.name ++ (m.trailing ++ rest)) :=
      afterWord?_eq_some_iff.mpr ⟨m.type, m.gap, m.wordlike.1, m.blank.1, m.blank.2.1,
        m.wordlike.2.skipBlanks_append _, by simp [Member.text]⟩
    exact fun hnone => Option.some_ne_none _ (hread.symm.trans hnone)

/-- A last word that can be read as the type is a reading of its own, which leaves no word. -/
lemma EndsWithType.exists_reading {sign : Char} (hsign : IsMark sign)
    (hline : skipBlanks (front ++ sign :: rest) = front ++ sign :: rest)
    (hall : ∀ c ∈ front, isBlank c = true ∨ isWord c = true) (h : EndsWithType front) :
    ∃ v name, words v = [name] ∧ v ++ sign :: rest ∈ afterModifiers (front ++ sign :: rest) ∧
      afterWord? (v ++ sign :: rest) ≠ none := by
  obtain ⟨mods, name, c, hwords, ⟨groups, hsel, rfl⟩, hlast, hblank⟩ := h
  obtain ⟨ps, v, hmap, hps, rfl, hv, hwv⟩ :=
    exists_spaced_append_of_words (skipBlanks_of_append hline) hall hwords
  have hallv : ∀ c ∈ v, isBlank c = true ∨ isWord c = true := fun c hc => hall c (by simp [hc])
  obtain ⟨gap, r, rfl, hname, hgap, hr, hwr, -⟩ := exists_append_of_words_cons hv hallv hwv
  obtain rfl : r = [] := eq_nil_of_words_eq_nil hr (fun c hc => hallv c (by simp [hc])) hwr
  rw [List.append_nil] at hv hwv hlast hline ⊢
  have hne : gap ≠ [] := by
    rintro rfl
    rw [List.append_nil, List.getLast?_append_of_ne_nil _ hname.1] at hlast
    rw [isBlank_of_isWord (hname.2 c (List.mem_of_getLast? hlast))] at hblank
    exact Bool.noConfusion hblank
  refine ⟨name ++ gap, name, hwv, ?_, ?_⟩
  · rw [afterModifiers_eq_readings, mem_readings_iff hline]
    exact ⟨by rw [List.append_assoc, hname.skipBlanks_append], ps, hmap ▸ hsel, hps, List.append_assoc _ _ _⟩
  · have hread : afterWord? ((name ++ gap) ++ sign :: rest) = some (sign :: rest) :=
      afterWord?_eq_some_iff.mpr ⟨name, gap, hname, hne, hgap, skipBlanks_cons hsign.1 rest,
        List.append_assoc _ _ _⟩
    exact fun hnone => Option.some_ne_none _ (hread.symm.trans hnone)

/-- **What the cut leaves.**  In front of the sign there is the last word, or nothing. -/
lemma words_left {sign : Char} (hsign : IsMark sign)
    (hline : skipBlanks (front ++ sign :: rest) = front ++ sign :: rest) (hfront : IsHeader front) :
    ∃ left, afterType (front ++ sign :: rest) = left ++ sign :: rest ∧ skipBlanks left = left ∧
      (∀ c ∈ left, isBlank c = true ∨ isWord c = true) ∧
      (EndsWithType front ∧ left = [] ∨
        ¬ EndsWithType front ∧ ∃ name, words left = [name] ∧ (words front).getLast? = some name) := by
  obtain ⟨m, hm, hfits⟩ := exists_reading_member hline hfront
  obtain ⟨u, hu, hread, hleast⟩ := exists_first_reading hline hm hfits
  obtain ⟨ps, w, gap, left, hsel, hps, hw, hne, hgap, hleft, hsplit, rfl, hafter⟩ :=
    exists_cut hsign hline hu hread
  have hall : ∀ c ∈ left, isBlank c = true ∨ isWord c = true :=
    fun c hc => hfront.1 c (by simp [hsplit, hc])
  refine ⟨left, hafter, hleft, hall, ?_⟩
  by_cases htype : EndsWithType front
  · obtain ⟨v, name, hwv, hv, hvfits⟩ := htype.exists_reading hsign hline hfront.1
    have hlt := length_words_left_lt hw hne hgap (hleast _ hv hvfits)
    rw [hwv] at hlt
    have hnone : words left = [] := List.eq_nil_of_length_eq_zero (by simpa using hlt)
    exact Or.inl ⟨htype, eq_nil_of_words_eq_nil hleft hall hnone⟩
  · have hlt := length_words_left_lt hw hne hgap (hleast _ hm hfits)
    rw [m.words_text] at hlt
    obtain ⟨mods, last, hmods, hwords⟩ := exists_words_cut hsel hps hw hne hgap left
    rw [← hsplit] at hwords
    refine Or.inr ⟨htype, ?_⟩
    match hwl : words left with
    | [] =>
        -- the cut goes through the whole front, so its last word was read as the type
        obtain rfl := eq_nil_of_words_eq_nil hleft hall hwl
        obtain ⟨b, c, rfl⟩ := List.eq_nil_or_concat' gap |>.resolve_left hne
        refine absurd ⟨mods, last, c, by rw [hwords, hwl], hmods, ?_, hgap c (by simp)⟩ htype
        rw [hsplit]
        simp
    | [name] => exact ⟨name, rfl, by rw [hwords, hwl]; simp⟩
    | _ :: _ :: _ =>
        rw [hwl] at hlt
        simp only [List.length_cons, List.length_nil] at hlt
        omega

/-! ## The name -/

lemma dropInitializers_word (hw : ∀ c ∈ w, isWord c = true) (t : List Char) :
    dropInitializers false (w ++ t) = w ++ dropInitializers false t := by
  induction w with
  | nil => rfl
  | cons c w ih =>
      obtain ⟨hc, hw⟩ := List.forall_mem_cons.mp hw
      have hequals : c ≠ '=' := by
        rintro rfl
        exact absurd hc (by decide)
      rw [List.cons_append, dropInitializers, ih hw]
      simp [hequals, isBlank_of_isWord hc]

/-- A value is dropped with the blanks in front of it. -/
lemma dropInitializers_value (hgap : AllBlank gap) (hlf : '\n' ∉ rest) :
    dropInitializers false (gap ++ '=' :: rest) = [] := by
  induction gap with
  | nil =>
      rw [List.nil_append, dropInitializers]
      simp [dropInitializers_true hlf]
  | cons c gap ih =>
      obtain ⟨hc, hgap⟩ := List.forall_mem_cons.mp hgap
      have hskip : skipBlanks (gap ++ '=' :: rest) = '=' :: rest := by
        rw [skipBlanks_append hgap, skipBlanks_cons (by decide)]
      have hequals : c ≠ '=' := by
        rintro rfl
        exact absurd hc (by decide)
      rw [List.cons_append, dropInitializers, ih hgap]
      simp [hequals, hc, hskip]

lemma dropInitializers_semicolon (hgap : AllBlank gap) :
    dropInitializers false (gap ++ [';']) = gap ++ [';'] := by
  induction gap with
  | nil => rfl
  | cons c gap ih =>
      obtain ⟨hc, hgap⟩ := List.forall_mem_cons.mp hgap
      have hskip : skipBlanks (gap ++ [';']) = [';'] := by
        rw [skipBlanks_append hgap, skipBlanks_cons (by decide)]
      have hequals : c ≠ '=' := by
        rintro rfl
        exact absurd hc (by decide)
      rw [List.cons_append, dropInitializers, ih hgap]
      simp [hequals, hskip]

/-- What comes behind the name of a field: its value, or its semicolon alone. -/
def IsValue (rest : List Char) : Prop := rest = [';'] ∨ ∃ value, rest = '=' :: value ∧ '\n' ∉ value

lemma nameOfField_eq_of_afterType (hafter : afterType line = name ++ (gap ++ rest))
    (hname : ∀ c ∈ name, isWord c = true) (hgap : AllBlank gap) (hrest : IsValue rest) :
    nameOfField line = name := by
  have hsemicolon : ∀ c ∈ name, (c != ';') = true := by
    intro c hc
    refine bne_iff_ne.mpr ?_
    rintro rfl
    exact absurd (hname _ hc) (by decide)
  have hblank : ∀ c ∈ gap, (c != ';') = true := by
    intro c hc
    refine bne_iff_ne.mpr ?_
    rintro rfl
    exact absurd (hgap _ hc) (by decide)
  have htrim : trim name = name := by
    cases name with
    | nil => rfl
    | cons c r =>
        have hfront : skipBlanks (c :: r) = c :: r := skipBlanks_cons (isBlank_of_isWord (hname c (by simp))) r
        rw [trim, hfront, dropTrailingBlanks_eq_self_iff]
        intro hne hlast
        rw [isBlank_of_isWord (hname _ (List.getLast_mem hne))] at hlast
        exact Bool.noConfusion hlast
  rw [nameOfField, hafter, dropInitializers_word hname]
  rcases hrest with rfl | ⟨value, rfl, hlf⟩
  · rw [dropInitializers_semicolon hgap, List.filter_append, List.filter_append,
      List.filter_eq_self.mpr hsemicolon, List.filter_eq_self.mpr hblank]
    have hnone : [';'].filter (· != ';') = [] := by decide
    rw [hnone, List.append_nil, trim_append_of_allBlank hgap, htrim]
  · rw [dropInitializers_value hgap hlf, List.append_nil, List.filter_eq_self.mpr hsemicolon, htrim]

lemma FieldForm.exists_value (h : FieldForm line) (hlf : '\n' ∉ line) :
    ∃ sign rest, IsMark sign ∧ line = beforeValue line ++ sign :: rest ∧ IsHeader (beforeValue line) ∧
      IsValue (sign :: rest) := by
  obtain ⟨front, rest, rfl, hequals, hsemicolon, hheader, rfl | ⟨value, rfl⟩⟩ := h
  · have hnone : '=' ∉ front ++ [';'] := by simp [hequals]
    have hbefore : beforeValue (front ++ [';']) = front := by
      rw [beforeValue, if_neg hnone, takeWhile_bne_append_cons hsemicolon]
    rw [hbefore]
    exact ⟨';', [], ⟨by decide, by decide⟩, rfl, hheader, Or.inl rfl⟩
  · have hsome : '=' ∈ front ++ '=' :: (value ++ [';']) := by simp
    have hbefore : beforeValue (front ++ '=' :: (value ++ [';'])) = front := by
      rw [beforeValue, if_pos hsome, takeWhile_bne_append_cons hequals]
    have hlf' : '\n' ∉ value ++ [';'] := fun hmem => hlf (by simp at hmem; simp [hmem])
    rw [hbefore]
    exact ⟨'=', value ++ [';'], ⟨by decide, by decide⟩, rfl, hheader, Or.inr ⟨_, rfl, hlf'⟩⟩

/-- **The name of a field is its last word, or it is lost.**  It is lost when the word can be read as the
type, and then nothing is in its place. -/
theorem nameOfField_eq_lastWord_iff (line previous : List Char) (hline : trim line = line)
    (hlf : '\n' ∉ line) (hkind : kind? line previous = some .field) :
    ((words (beforeValue line)).getLast? = some (nameOfField line) ↔ ¬ EndsWithType (beforeValue line)) ∧
      (nameOfField line = [] ↔ EndsWithType (beforeValue line)) := by
  have hskip : skipBlanks line = line := skipBlanks_of_trim hline
  obtain ⟨sign, rest, hsign, hsplit, hheader, hvalue⟩ :=
    (fieldForm_of_kind? hskip hlf hkind).exists_value hlf
  rw [hsplit] at hskip
  obtain ⟨left, hafter, hleft, hall, ⟨htype, rfl⟩ | ⟨htype, name, hwords, hlast⟩⟩ :=
    words_left hsign hskip hheader
  · have hlost : nameOfField line = [] :=
      nameOfField_eq_of_afterType (by rw [hsplit]; exact hafter) (by simp) allBlank_nil hvalue
    have hword : (words (beforeValue line)).getLast? ≠ some [] := fun hnil =>
      ne_nil_of_mem_words (List.mem_of_getLast? hnil) rfl
    rw [hlost]
    exact ⟨iff_of_false hword (not_not_intro htype), iff_of_true rfl htype⟩
  · obtain ⟨gap, r, rfl, hname, hgap, hr, hwr, -⟩ := exists_append_of_words_cons hleft hall hwords
    obtain rfl : r = [] := eq_nil_of_words_eq_nil hr (fun c hc => hall c (by simp [hc])) hwr
    have hfound : nameOfField line = name := by
      refine nameOfField_eq_of_afterType ?_ hname.2 hgap hvalue
      rw [hsplit, hafter, List.append_nil, List.append_assoc]
    rw [hfound]
    exact ⟨iff_of_true hlast htype, iff_of_false hname.1 htype⟩

/-- Modifiers, a type that starts like one, and a value. -/
theorem nameOfField_eq_lastWord_iff_glued :
    let line := "private static finalint total = 0;".toList
    trim line = line ∧ '\n' ∉ line ∧ kind? line [] = some .field ∧
      ((words (beforeValue line)).getLast? = some (nameOfField line) ↔
        ¬ EndsWithType (beforeValue line)) ∧
      (nameOfField line = [] ↔ EndsWithType (beforeValue line)) := by
  intro line
  have hline : trim line = line := by decide
  have hlf : '\n' ∉ line := by decide
  have hkind : kind? line [] = some .field := by decide
  exact ⟨hline, hlf, hkind, nameOfField_eq_lastWord_iff line [] hline hlf hkind⟩

/-- The modifier counts as the type when the line is recognised, and as a modifier when its name is read:
the comment speaks of a field without a name. -/
theorem nameOfField_eq_nil_modifier_as_type :
    let line := "static total = 0;".toList
    trim line = line ∧ '\n' ∉ line ∧ kind? line [] = some .field ∧
      (words (beforeValue line)).getLast? = some "total".toList ∧ nameOfField line = [] ∧
      Comment.compose .field line [] = ⟨[], ["The .".toList]⟩ := by
  decide

end DocStub.Declaration

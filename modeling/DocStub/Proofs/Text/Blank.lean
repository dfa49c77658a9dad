import Mathlib.Data.List.DropRight
import Mathlib.Data.List.TakeWhile
import Mathlib.Tactic.Common
import DocStub.Text.WordChar

/-!
# Blanks and what lies between them

The facts about blanks that the readers of declarations rest on, in three groups.

**Disjointness.**  No character is both a blank and a word character (`isWord_of_isBlank`).  The two
tables are compared range by range, and every later argument about where a word ends uses this one
fact.

**Skipping.**  A text that skipping leaves alone (`skipBlanks t = t`) is one that does not start with
a blank.  `skipBlanks_append` and `skipBlanks_append_of_ne_nil` say what skipping does to a text with
a known front, and `afterGap?_eq_some_iff` reads the gap reader as a decomposition.

**Trimming.**  `exists_trim_append_cons` says how the trimmed form of a text starts, and
`skipBlanks_of_trim` and `dropTrailingBlanks_of_trim` are what a trimmed line is promised to satisfy.
-/

namespace DocStub.Text

/-- A stretch of blanks, possibly empty. -/
def AllBlank (g : List Char) : Prop := ∀ c ∈ g, isBlank c = true

instance (g : List Char) : Decidable (AllBlank g) := List.decidableBAll (isBlank · = true) g

/-- A stretch of word characters with at least one of them. -/
def Wordlike (w : List Char) : Prop := w ≠ [] ∧ ∀ c ∈ w, isWord c = true

instance (w : List Char) : Decidable (Wordlike w) :=
  @instDecidableAnd _ _ inferInstance (List.decidableBAll (isWord · = true) w)

@[simp] lemma allBlank_nil : AllBlank [] := by simp [AllBlank]

lemma allBlank_append {g h : List Char} : AllBlank (g ++ h) ↔ AllBlank g ∧ AllBlank h := by
  simp [AllBlank, or_imp, forall_and]

lemma AllBlank.not_mem {g : List Char} (hg : AllBlank g) {c : Char} (hc : isBlank c = false) : c ∉ g := by
  intro hmem
  rw [hg c hmem] at hc
  exact Bool.noConfusion hc

/-! ## Disjointness -/

/-- The tables of blanks and of word characters beyond ASCII have no code point in common. -/
lemma wordRanges_disjoint_blankRanges :
    ∀ b ∈ blankRanges, ∀ w ∈ wordRanges, b.2 < w.1 ∨ w.2 < b.1 := by
  decide +kernel

/-- A property of the ASCII characters can be checked code point by code point. -/
lemma forall_ascii {P : Char → Prop} (h : ∀ n < 0x80, P (Char.ofNat n)) {c : Char}
    (hc : c.toNat < 0x80) : P c := by
  rw [← Char.ofNat_toNat c]
  exact h c.toNat hc

theorem isWord_of_isBlank {c : Char} (h : isBlank c = true) : isWord c = false := by
  by_cases hc : c.toNat < 0x80
  · have hascii : isBlank c = true → isWord c = false :=
      forall_ascii (P := fun c => isBlank c = true → isWord c = false) (by decide +kernel) hc
    exact hascii h
  · rw [isWord, if_neg hc, Bool.eq_false_iff]
    intro hw
    obtain ⟨b, hb, hb1, hb2⟩ := inRanges_iff.mp h
    obtain ⟨w, hw', hw1, hw2⟩ := inRanges_iff.mp hw
    rcases wordRanges_disjoint_blankRanges b hb w hw' with hlt | hlt <;> omega

lemma isBlank_of_isWord {c : Char} (h : isWord c = true) : isBlank c = false := by
  rw [Bool.eq_false_iff]
  intro hb
  rw [isWord_of_isBlank hb] at h
  exact Bool.noConfusion h

lemma not_mem_of_forall_blank_or_word {c : Char} {t : List Char}
    (ht : ∀ x ∈ t, isBlank x = true ∨ isWord x = true) (hb : isBlank c = false)
    (hw : isWord c = false) : c ∉ t := by
  intro hc
  rcases ht c hc with h | h
  · rw [hb] at h; exact Bool.noConfusion h
  · rw [hw] at h; exact Bool.noConfusion h

/-! ## Skipping -/

lemma allBlank_takeWhile (t : List Char) : AllBlank (t.takeWhile isBlank) :=
  fun _ hc => List.mem_takeWhile_imp hc

lemma exists_allBlank_append_skipBlanks (t : List Char) :
    ∃ g, AllBlank g ∧ t = g ++ skipBlanks t :=
  ⟨t.takeWhile isBlank, allBlank_takeWhile t, List.takeWhile_append_dropWhile.symm⟩

@[simp] lemma skipBlanks_nil : skipBlanks [] = [] := rfl

lemma skipBlanks_append {g : List Char} (hg : AllBlank g) (t : List Char) :
    skipBlanks (g ++ t) = skipBlanks t :=
  List.dropWhile_append_of_pos hg

lemma skipBlanks_cons {c : Char} (hc : isBlank c = false) (t : List Char) :
    skipBlanks (c :: t) = c :: t := by
  simp [skipBlanks, hc]

lemma skipBlanks_cons_of_isBlank {c : Char} (hc : isBlank c = true) (t : List Char) :
    skipBlanks (c :: t) = skipBlanks t :=
  List.dropWhile_cons_of_pos hc

@[simp] lemma skipBlanks_skipBlanks (t : List Char) :
    skipBlanks (skipBlanks t) = skipBlanks t :=
  List.dropWhile_idempotent _ t

lemma skipBlanks_eq_self_iff {t : List Char} :
    skipBlanks t = t ↔ ∀ c r, t = c :: r → isBlank c = false := by
  cases t with
  | nil => simp
  | cons c r =>
      by_cases hc : isBlank c = true
      · have hlen : (r.dropWhile isBlank).length ≤ r.length := List.length_dropWhile_le _ _
        have hne : skipBlanks (c :: r) ≠ c :: r := by
          intro h
          rw [skipBlanks, List.dropWhile_cons_of_pos hc] at h
          rw [h, List.length_cons] at hlen
          omega
        simp [hne, hc]
      · simp [skipBlanks, hc]

lemma skipBlanks_append_of_ne_nil {t : List Char} (ht : skipBlanks t = t) (hne : t ≠ [])
    (u : List Char) : skipBlanks (t ++ u) = t ++ u := by
  cases t with
  | nil => exact absurd rfl hne
  | cons c r =>
      rw [List.cons_append, skipBlanks_cons (skipBlanks_eq_self_iff.mp ht c r rfl)]

lemma skipBlanks_of_append {t u : List Char} (h : skipBlanks (t ++ u) = t ++ u) :
    skipBlanks t = t := by
  rw [skipBlanks_eq_self_iff] at h ⊢
  rintro c r rfl
  exact h c (r ++ u) rfl

lemma Wordlike.skipBlanks_append {w : List Char} (hw : Wordlike w) (t : List Char) :
    skipBlanks (w ++ t) = w ++ t := by
  obtain ⟨hne, hall⟩ := hw
  refine skipBlanks_append_of_ne_nil (skipBlanks_eq_self_iff.mpr ?_) hne t
  rintro c r rfl
  exact isBlank_of_isWord (hall c (by simp))

/-- The gap reader splits off a stretch of blanks that is not empty and as long as possible. -/
lemma afterGap?_eq_some_iff {t r : List Char} :
    afterGap? t = some r ↔
      ∃ g, g ≠ [] ∧ AllBlank g ∧ t = g ++ r ∧ skipBlanks r = r := by
  cases t with
  | nil => simp [afterGap?]
  | cons c t =>
      simp only [afterGap?]
      constructor
      · intro h
        split_ifs at h with hc
        obtain rfl := Option.some.inj h
        obtain ⟨g, hg, ht⟩ := exists_allBlank_append_skipBlanks t
        refine ⟨c :: g, by simp, ?_, by rw [List.cons_append, ← ht], by simp⟩
        intro x hx
        rcases List.mem_cons.mp hx with rfl | hx
        · exact hc
        · exact hg x hx
      · rintro ⟨g, hne, hg, ht, hr⟩
        cases g with
        | nil => exact absurd rfl hne
        | cons x g =>
            rw [List.cons_append] at ht
            obtain ⟨rfl, rfl⟩ := List.cons.inj ht
            have hg' : AllBlank g := fun y hy => hg y (List.mem_cons_of_mem _ hy)
            rw [if_pos (hg c (by simp)), skipBlanks_append hg', hr]

/-! ## Trimming -/

lemma dropTrailingBlanks_eq_rdropWhile (t : List Char) :
    dropTrailingBlanks t = t.rdropWhile isBlank := rfl

lemma dropTrailingBlanks_isPrefix (t : List Char) : dropTrailingBlanks t <+: t :=
  List.rdropWhile_prefix _ t

lemma exists_dropTrailingBlanks_append (t : List Char) : ∃ g, AllBlank g ∧ t = dropTrailingBlanks t ++ g :=
  ⟨t.rtakeWhile isBlank, fun _ hc => List.mem_rtakeWhile_imp hc, List.rdropWhile_append_rtakeWhile.symm⟩

lemma mem_of_mem_skipBlanks {c : Char} {t : List Char} (h : c ∈ skipBlanks t) : c ∈ t :=
  List.dropWhile_subset _ h

lemma mem_of_mem_trim {c : Char} {t : List Char} (h : c ∈ trim t) : c ∈ t :=
  mem_of_mem_skipBlanks ((dropTrailingBlanks_isPrefix _).subset h)

lemma dropTrailingBlanks_append {g : List Char} (hg : AllBlank g) (t : List Char) :
    dropTrailingBlanks (t ++ g) = dropTrailingBlanks t := by
  rw [dropTrailingBlanks, List.reverse_append, List.dropWhile_append_of_pos, ← dropTrailingBlanks]
  intro c hc
  exact hg c (List.mem_reverse.mp hc)

lemma exists_dropTrailingBlanks_cons {c : Char} (hc : isBlank c = false) (t : List Char) :
    ∃ r, dropTrailingBlanks (c :: t) = c :: r := by
  obtain ⟨u, hu⟩ := dropTrailingBlanks_isPrefix (c :: t)
  cases hd : dropTrailingBlanks (c :: t) with
  | nil =>
      rw [dropTrailingBlanks_eq_rdropWhile, List.rdropWhile_eq_nil_iff] at hd
      rw [hd c (by simp)] at hc
      exact Bool.noConfusion hc
  | cons x r =>
      rw [hd] at hu
      obtain ⟨rfl, -⟩ := List.cons.inj hu
      exact ⟨r, rfl⟩

lemma dropTrailingBlanks_of_allBlank {t : List Char} (ht : AllBlank t) : dropTrailingBlanks t = [] := by
  rw [dropTrailingBlanks_eq_rdropWhile, List.rdropWhile_eq_nil_iff]
  exact ht

lemma dropTrailingBlanks_cons {c : Char} {t : List Char} (h : ¬ AllBlank (c :: t)) :
    dropTrailingBlanks (c :: t) = c :: dropTrailingBlanks t := by
  rw [dropTrailingBlanks, dropTrailingBlanks, List.reverse_cons, List.dropWhile_append]
  split_ifs with hempty
  · have ht : AllBlank t := fun x hx =>
      List.dropWhile_eq_nil_iff.mp (List.isEmpty_iff.mp hempty) x (List.mem_reverse.mpr hx)
    have hc : ¬ isBlank c = true := fun hc => h (List.forall_mem_cons.mpr ⟨hc, ht⟩)
    rw [List.dropWhile_cons_of_neg hc, List.isEmpty_iff.mp hempty]
    rfl
  · rw [List.reverse_append, List.reverse_singleton, List.singleton_append]

/-- The trimmed form of a text starts with its first character that is not blank. -/
lemma exists_trim_append_cons {g : List Char} (hg : AllBlank g) {c : Char}
    (hc : isBlank c = false) (t : List Char) : ∃ r, trim (g ++ c :: t) = c :: r := by
  rw [trim, skipBlanks_append hg, skipBlanks_cons hc]
  exact exists_dropTrailingBlanks_cons hc t

lemma skipBlanks_of_trim {t : List Char} (h : trim t = t) : skipBlanks t = t := by
  have h1 : (trim t).length ≤ (skipBlanks t).length :=
    (dropTrailingBlanks_isPrefix (skipBlanks t)).length_le
  have h2 : skipBlanks t <:+ t := List.dropWhile_suffix _
  rw [h] at h1
  exact h2.eq_of_length_le h1

lemma dropTrailingBlanks_of_trim {t : List Char} (h : trim t = t) : dropTrailingBlanks t = t := by
  rw [trim, skipBlanks_of_trim h] at h
  exact h

lemma trim_cons_blank {c : Char} (hc : isBlank c = true) (t : List Char) :
    trim (c :: t) = trim t := by
  rw [trim, trim, skipBlanks_cons_of_isBlank hc]

lemma trim_eq_nil_iff {t : List Char} : trim t = [] ↔ AllBlank t := by
  constructor
  · intro h
    obtain ⟨g, hg, hsplit⟩ := exists_allBlank_append_skipBlanks t
    cases hskip : skipBlanks t with
    | nil => exact List.dropWhile_eq_nil_iff.mp hskip
    | cons c r =>
        have hc : isBlank c = false :=
          skipBlanks_eq_self_iff.mp (hskip ▸ skipBlanks_skipBlanks t) c r rfl
        obtain ⟨u, hu⟩ := exists_trim_append_cons hg hc r
        rw [hskip] at hsplit
        rw [hsplit, hu] at h
        exact absurd h (List.cons_ne_nil c u)
  · intro h
    have hskip : skipBlanks t = [] := List.dropWhile_eq_nil_iff.mpr h
    rw [trim, hskip]
    rfl

lemma trim_append_left {g : List Char} (hg : AllBlank g) (t : List Char) : trim (g ++ t) = trim t := by
  rw [trim, trim, skipBlanks_append hg]

lemma trim_append_of_allBlank {g : List Char} (hg : AllBlank g) (t : List Char) :
    trim (t ++ g) = trim t := by
  rw [trim, trim, skipBlanks, List.dropWhile_append]
  split_ifs with hempty
  · rw [skipBlanks, List.dropWhile_eq_nil_iff.mpr hg, List.isEmpty_iff.mp hempty]
  · exact dropTrailingBlanks_append hg _

lemma dropTrailingBlanks_eq_self_iff {t : List Char} :
    dropTrailingBlanks t = t ↔ ∀ h : t ≠ [], ¬ isBlank (t.getLast h) = true := by
  rw [dropTrailingBlanks_eq_rdropWhile, List.rdropWhile_eq_self_iff]

/-- What lies between two trimmed texts is not trimmed. -/
lemma trim_append_append {t u : List Char} (ht : t ≠ [] ∧ trim t = t) (hu : u ≠ [] ∧ trim u = u)
    (s : List Char) : trim (t ++ (s ++ u)) = t ++ (s ++ u) := by
  have hend : dropTrailingBlanks (t ++ (s ++ u)) = t ++ (s ++ u) := by
    rw [dropTrailingBlanks_eq_self_iff]
    intro hne
    have hlast := dropTrailingBlanks_eq_self_iff.mp (dropTrailingBlanks_of_trim hu.2) hu.1
    rwa [List.getLast_append_of_ne_nil _ (List.append_ne_nil_of_right_ne_nil s hu.1),
      List.getLast_append_of_ne_nil _ hu.1]
  rw [trim, skipBlanks_append_of_ne_nil (skipBlanks_of_trim ht.2) ht.1, hend]

end DocStub.Text

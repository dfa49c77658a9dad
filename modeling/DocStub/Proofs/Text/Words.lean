import DocStub.Proofs.Text.Blank

/-!
# The words of a text

`words` cuts a text at every character that is not a word character, and `runs_append_cons` says what a
cut does.  The two equations `words_append_of_not_word` and `words_append_of_wordlike` determine it
completely: a stretch without word characters contributes nothing, and a stretch of word characters
contributes itself if no word character follows it.  `words_append_wordlike` glues a stretch to the word
that starts right after it, which is what happens to a modifier without a blank behind it.

`leadingWord?_eq_some_iff` reads the word reader as a decomposition of the text.  Tokens are cut at blanks
in the same way (`tokens_append_cons`).
-/

namespace DocStub.Text

/-- No word character follows: the text is empty or starts with something else. -/
def EndsWord (t : List Char) : Prop := ∀ c r, t = c :: r → isWord c = false

@[simp] lemma endsWord_cons {c : Char} {r : List Char} :
    EndsWord (c :: r) ↔ isWord c = false := by
  simp [EndsWord]

lemma AllBlank.endsWord_append {g : List Char} (hg : AllBlank g) (hne : g ≠ []) (t : List Char) :
    EndsWord (g ++ t) := by
  cases g with
  | nil => exact absurd rfl hne
  | cons c g => simpa using isWord_of_isBlank (hg c (by simp))

lemma Wordlike.cons_head {w : List Char} (hw : Wordlike w) :
    ∃ c r, w = c :: r ∧ isWord c = true := by
  obtain ⟨c, r, rfl⟩ := List.exists_cons_of_ne_nil hw.1
  exact ⟨c, r, rfl, hw.2 c (by simp)⟩

lemma Wordlike.append {v w : List Char} (hv : ∀ c ∈ v, isWord c = true) (hw : Wordlike w) :
    Wordlike (v ++ w) := by
  refine ⟨by simp [hw.1], fun c hc => ?_⟩
  rcases List.mem_append.mp hc with hc | hc
  · exact hv c hc
  · exact hw.2 c hc

/-! ## Cuts -/

/-- A text falls apart at every character outside the runs. -/
lemma runs_append_cons {p : Char → Bool} {c : Char} (hc : p c = false) (a t : List Char) :
    runs p (a ++ c :: t) = runs p a ++ runs p t := by
  have hcut : (!p c) = true := by rw [hc]; rfl
  rw [runs, List.splitOnP_append_cons a t hcut, List.filter_append, runs, runs]

lemma runs_of_forall {p : Char → Bool} {w : List Char} (hne : w ≠ [])
    (hw : ∀ c ∈ w, p c = true) : runs p w = [w] := by
  have hsplit : w.splitOnP (fun c => !p c) = [w] :=
    List.splitOnP_eq_singleton fun c hc => by rw [hw c hc]; rfl
  rw [runs, hsplit]
  simp [hne]

/-! ## The two equations -/

@[simp] lemma words_nil : words [] = [] := rfl

lemma ne_nil_of_mem_words {w t : List Char} (h : w ∈ words t) : w ≠ [] := by
  simpa using (List.mem_filter.mp h).2

lemma words_append_cons {c : Char} (hc : isWord c = false) (a t : List Char) :
    words (a ++ c :: t) = words a ++ words t :=
  runs_append_cons hc a t

lemma words_cons {c : Char} (hc : isWord c = false) (t : List Char) : words (c :: t) = words t :=
  words_append_cons hc [] t

lemma Wordlike.words_eq {w : List Char} (hw : Wordlike w) : words w = [w] := runs_of_forall hw.1 hw.2

theorem words_append_of_not_word {g : List Char} (hg : ∀ c ∈ g, isWord c = false)
    (t : List Char) : words (g ++ t) = words t := by
  induction g with
  | nil => rfl
  | cons c g ih =>
      obtain ⟨hc, hg⟩ := List.forall_mem_cons.mp hg
      rw [List.cons_append, words_cons hc, ih hg]

lemma words_append_of_allBlank {g : List Char} (hg : AllBlank g) (t : List Char) :
    words (g ++ t) = words t :=
  words_append_of_not_word (fun c hc => isWord_of_isBlank (hg c hc)) t

lemma words_of_allBlank {g : List Char} (hg : AllBlank g) : words g = [] := by
  have h := words_append_of_allBlank hg []
  rwa [List.append_nil] at h

theorem words_append_of_wordlike {w : List Char} (hw : Wordlike w) {t : List Char}
    (ht : EndsWord t) : words (w ++ t) = w :: words t := by
  cases t with
  | nil => rw [List.append_nil, hw.words_eq, words_nil]
  | cons c t =>
      have hc : isWord c = false := endsWord_cons.mp ht
      rw [words_append_cons hc, hw.words_eq, words_cons hc, List.singleton_append]

/-! ## The front of a text -/

lemma exists_wordlike_append {c : Char} (hc : isWord c = true) (t : List Char) :
    ∃ w r, Wordlike w ∧ EndsWord r ∧ c :: t = w ++ r := by
  refine ⟨(c :: t).takeWhile isWord, (c :: t).dropWhile isWord, ⟨by simp [hc], ?_⟩, ?_,
    List.takeWhile_append_dropWhile.symm⟩
  · exact fun x hx => List.mem_takeWhile_imp hx
  · intro x r hr
    have hhead := List.head?_dropWhile_not isWord (c :: t)
    rw [hr] at hhead
    simpa using hhead

/-- Whoever puts a stretch of word characters right in front of a word makes that word longer. -/
theorem words_append_wordlike {v : List Char} (hv : ∀ c ∈ v, isWord c = true) {t : List Char}
    {w : List Char} {ws : List (List Char)} (ht : ∃ c r, t = c :: r ∧ isWord c = true)
    (h : words t = w :: ws) : words (v ++ t) = (v ++ w) :: ws := by
  obtain ⟨c, r, rfl, hc⟩ := ht
  obtain ⟨x, y, hx, hy, hxy⟩ := exists_wordlike_append hc r
  rw [hxy] at h ⊢
  rw [words_append_of_wordlike hx hy] at h
  obtain ⟨rfl, rfl⟩ := List.cons.inj h
  rw [← List.append_assoc, words_append_of_wordlike (Wordlike.append hv hx) hy]

/-- The end of a text has no more words than the text. -/
lemma length_words_le_of_suffix {s t : List Char} (h : s <:+ t) : (words s).length ≤ (words t).length := by
  obtain ⟨a, rfl⟩ := h
  induction a with
  | nil => exact Nat.le_refl _
  | cons c a ih =>
      refine Nat.le_trans ih ?_
      rw [List.cons_append]
      by_cases hc : isWord c = true
      · have hfront : ∀ x ∈ [c], isWord x = true := by simpa using hc
        by_cases hnext : ∃ x r, a ++ s = x :: r ∧ isWord x = true
        · -- the character joins the first word
          obtain ⟨x, r, heq, hx⟩ := hnext
          obtain ⟨w, u, hw, hu, hwu⟩ := exists_wordlike_append hx r
          have hwords : words (a ++ s) = w :: words u := by
            rw [heq, hwu, words_append_of_wordlike hw hu]
          have hlonger : words ([c] ++ (a ++ s)) = ([c] ++ w) :: words u :=
            words_append_wordlike hfront ⟨x, r, heq, hx⟩ hwords
          rw [← List.singleton_append, hlonger, hwords, List.length_cons, List.length_cons]
        · have hends : EndsWord (a ++ s) := fun x r heq =>
            Bool.eq_false_iff.mpr fun hx => hnext ⟨x, r, heq, hx⟩
          rw [← List.singleton_append, words_append_of_wordlike ⟨by simp, hfront⟩ hends,
            List.length_cons]
          exact Nat.le_succ _
      · rw [words_cons (Bool.eq_false_iff.mpr hc)]

/-- The word reader splits off a stretch of word characters that is as long as possible. -/
lemma leadingWord?_eq_some_iff {t w r : List Char} :
    leadingWord? t = some (w, r) ↔ Wordlike w ∧ EndsWord r ∧ t = w ++ r := by
  have hsplit : t.takeWhile isWord ++ t.dropWhile isWord = t := List.takeWhile_append_dropWhile
  constructor
  · intro h
    unfold leadingWord? at h
    split at h
    · exact absurd h (by simp)
    · rename_i hne
      obtain ⟨rfl, rfl⟩ := Prod.mk.inj (Option.some.inj h)
      refine ⟨⟨hne, fun c hc => List.mem_takeWhile_imp hc⟩, ?_, hsplit.symm⟩
      intro c r hr
      have hhead := List.head?_dropWhile_not isWord t
      rw [hr] at hhead
      simpa using hhead
  · rintro ⟨⟨hne, hw⟩, hr, rfl⟩
    have htake : (w ++ r).takeWhile isWord = w := by
      rw [List.takeWhile_append_of_pos hw]
      cases r with
      | nil => simp
      | cons c r => simp [endsWord_cons.mp hr]
    have hdrop : (w ++ r).dropWhile isWord = r := by
      rw [List.dropWhile_append_of_pos hw]
      cases r with
      | nil => simp
      | cons c r => simp [endsWord_cons.mp hr]
    unfold leadingWord?
    rw [htake, hdrop]
    cases w with
    | nil => exact absurd rfl hne
    | cons c w => rfl

/-! ## Tokens -/

/-- A stretch without blanks that is not empty. -/
def IsToken (w : List Char) : Prop := w ≠ [] ∧ ∀ c ∈ w, isBlank c = false

instance (w : List Char) : Decidable (IsToken w) :=
  @instDecidableAnd _ _ inferInstance (List.decidableBAll (isBlank · = false) w)

lemma tokens_append_cons {c : Char} (hc : isBlank c = true) (a t : List Char) :
    tokens (a ++ c :: t) = tokens a ++ tokens t :=
  runs_append_cons (by rw [hc]; rfl) a t

lemma IsToken.tokens_eq {w : List Char} (hw : IsToken w) : tokens w = [w] :=
  runs_of_forall hw.1 fun c hc => by rw [hw.2 c hc]; rfl

lemma tokens_cons_blank {c : Char} (hc : isBlank c = true) (t : List Char) :
    tokens (c :: t) = tokens t :=
  tokens_append_cons hc [] t

lemma tokens_of_allBlank {t : List Char} (ht : AllBlank t) : tokens t = [] := by
  induction t with
  | nil => rfl
  | cons c t ih =>
      obtain ⟨hc, ht⟩ := List.forall_mem_cons.mp ht
      rw [tokens_cons_blank hc, ih ht]

end DocStub.Text

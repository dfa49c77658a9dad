import DocStub.Proofs.Text.LetterCase
import DocStub.Proofs.Text.Search
import DocStub.Prose.Phrase

/-!
# What phrases bring in

Every phrase is a fixed text, or a name or a type in a fixed frame.  The fixed texts are made of letters,
digits and a few marks, so a sign outside them, such as a line feed or an asterisk, gets into a phrase only
through the name.

**Frames.**  `IsForeign` is the class of those signs, `Plain` the texts without them, and `Frames s t` says
that `t` is plain or puts `s` into a plain frame.  There is one lemma for each phrase: `frames_summary`,
`frames_parameterPhrase`, `frames_resultPhrase?` and `frames_fieldSentence`.

**Signs.**  `Frames.mem`: what is foreign in a phrase comes from inside the frame.  Spelling out a name and
lower-casing it keep its foreign signs and bring in none.
-/

namespace DocStub.Prose

open Text
open Declaration (Parameter void)

/-- A sign that no fixed text contains: one in front of the digits, blanks and stops aside. -/
def IsForeign (c : Char) : Prop := c.toNat < 0x30 ∧ c ∉ [' ', ',', '.']

instance (c : Char) : Decidable (IsForeign c) :=
  inferInstanceAs (Decidable (c.toNat < 0x30 ∧ c ∉ [' ', ',', '.']))

/-- A text without foreign signs. -/
def Plain (t : List Char) : Prop := ∀ c ∈ t, ¬ IsForeign c

instance (t : List Char) : Decidable (Plain t) := List.decidableBAll (¬ IsForeign ·) t

/-- `t` is plain, or it is `s` in a plain frame. -/
def Frames (s t : List Char) : Prop :=
  Plain t ∨ ∃ a b, Plain a ∧ Plain b ∧ t = a ++ s ++ b

variable {x : Char} {name type method s t : List Char}

/-! ## Signs -/

lemma IsForeign.isSign (h : IsForeign x) : IsSign x := Nat.lt_trans h.1 (by decide)

lemma IsForeign.isWord_eq_false (h : IsForeign x) : isWord x = false := by
  have hlt : x.toNat < 0x80 := Nat.lt_trans h.1 (by decide)
  have hword : IsForeign x → isWord x = false :=
    forall_ascii (P := fun c => IsForeign c → isWord c = false) (by decide +kernel) hlt
  exact hword h

lemma Plain.not_mem (ht : Plain t) (hx : IsForeign x) : x ∉ t := fun hmem => ht x hmem hx

lemma Frames.mem (h : Frames s t) (hx : IsForeign x) (hmem : x ∈ t) : x ∈ s := by
  rcases h with ht | ⟨a, b, ha, hb, rfl⟩
  · exact absurd hmem (ht.not_mem hx)
  · simp only [List.mem_append] at hmem
    rcases hmem with (hmem | hmem) | hmem
    · exact absurd hmem (ha.not_mem hx)
    · exact hmem
    · exact absurd hmem (hb.not_mem hx)

lemma frames_append {b : List Char} (hb : Plain b) (s : List Char) : Frames s (s ++ b) :=
  Or.inr ⟨[], b, by decide, hb, rfl⟩

lemma frames_prepend {a : List Char} (ha : Plain a) (s : List Char) : Frames s (a ++ s) :=
  Or.inr ⟨a, [], ha, by decide, (List.append_nil _).symm⟩

/-! ## Methods -/

lemma mem_of_mem_spellOut (hx : IsForeign x) (h : x ∈ spellOut name) : x ∈ name := by
  have hlower : ∀ c, x ∈ lower c → x = c := by
    intro c hc
    rw [lower_of_isSign (isSign_of_mem_lower hc hx.isSign), List.mem_singleton] at hc
    exact hc
  cases name with
  | nil => exact h
  | cons c t =>
      rw [spellOut_cons] at h
      rcases List.mem_append.mp h with h | h
      · rw [hlower c h]
        exact List.mem_cons_self
      · obtain ⟨d, hd, h⟩ := List.mem_flatMap.mp h
        unfold spellInner at h
        split_ifs at h
        · rcases List.mem_cons.mp h with rfl | h
          · exact absurd hx (by decide)
          · rw [hlower d h]
            exact List.mem_cons_of_mem c hd
        · rw [List.mem_singleton.mp h]
          exact List.mem_cons_of_mem c hd

lemma subject_suffix (name : List Char) : subject name <:+ name := by
  unfold subject
  cases hread : (Convention.ofName name).start.isPrefixOf? name with
  | none => exact List.suffix_rfl
  | some r =>
      rw [List.isPrefixOf?_eq_some_iff_append_eq] at hread
      exact ⟨_, hread⟩

lemma frames_summary (name : List Char) : Frames (spellOut (subject name)) (summary name) := by
  unfold summary
  dsimp only
  split
  · exact Or.inr ⟨_, _, by decide, by decide, rfl⟩
  · exact Or.inr ⟨_, _, by decide, by decide, rfl⟩
  · exact Or.inr ⟨_, _, by decide, by decide, rfl⟩
  · exact Or.inr ⟨_, _, by decide, by decide, rfl⟩
  · exact Or.inl (by decide)
  · exact Or.inl (by decide)
  · exact Or.inl (by decide)
  · exact frames_append (by decide) _

lemma mem_of_mem_summary (hx : IsForeign x) (h : x ∈ summary name) : x ∈ name :=
  (subject_suffix name).subset (mem_of_mem_spellOut hx ((frames_summary name).mem hx h))

/-! ## Parameters, results and fields -/

lemma plain_of_hinted? {hints : List Hint} (hplain : ∀ h ∈ hints, Plain h.phrase)
    {phrase : List Char} (h : hinted? hints name = some phrase) : Plain phrase := by
  obtain ⟨hint, hfind, rfl⟩ := Option.map_eq_some_iff.mp h
  exact hplain hint (List.mem_of_find?_eq_some hfind)

lemma plain_parameterHints : ∀ h ∈ parameterHints, Plain h.phrase := by decide

lemma plain_fieldHints : ∀ h ∈ fieldHints, Plain h.phrase := by decide

lemma frames_parameterPhrase (p : Parameter) (method : List Char) :
    Frames (lowercase p.name) (parameterPhrase p method) := by
  unfold parameterPhrase
  split
  · rename_i phrase hhint
    exact Or.inl (plain_of_hinted? plain_parameterHints hhint)
  · dsimp only
    split
    · exact Or.inr ⟨_, _, by decide, by decide, rfl⟩
    · exact Or.inr ⟨_, _, by decide, by decide, rfl⟩
    · exact Or.inr ⟨_, _, by decide, by decide, rfl⟩
    · split_ifs
      · exact Or.inr ⟨_, _, by decide, by decide, rfl⟩
      · exact frames_prepend (by decide) _

lemma frames_resultPhrase? {phrase : List Char} (h : resultPhrase? type = some phrase) :
    Frames type phrase := by
  unfold resultPhrase? at h
  split_ifs at h
  obtain rfl := Option.some.inj h
  split
  · exact Or.inl (by decide)
  · exact Or.inl (by decide)
  · exact Or.inl (by decide)
  · exact Or.inr ⟨_, _, by decide, by decide, rfl⟩

/-- A sentence about a field that is not one of the hints ends with a stop. -/
lemma fieldSentence_eq (name type : List Char) :
    Plain (fieldSentence name type) ∨
      ∃ a, Plain a ∧ fieldSentence name type = a ++ spellOut name ++ ['.'] := by
  unfold fieldSentence
  split
  · rename_i sentence hhint
    exact Or.inl (plain_of_hinted? plain_fieldHints hhint)
  · split_ifs
    · exact Or.inr ⟨_, by decide, rfl⟩
    · exact Or.inr ⟨_, by decide, rfl⟩

lemma frames_fieldSentence (name type : List Char) :
    Frames (spellOut name) (fieldSentence name type) :=
  (fieldSentence_eq name type).imp_right fun ⟨a, ha, h⟩ => ⟨a, ['.'], ha, by decide, h⟩

end DocStub.Prose

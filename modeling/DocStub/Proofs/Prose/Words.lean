import Mathlib.Data.Set.Function
import DocStub.Proofs.Text.Blank
import DocStub.Prose.Words

/-!
# Reading a phrase back

A space in the phrase for an identifier says that a capital stood here, and the character behind the space
says which one.  So the identifier can be read off its phrase, but for the case of its first letter.

**Characters.**  On ASCII, where each character has a lower-case form of one character, a capital is the
upper-case form of its lower-case form (`toUpper_toLower`).

**Phrases.**  `respell` reads a phrase back.  An inner character contributes itself or a space with its
lower-case form, and both are read back (`respell_flatMap_spellInner`).

**Identifiers.**  Different identifiers have different phrases, if their first letters are small
(`respell_spellOut`).
-/

namespace DocStub.Prose

open Text

variable {c : Char} {s t : List Char}

/-! ## Characters -/

/-- An ASCII character other than the space. -/
def IsInk (c : Char) : Prop := c.toNat < 0x80 ∧ c ≠ ' '

instance (c : Char) : Decidable (IsInk c) := inferInstanceAs (Decidable (c.toNat < 0x80 ∧ c ≠ ' '))

lemma lower_of_isInk (hc : IsInk c) : lower c = [c.toLower] := by
  rw [lower, if_pos hc.1]

lemma toUpper_toLower (hc : IsInk c) (hupper : isUpper c = true) : c.toLower.toUpper = c := by
  have hcheck : isUpper c = true → c.toLower.toUpper = c :=
    forall_ascii (P := fun c => isUpper c = true → c.toLower.toUpper = c) (by decide +kernel) hc.1
  exact hcheck hupper

lemma toLower_of_not_isUpper (hc : IsInk c) (hupper : isUpper c = false) : c.toLower = c := by
  have hcheck : isUpper c = false → c.toLower = c :=
    forall_ascii (P := fun c => isUpper c = false → c.toLower = c) (by decide +kernel) hc.1
  exact hcheck hupper

lemma toLower_ne_space (hc : IsInk c) : c.toLower ≠ ' ' := by
  have hcheck : c ≠ ' ' → c.toLower ≠ ' ' :=
    forall_ascii (P := fun c => c ≠ ' ' → c.toLower ≠ ' ') (by decide +kernel) hc.1
  exact hcheck hc.2

/-! ## Phrases -/

/-- A phrase as an identifier: each space goes, with the character behind it as a capital. -/
def respell : List Char → List Char
  | ' ' :: c :: t => c.toUpper :: respell t
  | c :: t => c :: respell t
  | [] => []

/-- A text with its first character in lower case. -/
def lowerFirst : List Char → List Char
  | [] => []
  | c :: t => c.toLower :: t

lemma respell_cons (hc : c ≠ ' ') (t : List Char) : respell (c :: t) = c :: respell t := by
  rw [respell]
  rintro d u rfl
  exact absurd rfl hc

/-- What a character inside an identifier contributes is read back as this character. -/
lemma respell_spellInner_append (hc : IsInk c) (t : List Char) :
    respell (spellInner c ++ t) = c :: respell t := by
  by_cases hupper : isUpper c = true
  · rw [spellInner, if_pos hupper, lower_of_isInk hc, List.cons_append, List.singleton_append, respell,
      toUpper_toLower hc hupper]
  · rw [spellInner, if_neg hupper, List.singleton_append, respell_cons hc.2]

lemma respell_flatMap_spellInner (ht : ∀ c ∈ t, IsInk c) : respell (t.flatMap spellInner) = t := by
  induction t with
  | nil => rfl
  | cons c t ih =>
      obtain ⟨hc, ht⟩ := List.forall_mem_cons.mp ht
      rw [List.flatMap_cons, respell_spellInner_append hc, ih ht]

/-! ## Identifiers -/

/-- ASCII characters without spaces. -/
def IsUnspaced (s : List Char) : Prop := ∀ c ∈ s, IsInk c

instance (s : List Char) : Decidable (IsUnspaced s) := List.decidableBAll IsInk s

/-- The first character, if there is one, is no capital. -/
def StartsSmall (s : List Char) : Prop := s.head?.any isUpper = false

instance (s : List Char) : Decidable (StartsSmall s) :=
  inferInstanceAs (Decidable (s.head?.any isUpper = false))

lemma respell_spellOut_of_isUnspaced (hs : IsUnspaced s) : respell (spellOut s) = lowerFirst s := by
  cases s with
  | nil => rfl
  | cons c t =>
      obtain ⟨hc, ht⟩ := List.forall_mem_cons.mp hs
      rw [spellOut_cons, lower_of_isInk hc, List.singleton_append, respell_cons (toLower_ne_space hc),
        respell_flatMap_spellInner ht, lowerFirst]

lemma lowerFirst_of_startsSmall (hs : IsUnspaced s) (hsmall : StartsSmall s) : lowerFirst s = s := by
  cases s with
  | nil => rfl
  | cons c t =>
      have hupper : isUpper c = false := hsmall
      rw [lowerFirst, toLower_of_not_isUpper (hs c List.mem_cons_self) hupper]

/-- **Spelling out loses the case of the first letter and nothing else.**  The phrase for an identifier is
read back as the identifier with a small first letter, so no two identifiers that start small have the same
phrase. -/
theorem respell_spellOut : (∀ s, IsUnspaced s → respell (spellOut s) = lowerFirst s) ∧
    Set.InjOn spellOut {s | IsUnspaced s ∧ StartsSmall s} := by
  refine ⟨fun s hs => respell_spellOut_of_isUnspaced hs, ?_⟩
  rintro s ⟨hs, hssmall⟩ t ⟨ht, htsmall⟩ heq
  calc s = lowerFirst s := (lowerFirst_of_startsSmall hs hssmall).symm
    _ = respell (spellOut s) := (respell_spellOut_of_isUnspaced hs).symm
    _ = respell (spellOut t) := congrArg respell heq
    _ = lowerFirst t := respell_spellOut_of_isUnspaced ht
    _ = t := lowerFirst_of_startsSmall ht htsmall

/-- Runs of capitals, next to digits and signs and at the end. -/
theorem respell_spellOut_runs :
    let s := "XMLHttp2URL_$ID".toList
    let t := "parseURL".toList
    let u := "parseUrl".toList
    IsUnspaced s ∧ respell (spellOut s) = "xMLHttp2URL_$ID".toList ∧
      (IsUnspaced t ∧ StartsSmall t) ∧ (IsUnspaced u ∧ StartsSmall u) ∧ spellOut t ≠ spellOut u := by
  intro s t u
  have hs : IsUnspaced s := by decide
  have ht : IsUnspaced t ∧ StartsSmall t := by decide
  have hu : IsUnspaced u ∧ StartsSmall u := by decide
  refine ⟨hs, (respell_spellOut.1 s hs).trans (by decide), ht, hu, fun heq => ?_⟩
  have htu : t = u := respell_spellOut.2 ht hu heq
  exact absurd htu (by decide)

end DocStub.Prose

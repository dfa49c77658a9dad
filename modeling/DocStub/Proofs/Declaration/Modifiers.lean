import Mathlib.Data.List.Infix
import DocStub.Declaration.Modifier
import DocStub.Proofs.Text.Words

/-!
# What the readings of a text are

`afterModifiers` computes every text that modifiers at the front of a line can leave.  This file says
what those texts are, without the computation.

**The choice.**  `Selects gs ms` holds when `ms` takes at most one modifier from each group of `gs`, in
the order of the groups.  With `modifierGroups` this is the order that a declaration asks for: an access
modifier, then `static`, then `final`, each of them optional.

**The text.**  `spaced ps` writes modifiers down, each with the gap that follows it, and `glued ms`
writes them without gaps.  A gap may be empty, so one text can have many readings.

**The result.**  `mem_readings_iff`: a text that does not start with a blank is left by a reading
exactly when it does not start with a blank and selected modifiers stand in front of it.
-/

namespace DocStub.Declaration

open Text

/-- `ms` takes at most one modifier from each group, in the order of the groups. -/
inductive Selects : List (List Modifier) → List Modifier → Prop where
  | nil : Selects [] []
  | skip {g : List Modifier} {gs : List (List Modifier)} {ms : List Modifier} :
      Selects gs ms → Selects (g :: gs) ms
  | take {m : Modifier} {g : List Modifier} {gs : List (List Modifier)} {ms : List Modifier} :
      m ∈ g → Selects gs ms → Selects (g :: gs) (m :: ms)

/-- The groups of modifiers in the order of a declaration. -/
def modifierGroups : List (List Modifier) := [Modifier.access, [.static], [.final]]

/-- Modifiers written without gaps. -/
def glued (ms : List Modifier) : List Char := ms.flatMap Modifier.spelling

/-- Modifiers written down, each with the gap after it. -/
def spaced (ps : List (Modifier × List Char)) : List Char :=
  ps.flatMap fun p => p.1.spelling ++ p.2

/-- The readings of a text that may start with one modifier from each group in turn. -/
def readings : List (List Modifier) → List Char → List (List Char)
  | [], t => [t]
  | g :: gs, t => ((afterOptional g t).map skipBlanks).flatMap (readings gs)

lemma afterAccess_eq_readings (t : List Char) :
    afterAccess t = readings [Modifier.access] t := by
  simp [afterAccess, readings]

lemma afterModifiers_eq_readings (t : List Char) :
    afterModifiers t = readings modifierGroups t := by
  simp [afterModifiers, afterAccess, readings, modifierGroups]

/-! ## Writing modifiers down -/

lemma wordlike_spelling (m : Modifier) : Wordlike m.spelling := by
  cases m <;> decide

@[simp] lemma glued_nil : glued [] = [] := rfl

@[simp] lemma glued_cons (m : Modifier) (ms : List Modifier) :
    glued (m :: ms) = m.spelling ++ glued ms := rfl

@[simp] lemma spaced_nil : spaced [] = [] := rfl

@[simp] lemma spaced_cons (p : Modifier × List Char) (ps : List (Modifier × List Char)) :
    spaced (p :: ps) = p.1.spelling ++ (p.2 ++ spaced ps) := by
  simp [spaced]

lemma spaced_append (ps qs : List (Modifier × List Char)) :
    spaced (ps ++ qs) = spaced ps ++ spaced qs := by
  simp [spaced]

lemma forall_blank_or_word_spaced {ps : List (Modifier × List Char)}
    (hps : ∀ p ∈ ps, AllBlank p.2) : ∀ c ∈ spaced ps, isBlank c = true ∨ isWord c = true := by
  intro c hc
  obtain ⟨p, hp, hc⟩ := List.mem_flatMap.mp hc
  rcases List.mem_append.mp hc with hc | hc
  · exact Or.inr ((wordlike_spelling p.1).2 c hc)
  · exact Or.inl (hps p hp c hc)

lemma cons_head_spaced_append (ps : List (Modifier × List Char)) {t : List Char}
    (ht : ∃ c r, t = c :: r ∧ isWord c = true) :
    ∃ c r, spaced ps ++ t = c :: r ∧ isWord c = true := by
  cases ps with
  | nil => exact ht
  | cons p ps =>
      obtain ⟨c, r, hr, hc⟩ := (wordlike_spelling p.1).cons_head
      exact ⟨c, r ++ (p.2 ++ spaced ps) ++ t, by simp [hr], hc⟩

lemma skipBlanks_spaced_append (ps : List (Modifier × List Char)) {t : List Char}
    (ht : skipBlanks t = t) : skipBlanks (spaced ps ++ t) = spaced ps ++ t := by
  cases ps with
  | nil => exact ht
  | cons p ps =>
      rw [spaced_cons, List.append_assoc]
      exact (wordlike_spelling p.1).skipBlanks_append _

/-! ## Selections -/

lemma selects_nil : ∀ gs : List (List Modifier), Selects gs []
  | [] => .nil
  | _ :: gs => .skip (selects_nil gs)

lemma Selects.of_append {gs : List (List Modifier)} {ms ns : List Modifier}
    (h : Selects gs (ms ++ ns)) : Selects gs ms := by
  generalize hl : ms ++ ns = l at h
  induction h generalizing ms with
  | nil =>
      obtain ⟨rfl, -⟩ := List.append_eq_nil_iff.mp hl
      exact .nil
  | skip _ ih => exact .skip (ih hl)
  | @take m g gs l hm hsel ih =>
      cases ms with
      | nil => exact selects_nil _
      | cons x ms =>
          obtain ⟨rfl, htl⟩ := List.cons.inj hl
          exact .take hm (ih htl)

/-! ## What a reading leaves -/

/-- One group: either nothing is taken, or a modifier of the group with the blanks after it. -/
lemma mem_afterOptional_iff {g : List Modifier} {t u : List Char} :
    u ∈ (afterOptional g t).map skipBlanks ↔
      (∃ m ∈ g, ∃ r, t = m.spelling ++ r ∧ u = skipBlanks r) ∨ u = skipBlanks t := by
  simp only [afterOptional, List.map_append, List.mem_append, List.mem_map, List.mem_filterMap,
    List.isPrefixOf?_eq_some_iff_append_eq, List.mem_singleton, exists_eq_left]
  constructor
  · rintro (⟨r, ⟨m, hm, rfl⟩, rfl⟩ | rfl)
    · exact Or.inl ⟨m, hm, r, rfl, rfl⟩
    · exact Or.inr rfl
  · rintro (⟨m, hm, r, rfl, rfl⟩ | rfl)
    · exact Or.inl ⟨r, ⟨m, hm, rfl⟩, rfl⟩
    · exact Or.inr rfl

/-- **What a reading leaves.**  Each step keeps the text free of blanks at its front, which is what
carries the induction over the groups. -/
theorem mem_readings_iff {gs : List (List Modifier)} {t u : List Char} (ht : skipBlanks t = t) :
    u ∈ readings gs t ↔
      skipBlanks u = u ∧ ∃ ps : List (Modifier × List Char), Selects gs (ps.map Prod.fst) ∧
        (∀ p ∈ ps, AllBlank p.2) ∧ t = spaced ps ++ u := by
  induction gs generalizing t with
  | nil =>
      simp only [readings, List.mem_singleton]
      constructor
      · rintro rfl
        exact ⟨ht, [], .nil, by simp, rfl⟩
      · rintro ⟨-, ps, hsel, -, rfl⟩
        cases ps with
        | nil => rfl
        | cons p ps => cases hsel
  | cons g gs ih =>
      simp only [readings, List.mem_flatMap, mem_afterOptional_iff]
      constructor
      · rintro ⟨t', ⟨m, hm, r, rfl, rfl⟩ | rfl, hu⟩
        · obtain ⟨hu, ps, hsel, hps, hr⟩ := (ih (skipBlanks_skipBlanks r)).mp hu
          obtain ⟨b, hb, hr'⟩ := exists_allBlank_append_skipBlanks r
          refine ⟨hu, (m, b) :: ps, .take hm hsel, List.forall_mem_cons.mpr ⟨hb, hps⟩, ?_⟩
          rw [spaced_cons, List.append_assoc, List.append_assoc, ← hr, ← hr']
        · rw [ht] at hu
          obtain ⟨hu, ps, hsel, hps, hr⟩ := (ih ht).mp hu
          exact ⟨hu, ps, .skip hsel, hps, hr⟩
      · rintro ⟨hu, ps, hsel, hps, rfl⟩
        generalize hms : ps.map Prod.fst = ms at hsel
        cases hsel with
        | skip hsel => exact ⟨_, Or.inr ht.symm, (ih ht).mpr ⟨hu, ps, hms ▸ hsel, hps, rfl⟩⟩
        | @take m _ _ ms hm hsel =>
            obtain ⟨⟨m', b⟩, ps, rfl, rfl, rfl⟩ := List.map_eq_cons_iff.mp hms
            obtain ⟨hb, hps⟩ := List.forall_mem_cons.mp hps
            have hskip := skipBlanks_spaced_append ps hu
            refine ⟨spaced ps ++ u, Or.inl ⟨m', hm, b ++ (spaced ps ++ u), by simp, ?_⟩, ?_⟩
            · rw [skipBlanks_append hb, hskip]
            · exact (ih hskip).mpr ⟨hu, ps, hsel, hps, rfl⟩

end DocStub.Declaration

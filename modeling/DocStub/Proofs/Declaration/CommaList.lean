import DocStub.Proofs.Declaration.Parts

/-!
# Lists with commas

A list of parameters and a `throws` clause are written alike: entries with a comma and a blank between
them.  Reading cuts at the commas and drops the blank again.

**Writing.**  `commaList` writes the entries down.  The entries after the first one get the blank in
front (`splitOn_commaList`), which shows neither in the tokens of a text nor in its trimmed form.

**Reading.**  Trimmed entries are read back as they were written (`map_trim_splitOn_commaList`), and so
are parameters without blanks and commas in their parts (`parameterList_commaList`).
-/

namespace DocStub.Text

/-! ## Writing -/

/-- Entries with a comma and a blank between them. -/
def commaList (entries : List (List Char)) : List Char := List.intercalate ", ".toList entries

@[simp] lemma commaList_singleton (e : List Char) : commaList [e] = e :=
  List.intercalate_singleton

lemma commaList_cons_cons (e f : List Char) (entries : List (List Char)) :
    commaList (e :: f :: entries) = e ++ (',' :: ' ' :: commaList (f :: entries)) := by
  rw [commaList, List.intercalate_cons_cons, List.append_assoc]
  rfl

/-- The blank belongs to the entry behind it. -/
lemma commaList_eq_intercalate (e : List Char) (entries : List (List Char)) :
    commaList (e :: entries) = [','].intercalate (e :: entries.map (' ' :: ·)) := by
  induction entries generalizing e with
  | nil => rfl
  | cons f entries ih =>
      have hinner : [','].intercalate ((' ' :: f) :: entries.map (' ' :: ·)) =
          ' ' :: [','].intercalate (f :: entries.map (' ' :: ·)) := by
        cases entries with
        | nil => simp
        | cons g entries => simp [List.intercalate_cons_cons]
      rw [commaList_cons_cons, ih, List.map_cons, List.intercalate_cons_cons, hinner]
      simp

lemma splitOn_commaList {e : List Char} {entries : List (List Char)}
    (h : ∀ f ∈ e :: entries, ',' ∉ f) :
    (commaList (e :: entries)).splitOn ',' = e :: entries.map (' ' :: ·) := by
  obtain ⟨he, hrest⟩ := List.forall_mem_cons.mp h
  rw [commaList_eq_intercalate]
  refine List.splitOn_intercalate ',' (List.forall_mem_cons.mpr ⟨he, fun f hf => ?_⟩)
    (List.cons_ne_nil _ _)
  obtain ⟨g, hg, rfl⟩ := List.mem_map.mp hf
  rw [List.mem_cons, not_or]
  exact ⟨by decide, hrest g hg⟩

/-- A character that is in no entry is not in the list. -/
lemma not_mem_commaList {c : Char} (hc : c ≠ ',' ∧ c ≠ ' ') {entries : List (List Char)}
    (h : ∀ e ∈ entries, c ∉ e) : c ∉ commaList entries := by
  induction entries with
  | nil => exact List.not_mem_nil
  | cons e entries ih =>
      obtain ⟨he, hrest⟩ := List.forall_mem_cons.mp h
      cases entries with
      | nil => rwa [commaList_singleton]
      | cons f entries =>
          rw [commaList_cons_cons, List.mem_append, List.mem_cons, List.mem_cons, not_or, not_or, not_or]
          exact ⟨he, hc.1, hc.2, ih hrest⟩

lemma commaList_ne_nil {entries : List (List Char)} (hne : entries ≠ [])
    (h : ∀ e ∈ entries, e ≠ []) : commaList entries ≠ [] := by
  cases entries with
  | nil => exact absurd rfl hne
  | cons e entries =>
      cases entries with
      | nil =>
          rw [commaList_singleton]
          exact h e List.mem_cons_self
      | cons f entries =>
          rw [commaList_cons_cons]
          exact List.append_ne_nil_of_left_ne_nil (h e List.mem_cons_self) _

/-! ## Reading trimmed entries -/

/-- A list of trimmed entries is trimmed. -/
lemma trim_commaList {entries : List (List Char)} (h : ∀ e ∈ entries, e ≠ [] ∧ trim e = e) :
    trim (commaList entries) = commaList entries := by
  induction entries with
  | nil => rfl
  | cons e entries ih =>
      obtain ⟨he, hrest⟩ := List.forall_mem_cons.mp h
      cases entries with
      | nil =>
          rw [commaList_singleton]
          exact he.2
      | cons f entries =>
          have hne : commaList (f :: entries) ≠ [] :=
            commaList_ne_nil (List.cons_ne_nil f entries) fun g hg => (hrest g hg).1
          rw [commaList_cons_cons]
          exact trim_append_append he ⟨hne, ih hrest⟩ [',', ' ']

/-- Trimming drops the blank after a comma. -/
lemma map_trim_splitOn_commaList {e : List Char} {entries : List (List Char)}
    (h : ∀ f ∈ e :: entries, ',' ∉ f ∧ trim f = f) :
    ((commaList (e :: entries)).splitOn ',').map trim = e :: entries := by
  obtain ⟨he, hrest⟩ := List.forall_mem_cons.mp h
  rw [splitOn_commaList fun f hf => (h f hf).1, List.map_cons, he.2, List.map_map]
  refine congrArg (e :: ·) ?_
  calc entries.map (trim ∘ (' ' :: ·)) = entries.map id :=
        List.map_congr_left fun f hf => by
          rw [Function.comp_apply, trim_cons_blank (by decide), (hrest f hf).2, id_eq]
    _ = entries := List.map_id entries

end DocStub.Text

namespace DocStub.Declaration

open Text

/-! ## Reading parameters -/

/-- A parameter as it is written. -/
def Parameter.text (p : Parameter) : List Char := p.type ++ ' ' :: p.name

/-- The type and the name are tokens, and a list does not end inside them. -/
def Parameter.IsListed (p : Parameter) : Prop :=
  (IsToken p.type ∧ ',' ∉ p.type) ∧ IsToken p.name ∧ ',' ∉ p.name

instance (p : Parameter) : Decidable p.IsListed :=
  @instDecidableAnd _ _ inferInstance inferInstance

lemma Parameter.IsListed.comma_not_mem {p : Parameter} (h : p.IsListed) : ',' ∉ p.text := by
  rw [Parameter.text, List.mem_append, List.mem_cons, not_or, not_or]
  exact ⟨h.1.2, by decide, h.2.2⟩

lemma Parameter.IsListed.tokens_text {p : Parameter} (h : p.IsListed) :
    tokens p.text = [p.type, p.name] := by
  rw [Parameter.text, tokens_append_cons (by decide), h.1.1.tokens_eq, h.2.1.tokens_eq]
  rfl

lemma ofSegment?_eq_some {p : Parameter} {t : List Char} (ht : tokens t = [p.type, p.name]) :
    Parameter.ofSegment? t = some p := by
  rw [Parameter.ofSegment?, ht]
  rfl

/-- **A list of parameters is read back as it was written.** -/
theorem parameterList_commaList {ps : List Parameter} (hps : ∀ p ∈ ps, p.IsListed) :
    parameterList (commaList (ps.map Parameter.text)) = ps := by
  cases ps with
  | nil => rfl
  | cons p ps =>
      have hcomma : ∀ t ∈ (p :: ps).map Parameter.text, ',' ∉ t := by
        intro t ht
        obtain ⟨q, hq, rfl⟩ := List.mem_map.mp ht
        exact (hps q hq).comma_not_mem
      obtain ⟨hp, hps⟩ := List.forall_mem_cons.mp hps
      have hrest : (ps.map (' ' :: Parameter.text ·)).filterMap Parameter.ofSegment? = ps := by
        rw [List.filterMap_map]
        calc ps.filterMap (Parameter.ofSegment? ∘ (' ' :: Parameter.text ·))
            = ps.filterMap some :=
              List.filterMap_congr fun q hq => ofSegment?_eq_some (by
                rw [tokens_cons_blank (by decide), (hps q hq).tokens_text])
          _ = ps := List.filterMap_some
      rw [List.map_cons, parameterList_eq, splitOn_commaList hcomma, List.map_map,
        List.filterMap_cons_some (ofSegment?_eq_some hp.tokens_text)]
      exact congrArg (p :: ·) hrest

end DocStub.Declaration

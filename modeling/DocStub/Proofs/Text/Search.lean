import Mathlib.Data.List.Infix
import DocStub.Proofs.Text.Blank
import DocStub.Text.Search

/-!
# Cutting a text and looking for something in it

**Cutting.**  A text is either free of separators, or it is a piece without one, a separator, and a
shorter text.  `cut_induction` is the induction over this, and it is how everything about
`List.splitOnP` is proved here: `infix_of_mem_splitOnP`, and from it what the tokens of a text are.
There is one way to cut at the first separator (`append_cons_inj`).

**Looking.**  `exists_suffix_of_leftmost?` and `exists_append_of_leftmost?` say where the answer of a search
comes from, `leftmost?_append` that a search passes a front without answers, and `lineUntil?_eq_some_iff` what the
text before a closing character is.
-/

namespace DocStub.Text

/-! ## Cutting -/

/-- Induction over the pieces of a text between separators. -/
theorem cut_induction {p : Char → Bool} {motive : List Char → Prop}
    (whole : ∀ t, (∀ c ∈ t, p c = false) → motive t)
    (cut : ∀ a c t, (∀ x ∈ a, p x = false) → p c = true → motive t → motive (a ++ c :: t))
    (t : List Char) : motive t := by
  induction hn : t.length using Nat.strong_induction_on generalizing t with
  | _ n ih =>
      by_cases hall : ∀ c ∈ t, p c = false
      · exact whole t hall
      · have hsplit : t.takeWhile (fun c => !p c) ++ t.dropWhile (fun c => !p c) = t :=
          List.takeWhile_append_dropWhile
        cases hdrop : t.dropWhile (fun c => !p c) with
        | nil =>
            rw [List.dropWhile_eq_nil_iff] at hdrop
            exact absurd (fun c hc => by simpa using hdrop c hc) hall
        | cons c r =>
            have hc : p c = true := by
              have hhead := List.head?_dropWhile_not (fun c => !p c) t
              rw [hdrop] at hhead
              simpa using hhead
            have hlen : r.length < n := by
              rw [← hn, ← hsplit, hdrop, List.length_append, List.length_cons]
              omega
            rw [← hsplit, hdrop]
            refine cut _ c r (fun x hx => ?_) hc (ih _ hlen r rfl)
            simpa using List.mem_takeWhile_imp hx

lemma infix_of_mem_splitOnP {p : Char → Bool} {t w : List Char} (h : w ∈ t.splitOnP p) :
    w <:+: t ∧ ∀ c ∈ w, p c = false := by
  induction t using cut_induction (p := p) with
  | whole t ht =>
      rw [List.splitOnP_eq_singleton ht, List.mem_singleton] at h
      rw [h]
      exact ⟨List.infix_rfl, ht⟩
  | cut a c t ha hc ih =>
      rw [List.splitOnP_append_cons_of_forall_mem ha c hc, List.mem_cons] at h
      rcases h with rfl | h
      · exact ⟨(List.prefix_append w _).isInfix, ha⟩
      · obtain ⟨hin, hw⟩ := ih h
        exact ⟨hin.trans ((List.suffix_cons c t).trans (List.suffix_append a _)).isInfix, hw⟩

lemma infix_of_mem_tokens {t w : List Char} (h : w ∈ tokens t) :
    w <:+: t ∧ ∀ c ∈ w, isBlank c = false := by
  obtain ⟨hin, hw⟩ := infix_of_mem_splitOnP (List.mem_filter.mp h).1
  exact ⟨hin, fun c hc => by simpa using hw c hc⟩

/-- The first character of a kind determines what stands in front of it. -/
lemma append_cons_inj {p : Char → Prop} {a b r s : List Char} {c d : Char} (ha : ∀ x ∈ a, ¬ p x)
    (hb : ∀ x ∈ b, ¬ p x) (hc : p c) (hd : p d) (h : a ++ c :: r = b ++ d :: s) :
    a = b ∧ c :: r = d :: s := by
  rcases List.append_eq_append_iff.mp h with ⟨m, rfl, hm⟩ | ⟨m, rfl, hm⟩
  · cases m with
    | nil => exact ⟨by simp, hm⟩
    | cons x m =>
        obtain ⟨rfl, -⟩ := List.cons.inj hm
        exact absurd hc (hb c (by simp))
  · cases m with
    | nil => exact ⟨by simp, hm.symm⟩
    | cons x m =>
        obtain ⟨rfl, -⟩ := List.cons.inj hm
        exact absurd hd (ha d (by simp))

/-! ## Looking -/

/-- The answer of a search is that of the first place where there is one. -/
lemma exists_append_of_leftmost? {α : Type} {read : List Char → Option α} {t : List Char} {a : α}
    (h : leftmost? read t = some a) : ∃ front s, t = front ++ s ∧ read s = some a ∧
      ∀ front' s', t = front' ++ s' → (read s').isSome → front.length ≤ front'.length := by
  induction t with
  | nil => exact ⟨[], [], rfl, h, fun _ _ _ _ => Nat.zero_le _⟩
  | cons c t ih =>
      rw [leftmost?] at h
      split at h
      · rename_i b hread
        obtain rfl := Option.some.inj h
        exact ⟨[], c :: t, rfl, hread, fun _ _ _ _ => Nat.zero_le _⟩
      · rename_i hnone
        obtain ⟨front, s, rfl, hread, hfirst⟩ := ih h
        refine ⟨c :: front, s, rfl, hread, fun front' s' hsplit hsome => ?_⟩
        cases front' with
        | nil =>
            rw [List.nil_append] at hsplit
            rw [← hsplit, hnone] at hsome
            exact absurd hsome Bool.false_ne_true
        | cons d front' =>
            rw [List.cons_append] at hsplit
            exact Nat.succ_le_succ (hfirst front' s' (List.cons.inj hsplit).2 hsome)

lemma exists_suffix_of_leftmost? {α : Type} {read : List Char → Option α} {t : List Char} {a : α}
    (h : leftmost? read t = some a) : ∃ s, s <:+ t ∧ read s = some a := by
  obtain ⟨front, s, rfl, hread, -⟩ := exists_append_of_leftmost? h
  exact ⟨s, List.suffix_append front s, hread⟩

lemma leftmost?_eq_some_of_read {α : Type} {read : List Char → Option α} {t : List Char} {a : α}
    (h : read t = some a) : leftmost? read t = some a := by
  cases t with
  | nil => exact h
  | cons c t => rw [leftmost?, h]

/-- A search passes the places in front of `t` where it has no answer. -/
lemma leftmost?_append {α : Type} {read : List Char → Option α} {front t : List Char}
    (h : ∀ u, u ≠ [] → u <:+ front → read (u ++ t) = none) :
    leftmost? read (front ++ t) = leftmost? read t := by
  induction front with
  | nil => rfl
  | cons c front ih =>
      have hhere : read (c :: (front ++ t)) = none :=
        h (c :: front) (List.cons_ne_nil c front) List.suffix_rfl
      rw [List.cons_append, leftmost?, hhere]
      exact ih fun u hne hu => h u hne (hu.trans (List.suffix_cons c front))

/-- A text does not start in a front without its first character. -/
lemma cons_infix_append_iff {c : Char} {k front : List Char} (hc : c ∉ front) (t : List Char) :
    c :: k <:+: front ++ t ↔ c :: k <:+: t := by
  induction front with
  | nil => rfl
  | cons x front ih =>
      obtain ⟨hne, hfront⟩ := List.ne_and_not_mem_of_not_mem_cons hc
      rw [List.cons_append, List.infix_cons_iff, List.cons_prefix_cons, ih hfront]
      simp [hne]

lemma takeWhile_bne_append_cons {stop : Char} {inner : List Char} (h : stop ∉ inner) (rest : List Char) :
    (inner ++ stop :: rest).takeWhile (· != stop) = inner := by
  have hinner : ∀ c ∈ inner, (c != stop) = true := by
    intro c hc
    rw [bne_iff_ne]
    rintro rfl
    exact h hc
  rw [List.takeWhile_append_of_pos hinner]
  simp

/-- The text before the first closing character, which comes before any line feed. -/
lemma lineUntil?_eq_some_iff {stop : Char} {t inner : List Char} :
    lineUntil? stop t = some inner ↔
      ∃ rest, t = inner ++ stop :: rest ∧ stop ∉ inner ∧ '\n' ∉ inner := by
  constructor
  · intro h
    simp only [lineUntil?] at h
    split_ifs at h with hif
    obtain rfl := Option.some.inj h
    have hsplit : t.takeWhile (· != stop) ++ t.dropWhile (· != stop) = t :=
      List.takeWhile_append_dropWhile
    have hinner : stop ∉ t.takeWhile (· != stop) := fun hmem => by
      simpa using List.mem_takeWhile_imp hmem
    cases hdrop : t.dropWhile (· != stop) with
    | nil =>
        rw [hdrop, List.append_nil] at hsplit
        rw [hsplit] at hinner
        exact absurd hif.1 hinner
    | cons c rest =>
        have hhead := List.head?_dropWhile_not (· != stop) t
        rw [hdrop] at hhead
        obtain rfl : c = stop := by simpa using hhead
        exact ⟨rest, by rw [← hdrop, hsplit], hinner, hif.2⟩
  · rintro ⟨rest, rfl, hstop, hlf⟩
    simp only [lineUntil?]
    rw [takeWhile_bne_append_cons hstop, if_pos ⟨by simp, hlf⟩]

end DocStub.Text

import DocStub.Proofs.Declaration.Construction
import DocStub.Proofs.Declaration.ThrowsClause

/-!
# Where the exceptions of a line come from

The names of exceptions are read behind the first `throws` with a blank behind it and a brace later, wherever
in the line that is.  The search asks neither whether `throws` is a whole word nor whether the list of
parameters is over.

**Pieces.**  The names are the pieces of the clause between its commas, and blanks around the clause do not
show in them (`commaPieces_gap_append`, `commaPieces_append_gap`).

**The brace.**  A clause has one character at least, so a brace right behind the blanks belongs to it, and
another one has to follow (`isSome_untilBrace?_iff`).

**The place.**  `OpensClause` says what has to follow the keyword (`isSome_throwsClause?_iff`), and
`FirstClause` which place of the line is taken.  The names are the pieces of the text behind this place
(`exists_firstClause`).

**Real clauses.**  `RealClause` is what a clause of exceptions ought to be: behind the list of parameters, with
the whole word `throws` in front of it, and ended by the next brace.  The place that is taken is one exactly
when the list is over, no longer word ends in the keyword there, and no brace comes first
(`firstClause_realClause_iff`).
-/

namespace DocStub.Declaration

open Text

variable {a clause gap front line rest t u w : List Char} {b c x : Char}

/-! ## Pieces -/

/-- The pieces of a text between its commas, trimmed and without the empty ones. -/
def commaPieces (t : List Char) : List (List Char) :=
  ((t.splitOn ',').map trim).filter fun e => !e.isEmpty

lemma commaPieces_append (a t : List Char) :
    commaPieces (a ++ ',' :: t) = commaPieces a ++ commaPieces t := by
  rw [commaPieces, commaPieces, commaPieces, List.splitOn_append_cons_self, List.map_append,
    List.filter_append]

lemma commaPieces_of_comma_not_mem (ht : ',' ∉ t) :
    commaPieces t = [trim t].filter fun e => !e.isEmpty := by
  rw [commaPieces, List.splitOn_eq_singleton ht, List.map_singleton]

lemma commaPieces_of_allBlank (hgap : AllBlank gap) : commaPieces gap = [] := by
  rw [commaPieces_of_comma_not_mem (hgap.not_mem (by decide)), trim_eq_nil_iff.mpr hgap]
  rfl

/-- What `cut_induction` knows about a piece, as a membership. -/
lemma comma_not_mem_of_forall (ha : ∀ x ∈ a, (x == ',') = false) : ',' ∉ a := fun hmem => by
  simpa using ha ',' hmem

lemma commaPieces_gap_append (hgap : AllBlank gap) (t : List Char) :
    commaPieces (gap ++ t) = commaPieces t := by
  have hpiece : ∀ a, ',' ∉ a → commaPieces (gap ++ a) = commaPieces a := fun a ha => by
    rw [commaPieces_of_comma_not_mem ha, commaPieces_of_comma_not_mem
      (List.not_mem_append (hgap.not_mem (by decide)) ha), trim_append_left hgap]
  induction t using cut_induction (p := (· == ',')) with
  | whole t ht => exact hpiece t (comma_not_mem_of_forall ht)
  | cut a c t ha hc _ =>
      obtain rfl := beq_iff_eq.mp hc
      rw [← List.append_assoc, commaPieces_append, commaPieces_append, hpiece a (comma_not_mem_of_forall ha)]

lemma commaPieces_append_gap (hgap : AllBlank gap) (t : List Char) :
    commaPieces (t ++ gap) = commaPieces t := by
  induction t using cut_induction (p := (· == ',')) with
  | whole t ht =>
      have ht' := comma_not_mem_of_forall ht
      rw [commaPieces_of_comma_not_mem ht', commaPieces_of_comma_not_mem
        (List.not_mem_append ht' (hgap.not_mem (by decide))), trim_append_of_allBlank hgap]
  | cut a c t ha hc ih =>
      obtain rfl := beq_iff_eq.mp hc
      rw [List.append_assoc, List.cons_append, commaPieces_append, commaPieces_append, ih]

/-- The blanks at the front of what stands before a brace do not show in the pieces. -/
lemma commaPieces_takeWhile_skipBlanks (rest : List Char) :
    commaPieces ((skipBlanks rest).takeWhile (· != '{')) = commaPieces (rest.takeWhile (· != '{')) := by
  obtain ⟨gap, hgap, hsplit⟩ := exists_allBlank_append_skipBlanks rest
  have hpass : ∀ x ∈ gap, (x != '{') = true := fun x hx => by
    rw [bne_iff_ne]
    rintro rfl
    exact hgap.not_mem (by decide) hx
  have htake : rest.takeWhile (· != '{') = gap ++ (skipBlanks rest).takeWhile (· != '{') := by
    conv_lhs => rw [hsplit]
    exact List.takeWhile_append_of_pos hpass
  rw [htake, commaPieces_gap_append hgap]

/-! ## The brace -/

lemma untilBrace?_eq_none (ht : '{' ∉ t) : untilBrace? (x :: t) = none := by
  induction t generalizing x with
  | nil =>
      rw [untilBrace?]
      split_ifs with hlf hbrace
      · rfl
      · cases hbrace
      · rfl
  | cons c t ih =>
      rw [untilBrace?]
      split_ifs with hlf hbrace
      · rfl
      · exact absurd (mem_of_mem_skipBlanks (List.mem_of_mem_head? hbrace)) ht
      · rw [ih fun hmem => ht (List.mem_cons_of_mem c hmem)]
        rfl

lemma isSome_untilBrace?_iff (hlf : '\n' ∉ x :: t) : (untilBrace? (x :: t)).isSome ↔ '{' ∈ t := by
  constructor
  · intro h
    by_contra ht
    rw [untilBrace?_eq_none ht] at h
    exact Bool.false_ne_true h
  · intro ht
    obtain ⟨w, r, rfl, hw⟩ := List.eq_append_cons_of_mem ht
    have hlf' : '\n' ∉ x :: w := fun hmem => hlf (by
      rw [← List.cons_append]
      exact List.mem_append_left _ hmem)
    rw [untilBrace?_cons_append hlf' hw]
    rfl

/-! ## The place -/

/-- What has to follow the keyword: a blank, and a brace that is not the character right behind it. -/
def OpensClause (rest : List Char) : Prop :=
  ∃ b c t, rest = b :: c :: t ∧ isBlank b = true ∧ '{' ∈ t

/-- The text of a clause: after the blanks, one character whatever it is, and on to the next brace. -/
def clauseText (rest : List Char) : List Char :=
  match skipBlanks rest with
  | [] => []
  | c :: t => c :: t.takeWhile (· != '{')

lemma clauseText_of_skipBlanks_eq (h : skipBlanks rest = c :: t) :
    clauseText rest = c :: t.takeWhile (· != '{') := by
  rw [clauseText, h]

/-- Where no brace comes first, the text of the clause is all that stands in front of the brace, but for the
blanks. -/
lemma clauseText_eq_of_head_ne (h : (skipBlanks rest).head? ≠ some '{') :
    clauseText rest = (skipBlanks rest).takeWhile (· != '{') := by
  cases hskip : skipBlanks rest with
  | nil =>
      rw [clauseText, hskip]
      rfl
  | cons c t =>
      have hc : (c != '{') = true := by
        rw [bne_iff_ne]
        rintro rfl
        rw [hskip] at h
        exact h rfl
      rw [clauseText_of_skipBlanks_eq hskip]
      exact (List.takeWhile_cons_of_pos (p := (· != '{')) hc).symm

/-- What is tried differs in the blanks at its front only. -/
lemma exists_gap_of_mem_gapRests (h : u ∈ gapRests t) :
    ∃ gap, AllBlank gap ∧ u = gap ++ skipBlanks t := by
  induction t with
  | nil => exact absurd h List.not_mem_nil
  | cons b t ih =>
      unfold gapRests at h
      split_ifs at h with hb
      · rw [skipBlanks_cons_of_isBlank hb]
        rcases List.mem_append.mp h with h | h
        · exact ih h
        · rw [List.mem_singleton.mp h]
          exact exists_allBlank_append_skipBlanks t
      · exact absurd h List.not_mem_nil

/-- Where a clause is read, in a text on one line. -/
lemma isSome_throwsClause?_iff (hlf : '\n' ∉ t) :
    (throwsClause? t).isSome ↔ ∃ rest, t = throwsKeyword ++ rest ∧ OpensClause rest := by
  constructor
  · intro h
    obtain ⟨clause, hclause⟩ := Option.isSome_iff_exists.mp h
    obtain ⟨b, r, rfl, hb⟩ := exists_blank_of_throwsClause? hclause
    rw [throwsClause?_keyword, gapRests, if_pos hb] at hclause
    obtain ⟨u, hu, hread⟩ := List.exists_of_findSome?_eq_some hclause
    have hsuffix : u <:+ r := by
      rcases List.mem_append.mp hu with hu | hu
      · exact suffix_of_mem_gapRests hu
      · rw [List.mem_singleton.mp hu]
    cases u with
    | nil => cases hread
    | cons x w =>
        have hlf' : '\n' ∉ x :: w := fun hmem =>
          hlf (List.mem_append_right _ (List.mem_cons_of_mem b (hsuffix.subset hmem)))
        have hbrace : '{' ∈ w := (isSome_untilBrace?_iff hlf').mp (by rw [hread]; rfl)
        obtain ⟨v, rfl⟩ := hsuffix
        cases v with
        | nil => exact ⟨b :: x :: w, rfl, b, x, w, rfl, hb, hbrace⟩
        | cons c v =>
            exact ⟨b :: c :: (v ++ x :: w), rfl, b, c, v ++ x :: w, rfl, hb,
              List.mem_append_right v (List.mem_cons_of_mem x hbrace)⟩
  · rintro ⟨rest, rfl, b, c, r, rfl, hb, hbrace⟩
    have hlf' : '\n' ∉ c :: r := fun hmem => hlf (List.mem_append_right _ (List.mem_cons_of_mem b hmem))
    rw [throwsClause?_keyword, gapRests, if_pos hb, List.findSome?_isSome_iff]
    exact ⟨c :: r, List.mem_append_right _ List.mem_cons_self, (isSome_untilBrace?_iff hlf').mpr hbrace⟩

/-- Where the brace comes right behind the blanks and no other follows, nothing but a blank is read. -/
lemma commaPieces_of_untilBrace?_gap (hgap : AllBlank gap) (ht : '{' ∉ t.tail) (hlf : '\n' ∉ gap ++ t)
    (h : untilBrace? (gap ++ t) = some clause) : commaPieces clause = [] := by
  cases gap with
  | nil =>
      cases t with
      | nil => cases h
      | cons c t =>
          have hnone : untilBrace? (c :: t) = none := untilBrace?_eq_none ht
          rw [List.nil_append, hnone] at h
          cases h
  | cons b gap =>
      obtain ⟨hb, hgap⟩ := List.forall_mem_cons.mp hgap
      have hgap' : '{' ∉ gap := AllBlank.not_mem hgap (by decide)
      cases t with
      | nil =>
          rw [List.append_nil, untilBrace?_eq_none hgap'] at h
          cases h
      | cons c t =>
          by_cases hc : c = '{'
          · have hlf' : '\n' ∉ b :: gap := fun hmem => hlf (List.mem_append_left _ hmem)
            rw [hc, List.cons_append, untilBrace?_cons_append hlf' hgap', dropTrailingBlanks_of_allBlank hgap] at h
            obtain rfl := Option.some.inj h
            exact commaPieces_of_allBlank (List.forall_mem_singleton.mpr hb)
          · have hmem : '{' ∉ gap ++ c :: t :=
              List.not_mem_append hgap' (List.not_mem_cons_of_ne_of_not_mem (Ne.symm hc) ht)
            rw [List.cons_append, untilBrace?_eq_none hmem] at h
            cases h

/-- **What is read behind the keyword.**  A clause that is not blank has the pieces of its text. -/
lemma commaPieces_of_throwsClause? (hlf : '\n' ∉ rest)
    (h : throwsClause? (throwsKeyword ++ rest) = some clause) (hne : commaPieces clause ≠ []) :
    commaPieces clause = commaPieces (clauseText rest) := by
  obtain ⟨b, r, heq, hb⟩ := exists_blank_of_throwsClause? h
  obtain rfl := List.append_cancel_left heq
  rw [throwsClause?_keyword] at h
  have hlf' : '\n' ∉ skipBlanks (b :: r) := fun hmem => hlf (mem_of_mem_skipBlanks hmem)
  by_cases hbrace : '{' ∈ (skipBlanks (b :: r)).tail
  · -- all blanks are skipped, and the brace ends the clause
    obtain ⟨c, t, hskip⟩ := List.exists_cons_of_ne_nil (List.ne_nil_of_mem (List.mem_of_mem_tail hbrace))
    rw [hskip] at hlf' hbrace
    obtain ⟨w, s, rfl, hw⟩ := List.eq_append_cons_of_mem hbrace
    have hlfw : '\n' ∉ c :: w := fun hmem => hlf' (by
      rw [← List.cons_append]
      exact List.mem_append_left _ hmem)
    obtain ⟨more, hmore⟩ := exists_gapRests_cons hb r
    rw [← skipBlanks_cons_of_isBlank hb, hskip] at hmore
    rw [hmore, List.findSome?_cons, untilBrace?_cons_append hlfw hw] at h
    obtain rfl := Option.some.inj h
    obtain ⟨gap, hgap, hsplit⟩ := exists_dropTrailingBlanks_append w
    have htext : clauseText (b :: r) = c :: dropTrailingBlanks w ++ gap := by
      rw [clauseText_of_skipBlanks_eq hskip, takeWhile_bne_append_cons hw, List.cons_append, ← hsplit]
    rw [htext, commaPieces_append_gap hgap]
  · -- the clause is blank
    obtain ⟨u, hu, hread⟩ := List.exists_of_findSome?_eq_some h
    obtain ⟨gap, hgap, rfl⟩ := exists_gap_of_mem_gapRests hu
    have hlfu : '\n' ∉ gap ++ skipBlanks (b :: r) := fun hmem => hlf ((suffix_of_mem_gapRests hu).subset hmem)
    exact absurd (commaPieces_of_untilBrace?_gap hgap hbrace hlfu hread) hne

/-- The place where a line has its names of exceptions: the first keyword with a clause behind it. -/
structure FirstClause (line front rest : List Char) : Prop where
  split : line = front ++ (throwsKeyword ++ rest)
  opens : OpensClause rest
  first : ∀ front' rest', line = front' ++ (throwsKeyword ++ rest') → OpensClause rest' →
    front.length ≤ front'.length

/-- A line with names of exceptions has them from the text of its first clause. -/
lemma exists_firstClause (hlf : '\n' ∉ line) (hnames : thrownNames line ≠ []) :
    ∃ front rest, FirstClause line front rest ∧ thrownNames line = commaPieces (clauseText rest) := by
  cases hclause : leftmost? throwsClause? line with
  | none =>
      rw [thrownNames, hclause] at hnames
      exact absurd rfl hnames
  | some clause =>
      have hpieces : thrownNames line = commaPieces clause := by rw [thrownNames, hclause, commaPieces]
      obtain ⟨front, s, rfl, hread, hfirst⟩ := exists_append_of_leftmost? hclause
      have hlfs : '\n' ∉ s := fun hmem => hlf (List.mem_append_right front hmem)
      obtain ⟨rest, rfl, hopens⟩ := (isSome_throwsClause?_iff hlfs).mp (by rw [hread]; rfl)
      refine ⟨front, rest, ⟨rfl, hopens, fun front' rest' hsplit hopens' => ?_⟩, ?_⟩
      · have hlf' : '\n' ∉ throwsKeyword ++ rest' := fun hmem =>
          hlf (hsplit ▸ List.mem_append_right front' hmem)
        exact hfirst front' _ hsplit ((isSome_throwsClause?_iff hlf').mpr ⟨rest', rfl, hopens'⟩)
      · rw [hpieces] at hnames ⊢
        exact commaPieces_of_throwsClause? (fun hmem => hlfs (List.mem_append_right _ hmem)) hread hnames

/-! ## Real clauses -/

/-- A text goes past the list of parameters: it has a closing parenthesis behind its first opening one. -/
def PassesList (front : List Char) : Prop :=
  ∃ a b c, front = a ++ '(' :: (b ++ ')' :: c) ∧ '(' ∉ a ∧ ')' ∉ b

/-- A clause of exceptions as it ought to be. -/
structure RealClause (line front rest : List Char) : Prop where
  split : line = front ++ (throwsKeyword ++ rest)
  behind : PassesList front
  before : ∀ c, front.getLast? = some c → isWord c = false
  after : EndsWord rest
  brace : '{' ∈ rest
  names : ∀ e ∈ thrownNames line, e ∈ commaPieces (rest.takeWhile (· != '{'))

/-- **Which clauses are real.**  A line with names of exceptions has them from its first clause.  This is a
clause behind the list of parameters, with the names between a whole word and the next brace, exactly when the
list is over, no word character stands in front of the keyword, and the brace is not the first thing behind it. -/
theorem firstClause_realClause_iff (line : List Char) (hlf : '\n' ∉ line) (hnames : thrownNames line ≠ []) :
    ∃ front rest, FirstClause line front rest ∧ thrownNames line = commaPieces (clauseText rest) ∧
      (RealClause line front rest ↔ PassesList front ∧
        (∀ c, front.getLast? = some c → isWord c = false) ∧ (skipBlanks rest).head? ≠ some '{') := by
  obtain ⟨front, rest, hfirst, hpieces⟩ := exists_firstClause hlf hnames
  obtain ⟨b, c, t, hrest, hb, hbrace⟩ := hfirst.opens
  refine ⟨front, rest, hfirst, hpieces, fun h => ⟨h.behind, h.before, fun hhead => ?_⟩, ?_⟩
  · -- nothing but blanks stands in front of the brace
    have hempty : commaPieces (rest.takeWhile (· != '{')) = [] := by
      obtain ⟨r, hskip⟩ := List.head?_eq_some_iff.mp hhead
      rw [← commaPieces_takeWhile_skipBlanks, hskip]
      rfl
    obtain ⟨e, he⟩ := List.exists_mem_of_ne_nil _ hnames
    have hmem := h.names e he
    rw [hempty] at hmem
    exact List.not_mem_nil hmem
  · rintro ⟨hbehind, hbefore, hhead⟩
    refine ⟨hfirst.split, hbehind, hbefore, ?_, ?_, fun e he => ?_⟩
    · rw [hrest]
      exact endsWord_cons.mpr (isWord_of_isBlank hb)
    · rw [hrest]
      exact List.mem_cons_of_mem b (List.mem_cons_of_mem c hbrace)
    · rwa [hpieces, clauseText_eq_of_head_ne hhead, commaPieces_takeWhile_skipBlanks] at he

/-- A name that ends in `throws`, right in front of its parameters, and a clause behind them. -/
theorem firstClause_realClause_iff_rethrows :
    let line := "public void rethrows(int days) throws E, F \x7b".toList
    '\n' ∉ line ∧ thrownNames line = ["E".toList, "F".toList] ∧
      ∃ front rest, FirstClause line front rest ∧ thrownNames line = commaPieces (clauseText rest) ∧
        (RealClause line front rest ↔ PassesList front ∧
          (∀ c, front.getLast? = some c → isWord c = false) ∧ (skipBlanks rest).head? ≠ some '{') := by
  intro line
  have hlf : '\n' ∉ line := by decide
  have hnames : thrownNames line = ["E".toList, "F".toList] := by decide
  refine ⟨hlf, hnames, firstClause_realClause_iff line hlf ?_⟩
  rw [hnames]
  exact List.cons_ne_nil _ _

/-- With a blank behind that name the parameters are taken for an exception, and there is no clause at all. -/
theorem not_realClause_spaced_rethrows :
    let line := "public void rethrows (int days) \x7b".toList
    trim line = line ∧ '\n' ∉ line ∧ kind? line [] = some .method ∧
      thrownNames line = ["(int days)".toList] ∧ ¬ ∃ front rest, RealClause line front rest := by
  intro line
  have hwords : throwsKeyword ∉ words line := by decide
  refine ⟨by decide, by decide, by decide, by decide, ?_⟩
  rintro ⟨front, rest, h⟩
  have hmem : throwsKeyword ∈ words (front ++ (throwsKeyword ++ rest)) :=
    mem_words_append h.before wordlike_throwsKeyword h.after
  rw [← h.split] at hmem
  exact hwords hmem

end DocStub.Declaration

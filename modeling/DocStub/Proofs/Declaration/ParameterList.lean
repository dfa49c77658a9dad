import DocStub.Proofs.Declaration.CommaList

/-!
# Parameters, segment by segment

A list of parameters is read one segment at a time, and no segment knows of the others.

**Segments.**  At each comma the list falls apart into two lists (`parameterList_append`), and a text without
commas is one segment, of which the last two tokens count (`parameterList_of_tokens`,
`parameterList_of_length_tokens`).

**Parameters.**  Every parameter that is read can be written in a list (`isListed_of_mem_parameterList`).  So
what was read from a list, in whatever state it was, is a list in good order: written down, it is read back.
-/

namespace DocStub.Declaration

open Text

variable {t : List Char} {p : Parameter}

/-! ## Segments -/

lemma parameterList_append (a b : List Char) :
    parameterList (a ++ ',' :: b) = parameterList a ++ parameterList b := by
  rw [parameterList_eq, parameterList_eq, parameterList_eq, List.splitOn_append_cons_self,
    List.filterMap_append]

lemma parameterList_of_comma_not_mem (ht : ',' ∉ t) :
    parameterList t = (Parameter.ofSegment? t).toList := by
  rw [parameterList_eq, List.splitOn_eq_singleton ht, List.filterMap_cons]
  cases Parameter.ofSegment? t <;> rfl

lemma parameterList_of_tokens (ht : ',' ∉ t) {front : List (List Char)} {type name : List Char}
    (htokens : tokens t = front ++ [type, name]) : parameterList t = [⟨type, name⟩] := by
  rw [parameterList_of_comma_not_mem ht, Parameter.ofSegment?, htokens, List.reverse_append]
  rfl

lemma parameterList_of_length_tokens (ht : ',' ∉ t) (htokens : (tokens t).length < 2) :
    parameterList t = [] := by
  rw [parameterList_of_comma_not_mem ht, Parameter.ofSegment?]
  split
  · rename_i name type rest hreverse
    have hlength := congrArg List.length hreverse
    rw [List.length_reverse, List.length_cons, List.length_cons] at hlength
    omega
  · rfl

/-! ## Parameters -/

lemma isToken_of_mem_tokens {w : List Char} (h : w ∈ tokens t) : IsToken w := by
  refine ⟨?_, (infix_of_mem_tokens h).2⟩
  simpa using (List.mem_filter.mp h).2

/-- A parameter that is read from a list can be written in one. -/
lemma isListed_of_mem_parameterList (h : p ∈ parameterList t) : p.IsListed := by
  rw [parameterList_eq] at h
  obtain ⟨segment, hsegment, hp⟩ := List.mem_filterMap.mp h
  have hcomma : ',' ∉ segment := fun hmem => by
    simpa using (infix_of_mem_splitOnP hsegment).2 ',' hmem
  have hlisted : ∀ w ∈ tokens segment, IsToken w ∧ ',' ∉ w := fun w hw =>
    ⟨isToken_of_mem_tokens hw, fun hmem => hcomma ((infix_of_mem_tokens hw).1.subset hmem)⟩
  obtain ⟨htype, hname⟩ := mem_tokens_of_ofSegment? hp
  exact ⟨hlisted _ htype, hlisted _ hname⟩

/-- **Lists of parameters are read segment by segment.**  A comma separates what is read before it from
what is read behind it; the last two tokens of a segment are its parameter, and a segment with fewer tokens
has none.  All parameters consist of tokens without commas, and are read back when they are written down. -/
theorem parameterList_segmentwise :
    (∀ a b, parameterList (a ++ ',' :: b) = parameterList a ++ parameterList b) ∧
      (∀ t, ',' ∉ t →
        (∀ front type name, tokens t = front ++ [type, name] → parameterList t = [⟨type, name⟩]) ∧
          ((tokens t).length < 2 → parameterList t = [])) ∧
      ∀ t, (∀ p ∈ parameterList t, p.IsListed) ∧
        parameterList (commaList ((parameterList t).map Parameter.text)) = parameterList t := by
  refine ⟨parameterList_append, fun t ht => ⟨?_, parameterList_of_length_tokens ht⟩, fun t => ⟨?_, ?_⟩⟩
  · exact fun front type name htokens => parameterList_of_tokens ht htokens
  · exact fun p hp => isListed_of_mem_parameterList hp
  · exact parameterList_commaList fun p hp => isListed_of_mem_parameterList hp

/-- A segment with more than two tokens, and a blank one with a comma on both sides. -/
theorem parameterList_segmentwise_annotated :
    let t := "final\t@NonNull String[] names".toList
    let u := " \u3000".toList
    let p : Parameter := ⟨"String[]".toList, "names".toList⟩
    ',' ∉ t ∧ tokens t = ["final".toList, "@NonNull".toList] ++ [p.type, p.name] ∧ parameterList t = [p] ∧
      p ∈ parameterList t ∧ p.IsListed ∧ ',' ∉ u ∧ (tokens u).length < 2 ∧ parameterList u = [] ∧
      parameterList (t ++ ',' :: (u ++ ',' :: t)) = [p, p] := by
  intro t u p
  have ht : ',' ∉ t := by decide
  have hu : ',' ∉ u := by decide
  have htokens : tokens t = ["final".toList, "@NonNull".toList] ++ [p.type, p.name] := by decide
  have hblank : (tokens u).length < 2 := by decide
  obtain ⟨happend, hsegment, hlist⟩ := parameterList_segmentwise
  have hp : parameterList t = [p] := (hsegment t ht).1 _ _ _ htokens
  have hnone : parameterList u = [] := (hsegment u hu).2 hblank
  have hmem : p ∈ parameterList t := hp ▸ List.mem_singleton_self p
  refine ⟨ht, htokens, hp, hmem, (hlist t).1 p hmem, hu, hblank, hnone, ?_⟩
  rw [happend, happend, hp, hnone]
  rfl

end DocStub.Declaration

import DocStub.Comment.Compose
import DocStub.Proofs.Declaration.CommaList
import DocStub.Proofs.Declaration.Extraction
import DocStub.Proofs.Declaration.ThrowsClause

/-!
# From a method header to its comment and back

A `MethodHeader` is what the header of a method or a constructor is made of, and `MethodHeader.text` is
the line that one writes for it.  Reading the line gives back the parts, and the comment on it says them
in their order.

**The front.**  The words in front of the parenthesis are the modifiers, the type and the name, so the
last two of them are what the reader of signatures takes (`ofLine_text`).

**The list.**  The parameters are written as a list with commas, and no parenthesis closes it early.

**The clause.**  Up to the clause no token with a blank behind it ends with the keyword
(`leftmost?_throwsClause?_front`, `leftmost?_throwsClause?_list`), so the search gets to the clause
itself, and to the end of the line if there is none (`thrownNames_text`).
-/

namespace DocStub.Comment

open Declaration Prose Text

/-! ## Headers -/

/-- An exception in a clause: a trimmed text within the clause. -/
def IsThrown (e : List Char) : Prop := e ≠ [] ∧ trim e = e ∧ ',' ∉ e ∧ '{' ∉ e ∧ '\n' ∉ e

instance (e : List Char) : Decidable (IsThrown e) := @instDecidableAnd _ _ inferInstance inferInstance

/-- The parts of the header of a method or a constructor.  The modifiers are in order, at most one from each
group.  The type of the result is a word, and neither a modifier nor one that ends like the keyword.  A
constructor has no such type, but a modifier.  No part of a parameter ends the list, and no type ends like the
keyword.  The exceptions are separate texts within the clause. -/
structure MethodHeader where
  modifiers : List Modifier
  result? : Option (List Char)
  name : List Char
  parameters : List Parameter
  thrown : List (List Char)
  selected : Selects modifierGroups modifiers
  resultWord : ∀ r, result? = some r → Wordlike r ∧ isModifier r = false ∧ ¬ throwsKeyword <:+ r
  constructorMarked : result? = none → modifiers ≠ []
  nameWord : Wordlike name
  parametersListed : ∀ p ∈ parameters,
    p.IsListed ∧ ')' ∉ p.type ∧ ')' ∉ p.name ∧ ¬ throwsKeyword <:+ p.type
  thrownListed : ∀ e ∈ thrown, IsThrown e

namespace MethodHeader

variable (h : MethodHeader)

/-- The modifiers as they are written. -/
def modifierText : List Char := spaced (h.modifiers.map fun m => (m, [' ']))

/-- The text in front of the parenthesis. -/
def front : List Char :=
  h.modifierText ++ ((h.result?.map (· ++ [' '])).getD [] ++ h.name)

/-- The text between the parentheses. -/
def list : List Char := commaList (h.parameters.map Parameter.text)

/-- The clause with the exceptions, if there are any. -/
def clause : List Char :=
  if h.thrown = [] then [] else throwsKeyword ++ ' ' :: (commaList h.thrown ++ [' '])

/-- The line of the header. -/
def text : List Char := h.front ++ '(' :: (h.list ++ ')' :: ' ' :: (h.clause ++ ['{']))

/-- The type of what the method returns. -/
def returnType : List Char := h.result?.getD void

/-! ## The front -/

lemma allBlank_gaps : ∀ p ∈ h.modifiers.map fun m => (m, [' ']), AllBlank p.2 := by
  intro p hp
  obtain ⟨m, -, rfl⟩ := List.mem_map.mp hp
  exact (by decide : AllBlank [' '])

/-- The type and the name, as far as the header has them, start with a word. -/
lemma cons_head_front : ∃ c r, h.front = c :: r ∧ isWord c = true := by
  refine cons_head_spaced_append _ ?_
  cases hresult : h.result? with
  | none => exact h.nameWord.cons_head
  | some r =>
      obtain ⟨c, s, rfl, hc⟩ := (h.resultWord r hresult).1.cons_head
      exact ⟨c, s ++ [' '] ++ h.name, rfl, hc⟩

lemma skipBlanks_front : skipBlanks h.front = h.front := by
  obtain ⟨c, r, hfront, hc⟩ := h.cons_head_front
  rw [hfront, skipBlanks_cons (isBlank_of_isWord hc)]

lemma blank_or_word_of_mem_front : ∀ c ∈ h.front, isBlank c = true ∨ isWord c = true := by
  intro c hc
  simp only [front, List.mem_append] at hc
  rcases hc with hc | hc | hc
  · exact forall_blank_or_word_spaced h.allBlank_gaps c hc
  · cases hresult : h.result? with
    | none =>
        rw [hresult] at hc
        exact absurd hc List.not_mem_nil
    | some r =>
        rw [hresult, Option.map_some, Option.getD_some, List.mem_append, List.mem_singleton] at hc
        rcases hc with hc | rfl
        · exact Or.inr ((h.resultWord r hresult).1.2 c hc)
        · exact Or.inl (by decide)
  · exact Or.inr (h.nameWord.2 c hc)

lemma words_spaced_append (ms : List Modifier) (t : List Char) :
    words (spaced (ms.map fun m => (m, [' '])) ++ t) = ms.map Modifier.spelling ++ words t := by
  induction ms with
  | nil => rfl
  | cons m ms ih =>
      have hgap : EndsWord ([' '] ++ (spaced (ms.map fun m => (m, [' '])) ++ t)) := by
        rw [List.singleton_append, endsWord_cons]
        decide
      rw [List.map_cons, spaced_cons, List.append_assoc, List.append_assoc,
        words_append_of_wordlike (wordlike_spelling m) hgap, words_append_of_allBlank (by decide), ih,
        List.map_cons, List.cons_append]

/-- The last two words of the front.  In a constructor the first of them is a modifier. -/
lemma exists_words_front : ∃ mods type, words h.front = mods ++ [type, h.name] ∧
    (if isModifier type then void else type) = h.returnType := by
  rw [front, modifierText, words_spaced_append]
  cases hresult : h.result? with
  | none =>
      have hlast := List.dropLast_append_getLast (h.constructorMarked hresult)
      generalize h.modifiers.getLast (h.constructorMarked hresult) = m at hlast
      refine ⟨h.modifiers.dropLast.map Modifier.spelling, m.spelling, ?_, ?_⟩
      · rw [← hlast]
        simp [h.nameWord.words_eq]
      · have hmodifier : isModifier m.spelling = true := by cases m <;> decide
        rw [hmodifier, returnType, hresult]
        rfl
  | some r =>
      obtain ⟨hword, hmodifier, -⟩ := h.resultWord r hresult
      refine ⟨h.modifiers.map Modifier.spelling, r, ?_, ?_⟩
      · have hgap : EndsWord (' ' :: h.name) := endsWord_cons.mpr (by decide)
        have hblank : words (' ' :: h.name) = words h.name :=
          words_append_of_allBlank (g := [' ']) (by decide) h.name
        rw [Option.map_some, Option.getD_some, List.append_assoc, List.singleton_append,
          words_append_of_wordlike hword hgap, hblank, h.nameWord.words_eq]
      · rw [hmodifier, returnType, hresult]
        rfl

lemma not_mem_list {c : Char} (hc : c ≠ ',' ∧ c ≠ ' ')
    (hparts : ∀ p ∈ h.parameters, c ∉ p.type ∧ c ∉ p.name) : c ∉ h.list := by
  refine not_mem_commaList hc fun t ht => ?_
  obtain ⟨p, hp, rfl⟩ := List.mem_map.mp ht
  rw [Parameter.text, List.mem_append, List.mem_cons, not_or, not_or]
  exact ⟨(hparts p hp).1, hc.2, (hparts p hp).2⟩

/-- **The signature is read back.** -/
lemma ofLine_text : Method.ofLine h.text = ⟨h.name, h.returnType, h.parameters⟩ := by
  obtain ⟨mods, type, hwords, htype⟩ := h.exists_words_front
  have hclose : ')' ∉ h.list :=
    h.not_mem_list (by decide) fun p hp => ⟨(h.parametersListed p hp).2.1, (h.parametersListed p hp).2.2.1⟩
  have hlf : '\n' ∉ h.list := by
    refine h.not_mem_list (by decide) fun p hp => ?_
    have hblank : isBlank '\n' = true := by decide
    obtain ⟨⟨⟨⟨-, hptype⟩, -⟩, ⟨-, hpname⟩, -⟩, -⟩ := h.parametersListed p hp
    constructor
    · intro hmem
      rw [hptype _ hmem] at hblank
      exact Bool.noConfusion hblank
    · intro hmem
      rw [hpname _ hmem] at hblank
      exact Bool.noConfusion hblank
  have hlist : parameterList h.list = h.parameters :=
    parameterList_commaList fun p hp => (h.parametersListed p hp).1
  rw [text, ofLine_eq h.skipBlanks_front h.blank_or_word_of_mem_front hwords hclose hlf, htype, hlist]

/-! ## The clause -/

/-- No clause starts in front of the name. -/
lemma leftmost?_throwsClause?_front (t : List Char) :
    leftmost? throwsClause? (h.front ++ t) = leftmost? throwsClause? (h.name ++ t) := by
  have hmodifiers : ∀ (ms : List Modifier) (s : List Char),
      leftmost? throwsClause? (spaced (ms.map fun m => (m, [' '])) ++ s) =
        leftmost? throwsClause? s := by
    intro ms s
    induction ms with
    | nil => rfl
    | cons m ms ih =>
        rw [List.map_cons, spaced_cons, List.append_assoc, List.append_assoc, List.singleton_append,
          leftmost?_throwsClause?_modifier, ih]
  rw [front, modifierText, List.append_assoc, hmodifiers]
  cases hresult : h.result? with
  | none => rfl
  | some r =>
      obtain ⟨hword, -, hend⟩ := h.resultWord r hresult
      rw [Option.map_some, Option.getD_some, List.append_assoc, List.append_assoc,
        List.singleton_append,
        leftmost?_throwsClause?_token (not_blank_of_wordlike hword) (by decide) hend]

/-- No clause starts in a list of parameters.  What stands in front of the list belongs to the token of
the first type, unless it is empty. -/
lemma leftmost?_throwsClause?_list {ps : List Parameter}
    (hps : ∀ p ∈ ps, p.IsListed ∧ ¬ throwsKeyword <:+ p.type) {v : List Char}
    (hv : ∀ c ∈ v, isBlank c = false) (hopen : v = [] ∨ ∃ w, v = w ++ ['(']) (t : List Char) :
    leftmost? throwsClause? (v ++ (commaList (ps.map Parameter.text) ++ ')' :: ' ' :: t)) =
      leftmost? throwsClause? t := by
  induction ps generalizing v with
  | nil => exact leftmost?_throwsClause?_sign hv (by decide) (by decide) t
  | cons p ps ih =>
      obtain ⟨⟨⟨⟨⟨-, htype⟩, -⟩, ⟨-, hname⟩, -⟩, hend⟩, hps⟩ := List.forall_mem_cons.mp hps
      have htoken : ∀ c ∈ v ++ p.type, isBlank c = false := by
        intro c hc
        exact (List.mem_append.mp hc).elim (hv c) (htype c)
      have hkeyword : ¬ throwsKeyword <:+ v ++ p.type := by
        rcases hopen with rfl | ⟨w, rfl⟩
        · exact hend
        · rw [List.append_assoc, List.singleton_append]
          exact not_throwsKeyword_suffix_append (by decide) hend w
      cases ps with
      | nil =>
          rw [List.map_singleton, commaList_singleton, Parameter.text, List.append_assoc,
            List.cons_append, ← List.append_assoc,
            leftmost?_throwsClause?_token htoken (by decide) hkeyword]
          exact leftmost?_throwsClause?_sign hname (by decide) (by decide) t
      | cons q ps =>
          rw [List.map_cons, List.map_cons, commaList_cons_cons, Parameter.text, List.append_assoc,
            List.append_assoc, List.cons_append, ← List.append_assoc,
            leftmost?_throwsClause?_token htoken (by decide) hkeyword, List.cons_append,
            List.cons_append, leftmost?_throwsClause?_sign hname (by decide) (by decide)]
          exact ih hps (v := []) (by simp) (Or.inl rfl)

/-- The search for a clause passes everything in front of it. -/
lemma leftmost?_throwsClause?_text :
    leftmost? throwsClause? h.text = leftmost? throwsClause? (h.clause ++ ['{']) := by
  have hopen : ∀ c ∈ h.name ++ ['('], isBlank c = false := by
    intro c hc
    rcases List.mem_append.mp hc with hc | hc
    · exact isBlank_of_isWord (h.nameWord.2 c hc)
    · rw [List.mem_singleton.mp hc]
      decide
  have hlisted : ∀ p ∈ h.parameters, p.IsListed ∧ ¬ throwsKeyword <:+ p.type :=
    fun p hp => ⟨(h.parametersListed p hp).1, (h.parametersListed p hp).2.2.2⟩
  have hsplit : h.name ++ '(' :: (h.list ++ ')' :: ' ' :: (h.clause ++ ['{'])) =
      (h.name ++ ['(']) ++ (h.list ++ ')' :: ' ' :: (h.clause ++ ['{'])) := by simp
  rw [text, h.leftmost?_throwsClause?_front, hsplit, list,
    leftmost?_throwsClause?_list hlisted hopen (Or.inr ⟨h.name, rfl⟩)]

/-- **The exceptions are read back.** -/
lemma thrownNames_text : thrownNames h.text = h.thrown := by
  rw [thrownNames, h.leftmost?_throwsClause?_text, clause]
  split_ifs with hthrown
  · rw [hthrown]
    rfl
  · have hne : commaList h.thrown ≠ [] :=
      commaList_ne_nil hthrown fun e he => (h.thrownListed e he).1
    have htrim : trim (commaList h.thrown) = commaList h.thrown :=
      trim_commaList fun e he => ⟨(h.thrownListed e he).1, (h.thrownListed e he).2.1⟩
    have hbrace : '{' ∉ commaList h.thrown :=
      not_mem_commaList (by decide) fun e he => (h.thrownListed e he).2.2.2.1
    have hlf : '\n' ∉ commaList h.thrown :=
      not_mem_commaList (by decide) fun e he => (h.thrownListed e he).2.2.2.2
    have hread : throwsClause? (throwsKeyword ++ ' ' :: (commaList h.thrown ++ [' ']) ++ ['{']) =
        some (commaList h.thrown) := by
      have happend := throwsClause?_keyword_append hne htrim hlf hbrace
      simpa using happend
    obtain ⟨e, es, hes⟩ := List.exists_cons_of_ne_nil hthrown
    have hlisted : ∀ f ∈ e :: es, ',' ∉ f ∧ trim f = f :=
      fun f hf => ⟨(h.thrownListed f (hes ▸ hf)).2.2.1, (h.thrownListed f (hes ▸ hf)).2.1⟩
    rw [leftmost?_eq_some_of_read hread, hes]
    dsimp only
    rw [map_trim_splitOn_commaList hlisted, List.filter_eq_self]
    intro f hf
    have hfne : f ≠ [] := (h.thrownListed f (hes ▸ hf)).1
    simpa using hfne

/-! ## The comment -/

/-- **A header is read back, and its comment says its parts.**  The result has a line unless the type
is `void`. -/
theorem readBack_text (h : MethodHeader) (indentation : List Char) :
    Method.ofLine h.text = ⟨h.name, h.returnType, h.parameters⟩ ∧ thrownNames h.text = h.thrown ∧
      ∃ phrase, (compose .method h.text indentation).lines =
        [summary h.name] ++
          h.parameters.map (fun p =>
            "@param ".toList ++ p.name ++ [' '] ++ parameterPhrase p h.name) ++
          (if h.returnType = void then [] else ["@return ".toList ++ phrase]) ++
          h.thrown.map (fun e => "@throws ".toList ++ e ++ " if TODO".toList) := by
  have hsignature := h.ofLine_text
  have hthrown := h.thrownNames_text
  refine ⟨hsignature, hthrown, (resultPhrase? h.returnType).getD [], ?_⟩
  have hresult : (resultTag? h.returnType).toList =
      if h.returnType = void then []
      else ["@return ".toList ++ (resultPhrase? h.returnType).getD []] := by
    rw [resultTag?, resultPhrase?]
    split_ifs <;> rfl
  have hlines : (compose .method h.text indentation).lines = methodLines h.text := rfl
  rw [hlines, methodLines, hsignature, hthrown, ← hresult]
  rfl

/-- A header full of keywords, parentheses and braces that are none. -/
def brambles : MethodHeader where
  modifiers := [.accessPublic, .final]
  result? := some "throws1".toList
  name := "throws".toList
  parameters := [⟨"throws(".toList, "\x7bx".toList⟩, ⟨"static".toList, "throws".toList⟩]
  thrown := ["throws E(int n)".toList, ")=;".toList]
  selected := .take (m := .accessPublic) (by decide) (.skip (.take (by decide) .nil))
  resultWord := fun r hr => by
    obtain rfl := Option.some.inj hr
    decide
  constructorMarked := by decide
  nameWord := by decide
  parametersListed := by decide
  thrownListed := by decide

/-- The line `public final throws1 throws(throws( {x, static throws) throws throws E(int n), )=; {`. -/
theorem readBack_brambles :
    brambles.text =
        "public final throws1 throws(throws( \x7bx, static throws) throws throws E(int n), )=; \x7b".toList ∧
      Method.ofLine brambles.text =
        ⟨"throws".toList, "throws1".toList,
          [⟨"throws(".toList, "\x7bx".toList⟩, ⟨"static".toList, "throws".toList⟩]⟩ ∧
      thrownNames brambles.text = ["throws E(int n)".toList, ")=;".toList] :=
  ⟨by decide, (readBack_text brambles []).1, (readBack_text brambles []).2.1⟩

end MethodHeader

end DocStub.Comment

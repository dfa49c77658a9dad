import DocStub.Comment.Compose
import DocStub.Proofs.Declaration.Parts
import DocStub.Proofs.Prose.Phrase

/-!
# What a comment takes from its line

The lines of a comment are fixed texts around parts of the declaration.  A foreign sign, one that no
fixed text holds, therefore comes from the declaration.

**Any sign.**  `mem_of_mem_contentLines`: on every line and for every kind, a foreign sign of the
content is a sign of the line.  In particular the content of a comment never breaks a line.

**Punctuation.**  `not_mem_contentLines`: the comments on classes, interfaces and fields hold no
foreign sign but blanks, because words and blanks are all they copy.  Only the comment on a method
copies spans of its line as they stand.
-/

namespace DocStub.Comment

open Declaration Prose Text

variable {x : Char} {line s : List Char} {kind : Kind}

/-! ## Kind by kind -/

lemma not_mem_of_frames (hx : IsForeign x) {w : List Char} (hw : ∀ c ∈ w, isWord c = true)
    (hs : Frames w s) : x ∉ s := by
  intro hmem
  have hword : isWord x = true := hw x (hs.mem hx hmem)
  rw [hx.isWord_eq_false] at hword
  exact Bool.noConfusion hword

lemma frames_of_mem_classLines (hs : s ∈ classLines line) : Frames (nameOfClass line) s := by
  have hfixed : ∀ t ∈ [todo, [], "@author TODO".toList, "@version 1.0".toList], Plain t := by
    decide
  rcases List.mem_cons.mp hs with rfl | hs
  · exact frames_append (by decide) _
  · exact Or.inl (hfixed s hs)

lemma frames_of_mem_interfaceLines (hs : s ∈ interfaceLines line) :
    Frames (nameOfInterface line) s := by
  have hfixed : ∀ t ∈ [todo], Plain t := by decide
  rcases List.mem_cons.mp hs with rfl | hs
  · exact frames_append (by decide) _
  · exact Or.inl (hfixed s hs)

lemma not_mem_classLines (hx : IsForeign x) (hs : s ∈ classLines line) : x ∉ s :=
  not_mem_of_frames hx (forall_isWord_nameOfClass line) (frames_of_mem_classLines hs)

lemma not_mem_interfaceLines (hx : IsForeign x) (hs : s ∈ interfaceLines line) : x ∉ s :=
  not_mem_of_frames hx (forall_isWord_nameOfInterface line) (frames_of_mem_interfaceLines hs)

lemma mem_methodLines_iff :
    s ∈ methodLines line ↔
      s = summary (Method.ofLine line).name ∨
        (∃ p ∈ (Method.ofLine line).parameters, s = parameterTag (Method.ofLine line).name p) ∨
        resultTag? (Method.ofLine line).returnType = some s ∨
        ∃ e ∈ thrownNames line, s = exceptionTag e := by
  simp only [methodLines, List.mem_append, List.mem_singleton, List.mem_map, Option.mem_toList,
    eq_comm (b := s), or_assoc]

lemma not_mem_summary (hx : IsForeign x) : x ∉ summary (Method.ofLine line).name := by
  intro hmem
  have hword : isWord x = true := forall_isWord_name line x (mem_of_mem_summary hx hmem)
  rw [hx.isWord_eq_false] at hword
  exact Bool.noConfusion hword

lemma not_mem_resultTag? (hx : IsForeign x)
    (hs : resultTag? (Method.ofLine line).returnType = some s) : x ∉ s := by
  obtain ⟨phrase, hphrase, rfl⟩ := Option.map_eq_some_iff.mp hs
  intro hmem
  have hinside : x ∈ phrase := (frames_prepend (by decide) phrase).mem hx hmem
  exact not_mem_of_frames hx (forall_isWord_returnType line) (frames_resultPhrase? hphrase) hinside

lemma frames_parameterTag_front (p : Parameter) :
    Frames p.name ("@param ".toList ++ p.name ++ [' ']) :=
  Or.inr ⟨_, _, by decide, by decide, rfl⟩

lemma mem_of_mem_parameterTag (hx : IsForeign x) {p : Parameter} {method : List Char}
    (h : x ∈ parameterTag method p) : x ∈ p.name := by
  unfold parameterTag at h
  rcases List.mem_append.mp h with h | h
  · exact (frames_parameterTag_front p).mem hx h
  · exact (mem_lowercase_iff hx.isSign).mp ((frames_parameterPhrase p method).mem hx h)

lemma frames_exceptionTag (e : List Char) : Frames e (exceptionTag e) :=
  Or.inr ⟨_, _, by decide, by decide, rfl⟩

lemma mem_of_mem_fieldLines (hx : IsForeign x) (hs : s ∈ fieldLines line) (h : x ∈ s) :
    x ∈ nameOfField line := by
  rw [List.mem_singleton.mp hs] at h
  exact mem_of_mem_spellOut hx ((frames_fieldSentence _ _).mem hx h)

/-! ## All kinds -/

/-- **Signs of the content come from the line.** -/
theorem mem_of_mem_contentLines (hx : IsForeign x) (hs : s ∈ contentLines kind line) (h : x ∈ s) :
    x ∈ line := by
  cases kind with
  | classType => exact absurd h (not_mem_classLines hx hs)
  | interfaceType => exact absurd h (not_mem_interfaceLines hx hs)
  | method =>
      rcases mem_methodLines_iff.mp hs with rfl | ⟨p, hp, rfl⟩ | hresult | ⟨e, he, rfl⟩
      · exact absurd h (not_mem_summary hx)
      · exact (infix_of_mem_parameters hp).2.subset (mem_of_mem_parameterTag hx h)
      · exact absurd h (not_mem_resultTag? hx hresult)
      · exact (infix_of_mem_thrownNames he).subset ((frames_exceptionTag e).mem hx h)
  | field => exact mem_of_mem_nameOfField (mem_of_mem_fieldLines hx hs h)

lemma newline_not_mem_contentLines (hlf : '\n' ∉ line) (hs : s ∈ contentLines kind line) :
    '\n' ∉ s :=
  fun h => hlf (mem_of_mem_contentLines (by decide) hs h)

/-- No line of the content ends with a carriage return: what a method copies is framed or free of
blanks, and the sentence about a field ends with a stop. -/
lemma getLast?_ne_of_mem_contentLines (hs : s ∈ contentLines kind line) :
    s.getLast? ≠ some '\r' := by
  have hnone : '\r' ∉ s → s.getLast? ≠ some '\r' := fun h hlast => h (List.mem_of_getLast? hlast)
  -- a name may hold anything but blanks, so only exceptions and fields need a look at the end
  cases kind with
  | classType => exact hnone (not_mem_classLines (by decide) hs)
  | interfaceType => exact hnone (not_mem_interfaceLines (by decide) hs)
  | method =>
      rcases mem_methodLines_iff.mp hs with rfl | ⟨p, hp, rfl⟩ | hresult | ⟨e, -, rfl⟩
      · exact hnone (not_mem_summary (by decide))
      · refine hnone fun h => ?_
        have hblank : isBlank '\r' = false :=
          isBlank_of_mem_name hp (mem_of_mem_parameterTag (by decide) h)
        exact absurd hblank (by decide)
      · exact hnone (not_mem_resultTag? (by decide) hresult)
      · have hlast : " if TODO".toList.getLast? = some 'O' := by decide
        unfold exceptionTag
        rw [List.getLast?_append, hlast, Option.some_or]
        decide
  | field =>
      rw [List.mem_singleton.mp hs] at hnone ⊢
      rcases fieldSentence_eq (nameOfField line) (typeOfField line) with h | ⟨a, -, h⟩
      · exact hnone (h.not_mem (by decide))
      · rw [h, List.getLast?_concat]
        decide

/-- **Only methods copy punctuation.** -/
theorem not_mem_contentLines (hx : IsForeign x) (hblank : isBlank x = false) (hlf : '\n' ∉ line)
    (hmethod : kind ≠ .method) (hfield : kind = .field → FieldForm line)
    (hs : s ∈ contentLines kind line) : x ∉ s := by
  cases kind with
  | classType => exact not_mem_classLines hx hs
  | interfaceType => exact not_mem_interfaceLines hx hs
  | method => exact absurd rfl hmethod
  | field =>
      have hname : x ∉ nameOfField line :=
        not_mem_of_forall_blank_or_word
          (fun c hc => (hfield rfl).blank_or_word_of_mem_nameOfField hlf hc) hblank hx.isWord_eq_false
      exact fun hmem => hname (mem_of_mem_fieldLines hx hs hmem)

end DocStub.Comment

import DocStub.Comment.Compose
import DocStub.Proofs.Declaration.Extraction
import DocStub.Proofs.Declaration.ThrowsClause

/-!
# An access modifier in front

A declaration line that starts with no access modifier can be given one.  `Modifier.before m line` is the
line with a modifier and a blank in front of it, and neither its kind nor its comment is another one.

**Readings.**  An access modifier is one more way to read the longer line, and the ways to read what it
leaves are the ways to read the old line, in the same order (`afterModifiers_before`).  The reading that
leaves the modifier alone comes last, and nothing fits it that does not fit the old line.

**Forms.**  What can stand behind modifiers can stand behind one more (`Precedes.before`), so a line keeps
its form, and a type does not come up as another one (`classForm_before_iff`, `interfaceForm_before_iff`).

**Parts.**  The readers that search for a place pass the modifier, because a header with one more word at
its front has the same last two words.  The name of a field is found by cutting off the front, where the
first reading that fits is the old one (`afterType_before`).
-/

namespace DocStub.Declaration

open Text

/-- The line with a modifier and a blank in front of it. -/
def Modifier.before (m : Modifier) (line : List Char) : List Char := m.spelling ++ ' ' :: line

/-- The line does not start with an access modifier. -/
def LacksAccess (line : List Char) : Prop := ∀ m ∈ Modifier.access, ¬ m.spelling <+: line

variable {m : Modifier} {line w front rest : List Char} {gs : List (List Modifier)}

lemma mem_access_iff :
    m ∈ Modifier.access ↔ m = .accessPublic ∨ m = .accessPrivate ∨ m = .accessProtected := by
  simp [Modifier.access]

/-! ## Readings -/

lemma skipBlanks_before (m : Modifier) (line : List Char) : skipBlanks (m.before line) = m.before line :=
  (wordlike_spelling m).skipBlanks_append _

lemma afterAccess_of_lacksAccess (hline : skipBlanks line = line) (hlacks : LacksAccess line) :
    afterAccess line = [line] := by
  have hnone : Modifier.access.filterMap (fun m => m.spelling.isPrefixOf? line) = [] := by
    rw [List.filterMap_eq_nil_iff]
    intro m hm
    rw [Option.eq_none_iff_forall_ne_some]
    intro r hr
    exact hlacks m hm ⟨r, List.isPrefixOf?_eq_some_iff_append_eq.mp hr⟩
  rw [afterAccess, afterOptional, hnone, List.nil_append, List.map_singleton, hline]

lemma afterAccess_before (hm : m ∈ Modifier.access) (hline : skipBlanks line = line) :
    afterAccess (m.before line) = [line, m.before line] := by
  have hgap : skipBlanks (' ' :: line) = line := by
    rw [← List.singleton_append, skipBlanks_append (by decide), hline]
  have htaken : afterOptional Modifier.access (m.before line) = [' ' :: line, m.before line] := by
    rcases mem_access_iff.mp hm with rfl | rfl | rfl <;> rfl
  rw [afterAccess, htaken, List.map_cons, List.map_singleton, hgap, skipBlanks_before]

/-- The readings of the longer line are those of the old one, and the line itself. -/
lemma afterModifiers_before (hm : m ∈ Modifier.access) (hline : skipBlanks line = line)
    (hlacks : LacksAccess line) :
    afterModifiers (m.before line) = afterModifiers line ++ [m.before line] := by
  have hother : afterOptional [.static] (m.before line) = [m.before line] ∧
      afterOptional [.final] (m.before line) = [m.before line] := by
    rcases mem_access_iff.mp hm with rfl | rfl | rfl <;> exact ⟨rfl, rfl⟩
  simp only [afterModifiers, afterAccess_before hm hline, afterAccess_of_lacksAccess hline hlacks,
    List.flatMap_cons, List.flatMap_nil, List.append_nil, hother, List.map_singleton, skipBlanks_before]

/-! ## Forms -/

lemma namedAfter?_before (hm : m ∈ Modifier.access) (line : List Char) :
    namedAfter? classKeyword (m.before line) = none ∧
      namedAfter? interfaceKeyword (m.before line) = none := by
  rcases mem_access_iff.mp hm with rfl | rfl | rfl <;> exact ⟨rfl, rfl⟩

lemma newline_not_mem_before (m : Modifier) (hlf : '\n' ∉ line) : '\n' ∉ m.before line := by
  have hspelling : '\n' ∉ m.spelling := by cases m <;> decide
  exact List.not_mem_append hspelling (List.not_mem_cons_of_ne_of_not_mem (by decide) hlf)

lemma classForm_before_iff (hm : m ∈ Modifier.access) (hline : skipBlanks line = line)
    (hlacks : LacksAccess line) (hlf : '\n' ∉ line) : ClassForm (m.before line) ↔ ClassForm line := by
  rw [← isClassShaped_iff (skipBlanks_before m line) (newline_not_mem_before m hlf),
    ← isClassShaped_iff hline hlf, isClassShaped, isClassShaped,
    afterModifiers_before hm hline hlacks, List.any_append]
  simp [(namedAfter?_before hm line).1]

lemma interfaceForm_before_iff (hm : m ∈ Modifier.access) (hline : skipBlanks line = line)
    (hlacks : LacksAccess line) (hlf : '\n' ∉ line) :
    InterfaceForm (m.before line) ↔ InterfaceForm line := by
  rw [← isInterfaceShaped_iff (skipBlanks_before m line) (newline_not_mem_before m hlf),
    ← isInterfaceShaped_iff hline hlf, isInterfaceShaped, isInterfaceShaped,
    afterAccess_before hm hline, afterAccess_of_lacksAccess hline hlacks]
  simp [(namedAfter?_before hm line).2]

lemma Precedes.before (h : Precedes (Modifier.access :: gs) line w) (hm : m ∈ Modifier.access)
    (hlacks : LacksAccess line) : Precedes (Modifier.access :: gs) (m.before line) w := by
  obtain ⟨ps, hsel, hps, rfl⟩ := h
  generalize hms : ps.map Prod.fst = ms at hsel
  cases hsel with
  | skip hsel =>
      have hgap : AllBlank [' '] := by decide
      refine ⟨(m, [' ']) :: ps, .take hm (hms ▸ hsel), List.forall_mem_cons.mpr ⟨hgap, hps⟩, ?_⟩
      simp [Modifier.before]
  | @take m' _ _ ms hm' hsel =>
      obtain ⟨⟨m', gap⟩, ps, rfl, rfl, rfl⟩ := List.map_eq_cons_iff.mp hms
      exact absurd ⟨gap ++ spaced ps ++ w, by simp⟩ (hlacks m' hm')

lemma LacksAccess.of_append (h : LacksAccess (front ++ rest)) : LacksAccess front :=
  fun m hm hpre => h m hm (hpre.trans (List.prefix_append front rest))

lemma IsHeader.before (h : IsHeader front) (hfront : skipBlanks front = front) (hm : m ∈ Modifier.access)
    (hlacks : LacksAccess front) : IsHeader (m.before front) := by
  obtain ⟨member, hmember⟩ := (isHeader_iff hfront).mp h
  exact (isHeader_iff (skipBlanks_before m front)).mpr ⟨member, hmember.before hm hlacks⟩

lemma before_append (m : Modifier) (front rest : List Char) :
    m.before (front ++ rest) = m.before front ++ rest := by
  simp [Modifier.before]

lemma words_before (m : Modifier) (line : List Char) : words (m.before line) = m.spelling :: words line := by
  have hgap : EndsWord (' ' :: line) := endsWord_cons.mpr (by decide)
  rw [Modifier.before, words_append_of_wordlike (wordlike_spelling m) hgap, words_cons (by decide)]

lemma words_before_of_eq_append {mods last : List (List Char)} (h : words line = mods ++ last)
    (m : Modifier) : words (m.before line) = (m.spelling :: mods) ++ last := by
  rw [words_before, h, List.cons_append]

/-- A sign is in the longer line where it is in the old one. -/
lemma mem_before_iff {c : Char} (hblank : isBlank c = false) (hword : isWord c = false) :
    c ∈ m.before line ↔ c ∈ line := by
  have hspelling : c ∉ m.spelling := fun hc => by
    rw [(wordlike_spelling m).2 c hc] at hword
    exact Bool.noConfusion hword
  have hspace : c ≠ ' ' := by
    rintro rfl
    exact absurd hblank (by decide)
  simp [Modifier.before, hspelling, hspace]

lemma NoStatementKeyword.before (h : NoStatementKeyword line) (m : Modifier) :
    NoStatementKeyword (m.before line) := by
  have hspelling : m.spelling ∉ statementKeywords := by cases m <;> decide
  rw [NoStatementKeyword, words_before, List.forall_mem_cons]
  exact ⟨hspelling, h⟩

/-- The text that marks a construction does not start in an access modifier. -/
lemma new_infix_before_iff (hm : m ∈ Modifier.access) :
    "new ".toList <:+: m.before line ↔ "new ".toList <:+: line := by
  have hfront : 'n' ∉ m.spelling ++ [' '] := by
    rcases mem_access_iff.mp hm with rfl | rfl | rfl <;> decide
  have hsplit : m.before line = (m.spelling ++ [' ']) ++ line := by simp [Modifier.before]
  rw [hsplit]
  exact cons_infix_append_iff hfront line

lemma MethodForm.before (h : MethodForm line) (hline : skipBlanks line = line) (hm : m ∈ Modifier.access)
    (hlacks : LacksAccess line) : MethodForm (m.before line) := by
  obtain ⟨front, rest, rfl, hparen, hfront, hclose⟩ := h
  refine ⟨m.before front, rest, before_append m front _, ?_, ?_, hclose⟩
  · rwa [mem_before_iff (by decide) (by decide)]
  · exact hfront.before (skipBlanks_of_append hline) hm hlacks.of_append

lemma FieldForm.before (h : FieldForm line) (hline : skipBlanks line = line) (hm : m ∈ Modifier.access)
    (hlacks : LacksAccess line) : FieldForm (m.before line) := by
  obtain ⟨front, rest, rfl, heq, hsemi, hfront, hrest⟩ := h
  refine ⟨m.before front, rest, before_append m front _, ?_, ?_, ?_, hrest⟩
  · rwa [mem_before_iff (by decide) (by decide)]
  · rwa [mem_before_iff (by decide) (by decide)]
  · exact hfront.before (skipBlanks_of_append hline) hm hlacks.of_append

lemma PassesAsMethod.before (h : PassesAsMethod line) (hm : m ∈ Modifier.access) :
    PassesAsMethod (m.before line) := by
  obtain ⟨heq, hnew, hkeyword⟩ := h
  refine ⟨?_, ?_, hkeyword.before m⟩
  · rwa [mem_before_iff (by decide) (by decide)]
  · rwa [new_infix_before_iff hm]

lemma PassesAsField.before (h : PassesAsField line) (m : Modifier) : PassesAsField (m.before line) := by
  obtain ⟨hopen, hclose, hkeyword⟩ := h
  refine ⟨?_, ?_, hkeyword.before m⟩
  · rwa [mem_before_iff (by decide) (by decide)]
  · rwa [mem_before_iff (by decide) (by decide)]

/-- A line without a parenthesis has not the form of a method. -/
lemma PassesAsField.not_methodForm (h : PassesAsField line) : ¬ MethodForm line := by
  rintro ⟨front, rest, rfl, -, -, -⟩
  exact h.1 (by simp)

/-- The longer line declares what the old one declares. -/
lemma Declares.before {kind : Kind} (h : Declares line kind) (hline : skipBlanks line = line)
    (hlf : '\n' ∉ line) (hm : m ∈ Modifier.access) (hlacks : LacksAccess line) :
    Declares (m.before line) kind := by
  have hclass := classForm_before_iff hm hline hlacks hlf
  have hinterface := interfaceForm_before_iff hm hline hlacks hlf
  cases kind with
  | classType => exact hclass.mpr h
  | interfaceType => exact ⟨mt hclass.mp h.1, hinterface.mpr h.2⟩
  | method =>
      obtain ⟨hnoclass, hnointerface, hform, hpasses⟩ := h
      exact ⟨mt hclass.mp hnoclass, mt hinterface.mp hnointerface, hform.before hline hm hlacks,
        hpasses.before hm⟩
  | field =>
      obtain ⟨hnoclass, hnointerface, -, hform, hpasses⟩ := h
      have hpasses := hpasses.before m
      exact ⟨mt hclass.mp hnoclass, mt hinterface.mp hnointerface, hpasses.not_methodForm,
        hform.before hline hm hlacks, hpasses⟩

lemma trim_before (hne : line ≠ []) (hline : trim line = line) (m : Modifier) :
    trim (m.before line) = m.before line := by
  have hspelling : m.spelling ≠ [] ∧ trim m.spelling = m.spelling := by cases m <;> decide
  exact trim_append_append hspelling ⟨hne, hline⟩ [' ']

lemma kind?_before {previous : List Char} {kind : Kind} (h : kind? line previous = some kind)
    (hline : trim line = line) (hlf : '\n' ∉ line) (hm : m ∈ Modifier.access)
    (hlacks : LacksAccess line) : kind? (m.before line) previous = some kind := by
  have hne : line ≠ [] := by
    rintro rfl
    exact Option.some_ne_none kind (h.symm.trans (kind?_nil previous))
  rw [kind?_eq_some_iff_declares _ _ hline hlf] at h
  rw [kind?_eq_some_iff_declares _ _ (trim_before hne hline m) (newline_not_mem_before m hlf)]
  exact ⟨h.1, h.2.before (skipBlanks_of_trim hline) hlf hm hlacks⟩

/-! ## Parts -/

lemma NamedBy.before {keyword : List Char} (h : NamedBy (Modifier.access :: gs) keyword line w)
    (hm : m ∈ Modifier.access) (hlacks : LacksAccess line) :
    NamedBy (Modifier.access :: gs) keyword (m.before line) w := by
  obtain ⟨t, r, ht, hread⟩ := namedBy_iff.mp h
  exact namedBy_iff.mpr ⟨t, r, ht.before hm hlacks, hread⟩

lemma nameOfClass_before (h : ClassForm line) (hm : m ∈ Modifier.access) (hlacks : LacksAccess line) :
    nameOfClass (m.before line) = nameOfClass line := by
  obtain ⟨t, ht, hnames⟩ := h
  obtain ⟨w, hw⟩ := exists_namedBy ht hnames
  rw [nameOfClass_eq hw, nameOfClass_eq (hw.before hm hlacks)]

lemma nameOfInterface_before (h : InterfaceForm line) (hm : m ∈ Modifier.access)
    (hlacks : LacksAccess line) : nameOfInterface (m.before line) = nameOfInterface line := by
  obtain ⟨t, ht, hnames⟩ := h
  obtain ⟨w, hw⟩ := exists_namedBy ht hnames
  rw [nameOfInterface_eq hw, nameOfInterface_eq (hw.before hm hlacks)]

lemma blank_or_word_of_mem_before (h : ∀ c ∈ front, isBlank c = true ∨ isWord c = true) :
    ∀ c ∈ m.before front, isBlank c = true ∨ isWord c = true := by
  intro c hc
  rcases List.mem_append.mp hc with hc | hc
  · exact Or.inr ((wordlike_spelling m).2 c hc)
  · rcases List.mem_cons.mp hc with rfl | hc
    · exact Or.inl (by decide)
    · exact h c hc

lemma ofLine_before (h : MethodForm line) (hline : skipBlanks line = line) (hlf : '\n' ∉ line) :
    Method.ofLine (m.before line) = Method.ofLine line := by
  obtain ⟨front, rest, rfl, -, ⟨hall, mods, type, name, hwords, -⟩, hclose⟩ := h
  obtain ⟨inner, rest, rfl, hinner⟩ := List.eq_append_cons_of_mem hclose
  have hlfinner : '\n' ∉ inner := fun hmem => hlf (by simp [hmem])
  have hwords' := words_before_of_eq_append hwords m
  rw [before_append, ofLine_eq (skipBlanks_of_append hline) hall hwords hinner hlfinner,
    ofLine_eq (skipBlanks_before m front) (blank_or_word_of_mem_before hall) hwords' hinner hlfinner]

lemma typeOfField_before (h : FieldForm line) (hline : skipBlanks line = line) :
    typeOfField (m.before line) = typeOfField line := by
  obtain ⟨front, sign, rest, rfl, hsign, -, -, hall, mods, type, name, hwords, -⟩ := h.exists_sign
  have hwords' := words_before_of_eq_append hwords m
  rw [before_append, typeOfField_eq (skipBlanks_of_append hline) hall hwords hsign,
    typeOfField_eq (skipBlanks_before m front) (blank_or_word_of_mem_before hall) hwords' hsign]

/-- The front of a field is cut off by a reading of the old line. -/
lemma afterType_before (h : FieldForm line) (hline : skipBlanks line = line) (hlf : '\n' ∉ line)
    (hm : m ∈ Modifier.access) (hlacks : LacksAccess line) :
    afterType (m.before line) = afterType line := by
  have hshaped : isFieldShaped line = true := (isFieldShaped_iff hline hlf).mpr h
  simp only [isFieldShaped, List.any_eq_true, Option.any_eq_true] at hshaped
  obtain ⟨t, ht, d, hd, -⟩ := hshaped
  simp only [typedName?, Option.bind_eq_bind, Option.bind_eq_some_iff, Prod.exists] at hd
  obtain ⟨type, u, htype, r, hgap, -⟩ := hd
  rw [afterType, afterType, afterModifiers_before hm hline hlacks, List.findSome?_append]
  generalize hread : List.findSome? _ (afterModifiers line) = found
  cases found with
  | none =>
      have hnone := List.findSome?_eq_none_iff.mp hread t ht
      simp [htype, hgap] at hnone
  | some r => rfl

lemma nameOfField_before (h : FieldForm line) (hline : skipBlanks line = line) (hlf : '\n' ∉ line)
    (hm : m ∈ Modifier.access) (hlacks : LacksAccess line) :
    nameOfField (m.before line) = nameOfField line := by
  rw [nameOfField, nameOfField, afterType_before h hline hlf hm hlacks]

lemma thrownNames_before (m : Modifier) (line : List Char) :
    thrownNames (m.before line) = thrownNames line := by
  rw [thrownNames, thrownNames, Modifier.before, leftmost?_throwsClause?_modifier]

end DocStub.Declaration

namespace DocStub.Comment

open Declaration Text

variable {m : Modifier} {line : List Char}

lemma contentLines_before {kind : Kind} (h : HasForm line kind) (hline : skipBlanks line = line)
    (hlf : '\n' ∉ line) (hm : m ∈ Modifier.access) (hlacks : LacksAccess line) :
    contentLines kind (m.before line) = contentLines kind line := by
  cases kind with
  | classType =>
      show classLines _ = classLines _
      rw [classLines, classLines, nameOfClass_before h hm hlacks]
  | interfaceType =>
      show interfaceLines _ = interfaceLines _
      rw [interfaceLines, interfaceLines, nameOfInterface_before h hm hlacks]
  | method =>
      show methodLines _ = methodLines _
      rw [methodLines, methodLines, ofLine_before h hline hlf, thrownNames_before]
  | field =>
      show fieldLines _ = fieldLines _
      rw [fieldLines, fieldLines, nameOfField_before h hline hlf hm hlacks, typeOfField_before h hline]

/-- **Access does not count.**  A declaration that starts with no access modifier is still one of the same
kind after one was put in front of it, and its comment is the same. -/
theorem compose_before (line previous : List Char) (kind : Kind) (m : Modifier) (hline : trim line = line)
    (hlf : '\n' ∉ line) (hlacks : ∀ a ∈ Modifier.access, ¬ a.spelling <+: line)
    (hkind : kind? line previous = some kind) (hm : m ∈ Modifier.access) :
    kind? (m.spelling ++ ' ' :: line) previous = some kind ∧
      ∀ indentation,
        compose kind (m.spelling ++ ' ' :: line) indentation = compose kind line indentation := by
  have hfront : skipBlanks line = line := skipBlanks_of_trim hline
  have hform : HasForm line kind := hasForm_of_kind? hfront hlf hkind
  refine ⟨kind?_before hkind hline hlf hm hlacks, fun indentation => ?_⟩
  exact congrArg (Block.mk indentation) (contentLines_before hform hfront hlf hm hlacks)

/-- A constructor, where a modifier stands in the place of the type. -/
theorem compose_before_constructor :
    let line := "static final Area(int publicKey) throws E \x7b".toList
    trim line = line ∧ '\n' ∉ line ∧ (∀ a ∈ Modifier.access, ¬ a.spelling <+: line) ∧
      kind? line [] = some .method ∧ Modifier.accessProtected ∈ Modifier.access ∧
      kind? (Modifier.accessProtected.spelling ++ ' ' :: line) [] = some .method ∧
      ∀ indentation, compose .method (Modifier.accessProtected.spelling ++ ' ' :: line) indentation =
        compose .method line indentation := by
  intro line
  have hline : trim line = line := by decide
  have hlf : '\n' ∉ line := by decide
  have hlacks : ∀ a ∈ Modifier.access, ¬ a.spelling <+: line := by decide
  have hkind : kind? line [] = some .method := by decide
  have hm : Modifier.accessProtected ∈ Modifier.access := by decide
  exact ⟨hline, hlf, hlacks, hkind, hm,
    compose_before line [] .method .accessProtected hline hlf hlacks hkind hm⟩

end DocStub.Comment

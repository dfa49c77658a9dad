import DocStub.Declaration.Recognition
import DocStub.Proofs.Declaration.Header

/-!
# The grammar of declaration lines

A recogniser reads a line from its front and may read it in several ways.  The grammar below does not
read: it says which words a line consists of.

**Forms.**  `ClassForm`, `InterfaceForm`, `MethodForm` and `FieldForm` are the forms of a line, and
`Declares line kind` adds their order and the conditions that keep statements out.

**Shapes.**  Each recogniser accepts one form: `isClassShaped_iff`, `isInterfaceShaped_iff`,
`isMethodShaped_iff`, `isFieldShaped_iff`.  The two of types share `any_namedAfter?_iff`, the two of
members `any_typedName?_iff`.

**Kinds.**  On a trimmed line the recognised kind is the declared one, unless the line before ends a
comment.  The gates agree with the conditions of the grammar (`admitsMethod_iff`, `admitsField_iff`), and a
line that starts with neither a blank nor a word declares nothing (`kind?_eq_none_of_head`).
-/

namespace DocStub.Declaration

open Text

/-! ## Forms -/

/-- A keyword, at least one blank, and the first character of a word. -/
def NamesAfter (keyword t : List Char) : Prop :=
  ∃ gap c r, t = keyword ++ (gap ++ c :: r) ∧ gap ≠ [] ∧ AllBlank gap ∧ isWord c = true

/-- The line of a class: modifiers, the keyword and a name. -/
def ClassForm (line : List Char) : Prop :=
  ∃ t, Precedes modifierGroups line t ∧ NamesAfter classKeyword t

/-- The line of an interface: an access modifier, the keyword and a name. -/
def InterfaceForm (line : List Char) : Prop :=
  ∃ t, Precedes [Modifier.access] line t ∧ NamesAfter interfaceKeyword t

/-- The line of a method: a header in front of the first opening parenthesis, and a closing one
later. -/
def MethodForm (line : List Char) : Prop :=
  ∃ front rest, line = front ++ '(' :: rest ∧ '(' ∉ front ∧ IsHeader front ∧ ')' ∈ rest

/-- The line of a field: a header in front of the first equals sign or semicolon, and a semicolon at
the end. -/
def FieldForm (line : List Char) : Prop :=
  ∃ front rest, line = front ++ rest ∧ '=' ∉ front ∧ ';' ∉ front ∧ IsHeader front ∧
    (rest = [';'] ∨ ∃ value, rest = '=' :: (value ++ [';']))

/-- Whether no word of a line is a statement keyword. -/
def NoStatementKeyword (line : List Char) : Prop := ∀ w ∈ words line, w ∉ statementKeywords

/-- What keeps statements from counting as methods: no assignment, no construction, no keyword. -/
def PassesAsMethod (line : List Char) : Prop :=
  '=' ∉ line ∧ ¬ "new ".toList <:+: line ∧ NoStatementKeyword line

/-- What keeps statements from counting as fields: no call, no keyword. -/
def PassesAsField (line : List Char) : Prop :=
  '(' ∉ line ∧ ')' ∉ line ∧ NoStatementKeyword line

/-- The kind of declaration that a line has by its form.  An earlier kind takes precedence. -/
def Declares (line : List Char) : Kind → Prop
  | .classType => ClassForm line
  | .interfaceType => ¬ ClassForm line ∧ InterfaceForm line
  | .method => ¬ ClassForm line ∧ ¬ InterfaceForm line ∧ MethodForm line ∧ PassesAsMethod line
  | .field => ¬ ClassForm line ∧ ¬ InterfaceForm line ∧ ¬ MethodForm line ∧
      FieldForm line ∧ PassesAsField line

/-! ## Types -/

lemma namedAfter?_eq_some_iff {keyword t w r : List Char} :
    namedAfter? keyword t = some (w, r) ↔
      ∃ gap, gap ≠ [] ∧ AllBlank gap ∧ Wordlike w ∧ EndsWord r ∧
        t = keyword ++ (gap ++ (w ++ r)) := by
  simp only [namedAfter?, Option.bind_eq_bind, Option.bind_eq_some_iff,
    List.isPrefixOf?_eq_some_iff_append_eq, afterGap?_eq_some_iff, leadingWord?_eq_some_iff]
  constructor
  · rintro ⟨_, rfl, _, ⟨gap, hne, hgap, rfl, -⟩, hw, hr, rfl⟩
    exact ⟨gap, hne, hgap, hw, hr, rfl⟩
  · rintro ⟨gap, hne, hgap, hw, hr, rfl⟩
    exact ⟨_, rfl, _, ⟨gap, hne, hgap, rfl, hw.skipBlanks_append r⟩, hw, hr, rfl⟩

lemma namesAfter_iff {keyword t : List Char} :
    NamesAfter keyword t ↔ ∃ w r, namedAfter? keyword t = some (w, r) := by
  simp only [namedAfter?_eq_some_iff]
  constructor
  · rintro ⟨gap, c, r, rfl, hne, hgap, hc⟩
    obtain ⟨w, r', hw, hr', hcr⟩ := exists_wordlike_append hc r
    exact ⟨w, r', gap, hne, hgap, hw, hr', by rw [hcr]⟩
  · rintro ⟨w, r, gap, hne, hgap, hw, -, rfl⟩
    obtain ⟨c, v, rfl, hc⟩ := hw.cons_head
    exact ⟨gap, c, v ++ r, by simp, hne, hgap, hc⟩

/-- Both recognisers of types have this shape. -/
lemma any_namedAfter?_iff {gs : List (List Modifier)} {keyword line : List Char}
    (hk : Wordlike keyword) (hline : skipBlanks line = line) (hlf : '\n' ∉ line) :
    ((readings gs line).any fun t => (namedAfter? keyword t).any fun p => '\n' ∉ p.2) = true ↔
      ∃ t, Precedes gs line t ∧ NamesAfter keyword t := by
  simp only [List.any_eq_true, Option.any_eq_true, mem_readings_iff hline, Prod.exists,
    decide_eq_true_eq]
  constructor
  · rintro ⟨t, ⟨-, hps⟩, w, r, hread, -⟩
    exact ⟨t, hps, namesAfter_iff.mpr ⟨w, r, hread⟩⟩
  · rintro ⟨t, ⟨ps, hsel, hps, rfl⟩, hnames⟩
    obtain ⟨w, r, hread⟩ := namesAfter_iff.mp hnames
    obtain ⟨gap, -, -, -, -, rfl⟩ := namedAfter?_eq_some_iff.mp hread
    refine ⟨_, ⟨hk.skipBlanks_append _, ps, hsel, hps, rfl⟩, w, r, hread, fun hr => hlf ?_⟩
    simp [hr]

lemma wordlike_classKeyword : Wordlike classKeyword := by decide

lemma wordlike_interfaceKeyword : Wordlike interfaceKeyword := by decide

lemma isClassShaped_iff {line : List Char} (hline : skipBlanks line = line)
    (hlf : '\n' ∉ line) : isClassShaped line = true ↔ ClassForm line := by
  rw [isClassShaped, afterModifiers_eq_readings]
  exact any_namedAfter?_iff wordlike_classKeyword hline hlf

lemma isInterfaceShaped_iff {line : List Char} (hline : skipBlanks line = line)
    (hlf : '\n' ∉ line) : isInterfaceShaped line = true ↔ InterfaceForm line := by
  rw [isInterfaceShaped, afterAccess_eq_readings]
  exact any_namedAfter?_iff wordlike_interfaceKeyword hline hlf

/-! ## Members -/

lemma typedName?_eq_some_iff {t : List Char} {d : TypedName} :
    typedName? t = some d ↔
      ∃ m : Member, m.type = d.type ∧ m.name = d.name ∧ t = m.text ++ d.rest ∧
        skipBlanks d.rest = d.rest ∧ EndsWord (m.trailing ++ d.rest) := by
  simp only [typedName?, Option.bind_eq_bind, Option.bind_eq_some_iff, Prod.exists,
    afterGap?_eq_some_iff, leadingWord?_eq_some_iff, Option.pure_def, Option.some.injEq]
  constructor
  · rintro ⟨type, _, ⟨htype, -, rfl⟩, _, ⟨gap, hne, hgap, rfl, -⟩, name, r, ⟨hname, hr, rfl⟩, rfl⟩
    obtain ⟨trailing, htr, hsplit⟩ := exists_allBlank_append_skipBlanks r
    refine ⟨⟨type, gap, name, trailing, ⟨htype, hname⟩, hne, hgap, htr⟩, rfl, rfl, ?_,
      skipBlanks_skipBlanks r, ?_⟩
    · simp only [Member.text, List.append_assoc]
      rw [← hsplit]
    · show EndsWord (trailing ++ skipBlanks r)
      rw [← hsplit]
      exact hr
  · rintro ⟨m, htype, hname, rfl, hrest, hends⟩
    obtain ⟨hne, hgap, htr⟩ := m.blank
    refine ⟨m.type, m.gap ++ (m.name ++ (m.trailing ++ d.rest)),
      ⟨m.wordlike.1, hgap.endsWord_append hne _, by simp [Member.text]⟩,
      m.name ++ (m.trailing ++ d.rest),
      ⟨m.gap, hne, hgap, rfl, m.wordlike.2.skipBlanks_append _⟩,
      m.name, m.trailing ++ d.rest, ⟨m.wordlike.2, hends, rfl⟩, ?_⟩
    rw [skipBlanks_append htr, hrest, htype, hname]

/-- Both recognisers of members have this shape: a header stands in front of a rest that starts with
neither a blank nor a word character. -/
lemma any_typedName?_iff {p : List Char → Bool} {line : List Char}
    (hline : skipBlanks line = line)
    (hp : ∀ r, p r = true → ∃ c s, r = c :: s ∧ isBlank c = false ∧ isWord c = false) :
    ((afterModifiers line).any fun t => (typedName? t).any fun d => p d.rest) = true ↔
      ∃ front rest, line = front ++ rest ∧ IsHeader front ∧ p rest = true := by
  rw [afterModifiers_eq_readings]
  simp only [List.any_eq_true, Option.any_eq_true, mem_readings_iff hline]
  constructor
  · rintro ⟨t, ⟨-, ps, hsel, hps, rfl⟩, d, hd, hrest⟩
    obtain ⟨m, -, -, rfl, -, -⟩ := typedName?_eq_some_iff.mp hd
    rw [← List.append_assoc] at hline ⊢
    refine ⟨spaced ps ++ m.text, d.rest, rfl, ?_, hrest⟩
    exact (isHeader_iff (skipBlanks_of_append hline)).mpr ⟨m, ps, hsel, hps, rfl⟩
  · rintro ⟨front, rest, rfl, hfront, hrest⟩
    obtain ⟨m, ps, hsel, hps, rfl⟩ := (isHeader_iff (skipBlanks_of_append hline)).mp hfront
    obtain ⟨c, s, rfl, hblank, hword⟩ := hp rest hrest
    refine ⟨m.text ++ c :: s, ⟨?_, ps, hsel, hps, by simp⟩, ⟨m.type, m.name, c :: s⟩, ?_, hrest⟩
    · obtain ⟨x, y, hxy, hx⟩ := m.cons_head
      rw [hxy, List.cons_append, skipBlanks_cons (isBlank_of_isWord hx)]
    · refine typedName?_eq_some_iff.mpr ⟨m, rfl, rfl, rfl, skipBlanks_cons hblank s, ?_⟩
      cases htr : m.trailing with
      | nil => exact endsWord_cons.mpr hword
      | cons x y =>
          exact endsWord_cons.mpr (isWord_of_isBlank (m.blank.2.2 x (by simp [htr])))

lemma opensParameters_iff {t : List Char} :
    opensParameters t = true ↔ ∃ r, t = '(' :: r ∧ ')' ∈ r ∧ '\n' ∉ r := by
  unfold opensParameters
  split
  · simp
  · rename_i hne
    simp only [Bool.false_eq_true, false_iff]
    rintro ⟨r, rfl, -⟩
    exact hne r rfl

lemma isMethodShaped_iff {line : List Char} (hline : skipBlanks line = line)
    (hlf : '\n' ∉ line) : isMethodShaped line = true ↔ MethodForm line := by
  have hp : ∀ r, opensParameters r = true → ∃ c s, r = c :: s ∧ isBlank c = false ∧
      isWord c = false := by
    intro r hr
    obtain ⟨s, rfl, -⟩ := opensParameters_iff.mp hr
    exact ⟨'(', s, rfl, by decide, by decide⟩
  rw [isMethodShaped, any_typedName?_iff hline hp]
  constructor
  · rintro ⟨front, rest, rfl, hfront, hrest⟩
    obtain ⟨r, rfl, hclose, -⟩ := opensParameters_iff.mp hrest
    exact ⟨front, r, rfl, hfront.not_mem (by decide) (by decide), hfront, hclose⟩
  · rintro ⟨front, r, rfl, -, hfront, hclose⟩
    have hr : '\n' ∉ r := fun h => hlf (by simp [h])
    exact ⟨front, '(' :: r, rfl, hfront, opensParameters_iff.mpr ⟨r, rfl, hclose, hr⟩⟩

lemma endsField_iff {t : List Char} :
    endsField t = true ↔
      t = [';'] ∨ ∃ value, t = '=' :: (value ++ [';']) ∧ '\n' ∉ value := by
  unfold endsField
  split
  · rename_i r
    simp only [Bool.decide_and, Bool.and_eq_true, decide_eq_true_eq, List.cons.injEq,
      Char.reduceEq, false_and, true_and, false_or]
    constructor
    · rintro ⟨hlast, hlf⟩
      obtain ⟨value, rfl⟩ := List.getLast?_eq_some_iff.mp hlast
      exact ⟨value, rfl, fun h => hlf (by simp [h])⟩
    · rintro ⟨value, rfl, hlf⟩
      exact ⟨by simp, by simp [hlf]⟩
  · rename_i hne
    simp only [decide_eq_true_eq]
    constructor
    · exact Or.inl
    · rintro (h | ⟨value, rfl, -⟩)
      · exact h
      · exact absurd rfl (hne _)

lemma isFieldShaped_iff {line : List Char} (hline : skipBlanks line = line)
    (hlf : '\n' ∉ line) : isFieldShaped line = true ↔ FieldForm line := by
  have hp : ∀ r, endsField r = true → ∃ c s, r = c :: s ∧ isBlank c = false ∧
      isWord c = false := by
    intro r hr
    rcases endsField_iff.mp hr with rfl | ⟨value, rfl, -⟩
    · exact ⟨';', [], rfl, by decide, by decide⟩
    · exact ⟨'=', value ++ [';'], rfl, by decide, by decide⟩
  rw [isFieldShaped, any_typedName?_iff hline hp]
  constructor
  · rintro ⟨front, rest, rfl, hfront, hrest⟩
    refine ⟨front, rest, rfl, hfront.not_mem (by decide) (by decide),
      hfront.not_mem (by decide) (by decide), hfront, ?_⟩
    exact (endsField_iff.mp hrest).imp_right fun ⟨value, h, _⟩ => ⟨value, h⟩
  · rintro ⟨front, rest, rfl, -, -, hfront, hrest⟩
    refine ⟨front, rest, rfl, hfront, endsField_iff.mpr (hrest.imp_right ?_)⟩
    rintro ⟨value, rfl⟩
    exact ⟨value, rfl, fun h => hlf (by simp [h])⟩

/-! ## Kinds -/

lemma hasStatementKeyword_eq_false_iff {line : List Char} :
    hasStatementKeyword line = false ↔ NoStatementKeyword line := by
  simp [hasStatementKeyword, NoStatementKeyword]

lemma admitsMethod_iff {line : List Char} :
    admitsMethod line = true ↔ PassesAsMethod line := by
  simp only [admitsMethod, Bool.and_eq_true, Bool.not_eq_true', Bool.eq_false_iff, ne_eq,
    contains_iff, List.contains_iff_mem, PassesAsMethod, ← hasStatementKeyword_eq_false_iff]
  tauto

lemma FieldForm.getLast?_eq {line : List Char} (h : FieldForm line) :
    line.getLast? = some ';' := by
  obtain ⟨front, rest, rfl, -, -, -, rfl | ⟨value, rfl⟩⟩ := h
  · simp
  · rw [← List.cons_append, ← List.append_assoc, List.getLast?_concat]

/-- The semicolon at the end, which the gate asks for, is part of the form. -/
lemma admitsField_iff {line : List Char} (h : FieldForm line) :
    admitsField line = true ↔ PassesAsField line := by
  simp only [admitsField, h.getLast?_eq, Bool.and_eq_true, beq_iff_eq, Bool.not_eq_true',
    Bool.eq_false_iff, ne_eq, List.contains_iff_mem, PassesAsField, true_and,
    ← hasStatementKeyword_eq_false_iff]
  tauto

lemma closesComment_iff {line : List Char} :
    closesComment line = true ↔ "*/".toList <:+ trim line := by
  rw [closesComment, List.isSuffixOf_iff_suffix]

/-- Keywords and headers start with a word, so a line that starts with another sign declares
nothing. -/
lemma kind?_eq_none_of_head {c : Char} {r : List Char} (hblank : isBlank c = false)
    (hword : isWord c = false) (hlf : '\n' ∉ c :: r) (previous : List Char) :
    kind? (c :: r) previous = none := by
  have hline : skipBlanks (c :: r) = c :: r := skipBlanks_cons hblank r
  have hkeyword : ∀ {gs keyword t}, Wordlike keyword → Precedes gs (c :: r) t →
      ¬ NamesAfter keyword t := by
    rintro gs keyword t hk hps ⟨gap, x, s, rfl, -, -, -⟩
    obtain ⟨y, u, rfl, hy⟩ := hk.cons_head
    obtain ⟨z, v, hz, hwordz⟩ := hps.cons_head ⟨y, u ++ (gap ++ x :: s), rfl, hy⟩
    obtain ⟨rfl, -⟩ := List.cons.inj hz
    rw [hword] at hwordz
    exact Bool.noConfusion hwordz
  have hheader : ∀ {front rest}, c :: r = front ++ rest → ¬ IsHeader front := by
    intro front rest hsplit hfront
    obtain ⟨x, s, rfl⟩ := List.exists_cons_of_ne_nil hfront.ne_nil
    obtain ⟨rfl, -⟩ := List.cons.inj hsplit
    exact hfront.not_mem hblank hword List.mem_cons_self
  have hclass : ¬ isClassShaped (c :: r) = true := by
    rw [isClassShaped_iff hline hlf]
    rintro ⟨t, hps, hnames⟩
    exact hkeyword wordlike_classKeyword hps hnames
  have hinterface : ¬ isInterfaceShaped (c :: r) = true := by
    rw [isInterfaceShaped_iff hline hlf]
    rintro ⟨t, hps, hnames⟩
    exact hkeyword wordlike_interfaceKeyword hps hnames
  have hmethod : ¬ isMethodShaped (c :: r) = true := by
    rw [isMethodShaped_iff hline hlf]
    rintro ⟨front, rest, hsplit, -, hfront, -⟩
    exact hheader hsplit hfront
  have hfield : ¬ isFieldShaped (c :: r) = true := by
    rw [isFieldShaped_iff hline hlf]
    rintro ⟨front, rest, hsplit, -, -, hfront, -⟩
    exact hheader hsplit hfront
  simp [kind?, hclass, hinterface, hmethod, hfield]

lemma kind?_nil (previous : List Char) : kind? [] previous = none := by
  have hshapes : isClassShaped [] = false ∧ isInterfaceShaped [] = false ∧ isMethodShaped [] = false ∧
      isFieldShaped [] = false := by decide
  simp [kind?, hshapes]

/-- The form of a line of the given kind, precedence and conditions aside. -/
def HasForm (line : List Char) : Kind → Prop
  | .classType => ClassForm line
  | .interfaceType => InterfaceForm line
  | .method => MethodForm line
  | .field => FieldForm line

lemma hasForm_of_kind? {line previous : List Char} {kind : Kind} (hline : skipBlanks line = line)
    (hlf : '\n' ∉ line) (h : kind? line previous = some kind) : HasForm line kind := by
  unfold kind? at h
  split_ifs at h with _ hclass hinterface hmethod _ hfield
  · obtain rfl := Option.some.inj h
    exact (isClassShaped_iff hline hlf).mp hclass
  · obtain rfl := Option.some.inj h
    exact (isInterfaceShaped_iff hline hlf).mp hinterface
  · obtain rfl := Option.some.inj h
    exact (isMethodShaped_iff hline hlf).mp hmethod
  · obtain rfl := Option.some.inj h
    exact (isFieldShaped_iff hline hlf).mp (Bool.and_eq_true_iff.mp hfield).1

lemma fieldForm_of_kind? {line previous : List Char} (hline : skipBlanks line = line)
    (hlf : '\n' ∉ line) (h : kind? line previous = some .field) : FieldForm line :=
  hasForm_of_kind? hline hlf h

/-- **Recognition agrees with the grammar.**  The recognised kind of a trimmed line is the kind that
the line declares, unless the line before it ends a comment.  The shapes are tried one after the other,
so the proof goes down the same list. -/
theorem kind?_eq_some_iff_declares (line previous : List Char) (hline : trim line = line)
    (hlf : '\n' ∉ line) (kind : Kind) :
    kind? line previous = some kind ↔
      ¬ "*/".toList <:+ trim previous ∧ Declares line kind := by
  have hfront : skipBlanks line = line := skipBlanks_of_trim hline
  rw [← closesComment_iff]
  unfold kind?
  by_cases hdoc : closesComment previous = true
  · simp [hdoc]
  rw [if_neg hdoc]
  by_cases hclass : ClassForm line
  · rw [if_pos ((isClassShaped_iff hfront hlf).mpr hclass)]
    cases kind <;> simp [Declares, hclass, hdoc]
  rw [if_neg fun h => hclass ((isClassShaped_iff hfront hlf).mp h)]
  by_cases hinterface : InterfaceForm line
  · rw [if_pos ((isInterfaceShaped_iff hfront hlf).mpr hinterface)]
    cases kind <;> simp [Declares, hclass, hinterface, hdoc]
  rw [if_neg fun h => hinterface ((isInterfaceShaped_iff hfront hlf).mp h)]
  by_cases hmethod : MethodForm line
  · rw [if_pos ((isMethodShaped_iff hfront hlf).mpr hmethod)]
    have hgate : admitsMethod line = true ↔ PassesAsMethod line := admitsMethod_iff
    cases kind <;> simp [Declares, hclass, hinterface, hmethod, hdoc, hgate]
  rw [if_neg fun h => hmethod ((isMethodShaped_iff hfront hlf).mp h)]
  have hgate : isFieldShaped line = true ∧ admitsField line = true ↔
      FieldForm line ∧ PassesAsField line := by
    rw [isFieldShaped_iff hfront hlf]
    exact and_congr_right admitsField_iff
  cases kind <;> simp [Declares, hclass, hinterface, hmethod, hdoc, hgate]

/-- Modifiers may be glued to each other and to the type. -/
theorem declares_method_glued :
    trim "publicstatic finalint area(int n);".toList = "publicstatic finalint area(int n);".toList ∧
      '\n' ∉ "publicstatic finalint area(int n);".toList ∧
      ¬ "*/".toList <:+ trim "@Override".toList ∧
      Declares "publicstatic finalint area(int n);".toList .method := by
  refine ⟨by decide, by decide, ?_⟩
  exact (kind?_eq_some_iff_declares _ _ (by decide) (by decide) _).mp (by decide)

end DocStub.Declaration

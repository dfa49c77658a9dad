import Mathlib.Data.List.Infix
import DocStub.Declaration.Parts
import DocStub.Proofs.Declaration.Grammar
import DocStub.Proofs.Text.Search

/-!
# Readers find what recognition saw

Recognition reads a line from its front.  The readers of parts search: each takes the leftmost place of
the line that fits, wherever that is.  On the line of a declaration both look at the same place, and the
reason differs from part to part.

**Types.**  No place inside the modifiers looks like the keyword.  Two letters are enough to see that
(`StandsOut`), so the search for the keyword gets to the one that recognition accepted, however often it
comes again later (`leftmost?_namedAfter?`).

**Members.**  A place in front of the type word has too many words before the sign that ends the header
(`leftmost?_typedName?`).  Words count as they stand in the line: a modifier without a blank behind it is
a part of the next word.

**Parameters.**  The first parenthesis ends the header, so the list starts there
(`leftmost?_parenthesized?`).
-/

namespace DocStub.Declaration

open Text

/-! ## Types -/

/-- `w` is the whole word after the keyword, with modifiers from the groups in front of the keyword. -/
def NamedBy (gs : List (List Modifier)) (keyword line w : List Char) : Prop :=
  ∃ t gap rest, Precedes gs line t ∧ t = keyword ++ (gap ++ (w ++ rest)) ∧ gap ≠ [] ∧
    AllBlank gap ∧ Wordlike w ∧ EndsWord rest

/-- Two letters that mark the front of a keyword among modifiers: they do not stand together inside a
modifier, and no modifier starts with the second one. -/
structure StandsOut (x y : Char) (ms : List Modifier) : Prop where
  letters : x ≠ y ∧ isWord x = true ∧ isWord y = true
  front : ∀ m ∈ ms, m.spelling.head? ≠ some y
  inner : ∀ m ∈ ms, ¬ [x, y] <:+: m.spelling

variable {x y : Char} {ms : List Modifier} {gs : List (List Modifier)} {k keyword line t w : List Char}

lemma standsOut_class : StandsOut 'c' 'l' modifierGroups.flatten where
  letters := by decide
  front := by decide
  inner := by decide

lemma standsOut_interface : StandsOut 'i' 'n' [Modifier.access].flatten where
  letters := by decide
  front := by decide
  inner := by decide

lemma namedBy_iff :
    NamedBy gs keyword line w ↔ ∃ t r, Precedes gs line t ∧ namedAfter? keyword t = some (w, r) := by
  simp only [namedAfter?_eq_some_iff]
  constructor
  · rintro ⟨t, gap, r, ht, rfl, hne, hgap, hw, hr⟩
    exact ⟨_, r, ht, gap, hne, hgap, hw, hr, rfl⟩
  · rintro ⟨t, r, ht, gap, hne, hgap, hw, hr, rfl⟩
    exact ⟨_, gap, r, ht, rfl, hne, hgap, hw, hr⟩

lemma exists_namedBy (ht : Precedes gs line t) (hnames : NamesAfter keyword t) :
    ∃ w, NamedBy gs keyword line w := by
  obtain ⟨w, r, hread⟩ := namesAfter_iff.mp hnames
  exact ⟨w, namedBy_iff.mpr ⟨t, r, ht, hread⟩⟩

lemma namedAfter?_eq_none (h : ¬ [x, y] <+: t) : namedAfter? (x :: y :: k) t = none := by
  rw [Option.eq_none_iff_forall_ne_some]
  rintro ⟨w, r⟩ hread
  obtain ⟨gap, -, -, -, -, rfl⟩ := namedAfter?_eq_some_iff.mp hread
  exact h ⟨k ++ (gap ++ (w ++ r)), by simp⟩

lemma Selects.mem_flatten (h : Selects gs ms) {m : Modifier} (hm : m ∈ ms) : m ∈ gs.flatten := by
  induction h with
  | nil => exact hm
  | skip _ ih => exact List.mem_append_right _ (ih hm)
  | take hmem _ ih =>
      rcases List.mem_cons.mp hm with rfl | hm
      · exact List.mem_append_left _ hmem
      · exact List.mem_append_right _ (ih hm)

/-- What follows a modifier does not start with the second letter of the keyword. -/
lemma StandsOut.head?_ne (h : StandsOut x y ms) {ps : List (Modifier × List Char)}
    (hps : ∀ p ∈ ps, p.1 ∈ ms) {gap : List Char} (hgap : AllBlank gap) (ht : t.head? = some x) :
    (gap ++ (spaced ps ++ t)).head? ≠ some y := by
  cases gap with
  | cons c gap =>
      intro hc
      obtain rfl := Option.some.inj hc
      have hword : isWord c = false := isWord_of_isBlank (hgap c List.mem_cons_self)
      rw [h.letters.2.2] at hword
      exact Bool.noConfusion hword
  | nil =>
      cases ps with
      | nil =>
          show t.head? ≠ some y
          rw [ht]
          exact fun hxy => h.letters.1 (Option.some.inj hxy)
      | cons p ps =>
          rw [List.nil_append, spaced_cons, List.append_assoc,
            List.head?_append_of_ne_nil _ (wordlike_spelling p.1).1]
          exact h.front p.1 (hps p List.mem_cons_self)

/-- A place inside a modifier does not look like the keyword. -/
lemma StandsOut.not_prefix (h : StandsOut x y ms) {m : Modifier} (hm : m ∈ ms) {u next : List Char}
    (hne : u ≠ []) (hu : u <:+ m.spelling) (hnext : next.head? ≠ some y) :
    ¬ [x, y] <+: u ++ next := by
  match u, hne with
  | [c], _ =>
      intro hpre
      rw [List.singleton_append, List.cons_prefix_cons, List.singleton_prefix_iff_head?_eq_some] at hpre
      exact hnext hpre.2
  | c :: d :: u, _ =>
      rw [List.cons_append, List.cons_append, List.cons_prefix_cons, List.cons_prefix_cons]
      rintro ⟨rfl, rfl, -⟩
      exact h.inner m hm (List.IsInfix.trans ⟨[], u, rfl⟩ hu.isInfix)

/-- The search for a keyword passes the modifiers in front of it. -/
lemma leftmost?_spaced_append (h : StandsOut x y ms) {ps : List (Modifier × List Char)}
    (hms : ∀ p ∈ ps, p.1 ∈ ms) (hps : ∀ p ∈ ps, AllBlank p.2) (ht : t.head? = some x) :
    leftmost? (namedAfter? (x :: y :: k)) (spaced ps ++ t) =
      leftmost? (namedAfter? (x :: y :: k)) t := by
  induction ps with
  | nil => rfl
  | cons p ps ih =>
      obtain ⟨hm, hms⟩ := List.forall_mem_cons.mp hms
      obtain ⟨hgap, hps⟩ := List.forall_mem_cons.mp hps
      have hnext := h.head?_ne hms hgap ht
      have hspelling : ∀ u, u ≠ [] → u <:+ p.1.spelling →
          namedAfter? (x :: y :: k) (u ++ (p.2 ++ (spaced ps ++ t))) = none :=
        fun u hne hu => namedAfter?_eq_none (h.not_prefix hm hne hu hnext)
      have hblank : ∀ u, u ≠ [] → u <:+ p.2 →
          namedAfter? (x :: y :: k) (u ++ (spaced ps ++ t)) = none := by
        intro u hne hu
        obtain ⟨c, u, rfl⟩ := List.exists_cons_of_ne_nil hne
        refine namedAfter?_eq_none fun hpre => ?_
        obtain rfl : x = c := (List.cons_prefix_cons.mp hpre).1
        have hword : isWord x = false := isWord_of_isBlank (hgap x (hu.subset List.mem_cons_self))
        rw [h.letters.2.1] at hword
        exact Bool.noConfusion hword
      rw [spaced_cons, List.append_assoc, List.append_assoc, leftmost?_append hspelling,
        leftmost?_append hblank, ih hms hps]

/-- **The search gets to the keyword that recognition accepted.** -/
lemma leftmost?_namedAfter? (h : StandsOut x y gs.flatten) (hw : NamedBy gs (x :: y :: k) line w) :
    (leftmost? (namedAfter? (x :: y :: k)) line).map Prod.fst = some w := by
  obtain ⟨t, r, ⟨ps, hsel, hps, rfl⟩, hread⟩ := namedBy_iff.mp hw
  obtain ⟨gap, -, -, -, -, rfl⟩ := namedAfter?_eq_some_iff.mp hread
  have hms : ∀ p ∈ ps, p.1 ∈ gs.flatten :=
    fun p hp => hsel.mem_flatten (List.mem_map_of_mem hp)
  rw [leftmost?_spaced_append h hms hps rfl, leftmost?_eq_some_of_read hread]
  rfl

lemma nameOfClass_eq (hw : NamedBy modifierGroups classKeyword line w) : nameOfClass line = w := by
  have hfound : (leftmost? (namedAfter? classKeyword) line).map Prod.fst = some w :=
    leftmost?_namedAfter? standsOut_class hw
  rw [nameOfClass, hfound, Option.getD_some]

lemma nameOfInterface_eq (hw : NamedBy [Modifier.access] interfaceKeyword line w) :
    nameOfInterface line = w := by
  have hfound : (leftmost? (namedAfter? interfaceKeyword) line).map Prod.fst = some w :=
    leftmost?_namedAfter? standsOut_interface hw
  rw [nameOfInterface, hfound, Option.getD_some]

/-! ## Members -/

/-- A character that belongs to no header: neither a blank nor a word character. -/
def IsMark (c : Char) : Prop := isBlank c = false ∧ isWord c = false

lemma not_isMark_of_blank_or_word {c : Char} (h : isBlank c = true ∨ isWord c = true) : ¬ IsMark c := by
  rintro ⟨hblank, hword⟩
  rcases h with h | h
  · rw [hblank] at h; exact Bool.noConfusion h
  · rw [hword] at h; exact Bool.noConfusion h

/-- Words in front of a gap stay apart from what follows it. -/
lemma words_append_of_getLast? {a : List Char} {c : Char} (hc : a.getLast? = some c)
    (hblank : isBlank c = true) (t : List Char) : words (a ++ t) = words a ++ words t := by
  obtain ⟨b, rfl⟩ := List.getLast?_eq_some_iff.mp hc
  have hword : isWord c = false := isWord_of_isBlank hblank
  have hb : words (b ++ [c]) = words b ++ words [] := runs_append_cons hword b []
  have hbt : words (b ++ c :: t) = words b ++ words t := runs_append_cons hword b t
  rw [List.append_assoc, List.singleton_append, hbt, hb, words_nil, List.append_nil]

/-- The last two words of a header are a member, and what stands in front of it ends with a blank. -/
lemma exists_append_member_of_words {ws : List (List Char)} {type name : List Char}
    (ht : skipBlanks t = t) (hall : ∀ c ∈ t, isBlank c = true ∨ isWord c = true)
    (hw : words t = ws ++ [type, name]) :
    ∃ (a : List Char) (m : Member), t = a ++ m.text ∧ m.type = type ∧ m.name = name ∧
      ∀ c, a.getLast? = some c → isBlank c = true := by
  induction ws generalizing t with
  | nil =>
      obtain ⟨m, rfl⟩ := exists_member_of_words ht hall hw
      rw [m.words_text] at hw
      obtain ⟨rfl, hname⟩ := List.cons.inj hw
      exact ⟨[], m, rfl, rfl, (List.cons.inj hname).1, by simp⟩
  | cons v ws ih =>
      obtain ⟨gap, r, rfl, -, hgap, hr, hwr, hne⟩ := exists_append_of_words_cons ht hall hw
      obtain ⟨a, m, rfl, htype, hname, hlast⟩ := ih hr (fun c hc => hall c (by simp [hc])) hwr
      have hgapne : gap ≠ [] := hne fun h => by
        obtain ⟨z, s, hz, -⟩ := m.cons_head
        simp [hz] at h
      refine ⟨v ++ (gap ++ a), m, by simp, htype, hname, fun c hc => ?_⟩
      cases a with
      | nil =>
          rw [List.append_nil, List.getLast?_append_of_ne_nil _ hgapne] at hc
          exact hgap c (List.mem_of_getLast? hc)
      | cons z a =>
          rw [← List.append_assoc, List.getLast?_append_of_ne_nil _ (List.cons_ne_nil z a)] at hc
          exact hlast c hc

/-- **The search gets to the last two words of the header.**  The header ends with the first mark that
the reader stops at.  From any place in front of the type word there are at least three words up to that
mark, and the reader takes two. -/
lemma leftmost?_typedName? {stop : List Char → Bool}
    (hstop : ∀ r, stop r = true → ∃ c s, r = c :: s ∧ IsMark c) {front rest : List Char}
    (hfront : skipBlanks front = front) (hall : ∀ c ∈ front, isBlank c = true ∨ isWord c = true)
    {mods : List (List Char)} {type name : List Char} (hwords : words front = mods ++ [type, name])
    (hrest : stop rest = true) :
    leftmost? (fun t => (typedName? t).filter fun d => stop d.rest) (front ++ rest) =
      some ⟨type, name, rest⟩ := by
  obtain ⟨a, m, rfl, rfl, rfl, hlast⟩ := exists_append_member_of_words hfront hall hwords
  obtain ⟨c, s, rfl, hc⟩ := hstop rest hrest
  have hread : (typedName? (m.text ++ c :: s)).filter (fun d => stop d.rest) =
      some ⟨m.type, m.name, c :: s⟩ := by
    refine Option.filter_eq_some_iff.mpr ⟨typedName?_eq_some_iff.mpr ?_, hrest⟩
    refine ⟨m, rfl, rfl, rfl, skipBlanks_cons hc.1 s, ?_⟩
    cases htr : m.trailing with
    | nil => exact endsWord_cons.mpr hc.2
    | cons z b => exact endsWord_cons.mpr (isWord_of_isBlank (m.blank.2.2 z (by simp [htr])))
  rw [List.append_assoc, leftmost?_append, leftmost?_eq_some_of_read hread]
  intro u hne hu
  rw [Option.eq_none_iff_forall_ne_some]
  intro d hd
  obtain ⟨hd, hdstop⟩ := Option.filter_eq_some_iff.mp hd
  obtain ⟨m', -, -, heq, -, -⟩ := typedName?_eq_some_iff.mp hd
  obtain ⟨c', s', hrest', hc'⟩ := hstop d.rest hdstop
  -- both readings stop at the first mark, so they read the same text in front of it
  have hum : ∀ z ∈ u ++ m.text, ¬ IsMark z := by
    intro z hz
    refine not_isMark_of_blank_or_word ?_
    rcases List.mem_append.mp hz with hz | hz
    · exact hall z (List.mem_append_left _ (hu.subset hz))
    · exact hall z (List.mem_append_right _ hz)
  have hum' : ∀ z ∈ m'.text, ¬ IsMark z :=
    fun z hz => not_isMark_of_blank_or_word (m'.forall_blank_or_word z hz)
  rw [hrest', ← List.append_assoc] at heq
  obtain ⟨htext, -⟩ := append_cons_inj hum hum' hc hc' heq
  obtain ⟨g, hg⟩ := List.getLast?_isSome.mpr hne |> Option.isSome_iff_exists.mp
  have hgblank : isBlank g = true := hlast g (by
    obtain ⟨b, rfl⟩ := hu
    rw [List.getLast?_append_of_ne_nil _ hne, hg])
  have hcount : words u ++ [m.type, m.name] = [m'.type, m'.name] := by
    rw [← m'.words_text, ← htext, words_append_of_getLast? hg hgblank, m.words_text]
  have hnil : words u = [] := by
    have hlen := congrArg List.length hcount
    rw [List.length_append] at hlen
    exact List.eq_nil_of_length_eq_zero (by simpa using hlen)
  obtain ⟨z, b, rfl⟩ := List.exists_cons_of_ne_nil hne
  obtain ⟨z', b', hz', hword⟩ := m'.cons_head
  rw [← htext, List.cons_append] at hz'
  obtain ⟨rfl, -⟩ := List.cons.inj hz'
  obtain ⟨v, r, hv, hr, hvr⟩ := exists_wordlike_append hword b
  rw [hvr, words_append_of_wordlike hv hr] at hnil
  exact List.cons_ne_nil _ _ hnil

/-! ## Parameters -/

/-- The list of parameters is the text between the first parenthesis and the first closing one after
it. -/
lemma leftmost?_parenthesized? {front inner rest : List Char} (hfront : '(' ∉ front)
    (hinner : ')' ∉ inner) (hlf : '\n' ∉ inner) :
    leftmost? parenthesized? (front ++ '(' :: (inner ++ ')' :: rest)) = some inner := by
  have hread : parenthesized? ('(' :: (inner ++ ')' :: rest)) = some inner :=
    lineUntil?_eq_some_iff.mpr ⟨rest, rfl, hinner, hlf⟩
  rw [leftmost?_append, leftmost?_eq_some_of_read hread]
  intro u hne hu
  obtain ⟨c, u, rfl⟩ := List.exists_cons_of_ne_nil hne
  have hc : c ≠ '(' := by
    rintro rfl
    exact hfront (hu.subset List.mem_cons_self)
  unfold parenthesized?
  split
  · rename_i r heq
    exact absurd (List.cons.inj heq).1 hc
  · rfl

/-! ## All kinds -/

/-- What the readers of parts answer on the line of a declaration of each kind: words that stand in the
line where its form has them. -/
def PartsAsWritten (line : List Char) : Kind → Prop
  | .classType => ∀ w, NamedBy modifierGroups classKeyword line w ↔ nameOfClass line = w
  | .interfaceType => ∀ w, NamedBy [Modifier.access] interfaceKeyword line w ↔ nameOfInterface line = w
  | .method => ∃ front inner rest mods type name result,
      line = front ++ '(' :: (inner ++ ')' :: rest) ∧ '(' ∉ front ∧ ')' ∉ inner ∧
        words front = mods ++ [type, name] ∧ name ≠ [] ∧
        (type ∈ Modifier.all.map Modifier.spelling → result = void) ∧
        (type ∉ Modifier.all.map Modifier.spelling → result = type) ∧
        Method.ofLine line = ⟨name, result, parameterList inner⟩
  | .field => ∃ front sign rest mods type name,
      line = front ++ sign :: rest ∧ (sign = '=' ∨ sign = ';') ∧ '=' ∉ front ∧ ';' ∉ front ∧
        words front = mods ++ [type, name] ∧ typeOfField line = type

lemma isModifier_iff : isModifier w = true ↔ w ∈ Modifier.all.map Modifier.spelling := by
  simp only [isModifier, List.any_eq_true, List.mem_map, beq_iff_eq]

lemma ClassForm.namedBy_iff (h : ClassForm line) :
    NamedBy modifierGroups classKeyword line w ↔ nameOfClass line = w := by
  obtain ⟨t, ht, hnames⟩ := h
  obtain ⟨v, hv⟩ := exists_namedBy ht hnames
  refine ⟨nameOfClass_eq, ?_⟩
  rintro rfl
  rwa [nameOfClass_eq hv]

lemma InterfaceForm.namedBy_iff (h : InterfaceForm line) :
    NamedBy [Modifier.access] interfaceKeyword line w ↔ nameOfInterface line = w := by
  obtain ⟨t, ht, hnames⟩ := h
  obtain ⟨v, hv⟩ := exists_namedBy ht hnames
  refine ⟨nameOfInterface_eq, ?_⟩
  rintro rfl
  rwa [nameOfInterface_eq hv]

/-- The signature of a method, given the words of its header and the text of its list. -/
lemma ofLine_eq {front inner rest : List Char} (hfront : skipBlanks front = front)
    (hall : ∀ c ∈ front, isBlank c = true ∨ isWord c = true) {mods : List (List Char)}
    {type name : List Char} (hwords : words front = mods ++ [type, name]) (hinner : ')' ∉ inner)
    (hlf : '\n' ∉ inner) :
    Method.ofLine (front ++ '(' :: (inner ++ ')' :: rest)) =
      { name := name
        returnType := if isModifier type then void else type
        parameters := parameterList inner } := by
  have hparen : '(' ∉ front := not_mem_of_forall_blank_or_word hall (by decide) (by decide)
  have hstop : ∀ r : List Char, decide (r.head? = some '(') = true → ∃ c s, r = c :: s ∧ IsMark c := by
    intro r hr
    obtain ⟨s, rfl⟩ := List.head?_eq_some_iff.mp (of_decide_eq_true hr)
    exact ⟨'(', s, rfl, by decide, by decide⟩
  have hnamed : leftmost? methodFront? (front ++ '(' :: (inner ++ ')' :: rest)) =
      some ⟨type, name, '(' :: (inner ++ ')' :: rest)⟩ :=
    leftmost?_typedName? hstop hfront hall hwords rfl
  simp only [Method.ofLine, hnamed, leftmost?_parenthesized? hparen hinner hlf, Option.getD_some]

lemma MethodForm.exists_ofLine (h : MethodForm line) (hline : skipBlanks line = line)
    (hlf : '\n' ∉ line) : PartsAsWritten line .method := by
  obtain ⟨front, rest, rfl, hparen, ⟨hall, mods, type, name, hwords, -⟩, hclose⟩ := h
  obtain ⟨inner, rest, rfl, hinner⟩ := List.eq_append_cons_of_mem hclose
  have hfront : skipBlanks front = front := skipBlanks_of_append hline
  have hlfinner : '\n' ∉ inner := fun hmem => hlf (by simp [hmem])
  obtain ⟨-, m, -, -, rfl, -⟩ := exists_append_member_of_words hfront hall hwords
  refine ⟨front, inner, rest, mods, type, m.name, if isModifier type then void else type, rfl, hparen,
    hinner, hwords, m.wordlike.2.1, fun hmodifier => ?_, fun hmodifier => ?_,
    ofLine_eq hfront hall hwords hinner hlfinner⟩
  · rw [if_pos (isModifier_iff.mpr hmodifier)]
  · rw [if_neg (mt isModifier_iff.mp hmodifier)]

/-- The type of a field, given the words of its header and the sign behind it. -/
lemma typeOfField_eq {front rest : List Char} (hfront : skipBlanks front = front)
    (hall : ∀ c ∈ front, isBlank c = true ∨ isWord c = true) {mods : List (List Char)}
    {type name : List Char} (hwords : words front = mods ++ [type, name]) {sign : Char}
    (hsign : sign = '=' ∨ sign = ';') : typeOfField (front ++ sign :: rest) = type := by
  have hstop : ∀ r : List Char, decide (r.head? = some '=' ∨ r.head? = some ';') = true →
      ∃ c s, r = c :: s ∧ IsMark c := by
    intro r hr
    rcases of_decide_eq_true hr with hr | hr
    · obtain ⟨s, rfl⟩ := List.head?_eq_some_iff.mp hr
      exact ⟨'=', s, rfl, by decide, by decide⟩
    · obtain ⟨s, rfl⟩ := List.head?_eq_some_iff.mp hr
      exact ⟨';', s, rfl, by decide, by decide⟩
  have hfound : leftmost? fieldFront? (front ++ sign :: rest) = some ⟨type, name, sign :: rest⟩ :=
    leftmost?_typedName? hstop hfront hall hwords (by simpa using hsign)
  rw [typeOfField, hfound]
  rfl

lemma FieldForm.exists_sign (h : FieldForm line) : ∃ front sign rest,
    line = front ++ sign :: rest ∧ (sign = '=' ∨ sign = ';') ∧ '=' ∉ front ∧ ';' ∉ front ∧
      IsHeader front := by
  obtain ⟨front, rest, rfl, heq, hsemi, hheader, rfl | ⟨value, rfl⟩⟩ := h
  · exact ⟨front, ';', [], rfl, Or.inr rfl, heq, hsemi, hheader⟩
  · exact ⟨front, '=', value ++ [';'], rfl, Or.inl rfl, heq, hsemi, hheader⟩

lemma FieldForm.exists_typeOfField (h : FieldForm line) (hline : skipBlanks line = line) :
    PartsAsWritten line .field := by
  obtain ⟨front, sign, rest, rfl, hsign, heq, hsemi, hall, mods, type, name, hwords, -⟩ := h.exists_sign
  exact ⟨front, sign, rest, mods, type, name, rfl, hsign, heq, hsemi, hwords,
    typeOfField_eq (skipBlanks_of_append hline) hall hwords hsign⟩

/-- **Readers and recognition agree.**  On a recognised line the readers of parts answer with the words
that the form of the line has in their places, and never with a default. -/
theorem partsAsWritten_of_kind? (line previous : List Char) (hline : trim line = line)
    (hlf : '\n' ∉ line) (kind : Kind) (hkind : kind? line previous = some kind) :
    PartsAsWritten line kind := by
  have hfront : skipBlanks line = line := skipBlanks_of_trim hline
  have hform : HasForm line kind := hasForm_of_kind? hfront hlf hkind
  cases kind with
  | classType => exact fun w => ClassForm.namedBy_iff hform
  | interfaceType => exact fun w => InterfaceForm.namedBy_iff hform
  | method => exact MethodForm.exists_ofLine hform hfront hlf
  | field => exact FieldForm.exists_typeOfField hform hfront

/-- A constructor with glued modifiers, a line comment in its list and a second header behind it. -/
theorem partsAsWritten_constructor :
    trim "publicstatic final Area(int n /* ( */) throws area(y)".toList =
        "publicstatic final Area(int n /* ( */) throws area(y)".toList ∧
      '\n' ∉ "publicstatic final Area(int n /* ( */) throws area(y)".toList ∧
      kind? "publicstatic final Area(int n /* ( */) throws area(y)".toList [] = some .method ∧
      PartsAsWritten "publicstatic final Area(int n /* ( */) throws area(y)".toList .method := by
  refine ⟨by decide, by decide, by decide, ?_⟩
  exact partsAsWritten_of_kind? _ [] (by decide) (by decide) _ (by decide)

end DocStub.Declaration

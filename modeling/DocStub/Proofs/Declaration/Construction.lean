import DocStub.Proofs.Declaration.Grammar

/-!
# Words that look like a construction

The gate for methods keeps out statements and constructions.  A statement is known by one of its words.  A
construction is known by the text `new` with a space behind it, wherever that is, so the end of a longer
word will do: `renew (`.

**Ends of words.**  Each place of a text splits the word around it (`exists_end_of_word`), so the text that
marks a construction is the word `new` or the end of a longer one (`new_infix_iff`).

**The gate.**  Where neither `new` nor a keyword is a word, nothing but such a longer word keeps a line with
the form of a method out (`kind?_eq_method_iff`).
-/

namespace DocStub.Declaration

open Text

variable {w front rest line : List Char}

/-- A word that is longer than `new` ends in it, and a space stands right behind the word. -/
def FeignsConstruction (line : List Char) : Prop :=
  ∃ front stem rest, line = front ++ (stem ++ "new ".toList ++ rest) ∧ Wordlike stem ∧
    ∀ c, front.getLast? = some c → isWord c = false

/-! ## Ends of words -/

/-- In front of a place there is the beginning of a word, which may be empty. -/
lemma exists_end_of_word (t : List Char) : ∃ front stem, t = front ++ stem ∧
    (∀ c ∈ stem, isWord c = true) ∧ ∀ c, front.getLast? = some c → isWord c = false := by
  refine ⟨t.rdropWhile isWord, t.rtakeWhile isWord, List.rdropWhile_append_rtakeWhile.symm,
    fun c hc => List.mem_rtakeWhile_imp hc, fun c hc => ?_⟩
  have hne : t.rdropWhile isWord ≠ [] := by
    intro hnil
    rw [hnil] at hc
    exact Option.some_ne_none c hc.symm
  obtain rfl := Option.some.inj ((List.getLast?_eq_some_getLast hne).symm.trans hc)
  exact Bool.eq_false_iff.mpr (List.rdropWhile_last_not isWord t hne)

/-- What stands between two characters of no word is a word of the text. -/
lemma mem_words_append (hfront : ∀ c, front.getLast? = some c → isWord c = false) (hw : Wordlike w)
    (hrest : EndsWord rest) : w ∈ words (front ++ (w ++ rest)) := by
  have hhere : words (w ++ rest) = w :: words rest := words_append_of_wordlike hw hrest
  obtain rfl | ⟨a, c, rfl⟩ := List.eq_nil_or_concat' front
  · rw [List.nil_append, hhere]
    exact List.mem_cons_self
  · have hc : isWord c = false := hfront c (by simp)
    rw [List.append_assoc, List.singleton_append, words_append_cons hc, hhere]
    exact List.mem_append_right _ List.mem_cons_self

/-- The text of a construction is the word `new`, or the end of a longer word. -/
lemma new_infix_iff (hnew : "new".toList ∉ words line) :
    "new ".toList <:+: line ↔ FeignsConstruction line := by
  constructor
  · rintro ⟨a, rest, rfl⟩
    obtain ⟨front, stem, rfl, hstem, hfront⟩ := exists_end_of_word a
    refine ⟨front, stem, rest, by simp, ⟨?_, hstem⟩, hfront⟩
    rintro rfl
    have hends : EndsWord (' ' :: rest) := endsWord_cons.mpr (by decide)
    refine hnew ?_
    simpa using mem_words_append hfront (w := "new".toList) (by decide) hends
  · rintro ⟨front, stem, rest, rfl, -, -⟩
    exact ⟨front ++ stem, rest, by simp⟩

/-! ## The gate -/

/-- **Words inside other words keep no method out, but for one.**  Where neither `new` nor a keyword is a
word of a line with the shape of a method, and nothing is assigned, the line is a method, unless a longer
word ends in `new` with a space behind it. -/
theorem kind?_eq_method_iff (line : List Char) (hclass : isClassShaped line = false)
    (hinterface : isInterfaceShaped line = false) (hmethod : isMethodShaped line = true)
    (hequals : '=' ∉ line) (hwords : ∀ w ∈ words line, w ≠ "new".toList ∧ w ∉ statementKeywords) :
    (kind? line [] = some .method ↔ ¬ FeignsConstruction line) ∧
      (kind? line [] = none ↔ FeignsConstruction line) := by
  have hnew : "new".toList ∉ words line := fun hmem => (hwords _ hmem).1 rfl
  have hgate : admitsMethod line = true ↔ ¬ FeignsConstruction line := by
    rw [admitsMethod_iff, PassesAsMethod, new_infix_iff hnew]
    exact ⟨fun h => h.2.1, fun h => ⟨hequals, h, fun w hw => (hwords w hw).2⟩⟩
  have hopen : closesComment [] = false := by decide
  have hkind : kind? line [] = if admitsMethod line then some .method else none := by
    simp [kind?, hopen, hclass, hinterface, hmethod]
  rw [hkind]
  by_cases hfeigns : FeignsConstruction line
  · have hout : admitsMethod line = false := by
      rw [Bool.eq_false_iff, ne_eq, hgate, not_not]
      exact hfeigns
    simp [hout, hfeigns]
  · simp [hgate.mpr hfeigns, hfeigns]

/-- Keywords and `new` inside longer words, and a word that ends in `new` without a space. -/
theorem kind?_eq_method_iff_renewal :
    let line := "public void renew(Format newest, int returned, int casenew)".toList
    isClassShaped line = false ∧ isInterfaceShaped line = false ∧ isMethodShaped line = true ∧
      '=' ∉ line ∧ (∀ w ∈ words line, w ≠ "new".toList ∧ w ∉ statementKeywords) ∧
      (kind? line [] = some .method ↔ ¬ FeignsConstruction line) ∧
      (kind? line [] = none ↔ FeignsConstruction line) := by
  intro line
  have hclass : isClassShaped line = false := by decide
  have hinterface : isInterfaceShaped line = false := by decide
  have hmethod : isMethodShaped line = true := by decide
  have hequals : '=' ∉ line := by decide
  have hwords : ∀ w ∈ words line, w ≠ "new".toList ∧ w ∉ statementKeywords := by decide
  exact ⟨hclass, hinterface, hmethod, hequals, hwords,
    kind?_eq_method_iff line hclass hinterface hmethod hequals hwords⟩

/-- A method with a name that ends in `new` counts as no method when a space follows the name. -/
theorem kind?_eq_none_spaced_renew :
    let line := "public void renew (int days) \x7b".toList
    trim line = line ∧ '\n' ∉ line ∧ isClassShaped line = false ∧ isInterfaceShaped line = false ∧
      isMethodShaped line = true ∧ '=' ∉ line ∧
      (∀ w ∈ words line, w ≠ "new".toList ∧ w ∉ statementKeywords) ∧ kind? line [] = none ∧
      kind? "public void renew(int days) \x7b".toList [] = some .method := by
  decide

end DocStub.Declaration

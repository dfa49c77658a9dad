import DocStub.Proofs.Files.Refusal
import DocStub.Proofs.Files.Run

/-!
# Searching again after a run

A run leaves copies beside the files that it writes.  A later search in the same directories would find
them, and document them too, if they had the extension that is searched for.

**Copies.**  A copy is named like its file, with the suffix at the end.  It has the extension of the file
only if the suffix ends with that extension, or is empty (`hasExtension_append`).

**Steps and runs.**  What a search finds depends on the directories and on the places of the files with the
extension (`SearchedAlike`).  The work on a listed file changes neither (`searchedAlike_update`), nor does
a run (`searchedAlike_updateAll`).

**Searches.**  So a search that gets through its directories gets through them again
(`not_isUnlistable_of_searchedAlike`) and finds the same paths (`survey_treeAfter`).
-/

namespace DocStub.Files

variable {o : Options} {t t' : Tree} {extension : List Char} {p dir : Path} {ps : List Path} {l : Location}

/-! ## Copies -/

/-- The suffix does not end with the extension: it is empty, or it has no dot, or there is something else
behind its last dot. -/
def IsForeign (extension suffix : List Char) : Prop :=
  suffix = [] ∨ '.' ∉ suffix ∨
    ∃ front last, suffix = front ++ '.' :: last ∧ '.' ∉ last ∧ last ≠ extension.dropWhile (· == '.')

lemma hasExtension_iff {n : List Char} :
    hasExtension extension n = true ↔ Path.extensionOf? n = some (extension.dropWhile (· == '.')) :=
  beq_iff_eq

/-- A name with the extension loses it to a suffix. -/
lemma hasExtension_append {suffix n : List Char} (hforeign : IsForeign extension suffix)
    (hne : suffix ≠ []) (hn : hasExtension extension n = true) :
    hasExtension extension (n ++ suffix) = false := by
  rw [Bool.eq_false_iff, ne_eq, hasExtension_iff]
  obtain ⟨a, ha, rfl, hx⟩ := Path.extensionOf?_eq_some_iff.mp (hasExtension_iff.mp hn)
  rcases hforeign with rfl | hdot | ⟨front, last, rfl, hlast, hother⟩
  · exact absurd rfl hne
  · -- the last dot of the name is still the last one
    rw [List.append_assoc, List.cons_append, Path.extensionOf?_append ha (List.not_mem_append hx hdot)]
    simpa using hne
  · -- the last dot is in the suffix
    rw [← List.append_assoc, Path.extensionOf?_append (by simp [ha]) hlast]
    simpa using hother

lemma not_endsIn_suffixed (hforeign : IsForeign extension o.copySuffix) (hne : o.copySuffix ≠ [])
    (hl : EndsIn extension l) : ¬ EndsIn extension (suffixed o.copySuffix l) := by
  obtain ⟨n, hlast, hn⟩ := hl
  obtain ⟨a, rfl⟩ := List.getLast?_eq_some_iff.mp hlast
  rw [suffixed_concat]
  rintro ⟨m, hm, hcopy⟩
  rw [List.getLast?_concat] at hm
  obtain rfl := Option.some.inj hm
  rw [hasExtension_append hforeign hne hn] at hcopy
  exact Bool.noConfusion hcopy

/-! ## Steps -/

/-- The trees have the same directories, of which the same are sealed, and files with the extension in the
same places.  No link has come up. -/
structure SearchedAlike (extension : List Char) (t t' : Tree) : Prop where
  linkFree : t'.LinkFree
  directories : t'.isDirectoryAt = t.isDirectoryAt
  sealed : t'.sealed = t.sealed
  files : ∀ l, EndsIn extension l → (t'.ListsFile l ↔ t.ListsFile l)

lemma SearchedAlike.refl (hfree : t.LinkFree) : SearchedAlike extension t t :=
  ⟨hfree, rfl, rfl, fun _ _ => Iff.rfl⟩

lemma SearchedAlike.trans {t'' : Tree} (h : SearchedAlike extension t t')
    (h' : SearchedAlike extension t' t'') : SearchedAlike extension t t'' :=
  ⟨h'.linkFree, h'.directories.trans h.directories, h'.sealed.trans h.sealed,
    fun l hl => (h'.files l hl).trans (h.files l hl)⟩

lemma sealed_advance (o : Options) (t : Tree) (p : Path) : (advance o t p).sealed = t.sealed := by
  rw [advance]
  cases verdict o t p with
  | fails => rfl
  | rests => rfl
  | rewrites k copy? old new => cases copy? <;> rfl

/-- The work on a file leaves files where it writes, and all others. -/
lemma listsFile_advance : (advance o t p).ListsFile l ↔ l ∈ (verdict o t p).touched ∨ t.ListsFile l := by
  rw [advance]
  cases verdict o t p with
  | fails => simp [Verdict.tree, Verdict.touched]
  | rests => simp [Verdict.tree, Verdict.touched]
  | rewrites k copy? old new =>
      cases copy? <;>
        simp [Verdict.tree, Verdict.touched, Tree.withCopy, Tree.listsFile_insert_file, or_left_comm,
          or_assoc]

/-- Where the work on a file with the extension writes a file with the extension, there was one. -/
lemma listsFile_of_mem_touched (hsuffix : '/' ∉ o.copySuffix) (hforeign : IsForeign extension o.copySuffix)
    (hp : EndsIn extension p.pieces) (hl : EndsIn extension l) (h : l ∈ (verdict o t p).touched) :
    t.ListsFile l := by
  obtain ⟨k, copy?, old, new, hv, -⟩ := Verdict.mem_touched_iff.mp h
  obtain ⟨hplace, hnode, -⟩ := verdict_eq_rewrites_iff.mp hv
  obtain ⟨k', hk', hl'⟩ := exists_of_mem_touched hsuffix h
  obtain rfl := Option.some.inj (hplace.symm.trans hk')
  rcases hl' with rfl | rfl
  · exact Tree.listsFile_of_get? hnode
  · by_cases hne : o.copySuffix = []
    · rw [hne, suffixed_nil]
      exact Tree.listsFile_of_get? hnode
    · rw [EndsIn, ← Tree.getLast?_of_place? hplace (Tree.isDirectoryAt_of_file hnode)] at hp
      exact absurd hl (not_endsIn_suffixed hforeign hne hp)

lemma searchedAlike_update (hfree : t.LinkFree) (hsuffix : '/' ∉ o.copySuffix)
    (hforeign : IsForeign extension o.copySuffix) (hp : EndsIn extension p.pieces) :
    SearchedAlike extension t (update o t p).tree := by
  cases hdry : o.isDryRun with
  | true =>
      rw [tree_update_of_isDryRun hdry]
      exact .refl hfree
  | false =>
      rw [(update_eq_verdict hfree hdry p).2]
      refine ⟨linkFree_advance hfree o p, isDirectoryAt_advance o t p, sealed_advance o t p, fun l hl => ?_⟩
      rw [listsFile_advance, or_iff_right_iff_imp]
      exact listsFile_of_mem_touched hsuffix hforeign hp hl

/-! ## Runs -/

lemma searchedAlike_updateAll (hfree : t.LinkFree) (hsuffix : '/' ∉ o.copySuffix)
    (hforeign : IsForeign extension o.copySuffix) (hps : ∀ p ∈ ps, EndsIn extension p.pieces) :
    SearchedAlike extension t (treeAfter t (updateAll o t ps)) := by
  induction ps generalizing t with
  | nil => exact .refl hfree
  | cons p ps ih =>
      obtain ⟨hp, hps⟩ := List.forall_mem_cons.mp hps
      have hstep := searchedAlike_update hfree hsuffix hforeign hp
      rw [updateAll_cons, treeAfter_cons]
      exact hstep.trans (ih hstep.linkFree hps)

/-! ## Searches -/

lemma isDirectory_of_searchedAlike (hfree : t.LinkFree) (halike : SearchedAlike extension t t')
    (hdir : t.isDirectory dir = true) : t'.isDirectory dir = true := by
  obtain ⟨loc, hlocate, hloc⟩ := Tree.exists_locate_of_isDirectory hdir
  have hlocate' := Tree.locate_lookUp_congr hfree halike.directories hloc hlocate
  rw [Tree.isDirectory, Tree.find?, hlocate']
  rwa [← halike.directories] at hloc

lemma mem_filesIn_congr (hfree : t.LinkFree) (halike : SearchedAlike extension t t')
    (hdir : t.isDirectory dir = true) : p ∈ filesIn t extension dir ↔ p ∈ filesIn t' extension dir := by
  obtain ⟨loc, hlocate, hloc⟩ := Tree.exists_locate_of_isDirectory hdir
  have hlocate' := Tree.locate_lookUp_congr hfree halike.directories hloc hlocate
  rw [mem_filesIn_iff hlocate, mem_filesIn_iff hlocate']
  refine exists_congr fun k => and_congr_left fun h => (halike.files (loc ++ k) ?_).symm
  obtain ⟨⟨n, hlast, hn⟩, -⟩ := h
  exact ⟨n, by simp [hlast], hn⟩

/-- A search that gets through a directory does so again. -/
lemma not_isUnlistable_of_searchedAlike {argument : List Char} (hfree : t.LinkFree)
    (halike : SearchedAlike extension t t') (hdir : t.isDirectory ⟨argument⟩ = true)
    (h : ¬ IsUnlistable t argument) : ¬ IsUnlistable t' argument := by
  rintro ⟨-, q, hq, fault, hfault⟩
  obtain ⟨loc, hlocate, hloc⟩ := Tree.exists_locate_of_isDirectory hdir
  have hlocate' := Tree.locate_lookUp_congr hfree halike.directories hloc hlocate
  rw [mem_directoriesIn_iff hlocate' (by rw [halike.directories, hloc]), halike.directories,
    ← mem_directoriesIn_iff hlocate hloc] at hq
  cases hlisting : t.listing q with
  | error f => exact h ⟨hdir, q, hq, f, hlisting⟩
  | ok names =>
      obtain ⟨names', hnames'⟩ :=
        Tree.exists_listing_congr hfree halike.directories halike.sealed ⟨names, hlisting⟩
      cases hnames'.symm.trans hfault

lemma contribution_of_isDirectory (extension : List Char) {argument : List Char}
    (hdir : t.isDirectory ⟨argument⟩ = true) (h : ¬ IsUnlistable t argument) :
    ∃ log, contribution t extension argument = .ok (filesIn t extension ⟨argument⟩, log) := by
  have hfile := Tree.isFile_eq_false_of_isDirectory hdir
  cases hwalk : walk t extension argument with
  | error b => exact absurd ⟨hdir, exists_walk_eq_error_iff.mp ⟨b, hwalk⟩⟩ h
  | ok paths =>
      obtain rfl := filesIn_of_walk hwalk
      rw [contribution]
      simp only [hfile, hdir, hwalk, if_true, Bool.false_eq_true, if_false]
      exact ⟨_, rfl⟩

/-- In directories, a search finds the files of one after the other. -/
lemma result_gather {arguments : List (List Char)} (hdirs : ∀ a ∈ arguments, t.isDirectory ⟨a⟩ = true)
    (h : ∀ a ∈ arguments, ¬ IsUnlistable t a) :
    (gather t extension arguments).result = .ok (arguments.flatMap fun a => filesIn t extension ⟨a⟩) := by
  induction arguments with
  | nil => rfl
  | cons a rest ih =>
      obtain ⟨hdir, hdirs⟩ := List.forall_mem_cons.mp hdirs
      obtain ⟨ha, hrest⟩ := List.forall_mem_cons.mp h
      obtain ⟨log, hcontribution⟩ := contribution_of_isDirectory extension hdir ha
      simp only [gather, hcontribution, ih hdirs hrest]
      rfl

lemma result_survey {arguments : List (List Char)} (hdirs : ∀ a ∈ arguments, t.isDirectory ⟨a⟩ = true)
    (h : ∀ a ∈ arguments, ¬ IsUnlistable t a) :
    (survey t extension arguments).result =
      .ok (arrange (arguments.flatMap fun a => filesIn t extension ⟨a⟩)) := by
  simp only [survey, result_gather hdirs h]
  rfl

/-- **A search finds no copies.**  A search in some directories ends early if one of them, or a directory below
it, cannot be listed.  Otherwise, after a run over the files that were found, the same search finds the same
paths, in the same spelling and order. -/
theorem survey_treeAfter (o : Options) (t : Tree) (extension : List Char) (arguments : List (List Char))
    (hfree : t.LinkFree) (hnames : t.HasNames) (hdirs : ∀ a ∈ arguments, t.isDirectory ⟨a⟩ = true)
    (hsuffix : '/' ∉ o.copySuffix) (hforeign : IsForeign extension o.copySuffix) :
    ((∃ a ∈ arguments, IsUnlistable t a) ∧ ∃ b, (survey t extension arguments).result = .error b) ∨
      (∀ a ∈ arguments, ¬ IsUnlistable t a) ∧
        ∃ paths, (survey t extension arguments).result = .ok paths ∧
          (survey (treeAfter t (updateAll o t paths)) extension arguments).result = .ok paths := by
  by_cases hbad : ∃ a ∈ arguments, IsUnlistable t a
  · obtain ⟨a, ha, hunlistable⟩ := hbad
    exact .inl ⟨⟨a, ha, hunlistable⟩, exists_result_survey_eq_error_iff.mpr ⟨a, ha, .inr hunlistable⟩⟩
  · have hlisted : ∀ a ∈ arguments, ¬ IsUnlistable t a := fun a ha h => hbad ⟨a, ha, h⟩
    refine .inr ⟨hlisted, _, result_survey hdirs hlisted, ?_⟩
    have halike : SearchedAlike extension t (treeAfter t (updateAll o t
        (arrange (arguments.flatMap fun a => filesIn t extension ⟨a⟩)))) := by
      refine searchedAlike_updateAll hfree hsuffix hforeign fun p hp => ?_
      obtain ⟨a, -, hmem⟩ := List.mem_flatMap.mp (mem_of_mem_arrange hp)
      exact endsIn_pieces_of_mem_filesIn hnames hmem
    rw [result_survey (fun a ha => isDirectory_of_searchedAlike hfree halike (hdirs a ha))
      fun a ha => not_isUnlistable_of_searchedAlike hfree halike (hdirs a ha) (hlisted a ha), Except.ok.injEq]
    -- each directory lists the same paths in both trees, and each of them in one spelling
    refine (arrange_congr fun p => firstSpelling?_flatMap_congr fun a ha => ?_).symm
    exact firstSpelling?_congr (fun q => mem_filesIn_congr hfree halike (hdirs a ha))
      (fun q hq r hr => eq_of_same_of_mem_filesIn hnames hq hr) p

lemma eq_nil_of_isDirectoryAt_besideCopy (h : besideCopy.isDirectoryAt l = true) : l = [] := by
  by_contra hne
  have hmem := Tree.mem_map_fst_of_isDirectoryAt h hne
  simp only [besideCopy, List.map_cons, List.map_nil, List.mem_cons, List.not_mem_nil, or_false] at hmem
  rcases hmem with rfl | rfl <;> exact Bool.noConfusion h

lemma not_isUnlistable_besideCopy : ¬ IsUnlistable besideCopy ".".toList := by
  have hordinary : besideCopy.IsOrdinary := by
    refine ⟨fun l hl a ha hne => ?_, fun l hl n hn => ?_⟩
    · obtain rfl := eq_nil_of_isDirectoryAt_besideCopy hl
      exact absurd (List.prefix_nil.mp ha) hne
    · obtain rfl := eq_nil_of_isDirectoryAt_besideCopy hl
      exact absurd hn List.not_mem_nil
  rw [isUnlistable_iff linkFree_besideCopy hordinary]
  rintro ⟨loc, l, -, hl, hsealed | hlong⟩
  · exact absurd hsealed List.not_mem_nil
  · obtain ⟨rfl, rfl⟩ := List.append_eq_nil_iff.mp (eq_nil_of_isDirectoryAt_besideCopy hl)
    exact absurd hlong (by decide)

theorem survey_treeAfter_besideCopy :
    let o : Options := {}
    let arguments := [".".toList]
    besideCopy.LinkFree ∧ besideCopy.HasNames ∧ (∀ a ∈ arguments, besideCopy.isDirectory ⟨a⟩ = true) ∧
      '/' ∉ o.copySuffix ∧ IsForeign "java".toList o.copySuffix ∧
      ∃ paths, (survey besideCopy "java".toList arguments).result = .ok paths ∧
        (survey (treeAfter besideCopy (updateAll o besideCopy paths)) "java".toList arguments).result =
          .ok paths := by
  intro o arguments
  have hnames : besideCopy.HasNames := by
    unfold Tree.HasNames
    decide
  have hdirs : ∀ a ∈ arguments, besideCopy.isDirectory ⟨a⟩ = true := by
    intro a ha
    obtain rfl := List.mem_singleton.mp ha
    have hplace : besideCopy.place? ⟨".".toList⟩ = some [] := by decide
    rw [Tree.isDirectory_eq_of_place? linkFree_besideCopy hplace]
    rfl
  have hforeign : IsForeign "java".toList o.copySuffix :=
    .inr (.inr ⟨[], "backup".toList, by decide, by decide, by decide⟩)
  rcases survey_treeAfter o besideCopy "java".toList arguments linkFree_besideCopy hnames hdirs (by decide)
    hforeign with ⟨⟨a, ha, hunlistable⟩, -⟩ | ⟨-, hsame⟩
  · obtain rfl := List.mem_singleton.mp ha
    exact absurd hunlistable not_isUnlistable_besideCopy
  · exact ⟨linkFree_besideCopy, hnames, hdirs, by decide, hforeign, hsame⟩

end DocStub.Files

import DocStub.Proofs.Files.Independence

/-!
# What a dry run tells

A dry run reports what it would write, and writes nothing.  A run that writes meets other trees: behind the
first file that it documents, the tree is no longer the one that the dry run looks at.  Among different
files, none of them in the place of another one's copy, this does not show.

**Nothing is written.**  All steps of a dry run end in the tree that it starts with
(`tree_of_mem_updateAll_preview`), so each of them is the step that the file would take alone
(`updateAll_preview_eq_map`).

**One file.**  What a dry run does not try is to store the copy.  If there is room for it, the work on the
file comes to what the dry run says (`outcome_update_eq_preview`).  There is room beside a file unless a
directory is there, or the longer path is too long (`exists_copyPlace?_of_room`).

**A run.**  Independent files fare as each would alone in the tree at the start, which is the tree that the
dry run looks at, so the two runs agree file by file (`outcomes_updateAll_eq_preview`), and so do their
totals.
-/

namespace DocStub.Files

open Source (Documented document)

variable {o : Options} {t : Tree} {p : Path} {ps : List Path}

/-- The same options, with nothing written. -/
def Options.preview (o : Options) : Options := { o with isDryRun := true }

@[simp] lemma Options.isDryRun_preview (o : Options) : o.preview.isDryRun = true := rfl

/-- What becomes of a file when that is done which was only reported. -/
def Outcome.carriedOut : Outcome → Outcome
  | pending n => written n
  | outcome => outcome

/-- There is room for the copies of some files.  Copies go beside the files, to places where none of the files
and no directory is, and their paths are not too long. -/
structure HasRoom (o : Options) (t : Tree) (ps : List Path) : Prop where
  suffix : '/' ∉ o.copySuffix
  apart : ∀ p ∈ ps, ∀ q ∈ ps, p ≠ q → t.place? (o.copyPath p) ≠ t.place? q
  free : ∀ p ∈ ps, t.isDirectory (o.copyPath p) = false
  fits : ∀ p ∈ ps, (o.copyPath p).Fits

/-! ## Nothing is written -/

lemma updateAll_preview_eq_map (o : Options) (t : Tree) (ps : List Path) :
    updateAll o.preview t ps = ps.map (update o.preview t) := by
  induction ps with
  | nil => rfl
  | cons p ps ih =>
      rw [updateAll_cons, tree_update_of_isDryRun o.isDryRun_preview, ih, List.map_cons]

lemma tree_of_mem_updateAll_preview {s : Step} (hs : s ∈ updateAll o.preview t ps) : s.tree = t := by
  rw [updateAll_preview_eq_map, List.mem_map] at hs
  obtain ⟨p, -, rfl⟩ := hs
  exact tree_update_of_isDryRun o.isDryRun_preview t p

lemma treeAfter_preview (o : Options) (t : Tree) (ps : List Path) :
    treeAfter t (updateAll o.preview t ps) = t := by
  rw [treeAfter]
  cases hlast : (updateAll o.preview t ps).getLast? with
  | none => rfl
  | some s => exact tree_of_mem_updateAll_preview (List.mem_of_getLast? hlast)

/-! ## One file -/

/-- A dry run says of a text whether it would change. -/
lemma outcome_preview {bytes : ByteArray} {text : List Char} (hread : t.read p = .ok bytes)
    (htext : Text.decode? bytes = some text) :
    (update o.preview t p).outcome =
      .ok (if (document text).isChanged then .pending (document text).blockCount else .untouched) := by
  simp only [update, hread, htext, Options.isDryRun_preview, if_true]
  cases (document text).isChanged <;> rfl

lemma outcome_update_eq_preview (hfree : t.LinkFree) (hwrites : o.isDryRun = false)
    (hroom : ∃ copy?, copyPlace? o t p = some copy?) :
    (update o t p).outcome = (update o.preview t p).outcome.map Outcome.carriedOut := by
  cases hread : t.read p with
  | error f =>
      rw [update, update, hread]
      rfl
  | ok bytes =>
      obtain ⟨l, hplace, hnode⟩ := (Tree.read_eq_ok_iff hfree).mp hread
      cases htext : Text.decode? bytes with
      | none =>
          simp only [update, hread, htext]
          rfl
      | some text =>
          rw [outcome_preview hread htext]
          simp only [update, hread, htext, hwrites, Bool.false_eq_true, if_false]
          cases hchanged : (document text).isChanged with
          | false => rfl
          | true =>
              -- nothing but the copy can fail, since the file was read
              obtain ⟨copy?, hcopy⟩ := hroom
              refine eq_ok_of_toOption ?_
              simp only [Bool.not_true, Bool.false_eq_true, if_false]
              rw [(store_eq hfree hplace hnode _ _).1, hcopy]
              rfl

lemma exists_copyPlace?_of_room (hfree : t.LinkFree) (hroom : o.keepsCopy = true → HasRoom o t ps)
    (hp : p ∈ ps) (hfile : t.isFile p = true) : ∃ copy?, copyPlace? o t p = some copy? := by
  rw [copyPlace?]
  split_ifs with hkeeps
  · obtain ⟨hsuffix, -, hdirectory, hfits⟩ := hroom hkeeps
    obtain ⟨l, bytes, hplace, hnode⟩ := (Tree.isFile_iff hfree).mp hfile
    obtain ⟨k, hk⟩ :=
      Tree.exists_place?_append hplace (Tree.isDirectoryAt_of_file hnode) hsuffix (hfits p hp)
    have hk' : t.isDirectoryAt k = false := by
      rw [← Tree.isDirectory_eq_of_place? hfree hk]
      exact hdirectory p hp
    exact ⟨some k, by simp [Options.copyPath, hk, hk']⟩
  · exact ⟨none, rfl⟩

/-! ## A run -/

lemma outcomes_updateAll_eq_preview (hfree : t.LinkFree) (hwrites : o.isDryRun = false)
    (hfiles : ∀ p ∈ ps, t.isFile p = true) (hapart : ps.Pairwise (Apart t))
    (hroom : o.keepsCopy = true → HasRoom o t ps) :
    (updateAll o t ps).map (fun s => (s.path, s.outcome)) =
      (updateAll o.preview t ps).map fun s => (s.path, s.outcome.map Outcome.carriedOut) := by
  have hsuffix : o.keepsCopy = true → '/' ∉ o.copySuffix := fun hkeeps => (hroom hkeeps).suffix
  have hind : ps.Pairwise (Independent o t) :=
    pairwise_independent hfree hsuffix hfiles hapart fun hkeeps => (hroom hkeeps).apart
  rw [outcomes_updateAll_of_pairwise hfree hwrites hsuffix hfiles hind, updateAll_preview_eq_map,
    List.map_map]
  refine List.map_congr_left fun p hp => ?_
  have hcopy := exists_copyPlace?_of_room hfree hroom hp (hfiles p hp)
  rw [Function.comp_apply, path_update, outcome_update_eq_preview hfree hwrites hcopy]

lemma Totals.add_carriedOut {ε : Type} (s : Totals ε) (p : Path) (outcome : Except ε Outcome) :
    s.add p (outcome.map Outcome.carriedOut) = s.add p outcome := by
  cases outcome with
  | error e => rfl
  | ok outcome => cases outcome <;> rfl

/-- The totals do not tell whether files were written. -/
lemma Totals.ofOutcomes_carriedOut {ε : Type} (outcomes : List (Path × Except ε Outcome)) :
    ofOutcomes (outcomes.map fun x => (x.1, x.2.map Outcome.carriedOut)) = ofOutcomes outcomes := by
  rw [ofOutcomes, ofOutcomes, List.foldl_map]
  simp only [add_carriedOut]

/-- **What a dry run tells.**  A dry run leaves the tree as it is.  Different files, none of them in the
place of another one's copy, come to what it says as long as there is room for their copies, and the totals
are the same. -/
theorem updateAll_preview (o : Options) (t : Tree) (ps : List Path) (hfree : t.LinkFree)
    (hwrites : o.isDryRun = false) (hfiles : ∀ p ∈ ps, t.isFile p = true)
    (hapart : ps.Pairwise (Apart t)) :
    (∀ s ∈ updateAll o.preview t ps, s.tree = t) ∧ treeAfter t (updateAll o.preview t ps) = t ∧
      ((o.keepsCopy = true → HasRoom o t ps) →
        (updateAll o t ps).map (fun s => (s.path, s.outcome)) =
          (updateAll o.preview t ps).map (fun s => (s.path, s.outcome.map Outcome.carriedOut)) ∧
        Totals.ofSteps (updateAll o t ps) = Totals.ofSteps (updateAll o.preview t ps)) := by
  refine ⟨fun s hs => tree_of_mem_updateAll_preview hs, treeAfter_preview o t ps, fun hroom => ?_⟩
  have hsame := outcomes_updateAll_eq_preview hfree hwrites hfiles hapart hroom
  refine ⟨hsame, ?_⟩
  calc Totals.ofSteps (updateAll o t ps)
      = Totals.ofOutcomes (((updateAll o.preview t ps).map fun s => (s.path, s.outcome)).map
          fun x => (x.1, x.2.map Outcome.carriedOut)) := by
        rw [Totals.ofSteps, hsame, List.map_map]
        rfl
    _ = Totals.ofSteps (updateAll o.preview t ps) := Totals.ofOutcomes_carriedOut _

/-- Two of the files: one that holds no text, and one that is due. -/
def roomyPaths : List Path := [⟨"./B.java".toList⟩, ⟨"A.java".toList⟩]

lemma hasRoom_roomyPaths : HasRoom {} mixedFiles roomyPaths where
  suffix := by decide
  apart := by decide
  free := by
    intro p hp
    simp only [roomyPaths, List.mem_cons, List.not_mem_nil, or_false] at hp
    rcases hp with rfl | rfl
    · have hplace : mixedFiles.place? (({} : Options).copyPath ⟨"./B.java".toList⟩) =
          some ["B.java.backup".toList] := by decide
      rw [Tree.isDirectory_eq_of_place? linkFree_mixedFiles hplace]
      rfl
    · have hplace : mixedFiles.place? (({} : Options).copyPath ⟨"A.java".toList⟩) =
          some ["A.java.backup".toList] := by decide
      rw [Tree.isDirectory_eq_of_place? linkFree_mixedFiles hplace]
      rfl
  fits := by
    intro p hp
    simp only [roomyPaths, List.mem_cons, List.not_mem_nil, or_false] at hp
    rcases hp with rfl | rfl <;> exact ⟨by decide, by decide, by decide⟩

theorem updateAll_preview_roomyPaths :
    mixedFiles.LinkFree ∧ (∀ p ∈ roomyPaths, mixedFiles.isFile p = true) ∧
      roomyPaths.Pairwise (Apart mixedFiles) ∧ HasRoom {} mixedFiles roomyPaths ∧
      let run := updateAll {} mixedFiles roomyPaths
      let dryRun := updateAll ({} : Options).preview mixedFiles roomyPaths
      (∀ s ∈ dryRun, s.tree = mixedFiles) ∧ treeAfter mixedFiles dryRun = mixedFiles ∧
        run.map (fun s => (s.path, s.outcome)) =
          dryRun.map (fun s => (s.path, s.outcome.map Outcome.carriedOut)) ∧
        Totals.ofSteps run = Totals.ofSteps dryRun := by
  have hlisted : ∀ p ∈ roomyPaths, p ∈ mixedPaths := by decide
  have hfiles : ∀ p ∈ roomyPaths, mixedFiles.isFile p = true := fun p hp =>
    isFile_of_mem_mixedPaths p (hlisted p hp)
  have hplaces : roomyPaths.map mixedFiles.place? =
      [["B.java".toList], ["A.java".toList]].map some := by decide
  have hapart : roomyPaths.Pairwise (Apart mixedFiles) := pairwise_apart_of_nodup hplaces (by decide)
  obtain ⟨htrees, hend, hrun⟩ :=
    updateAll_preview {} mixedFiles roomyPaths linkFree_mixedFiles rfl hfiles hapart
  exact ⟨linkFree_mixedFiles, hfiles, hapart, hasRoom_roomyPaths, htrees, hend,
    hrun fun _ => hasRoom_roomyPaths⟩

/-- A suffix that makes every name too long. -/
def longSuffix : Options := { copySuffix := List.replicate 250 'x' }

/-- The path of a file that is due, alone. -/
def duePaths : List Path := [⟨"A.java".toList⟩]

lemma isDirectory_longSuffix : ∀ p ∈ duePaths, mixedFiles.isDirectory (longSuffix.copyPath p) = false := by
  intro p hp
  obtain rfl := List.mem_singleton.mp hp
  have hname : '/' ∉ "A.java".toList ++ longSuffix.copySuffix := by decide
  have hlong : Tree.nameLimit < Text.utf8Length ("A.java".toList ++ longSuffix.copySuffix) := by
    decide +kernel
  have hlocate : mixedFiles.locate .lookUp (longSuffix.copyPath ⟨"A.java".toList⟩) =
      .error .nameTooLong := by
    have hpieces : (longSuffix.copyPath ⟨"A.java".toList⟩).pieces =
        ["A.java".toList ++ longSuffix.copySuffix] := List.splitOn_eq_singleton hname
    rw [Tree.locate, if_neg (by decide), if_neg (by decide +kernel), if_neg (by decide), hpieces,
      Tree.follow, if_neg (by decide), if_neg (by decide), if_neg (by decide), if_neg (by decide),
      if_pos hlong]
  rw [Tree.isDirectory, Tree.find?, hlocate]
  rfl

/-- There is no room for a copy whose name is too long, and a dry run does not say so. -/
theorem not_outcomes_updateAll_longSuffix :
    mixedFiles.LinkFree ∧ (∀ p ∈ duePaths, mixedFiles.isFile p = true) ∧
      duePaths.Pairwise (Apart mixedFiles) ∧ longSuffix.copySuffix ≠ [] ∧ '/' ∉ longSuffix.copySuffix ∧
      (∀ p ∈ duePaths, ∀ q ∈ duePaths, p ≠ q →
        mixedFiles.place? (longSuffix.copyPath p) ≠ mixedFiles.place? q) ∧
      (∀ p ∈ duePaths, mixedFiles.isDirectory (longSuffix.copyPath p) = false) ∧
      (updateAll longSuffix mixedFiles duePaths).map (fun s => (s.path, s.outcome)) ≠
        (updateAll longSuffix.preview mixedFiles duePaths).map
          (fun s => (s.path, s.outcome.map Outcome.carriedOut)) := by
  have hlisted : ∀ p ∈ duePaths, p ∈ mixedPaths := by decide
  have halone : ∀ p ∈ duePaths, ∀ q ∈ duePaths, p = q := by decide
  refine ⟨linkFree_mixedFiles, fun p hp => isFile_of_mem_mixedPaths p (hlisted p hp),
    List.pairwise_singleton .., by decide, by decide, fun p hp q hq hne => absurd (halone p hp q hq) hne,
    isDirectory_longSuffix, fun hsame => ?_⟩
  have hplace : mixedFiles.place? ⟨"A.java".toList⟩ = some ["A.java".toList] := by decide
  have hread : mixedFiles.read ⟨"A.java".toList⟩ = .ok (Text.encode "int x;\n".toList) :=
    (Tree.read_eq_ok_iff_of_place? linkFree_mixedFiles hplace).mpr rfl
  have hreal : (update longSuffix mixedFiles ⟨"A.java".toList⟩).outcome.toOption = none := by
    have hverdict : (verdict longSuffix mixedFiles ⟨"A.java".toList⟩).outcome? = none := by
      decide +kernel
    rw [(update_eq_verdict linkFree_mixedFiles rfl _).1, hverdict]
  obtain ⟨-, houtcome⟩ := Prod.mk.inj (List.cons.inj hsame).1
  rw [houtcome, outcome_preview hread (Text.decode?_encode _)] at hreal
  exact Option.some_ne_none _ hreal

end DocStub.Files

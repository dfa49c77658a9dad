import DocStub.Proofs.Files.Independence

/-!
# Failures stay with their files

A failure ends the work on one file.  It leaves no trace in the tree, so the files behind it fare as if the
file had not been listed.  This holds for all lists: with repeats, with files that other files have their
copies in, and with paths that lead nowhere.

**One step.**  A file is read, its text documented, its copy stored, and then it is written.  Nothing is
written before the copy, a copy that fails is not there, and the last write does not fail.  So a step that
fails ends in the tree that it starts with (`tree_update_of_hasFailed`).

**A run.**  This goes for every step of a run (`tree_eq_of_hasFailed`).  Without the paths that fail, a run
takes the same steps otherwise (`updateAll_remaining_eq_filter`), and ends in the same tree
(`treeAfter_remaining`).
-/

namespace DocStub.Files

variable {o : Options} {t : Tree} {p : Path} {ps : List Path}

/-- The work on the file ended early. -/
def Step.hasFailed (s : Step) : Bool := s.outcome.toOption.isNone

/-- The list of paths without those that fail. -/
def remaining (o : Options) (t : Tree) (ps : List Path) : List Path :=
  ((ps.zip (updateAll o t ps)).filter fun x => !x.2.hasFailed).map Prod.fst

/-! ## One step -/

lemma tree_update_of_hasFailed (hfree : t.LinkFree) (h : (update o t p).hasFailed = true) :
    (update o t p).tree = t := by
  cases hdry : o.isDryRun with
  | true => exact tree_update_of_isDryRun hdry t p
  | false =>
      have hwritten : ¬ (update o t p).IsWritten := by
        rintro ⟨n, hn⟩
        rw [Step.hasFailed, hn] at h
        exact Bool.noConfusion h
      rw [(update_eq_verdict hfree hdry p).2, advance_eq_of_not_isWritten hfree hdry hwritten]

/-! ## A run -/

lemma remaining_cons (o : Options) (t : Tree) (p : Path) (ps : List Path) :
    remaining o t (p :: ps) =
      if (update o t p).hasFailed then remaining o (update o t p).tree ps
      else p :: remaining o (update o t p).tree ps := by
  rw [remaining, updateAll_cons, List.zip_cons_cons, List.filter_cons]
  cases (update o t p).hasFailed <;> rfl

lemma tree_eq_of_hasFailed (hfree : t.LinkFree) {before after : List Step} {s : Step}
    (hrun : updateAll o t ps = before ++ s :: after) (hs : s.hasFailed = true) :
    s.tree = treeAfter t before := by
  induction before generalizing t ps with
  | nil =>
      cases ps with
      | nil => exact absurd hrun (List.cons_ne_nil s after).symm
      | cons p ps =>
          obtain ⟨rfl, -⟩ := List.cons.inj hrun
          exact tree_update_of_hasFailed hfree hs
  | cons first before ih =>
      cases ps with
      | nil => exact absurd hrun (List.cons_ne_nil first _).symm
      | cons p ps =>
          obtain ⟨rfl, hrest⟩ := List.cons.inj hrun
          rw [treeAfter_cons]
          exact ih (linkFree_tree_update hfree o p) hrest

lemma updateAll_remaining_eq_filter (hfree : t.LinkFree) (o : Options) (ps : List Path) :
    updateAll o t (remaining o t ps) = (updateAll o t ps).filter fun s => !s.hasFailed := by
  induction ps generalizing t with
  | nil => rfl
  | cons p ps ih =>
      rw [remaining_cons, updateAll_cons, List.filter_cons, ← ih (linkFree_tree_update hfree o p)]
      -- after a failure the run goes on in the tree that it would be in without the file
      cases hfailed : (update o t p).hasFailed with
      | true => simp [tree_update_of_hasFailed hfree hfailed]
      | false => simp

lemma treeAfter_remaining (hfree : t.LinkFree) (o : Options) (ps : List Path) :
    treeAfter t (updateAll o t (remaining o t ps)) = treeAfter t (updateAll o t ps) := by
  induction ps generalizing t with
  | nil => rfl
  | cons p ps ih =>
      rw [remaining_cons, updateAll_cons, treeAfter_cons, ← ih (linkFree_tree_update hfree o p)]
      cases hfailed : (update o t p).hasFailed with
      | true => simp [tree_update_of_hasFailed hfree hfailed]
      | false => simp [treeAfter_cons]

/-- **Failures stay with their files.**  Every step that fails leaves the tree as it was, and without the
paths that fail a run takes the same steps otherwise, and ends in the same tree. -/
theorem updateAll_remaining (o : Options) (t : Tree) (ps : List Path) (hfree : t.LinkFree) :
    (∀ before s after, updateAll o t ps = before ++ s :: after → s.hasFailed = true →
        s.tree = treeAfter t before) ∧
      updateAll o t (remaining o t ps) = (updateAll o t ps).filter (fun s => !s.hasFailed) ∧
      treeAfter t (updateAll o t (remaining o t ps)) = treeAfter t (updateAll o t ps) :=
  ⟨fun _ _ _ hrun hs => tree_eq_of_hasFailed hfree hrun hs, updateAll_remaining_eq_filter hfree o ps,
    treeAfter_remaining hfree o ps⟩

/-- A file that is due and then rests, its copy, a path that leads nowhere, a directory, a file that holds
no text, and one whose copy finds a directory in its place. -/
def failingPaths : List Path :=
  [⟨"C.java".toList⟩, ⟨"A.java".toList⟩, ⟨"D.java".toList⟩, ⟨"A.java.backup".toList⟩,
    ⟨"C.java.backup".toList⟩, ⟨"B.java".toList⟩, ⟨"A.java".toList⟩]

theorem updateAll_remaining_failingPaths :
    mixedFiles.LinkFree ∧
      (updateAll {} mixedFiles failingPaths).map Step.hasFailed =
        [true, false, true, false, true, true, false] ∧
      let run := updateAll {} mixedFiles failingPaths
      let rest := remaining {} mixedFiles failingPaths
      (∀ before s after, run = before ++ s :: after → s.hasFailed = true →
          s.tree = treeAfter mixedFiles before) ∧
        updateAll {} mixedFiles rest = run.filter (fun s => !s.hasFailed) ∧
        treeAfter mixedFiles (updateAll {} mixedFiles rest) = treeAfter mixedFiles run := by
  have hfailed : (updateAll {} mixedFiles failingPaths).map Step.hasFailed =
      [true, false, true, false, true, true, false] := by
    have hrun := congrArg (List.map Prod.snd)
      (failures_updateAll linkFree_mixedFiles (o := {}) rfl failingPaths)
    have hverdicts : (failingPaths.zip ((verdicts {} mixedFiles failingPaths).map
        fun v => v.outcome?.isNone)).map Prod.snd = [true, false, true, false, true, true, false] := by
      decide
    rw [hverdicts, List.map_map] at hrun
    exact hrun
  exact ⟨linkFree_mixedFiles, hfailed, updateAll_remaining {} mixedFiles failingPaths linkFree_mixedFiles⟩

end DocStub.Files

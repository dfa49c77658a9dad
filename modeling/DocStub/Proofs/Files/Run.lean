import DocStub.Proofs.Files.Verdict

/-!
# Runs

A run documents one file after the other.  Without links it is a fold of `advance`, and `verdicts` collects
what the files come to, each in the tree that it meets.

**Steps and verdicts.**  The steps of a run have the outcomes of the verdicts (`outcomes_updateAll`) and
end in the folded tree (`treeAfter_updateAll`).

**What stays.**  All along a run the directories stay and no link comes up (`isDirectoryAt_foldl_advance`,
`linkFree_foldl_advance`), and so does a file that no verdict touches (`get?_foldl_advance`).
-/

namespace DocStub.Files

variable {o : Options} {t : Tree} {p : Path} {ps : List Path} {l : Location}

/-- What the files of a run come to. -/
def verdicts (o : Options) (t : Tree) : List Path → List Verdict
  | [] => []
  | p :: ps => verdict o t p :: verdicts o (advance o t p) ps

/-! ## What stays -/

lemma isDirectoryAt_foldl_advance (o : Options) (t : Tree) (ps : List Path) :
    (ps.foldl (advance o) t).isDirectoryAt = t.isDirectoryAt := by
  induction ps generalizing t with
  | nil => rfl
  | cons p ps ih => rw [List.foldl_cons, ih, isDirectoryAt_advance]

lemma linkFree_foldl_advance (hfree : t.LinkFree) (o : Options) (ps : List Path) :
    (ps.foldl (advance o) t).LinkFree := by
  induction ps generalizing t with
  | nil => exact hfree
  | cons p ps ih => exact ih (linkFree_advance hfree o p)

/-- What no verdict of a run touches is there at its end. -/
lemma get?_foldl_advance (h : ∀ v ∈ verdicts o t ps, l ∉ v.touched) :
    (ps.foldl (advance o) t).get? l = t.get? l := by
  induction ps generalizing t with
  | nil => rfl
  | cons p ps ih =>
      obtain ⟨hp, hps⟩ := List.forall_mem_cons.mp h
      rw [List.foldl_cons, ih hps, get?_advance hp]

/-! ## Steps and verdicts -/

lemma path_store (o : Options) (t : Tree) (p : Path) (bytes : ByteArray) (d : Source.Documented)
    (log : List Log.Record) : (store o t p bytes d log).path = p := by
  rw [store]
  split
  · rfl
  · dsimp only
    split <;> rfl

lemma path_update (o : Options) (t : Tree) (p : Path) : (update o t p).path = p := by
  rcases update_cases o t p with ⟨f, h⟩ | ⟨text, log, -, h⟩
  · rw [h]
    rfl
  · rw [h]
    split_ifs
    · rfl
    · rfl
    · exact path_store ..

lemma path_mem_of_mem_updateAll {s : Step} (hs : s ∈ updateAll o t ps) : s.path ∈ ps := by
  induction ps generalizing t with
  | nil => exact absurd hs List.not_mem_nil
  | cons p ps ih =>
      rw [updateAll_cons, List.mem_cons] at hs
      rcases hs with rfl | hs
      · rw [path_update]
        exact List.mem_cons_self
      · exact List.mem_cons_of_mem p (ih hs)

lemma treeAfter_cons (t : Tree) (s : Step) (steps : List Step) :
    treeAfter t (s :: steps) = treeAfter s.tree steps := by
  rw [treeAfter, treeAfter, List.getLast?_cons, Option.map_some, Option.getD_some, Option.getD_map]

/-- **A run folds over its verdicts.** -/
theorem treeAfter_updateAll (hfree : t.LinkFree) (hwrites : o.isDryRun = false) (ps : List Path) :
    treeAfter t (updateAll o t ps) = ps.foldl (advance o) t := by
  induction ps generalizing t with
  | nil => rfl
  | cons p ps ih =>
      rw [updateAll_cons, treeAfter_cons, (update_eq_verdict hfree hwrites p).2,
        ih (linkFree_advance hfree o p), List.foldl_cons]

/-- **The steps of a run have the outcomes of the verdicts.** -/
theorem outcomes_updateAll (hfree : t.LinkFree) (hwrites : o.isDryRun = false) (ps : List Path) :
    (updateAll o t ps).map (fun s => (s.path, s.outcome.toOption)) =
      ps.zip ((verdicts o t ps).map Verdict.outcome?) := by
  induction ps generalizing t with
  | nil => rfl
  | cons p ps ih =>
      obtain ⟨houtcome, htree⟩ := update_eq_verdict hfree hwrites p
      rw [updateAll_cons, List.map_cons, path_update, houtcome, htree,
        ih (linkFree_advance hfree o p), verdicts, List.map_cons, List.zip_cons_cons]

/-- The steps that fail are those whose verdict does. -/
lemma failures_updateAll (hfree : t.LinkFree) (hwrites : o.isDryRun = false) (ps : List Path) :
    (updateAll o t ps).map (fun s => (s.path, s.outcome.toOption.isNone)) =
      ps.zip ((verdicts o t ps).map fun v => v.outcome?.isNone) := by
  calc (updateAll o t ps).map (fun s => (s.path, s.outcome.toOption.isNone))
      = ((updateAll o t ps).map fun s => (s.path, s.outcome.toOption)).map
          (Prod.map id Option.isNone) := by
        rw [List.map_map]
        rfl
    _ = ps.zip ((verdicts o t ps).map fun v => v.outcome?.isNone) := by
        rw [outcomes_updateAll hfree hwrites, ← List.zip_map_right, List.map_map]
        rfl

/-! ## A file beside its copy -/

/-- A file, and another one in the place of its copy. -/
def besideCopy : Tree :=
  { entries :=
      [(["A.java".toList], .file (Text.encode "int x;\n".toList)),
        (["A.java.backup".toList], .file (Text.encode "long y;\n".toList))] }

/-- The paths of both files, in order. -/
def besidePaths : List Path := [⟨"A.java".toList⟩, ⟨"A.java.backup".toList⟩]

lemma linkFree_besideCopy : besideCopy.LinkFree := by
  refine Tree.linkFree_of_entries fun e he target => ?_
  simp only [besideCopy, List.mem_cons, List.not_mem_nil, or_false] at he
  rcases he with rfl | rfl <;> exact Node.noConfusion

end DocStub.Files

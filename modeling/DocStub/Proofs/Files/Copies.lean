import DocStub.Proofs.Files.Run

/-!
# What copies hold at the end

A copy is stored beside its file, and a listed file may be in that very place.  If it is worked on later it
reads the copy, documents it, and writes the result over it.

**Later steps.**  Among different files nothing else reaches a copy: two files have two copies, and a copy
is no file that was worked on before (`get?_foldl_advance_copy`).

**All copies.**  So a run keeps all copies if and only if no written file is the copy of a file that was
written before it (`keepsCopies_iff`).
-/

namespace DocStub.Files

open Source (document)

variable {o : Options} {t : Tree} {p q : Path} {ps : List Path} {l k : Location} {text : List Char}

/-- The file was written. -/
def Step.IsWritten (s : Step) : Prop := ∃ n, s.outcome = .ok (.written n)

/-- The copy of a file in `t'` holds what the file held in `t`. -/
def KeepsCopy (o : Options) (t t' : Tree) (p : Path) : Prop :=
  ∃ bytes, t.read p = .ok bytes ∧ t'.read (o.copyPath p) = .ok bytes

/-- The paths lead to different files. -/
def Apart (t : Tree) (p q : Path) : Prop := ∀ l, t.place? p = some l → t.place? q ≠ some l

lemma pairwise_apart_of_nodup {ls : List Location} (h : ps.map t.place? = ls.map some) (hnodup : ls.Nodup) :
    ps.Pairwise (Apart t) := by
  have hplaces : (ps.map t.place?).Pairwise fun a b => ∀ l, a = some l → b ≠ some l := by
    rw [h, List.pairwise_map]
    refine hnodup.imp fun hne m hm hm' => hne ?_
    exact (Option.some.inj hm).trans (Option.some.inj hm').symm
  rwa [List.pairwise_map] at hplaces

lemma pairwise_apart_advance (h : ps.Pairwise (Apart t)) (o : Options) (p : Path) :
    ps.Pairwise (Apart (advance o t p)) :=
  h.imp fun h l hl => by
    rw [place?_advance] at hl ⊢
    exact h l hl

lemma isWritten_update_iff (hfree : t.LinkFree) (hwrites : o.isDryRun = false) :
    (update o t p).IsWritten ↔ ∃ l copy? old new, verdict o t p = .rewrites l copy? old new := by
  have houtcome := (update_eq_verdict hfree hwrites p).1
  have hwritten : (update o t p).IsWritten ↔
      ∃ n, (update o t p).outcome.toOption = some (.written n) := by
    rw [Step.IsWritten]
    cases (update o t p).outcome <;> simp [Except.toOption]
  rw [hwritten, houtcome]
  cases verdict o t p <;> simp [Verdict.outcome?]

/-! ## One step -/

lemma advance_eq_of_not_isWritten (hfree : t.LinkFree) (hwrites : o.isDryRun = false)
    (h : ¬ (update o t p).IsWritten) : advance o t p = t := by
  refine IsSettled.advance_eq ?_
  rw [IsSettled]
  cases hv : verdict o t p with
  | fails => rfl
  | rests => rfl
  | rewrites l copy? old new =>
      exact absurd ((isWritten_update_iff hfree hwrites).mpr ⟨l, copy?, old, new, hv⟩) h

/-- Where copies are kept, a rewrite puts one beside the file. -/
lemma copy_of_verdict (hkeeps : o.keepsCopy = true) (hsuffix : '/' ∉ o.copySuffix)
    {copy? : Option Location} {old : ByteArray} {new : Source.Documented}
    (hv : verdict o t p = .rewrites l copy? old new) :
    copy? = some (suffixed o.copySuffix l) ∧
      t.place? (o.copyPath p) = some (suffixed o.copySuffix l) := by
  obtain ⟨hplace, hnode, hcopy, -⟩ := verdict_eq_rewrites_iff.mp hv
  cases copy? with
  | none => simp [copyPlace?, hkeeps] at hcopy
  | some k =>
      obtain ⟨-, hcopyplace, -⟩ := copyPlace?_eq_some_some_iff.mp hcopy
      have hbeside := Tree.place?_append hplace (Tree.isDirectoryAt_of_file hnode) hsuffix hcopyplace
      rw [hcopyplace, hbeside]
      exact ⟨rfl, rfl⟩

/-- A copy is touched by the work on no other file, unless that file is the copy. -/
lemma not_mem_touched_of_apart (hsuffix : '/' ∉ o.copySuffix) (hfile : t.place? q ≠ some l)
    (hcopy : t.place? q ≠ some (suffixed o.copySuffix l)) :
    suffixed o.copySuffix l ∉ (verdict o t q).touched := by
  intro hmem
  obtain ⟨k, hk, heq | heq⟩ := exists_of_mem_touched hsuffix hmem
  · exact hcopy (heq ▸ hk)
  · exact hfile (suffixed_injective _ heq ▸ hk)

lemma not_mem_touched_verdicts (hsuffix : '/' ∉ o.copySuffix)
    (hps : ∀ q ∈ ps, t.place? q ≠ some l ∧ t.place? q ≠ some (suffixed o.copySuffix l)) :
    ∀ v ∈ verdicts o t ps, suffixed o.copySuffix l ∉ v.touched := by
  induction ps generalizing t with
  | nil => exact fun v hv => absurd hv List.not_mem_nil
  | cons q ps ih =>
      obtain ⟨⟨hfile, hcopy⟩, hps⟩ := List.forall_mem_cons.mp hps
      refine List.forall_mem_cons.mpr ⟨not_mem_touched_of_apart hsuffix hfile hcopy, ih ?_⟩
      intro r hr
      rw [place?_advance]
      exact hps r hr

/-- A written file holds the document of what it held. -/
lemma get?_advance_of_isWritten (hfree : t.LinkFree) (hwrites : o.isDryRun = false)
    (hwritten : (update o t p).IsWritten) (hplace : t.place? p = some l)
    (hnode : t.get? l = some (.file (Text.encode text))) :
    (advance o t p).get? l = some (.file (Text.encode (document text).text)) := by
  obtain ⟨m, copy?, old, new, hv⟩ := (isWritten_update_iff hfree hwrites).mp hwritten
  obtain ⟨hm, hold, -, text', htext', -, rfl⟩ := verdict_eq_rewrites_iff.mp hv
  obtain rfl := Option.some.inj (hplace.symm.trans hm)
  obtain rfl := Node.file.inj (Option.some.inj (hnode.symm.trans hold))
  obtain rfl : text = text' := Option.some.inj ((Text.decode?_encode text).symm.trans htext')
  exact get?_advance_self hv

/-- What a step does not touch is read as before. -/
lemma read_advance_eq_ok_iff (hfree : t.LinkFree) {bytes : ByteArray}
    (h : ∀ l, t.place? q = some l → l ∉ (verdict o t p).touched) :
    (advance o t p).read q = .ok bytes ↔ t.read q = .ok bytes := by
  simp only [Tree.read_eq_ok_iff hfree, Tree.read_eq_ok_iff (linkFree_advance hfree o p), place?_advance]
  refine exists_congr fun l => and_congr_right fun hplace => ?_
  rw [get?_advance (h l hplace)]

/-! ## Later steps -/

/-- A copy is there at the end of a run, unless the run writes a file in its place. -/
lemma get?_foldl_advance_copy (hfree : t.LinkFree) (hwrites : o.isDryRun = false)
    (hsuffix : '/' ∉ o.copySuffix) (hapart : ps.Pairwise (Apart t)) (hps : ∀ q ∈ ps, t.place? q ≠ some l)
    (hchanged : (document text).isChanged = true)
    (hcopy : t.get? (suffixed o.copySuffix l) = some (.file (Text.encode text))) :
    (ps.foldl (advance o) t).get? (suffixed o.copySuffix l) = some (.file (Text.encode text)) ↔
      ∀ s ∈ updateAll o t ps, s.IsWritten → t.place? s.path ≠ some (suffixed o.copySuffix l) := by
  induction ps generalizing t with
  | nil => simpa using hcopy
  | cons q ps ih =>
      obtain ⟨hq, hps⟩ := List.forall_mem_cons.mp hps
      obtain ⟨hfront, hapart⟩ := List.pairwise_cons.mp hapart
      rw [List.foldl_cons, updateAll_cons, List.forall_mem_cons, path_update,
        (update_eq_verdict hfree hwrites q).2]
      by_cases hwritten : (update o t q).IsWritten
      · by_cases hover : t.place? q = some (suffixed o.copySuffix l)
        · -- the copy is worked on, and nothing behind reaches it
          have hbehind : ∀ v ∈ verdicts o (advance o t q) ps, suffixed o.copySuffix l ∉ v.touched :=
            not_mem_touched_verdicts hsuffix fun r hr => by
              rw [place?_advance]
              exact ⟨hps r hr, hfront r hr _ hover⟩
          rw [get?_foldl_advance hbehind, get?_advance_of_isWritten hfree hwrites hwritten hover hcopy]
          have hlost : some (Node.file (Text.encode (document text).text)) ≠
              some (.file (Text.encode text)) :=
            fun hsame => encode_document_ne hchanged (Node.file.inj (Option.some.inj hsame))
          exact ⟨fun h => absurd h hlost, fun h => absurd hover (h.1 hwritten)⟩
        · have hstill : (advance o t q).get? (suffixed o.copySuffix l) =
              some (.file (Text.encode text)) := by
            rw [get?_advance (not_mem_touched_of_apart hsuffix hq hover), hcopy]
          have hrest := ih (linkFree_advance hfree o q) (pairwise_apart_advance hapart o q)
            (by simpa only [place?_advance] using hps) hstill
          simp only [place?_advance] at hrest
          rw [hrest]
          exact ⟨fun h => ⟨fun _ => hover, h⟩, And.right⟩
      · rw [advance_eq_of_not_isWritten hfree hwrites hwritten, ih hfree hapart hps hcopy]
        exact ⟨fun h => ⟨fun hw => absurd hw hwritten, h⟩, And.right⟩

/-! ## All copies -/

/-- The first file keeps its copy as long as no other file is written over it. -/
lemma keepsCopy_iff (hfree : t.LinkFree) (hwrites : o.isDryRun = false) (hkeeps : o.keepsCopy = true)
    (hne : o.copySuffix ≠ []) (hsuffix : '/' ∉ o.copySuffix) (hapart : (p :: ps).Pairwise (Apart t))
    (hwritten : (update o t p).IsWritten) :
    KeepsCopy o t (ps.foldl (advance o) (advance o t p)) p ↔
      ∀ s ∈ updateAll o (advance o t p) ps, s.IsWritten →
        t.place? s.path ≠ t.place? (o.copyPath p) := by
  obtain ⟨l, copy?, old, new, hv⟩ := (isWritten_update_iff hfree hwrites).mp hwritten
  obtain ⟨hplace, hnode, -, text, htext, hchanged, rfl⟩ := verdict_eq_rewrites_iff.mp hv
  obtain rfl := Text.decode?_eq_some_iff.mp htext
  obtain ⟨rfl, hcopyplace⟩ := copy_of_verdict hkeeps hsuffix hv
  obtain ⟨hfront, hrest⟩ := List.pairwise_cons.mp hapart
  have hnext := linkFree_advance hfree o p
  have hother : suffixed o.copySuffix l ≠ l :=
    suffixed_ne_self hne (Tree.ne_nil_of_isDirectoryAt (Tree.isDirectoryAt_of_file hnode))
  have hfiles : ∀ q ∈ ps, (advance o t p).place? q ≠ some l := fun q hq => by
    rw [place?_advance]
    exact hfront q hq l hplace
  have hend : (ps.foldl (advance o) (advance o t p)).place? (o.copyPath p) =
      some (suffixed o.copySuffix l) := by
    rw [Tree.place?_congr (isDirectoryAt_foldl_advance o _ ps), place?_advance, hcopyplace]
  have hlater := get?_foldl_advance_copy hnext hwrites hsuffix
    (pairwise_apart_advance hrest o p) hfiles hchanged (get?_advance_copy hv hother)
  simp only [place?_advance] at hlater
  rw [hcopyplace, ← hlater, KeepsCopy]
  simp only [Tree.read_eq_ok_iff_of_place? hfree hplace, hnode, Option.some.injEq, Node.file.injEq,
    exists_eq_left', Tree.read_eq_ok_iff_of_place? (linkFree_foldl_advance hnext o ps) hend]

/-- **When a run keeps all copies.**  Among different files, the copies of all written files hold at the
end what the files held at the start if and only if none of them is the copy of one that was written before
it. -/
theorem keepsCopies_iff (o : Options) (t : Tree) (ps : List Path) (hfree : t.LinkFree)
    (hwrites : o.isDryRun = false) (hkeeps : o.keepsCopy = true) (hne : o.copySuffix ≠ [])
    (hsuffix : '/' ∉ o.copySuffix) (hapart : ps.Pairwise (Apart t)) :
    (∀ s ∈ updateAll o t ps, s.IsWritten → KeepsCopy o t (treeAfter t (updateAll o t ps)) s.path) ↔
      (updateAll o t ps).Pairwise fun s s' =>
        s.IsWritten → s'.IsWritten → t.place? s'.path ≠ t.place? (o.copyPath s.path) := by
  rw [treeAfter_updateAll hfree hwrites]
  induction ps generalizing t with
  | nil => simp
  | cons p ps ih =>
      obtain ⟨hfront, hrest⟩ := List.pairwise_cons.mp hapart
      have htail := ih (advance o t p) (linkFree_advance hfree o p)
        (pairwise_apart_advance hrest o p)
      simp only [place?_advance] at htail
      rw [List.foldl_cons, updateAll_cons, List.forall_mem_cons, List.pairwise_cons, path_update,
        (update_eq_verdict hfree hwrites p).2, ← htail]
      by_cases hwritten : (update o t p).IsWritten
      · have hhead := keepsCopy_iff hfree hwrites hkeeps hne hsuffix hapart hwritten
        simp only [hwritten, true_imp_iff, hhead]
        refine and_congr_right fun hclear => forall₂_congr fun s hs => imp_congr_right fun hs' => ?_
        -- without a file in the place of the first copy, the first step is not noticed
        refine exists_congr fun bytes => and_congr_left' (read_advance_eq_ok_iff hfree ?_).symm
        intro m hm hmem
        obtain ⟨l, copy?, old, new, hv⟩ := (isWritten_update_iff hfree hwrites).mp hwritten
        obtain ⟨hplace, -⟩ := verdict_eq_rewrites_iff.mp hv
        obtain ⟨k, hk, rfl | rfl⟩ := exists_of_mem_touched hsuffix hmem
        · exact hfront s.path (path_mem_of_mem_updateAll hs) m hk hm
        · obtain rfl := Option.some.inj (hplace.symm.trans hk)
          exact hclear s hs hs' (hm.trans (copy_of_verdict hkeeps hsuffix hv).2.symm)
      · rw [advance_eq_of_not_isWritten hfree hwrites hwritten]
        simp [hwritten]

lemma pairwise_apart_besidePaths : besidePaths.Pairwise (Apart besideCopy) := by
  have hplaces : besidePaths.map besideCopy.place? =
      [["A.java".toList], ["A.java.backup".toList]].map some := by decide
  exact pairwise_apart_of_nodup hplaces (by decide)

theorem keepsCopies_iff_besideCopy :
    besideCopy.LinkFree ∧ besidePaths.Pairwise (Apart besideCopy) ∧ ({} : Options).copySuffix ≠ [] ∧
      '/' ∉ ({} : Options).copySuffix ∧
      ((∀ s ∈ updateAll {} besideCopy besidePaths, s.IsWritten →
          KeepsCopy {} besideCopy (treeAfter besideCopy (updateAll {} besideCopy besidePaths)) s.path) ↔
        (updateAll {} besideCopy besidePaths).Pairwise fun s s' => s.IsWritten → s'.IsWritten →
          besideCopy.place? s'.path ≠ besideCopy.place? (({} : Options).copyPath s.path)) :=
  ⟨linkFree_besideCopy, pairwise_apart_besidePaths, by decide, by decide,
    keepsCopies_iff {} besideCopy besidePaths linkFree_besideCopy rfl rfl (by decide) (by decide)
      pairwise_apart_besidePaths⟩

/-- The copy of the first file is lost: the second one is the copy, and is documented. -/
theorem not_keepsCopies_besideCopy :
    besideCopy.LinkFree ∧ besidePaths.Pairwise (Apart besideCopy) ∧
      ¬ ∀ s ∈ updateAll {} besideCopy besidePaths, s.IsWritten →
        KeepsCopy {} besideCopy (treeAfter besideCopy (updateAll {} besideCopy besidePaths)) s.path := by
  refine ⟨linkFree_besideCopy, pairwise_apart_besidePaths, fun h => ?_⟩
  have hfirst : verdict {} besideCopy ⟨"A.java".toList⟩ =
      .rewrites ["A.java".toList] (some ["A.java.backup".toList]) (Text.encode "int x;\n".toList)
        (document "int x;\n".toList) :=
    verdict_eq_rewrites_iff.mpr ⟨by decide, rfl, by decide, _, Text.decode?_encode _, by decide, rfl⟩
  have hsecond : verdict {} (advance {} besideCopy ⟨"A.java".toList⟩) ⟨"A.java.backup".toList⟩ =
      .rewrites ["A.java.backup".toList] (some ["A.java.backup.backup".toList])
        (Text.encode "int x;\n".toList) (document "int x;\n".toList) := by
    have hdirs := isDirectoryAt_advance {} besideCopy ⟨"A.java".toList⟩
    rw [verdict_eq_rewrites_iff, Tree.place?_congr hdirs, copyPlace?_congr hdirs]
    exact ⟨by decide, get?_advance_copy hfirst (by decide), by decide, _, Text.decode?_encode _,
      by decide, rfl⟩
  have hA : (update {} besideCopy ⟨"A.java".toList⟩).IsWritten :=
    (isWritten_update_iff linkFree_besideCopy rfl).mpr ⟨_, _, _, _, hfirst⟩
  have hB : (update {} (advance {} besideCopy ⟨"A.java".toList⟩) ⟨"A.java.backup".toList⟩).IsWritten :=
    (isWritten_update_iff (linkFree_advance linkFree_besideCopy _ _) rfl).mpr ⟨_, _, _, _, hsecond⟩
  have hkept := h _ (by rw [besidePaths, updateAll_cons]; exact List.mem_cons_self) hA
  rw [treeAfter_updateAll linkFree_besideCopy rfl, path_update] at hkept
  have hclear := (keepsCopy_iff linkFree_besideCopy rfl rfl (by decide) (by decide)
    pairwise_apart_besidePaths hA).mp hkept _ (by rw [updateAll_cons]; exact List.mem_cons_self) hB
  rw [path_update] at hclear
  exact hclear (by decide)

end DocStub.Files

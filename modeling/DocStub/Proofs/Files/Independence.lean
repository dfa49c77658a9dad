import Mathlib.Data.List.Lattice
import DocStub.Proofs.Files.Copies
import DocStub.Proofs.Files.Outcome

/-!
# Files that are documented apart from each other

Different files, none of them in the place of another one's copy, are documented as if each were the only
one.  So the result of a run can be read off the tree that it starts with, and the order of the files does
not show in it.

**Places.**  `places` are the locations that the work on a file can reach: its own, and that of its copy.
Files are `Independent` when they have no place in common, and the files of such a list are
(`pairwise_independent`), because two files with one place for their copies would be one file.

**One step.**  The work on one of two independent files leaves to the other its verdict
(`Independent.verdict_advance`) and all that it would find and leave in its own places
(`Independent.get?_advance_advance`).

**A run.**  In its places a file finds at the end what the work on this file alone would have left there
(`get?_foldl_advance_of_mem_places`), and all other locations are as before.  Neither mentions an order
(`get?_foldl_advance_perm`).

**The closed form.**  `IsDue` says which files are to be rewritten, in terms of reading and writing in the
tree at the start, and `ClosedForm` what the tree holds at the end.
-/

namespace DocStub.Files

open Source (Documented document)

variable {o : Options} {t t' : Tree} {p q : Path} {ps qs : List Path} {l : Location} {bytes : ByteArray}
  {text : List Char}

/-- The places that the work on a file can reach: its own, and that of its copy if one is kept. -/
def places (o : Options) (t : Tree) (p : Path) : List Location :=
  (t.place? p).toList ++ if o.keepsCopy then (t.place? (o.copyPath p)).toList else []

/-- The files have no place in common. -/
def Independent (o : Options) (t : Tree) (p q : Path) : Prop := (places o t p).Disjoint (places o t q)

/-- The file holds a text that documenting changes, and its copy can be stored if one is kept. -/
structure IsDue (o : Options) (t : Tree) (p : Path) (bytes : ByteArray) (text : List Char) : Prop where
  read : t.read p = .ok bytes
  decode : Text.decode? bytes = some text
  changed : (document text).isChanged = true
  room : o.keepsCopy = true → ∃ t', t.write (o.copyPath p) bytes = .ok t'

/-- `t'` is the tree `t` with the files of a list documented that are due.  Such a file holds its documented
text, and its copy, if one is kept, its old bytes.  Whatever else there is or is not, is as before. -/
structure ClosedForm (o : Options) (t : Tree) (ps : List Path) (t' : Tree) : Prop where
  file : ∀ p ∈ ps, ∀ bytes text, IsDue o t p bytes text →
    t'.read p = .ok (Text.encode (document text).text)
  copy : o.keepsCopy = true → ∀ p ∈ ps, ∀ bytes text, IsDue o t p bytes text →
    t'.read (o.copyPath p) = .ok bytes
  elsewhere : ∀ l, (∀ p ∈ ps, ∀ bytes text, IsDue o t p bytes text → t.place? p ≠ some l ∧
    (o.keepsCopy = true → t.place? (o.copyPath p) ≠ some l)) → t'.get? l = t.get? l

/-! ## Places -/

lemma mem_places_iff : l ∈ places o t p ↔
    t.place? p = some l ∨ o.keepsCopy = true ∧ t.place? (o.copyPath p) = some l := by
  rw [places, List.mem_append, Option.mem_toList]
  refine or_congr_right ?_
  split_ifs with hkeeps <;> simp [hkeeps]

lemma mem_places_of_mem_touched (h : l ∈ (verdict o t p).touched) : l ∈ places o t p := by
  obtain ⟨k, copy?, old, new, hv, h⟩ := Verdict.mem_touched_iff.mp h
  obtain ⟨hplace, -, hcopy, -⟩ := verdict_eq_rewrites_iff.mp hv
  rw [mem_places_iff]
  rcases h with rfl | rfl
  · obtain ⟨hkeeps, hcopyplace, -⟩ := copyPlace?_eq_some_some_iff.mp hcopy
    exact Or.inr ⟨hkeeps, hcopyplace⟩
  · exact Or.inl hplace

lemma places_advance (o : Options) (t : Tree) (q p : Path) :
    places o (advance o t q) p = places o t p := by
  rw [places, places, place?_advance, place?_advance]

lemma Independent.symm (h : Independent o t p q) : Independent o t q p := List.Disjoint.symm h

lemma pairwise_independent_advance (h : ps.Pairwise (Independent o t)) (q : Path) :
    ps.Pairwise (Independent o (advance o t q)) :=
  h.imp fun h => by rwa [Independent, places_advance, places_advance]

/-- Different files, none of them in the place of another one's copy, are independent. -/
lemma pairwise_independent (hfree : t.LinkFree) (hsuffix : o.keepsCopy = true → '/' ∉ o.copySuffix)
    (hfiles : ∀ p ∈ ps, t.isFile p = true) (hapart : ps.Pairwise (Apart t))
    (hcopies : o.keepsCopy = true →
      ∀ p ∈ ps, ∀ q ∈ ps, p ≠ q → t.place? (o.copyPath p) ≠ t.place? q) :
    ps.Pairwise (Independent o t) := by
  refine hapart.imp_of_mem fun {p q} hp hq h => ?_
  obtain ⟨k, kbytes, hk, hknode⟩ := (Tree.isFile_iff hfree).mp (hfiles p hp)
  obtain ⟨m, mbytes, hm, hmnode⟩ := (Tree.isFile_iff hfree).mp (hfiles q hq)
  have hne : p ≠ q := by
    rintro rfl
    exact h k hk hk
  intro l hl hl'
  rcases mem_places_iff.mp hl with hp' | ⟨hkeeps, hp'⟩ <;>
    rcases mem_places_iff.mp hl' with hq' | ⟨hkeeps, hq'⟩
  · exact h l hp' hq'
  · exact hcopies hkeeps q hq p hp hne.symm (hq'.trans hp'.symm)
  · exact hcopies hkeeps p hp q hq hne (hp'.trans hq'.symm)
  · -- both copies have this place, and so the files have one place
    have hlk := Tree.place?_append hk (Tree.isDirectoryAt_of_file hknode) (hsuffix hkeeps) hp'
    have hlm := Tree.place?_append hm (Tree.isDirectoryAt_of_file hmnode) (hsuffix hkeeps) hq'
    obtain rfl : k = m := suffixed_injective _ (hlk.symm.trans hlm)
    exact h k hk hm

/-! ## One step -/

/-- Independent work does not reach the places of a file. -/
lemma Independent.get?_advance (h : Independent o t p q) (hl : l ∈ places o t p) :
    (advance o t q).get? l = t.get? l :=
  Files.get?_advance fun hmem => h hl (mem_places_of_mem_touched hmem)

lemma Independent.read_advance (hfree : t.LinkFree) (h : Independent o t p q) :
    (advance o t q).read p = .ok bytes ↔ t.read p = .ok bytes :=
  read_advance_eq_ok_iff hfree fun _ hplace hmem =>
    h (mem_places_iff.mpr (Or.inl hplace)) (mem_places_of_mem_touched hmem)

lemma Independent.isFile_advance (hfree : t.LinkFree) (h : Independent o t p q)
    (hfile : t.isFile p = true) : (advance o t q).isFile p = true := by
  rw [Tree.isFile_iff_exists_read] at hfile ⊢
  exact hfile.imp fun _ => (h.read_advance hfree).mpr

lemma Independent.verdict_advance (h : Independent o t p q) :
    verdict o (advance o t q) p = verdict o t p :=
  verdict_congr (isDirectoryAt_advance o t q) fun _ hplace =>
    h.get?_advance (mem_places_iff.mpr (Or.inl hplace))

/-- What a verdict leaves at a location depends on nothing but what is there. -/
lemma Verdict.get?_tree_congr (h : t'.get? l = t.get? l) (v : Verdict) :
    (v.tree t').get? l = (v.tree t).get? l := by
  cases v with
  | fails => exact h
  | rests => exact h
  | rewrites place copy? old new =>
      refine Tree.get?_insert_congr ?_ _ _
      cases copy? with
      | none => exact h
      | some k => exact Tree.get?_insert_congr h _ _

/-- After independent work a file is worked on as before. -/
lemma Independent.get?_advance_advance (h : Independent o t p q) (hl : l ∈ places o t p) :
    (advance o (advance o t q) p).get? l = (advance o t p).get? l := by
  rw [advance, h.verdict_advance]
  exact Verdict.get?_tree_congr (h.get?_advance hl) _

/-! ## A run -/

/-- Every file of an independent list meets the verdict that it has at the start. -/
lemma verdicts_of_pairwise (h : ps.Pairwise (Independent o t)) :
    verdicts o t ps = ps.map (verdict o t) := by
  induction ps generalizing t with
  | nil => rfl
  | cons p ps ih =>
      obtain ⟨hfront, hrest⟩ := List.pairwise_cons.mp h
      rw [verdicts, ih (pairwise_independent_advance hrest p), List.map_cons]
      exact congrArg _ (List.map_congr_left fun q hq => (hfront q hq).symm.verdict_advance)

/-- What no file is to be written to stays. -/
lemma get?_foldl_advance_of_forall (h : ps.Pairwise (Independent o t))
    (hl : ∀ p ∈ ps, l ∉ (verdict o t p).touched) : (ps.foldl (advance o) t).get? l = t.get? l := by
  refine get?_foldl_advance ?_
  rw [verdicts_of_pairwise h]
  exact List.forall_mem_map.mpr hl

/-- The places of a file hold at the end what the work on this file leaves there. -/
lemma get?_foldl_advance_of_mem_places (h : ps.Pairwise (Independent o t)) (hp : p ∈ ps)
    (hl : l ∈ places o t p) : (ps.foldl (advance o) t).get? l = (advance o t p).get? l := by
  induction ps generalizing t with
  | nil => exact absurd hp List.not_mem_nil
  | cons q ps ih =>
      obtain ⟨hfront, hrest⟩ := List.pairwise_cons.mp h
      have hnext := pairwise_independent_advance hrest q
      rw [List.foldl_cons]
      rcases List.mem_cons.mp hp with rfl | hp
      · refine get?_foldl_advance_of_forall hnext fun r hr hmem => ?_
        rw [(hfront r hr).symm.verdict_advance] at hmem
        exact hfront r hr hl (mem_places_of_mem_touched hmem)
      · rw [ih hnext hp (by rwa [places_advance])]
        exact (hfront p hp).symm.get?_advance_advance hl

/-- The order of an independent list does not matter. -/
lemma get?_foldl_advance_perm (h : ps.Pairwise (Independent o t)) (hperm : qs.Perm ps) :
    (qs.foldl (advance o) t).get? = (ps.foldl (advance o) t).get? := by
  have hqs : qs.Pairwise (Independent o t) :=
    (hperm.pairwise_iff fun h => h.symm).mpr h
  funext l
  by_cases hl : ∃ p ∈ ps, l ∈ places o t p
  · obtain ⟨p, hp, hl⟩ := hl
    rw [get?_foldl_advance_of_mem_places h hp hl,
      get?_foldl_advance_of_mem_places hqs (hperm.mem_iff.mpr hp) hl]
  · have hnone : ∀ p ∈ ps, l ∉ (verdict o t p).touched :=
      fun p hp hmem => hl ⟨p, hp, mem_places_of_mem_touched hmem⟩
    rw [get?_foldl_advance_of_forall h hnone,
      get?_foldl_advance_of_forall hqs fun p hp => hnone p (hperm.mem_iff.mp hp)]

/-- Every file of an independent list fares as it would alone. -/
lemma outcomes_updateAll_of_pairwise (hfree : t.LinkFree) (hwrites : o.isDryRun = false)
    (hsuffix : o.keepsCopy = true → '/' ∉ o.copySuffix) (hfiles : ∀ p ∈ ps, t.isFile p = true)
    (h : ps.Pairwise (Independent o t)) :
    (updateAll o t ps).map (fun s => (s.path, s.outcome)) =
      ps.map fun p => (p, (update o t p).outcome) := by
  induction ps generalizing t with
  | nil => rfl
  | cons p ps ih =>
      obtain ⟨hfront, hrest⟩ := List.pairwise_cons.mp h
      have hnext := linkFree_advance hfree o p
      have hdirs := isDirectoryAt_advance o t p
      have hnextFiles : ∀ q ∈ ps, (advance o t p).isFile q = true := fun q hq =>
        (hfront q hq).symm.isFile_advance hfree (hfiles q (List.mem_cons_of_mem p hq))
      rw [updateAll_cons, List.map_cons, List.map_cons, path_update, (update_eq_verdict hfree hwrites p).2,
        ih hnext hnextFiles (pairwise_independent_advance hrest p)]
      congr 1
      refine List.map_congr_left fun q hq => ?_
      obtain ⟨l, bytes, hplace, hnode⟩ :=
        (Tree.isFile_iff hfree).mp (hfiles q (List.mem_cons_of_mem p hq))
      have hnode' : (advance o t p).get? l = some (.file bytes) := by
        rw [(hfront q hq).symm.get?_advance (mem_places_iff.mpr (Or.inl hplace)), hnode]
      rw [outcome_update_congr hfree hnext hdirs hsuffix hplace hnode hnode']

/-! ## The closed form -/

/-- The files that are due are those whose verdict is to rewrite them. -/
lemma isDue_iff (hfree : t.LinkFree) : IsDue o t p bytes text ↔
    Text.decode? bytes = some text ∧
      ∃ l copy?, verdict o t p = .rewrites l copy? bytes (document text) := by
  constructor
  · rintro ⟨hread, htext, hchanged, hroom⟩
    obtain ⟨l, hplace, hnode⟩ := (Tree.read_eq_ok_iff hfree).mp hread
    obtain ⟨copy?, hcopy⟩ := (exists_copyPlace?_iff hfree bytes).mpr hroom
    exact ⟨htext, l, copy?, verdict_eq_rewrites_iff.mpr ⟨hplace, hnode, hcopy, text, htext, hchanged, rfl⟩⟩
  · rintro ⟨htext, l, copy?, hv⟩
    obtain ⟨hplace, hnode, hcopy, text', htext', hchanged, -⟩ := verdict_eq_rewrites_iff.mp hv
    obtain rfl : text = text' := Option.some.inj (htext.symm.trans htext')
    exact ⟨(Tree.read_eq_ok_iff hfree).mpr ⟨l, hplace, hnode⟩, htext, hchanged,
      (exists_copyPlace?_iff hfree bytes).mp ⟨copy?, hcopy⟩⟩

/-- They are the files that are reported as written. -/
lemma isWritten_iff_isDue (hfree : t.LinkFree) (hwrites : o.isDryRun = false) :
    (update o t p).IsWritten ↔ ∃ bytes text, IsDue o t p bytes text := by
  rw [isWritten_update_iff hfree hwrites]
  constructor
  · rintro ⟨l, copy?, old, new, hv⟩
    obtain ⟨-, -, -, text, htext, -, rfl⟩ := verdict_eq_rewrites_iff.mp hv
    exact ⟨old, text, (isDue_iff hfree).mpr ⟨htext, l, copy?, hv⟩⟩
  · rintro ⟨bytes, text, hdue⟩
    obtain ⟨-, l, copy?, hv⟩ := (isDue_iff hfree).mp hdue
    exact ⟨l, copy?, bytes, document text, hv⟩

lemma closedForm_foldl_advance (hfree : t.LinkFree) (hne : o.copySuffix ≠ []) (hsuffix : '/' ∉ o.copySuffix)
    (h : ps.Pairwise (Independent o t)) : ClosedForm o t ps (ps.foldl (advance o) t) := by
  have hend := linkFree_foldl_advance hfree o ps
  have hplaces : ∀ q, (ps.foldl (advance o) t).place? q = t.place? q :=
    Tree.place?_congr (isDirectoryAt_foldl_advance o t ps)
  refine ⟨fun p hp bytes text hdue => ?_, fun hkeeps p hp bytes text hdue => ?_, fun l hl => ?_⟩
  · obtain ⟨-, l, copy?, hv⟩ := (isDue_iff hfree).mp hdue
    obtain ⟨hplace, -⟩ := verdict_eq_rewrites_iff.mp hv
    rw [Tree.read_eq_ok_iff_of_place? hend ((hplaces p).trans hplace),
      get?_foldl_advance_of_mem_places h hp (mem_places_iff.mpr (Or.inl hplace)), get?_advance_self hv]
  · obtain ⟨-, l, copy?, hv⟩ := (isDue_iff hfree).mp hdue
    obtain ⟨hplace, hnode, -⟩ := verdict_eq_rewrites_iff.mp hv
    obtain ⟨rfl, hcopy⟩ := copy_of_verdict hkeeps hsuffix hv
    have hother : suffixed o.copySuffix l ≠ l :=
      suffixed_ne_self hne (Tree.ne_nil_of_isDirectoryAt (Tree.isDirectoryAt_of_file hnode))
    rw [Tree.read_eq_ok_iff_of_place? hend ((hplaces _).trans hcopy),
      get?_foldl_advance_of_mem_places h hp (mem_places_iff.mpr (Or.inr ⟨hkeeps, hcopy⟩)),
      get?_advance_copy hv hother]
  · refine get?_foldl_advance_of_forall h fun p hp hmem => ?_
    obtain ⟨k, copy?, old, new, hv, -⟩ := Verdict.mem_touched_iff.mp hmem
    obtain ⟨-, -, -, text, htext, -, rfl⟩ := verdict_eq_rewrites_iff.mp hv
    obtain ⟨hfile, hcopy⟩ := hl p hp old text ((isDue_iff hfree).mpr ⟨htext, k, copy?, hv⟩)
    rcases mem_places_iff.mp (mem_places_of_mem_touched hmem) with hplace | ⟨hkeeps, hplace⟩
    · exact hfile hplace
    · exact hcopy hkeeps hplace

/-- **A run in closed form.**  Different files, none of them in the place of another one's copy, are
documented where they are due and copied before, and nothing else changes.  Every file fares as it would
alone, and is reported as written if it is due.  So the files can be listed in any order. -/
theorem closedForm_updateAll (o : Options) (t : Tree) (ps : List Path) (hfree : t.LinkFree)
    (hwrites : o.isDryRun = false) (hne : o.copySuffix ≠ []) (hsuffix : '/' ∉ o.copySuffix)
    (hfiles : ∀ p ∈ ps, t.isFile p = true) (hapart : ps.Pairwise (Apart t))
    (hcopies : ∀ p ∈ ps, ∀ q ∈ ps, p ≠ q → t.place? (o.copyPath p) ≠ t.place? q) :
    ClosedForm o t ps (treeAfter t (updateAll o t ps)) ∧
      (updateAll o t ps).map (fun s => (s.path, s.outcome)) =
        ps.map (fun p => (p, (update o t p).outcome)) ∧
      (∀ p ∈ ps, (update o t p).IsWritten ↔ ∃ bytes text, IsDue o t p bytes text) ∧
      ∀ qs : List Path, qs.Perm ps →
        (treeAfter t (updateAll o t qs)).get? = (treeAfter t (updateAll o t ps)).get? ∧
        ((updateAll o t qs).map fun s => (s.path, s.outcome)).Perm
          ((updateAll o t ps).map fun s => (s.path, s.outcome)) := by
  have hind := pairwise_independent hfree (fun _ => hsuffix) hfiles hapart fun _ => hcopies
  have halone := outcomes_updateAll_of_pairwise hfree hwrites (fun _ => hsuffix) hfiles hind
  refine ⟨?_, halone, fun p _ => isWritten_iff_isDue hfree hwrites, fun qs hperm => ⟨?_, ?_⟩⟩
  · rw [treeAfter_updateAll hfree hwrites]
    exact closedForm_foldl_advance hfree hne hsuffix hind
  · rw [treeAfter_updateAll hfree hwrites, treeAfter_updateAll hfree hwrites,
      get?_foldl_advance_perm hind hperm]
  · have hqs : qs.Pairwise (Independent o t) := (hperm.pairwise_iff fun h => h.symm).mpr hind
    have hqfiles : ∀ q ∈ qs, t.isFile q = true := fun q hq => hfiles q (hperm.mem_iff.mp hq)
    rw [halone, outcomes_updateAll_of_pairwise hfree hwrites (fun _ => hsuffix) hqfiles hqs]
    exact hperm.map _

/-- A file that is due, one that holds no text, and one whose copy finds a directory in its place. -/
def mixedFiles : Tree :=
  { entries :=
      [(["A.java".toList], .file (Text.encode "int x;\n".toList)),
        (["B.java".toList], .file ⟨#[0xFF]⟩),
        (["C.java".toList], .file (Text.encode "long y;\n".toList)),
        (["C.java.backup".toList], .directory)] }

/-- The paths of the files. -/
def mixedPaths : List Path := [⟨"C.java".toList⟩, ⟨"./B.java".toList⟩, ⟨"A.java".toList⟩]

lemma linkFree_mixedFiles : mixedFiles.LinkFree := by
  refine Tree.linkFree_of_entries fun e he target => ?_
  simp only [mixedFiles, List.mem_cons, List.not_mem_nil, or_false] at he
  rcases he with rfl | rfl | rfl | rfl <;> exact Node.noConfusion

lemma isFile_of_mem_mixedPaths : ∀ p ∈ mixedPaths, mixedFiles.isFile p = true := by
  intro p hp
  simp only [mixedPaths, List.mem_cons, List.not_mem_nil, or_false] at hp
  rw [Tree.isFile_iff linkFree_mixedFiles]
  rcases hp with rfl | rfl | rfl
  · exact ⟨["C.java".toList], _, by decide, rfl⟩
  · exact ⟨["B.java".toList], _, by decide, rfl⟩
  · exact ⟨["A.java".toList], _, by decide, rfl⟩

lemma pairwise_apart_mixedPaths : mixedPaths.Pairwise (Apart mixedFiles) := by
  have hplaces : mixedPaths.map mixedFiles.place? =
      [["C.java".toList], ["B.java".toList], ["A.java".toList]].map some := by decide
  exact pairwise_apart_of_nodup hplaces (by decide)

theorem closedForm_updateAll_mixedFiles :
    mixedFiles.LinkFree ∧ ({} : Options).copySuffix ≠ [] ∧ '/' ∉ ({} : Options).copySuffix ∧
      (∀ p ∈ mixedPaths, mixedFiles.isFile p = true) ∧ mixedPaths.Pairwise (Apart mixedFiles) ∧
      (∀ p ∈ mixedPaths, ∀ q ∈ mixedPaths, p ≠ q →
        mixedFiles.place? (({} : Options).copyPath p) ≠ mixedFiles.place? q) ∧
      IsDue {} mixedFiles ⟨"A.java".toList⟩ (Text.encode "int x;\n".toList) "int x;\n".toList ∧
      let run := updateAll {} mixedFiles mixedPaths
      ClosedForm {} mixedFiles mixedPaths (treeAfter mixedFiles run) ∧
        run.map (fun s => (s.path, s.outcome)) =
          mixedPaths.map (fun p => (p, (update {} mixedFiles p).outcome)) ∧
        (∀ p ∈ mixedPaths,
          (update {} mixedFiles p).IsWritten ↔ ∃ bytes text, IsDue {} mixedFiles p bytes text) ∧
        ∀ qs : List Path, qs.Perm mixedPaths →
          (treeAfter mixedFiles (updateAll {} mixedFiles qs)).get? = (treeAfter mixedFiles run).get? ∧
          ((updateAll {} mixedFiles qs).map fun s => (s.path, s.outcome)).Perm
            (run.map fun s => (s.path, s.outcome)) := by
  have hcopies : ∀ p ∈ mixedPaths, ∀ q ∈ mixedPaths, p ≠ q →
      mixedFiles.place? (({} : Options).copyPath p) ≠ mixedFiles.place? q := by decide
  have hplace : mixedFiles.place? ⟨"A.java".toList⟩ = some ["A.java".toList] := by decide
  have hcopy : mixedFiles.place? (({} : Options).copyPath ⟨"A.java".toList⟩) =
      some ["A.java.backup".toList] := by decide
  have hdue : IsDue {} mixedFiles ⟨"A.java".toList⟩ (Text.encode "int x;\n".toList)
      "int x;\n".toList :=
    { read := (Tree.read_eq_ok_iff linkFree_mixedFiles).mpr ⟨_, hplace, rfl⟩
      decode := Text.decode?_encode _
      changed := by decide
      room := fun _ => ⟨_, (Tree.write_eq_ok_iff linkFree_mixedFiles).mpr ⟨_, hcopy, by decide, rfl⟩⟩ }
  exact ⟨linkFree_mixedFiles, by decide, by decide, isFile_of_mem_mixedPaths, pairwise_apart_mixedPaths,
    hcopies, hdue, closedForm_updateAll {} mixedFiles mixedPaths linkFree_mixedFiles rfl (by decide)
      (by decide) isFile_of_mem_mixedPaths pairwise_apart_mixedPaths hcopies⟩

end DocStub.Files

import DocStub.Proofs.Files.Run

/-!
# Running twice

A second run over the same files finds nothing to do, although the first one made new files, and although
a listed file may be the copy of another one.

**Order.**  A copy has its place behind the file, so in order of paths a file is worked on before its copy
is, and not written again (`not_mem_touched`).

**Settling.**  After the work on a file its verdict is settled, and the work on the files behind it keeps
this (`IsSettled.verdict_advance`).  So every verdict is settled at the end (`map_verdict_foldl_advance`).
-/

namespace DocStub.Files

variable {o : Options} {t : Tree} {p q : Path} {l : Location}

/-- Nothing is written to a file by the work on the files behind it. -/
lemma not_mem_touched (hp : p.IsPlain) (hq : q.IsPlain) (hsuffix : '/' ∉ o.copySuffix)
    (hbefore : p.isBefore q = true) (hplace : t.place? p = some l) :
    l ∉ (verdict o t q).touched := by
  intro hmem
  obtain ⟨k, hk, hlk⟩ := exists_of_mem_touched hsuffix hmem
  obtain ⟨s, rfl⟩ : ∃ s, l = suffixed s k := by
    rcases hlk with rfl | rfl
    · exact ⟨[], (suffixed_nil l).symm⟩
    · exact ⟨o.copySuffix, rfl⟩
  have horder := Path.isBefore_eq_false_of_suffixed (Path.components_eq_of_place? hp hplace)
    (Path.components_eq_of_place? hq hk)
  rw [hbefore] at horder
  exact Bool.noConfusion horder

/-- A settled verdict stays through the work on the files behind it. -/
lemma IsSettled.verdict_advance (h : IsSettled o t p) (hp : p.IsPlain) (hq : q.IsPlain)
    (hsuffix : '/' ∉ o.copySuffix) (horder : p = q ∨ p.isBefore q = true) :
    verdict o (advance o t q) p = verdict o t p := by
  rcases horder with rfl | hbefore
  · rw [verdict_advance_self, h]
  · refine verdict_congr (isDirectoryAt_advance o t q) fun l hplace => ?_
    exact get?_advance (not_mem_touched hp hq hsuffix hbefore hplace)

lemma Verdict.settled_settled (v : Verdict) : v.settled.settled = v.settled := by
  cases v <;> rfl

lemma IsSettled.verdict_foldl_advance (h : IsSettled o t p) (hp : p.IsPlain)
    (hsuffix : '/' ∉ o.copySuffix) {qs : List Path}
    (hqs : ∀ q ∈ qs, q.IsPlain ∧ (p = q ∨ p.isBefore q = true)) :
    verdict o (qs.foldl (advance o) t) p = verdict o t p := by
  induction qs generalizing t with
  | nil => rfl
  | cons q qs ih =>
      obtain ⟨⟨hq, horder⟩, hqs⟩ := List.forall_mem_cons.mp hqs
      have hstep := h.verdict_advance hp hq hsuffix horder
      have hnext : IsSettled o (advance o t q) p := by
        rw [IsSettled, hstep, h]
      rw [List.foldl_cons, ih hnext hqs, hstep]

lemma isSettled_advance_self (o : Options) (t : Tree) (p : Path) : IsSettled o (advance o t p) p := by
  rw [IsSettled, verdict_advance_self, Verdict.settled_settled]

/-- At the end of a run every verdict is settled. -/
lemma map_verdict_foldl_advance (hsuffix : '/' ∉ o.copySuffix) {ps : List Path}
    (hplain : ∀ p ∈ ps, p.IsPlain) (hsorted : ps.Pairwise fun p q => p = q ∨ p.isBefore q = true)
    (t : Tree) :
    ps.map (verdict o (ps.foldl (advance o) t)) = (verdicts o t ps).map Verdict.settled := by
  induction ps generalizing t with
  | nil => rfl
  | cons p ps ih =>
      obtain ⟨hp, hps⟩ := List.forall_mem_cons.mp hplain
      obtain ⟨hbehind, hsorted⟩ := List.pairwise_cons.mp hsorted
      have hend : verdict o (ps.foldl (advance o) (advance o t p)) p = (verdict o t p).settled := by
        rw [(isSettled_advance_self o t p).verdict_foldl_advance hp hsuffix
          fun q hq => ⟨hps q hq, hbehind q hq⟩, verdict_advance_self]
      rw [List.foldl_cons, List.map_cons, hend, ih hps hsorted, verdicts, List.map_cons]

/-! ## The second run -/

lemma foldl_advance_eq_self {ps : List Path}
    (h : ∀ p ∈ ps, IsSettled o t p) : ps.foldl (advance o) t = t := by
  induction ps with
  | nil => rfl
  | cons p ps ih =>
      obtain ⟨hp, hps⟩ := List.forall_mem_cons.mp h
      rw [List.foldl_cons, hp.advance_eq, ih hps]

lemma verdicts_eq_map {ps : List Path} (h : ∀ p ∈ ps, IsSettled o t p) :
    verdicts o t ps = ps.map (verdict o t) := by
  induction ps with
  | nil => rfl
  | cons p ps ih =>
      obtain ⟨hp, hps⟩ := List.forall_mem_cons.mp h
      rw [verdicts, hp.advance_eq, ih hps, List.map_cons]

/-- **The second of two runs does nothing.**  No file is written, and the same files fail. -/
theorem updateAll_updateAll (o : Options) (t : Tree) (ps : List Path) (hfree : t.LinkFree)
    (hwrites : o.isDryRun = false) (hsuffix : '/' ∉ o.copySuffix) (hplain : ∀ p ∈ ps, p.IsPlain)
    (hsorted : ps.Pairwise fun p q => p = q ∨ p.isBefore q = true) :
    let first := updateAll o t ps
    let second := updateAll o (treeAfter t first) ps
    treeAfter (treeAfter t first) second = treeAfter t first ∧
      (∀ s ∈ second, ∀ n, s.outcome ≠ .ok (.written n)) ∧
      second.map (fun s => (s.path, s.outcome.toOption.isNone)) =
        first.map (fun s => (s.path, s.outcome.toOption.isNone)) := by
  intro first second
  have hafter : treeAfter t first = ps.foldl (advance o) t := treeAfter_updateAll hfree hwrites ps
  have hstill : (treeAfter t first).LinkFree := hafter ▸ linkFree_foldl_advance hfree o ps
  have hend := map_verdict_foldl_advance hsuffix hplain hsorted t
  rw [← hafter] at hend
  have hsettled : ∀ p ∈ ps, IsSettled o (treeAfter t first) p := by
    intro p hp
    have hmem := List.mem_map_of_mem (f := verdict o (treeAfter t first)) hp
    rw [hend] at hmem
    obtain ⟨v, -, hv⟩ := List.mem_map.mp hmem
    rw [IsSettled, ← hv, Verdict.settled_settled]
  have hverdicts : verdicts o (treeAfter t first) ps = (verdicts o t ps).map Verdict.settled := by
    rw [verdicts_eq_map hsettled, hend]
  refine ⟨?_, fun s hs n hwritten => ?_, ?_⟩
  · rw [treeAfter_updateAll hstill hwrites, foldl_advance_eq_self hsettled]
  · have hmem := List.mem_map_of_mem (f := fun s : Step => (s.path, s.outcome.toOption)) hs
    rw [outcomes_updateAll hstill hwrites, hverdicts, List.map_map] at hmem
    obtain ⟨v, -, hv⟩ := List.mem_map.mp (List.of_mem_zip hmem).2
    rw [hwritten] at hv
    cases v <;> cases hv
  · rw [failures_updateAll hstill hwrites, failures_updateAll hfree hwrites, hverdicts, List.map_map]
    refine congrArg (ps.zip ·) (List.map_congr_left fun v _ => ?_)
    cases v <;> rfl

lemma isPlain_of_mem_besidePaths : ∀ p ∈ besidePaths, p.IsPlain := by
  intro p hp c hc
  simp only [besidePaths, List.mem_cons, List.not_mem_nil, or_false] at hp
  rcases hp with rfl | rfl
  · have hcomponents : Path.components ⟨"A.java".toList⟩ = [.name "A.java".toList] := by decide
    rw [hcomponents, List.mem_singleton] at hc
    exact ⟨_, hc⟩
  · have hcomponents : Path.components ⟨"A.java.backup".toList⟩ = [.name "A.java.backup".toList] := by
      decide
    rw [hcomponents, List.mem_singleton] at hc
    exact ⟨_, hc⟩

/-- Both files are listed, and the second one is the copy of the first. -/
theorem updateAll_updateAll_besideCopy :
    besideCopy.LinkFree ∧ (∀ p ∈ besidePaths, p.IsPlain) ∧
      (besidePaths.Pairwise fun p q => p = q ∨ p.isBefore q = true) ∧
      '/' ∉ ({} : Options).copySuffix ∧
      let first := updateAll {} besideCopy besidePaths
      let second := updateAll {} (treeAfter besideCopy first) besidePaths
      treeAfter (treeAfter besideCopy first) second = treeAfter besideCopy first ∧
        (∀ s ∈ second, ∀ n, s.outcome ≠ .ok (.written n)) ∧
        second.map (fun s => (s.path, s.outcome.toOption.isNone)) =
          first.map (fun s => (s.path, s.outcome.toOption.isNone)) := by
  have hsorted : besidePaths.Pairwise fun p q => p = q ∨ p.isBefore q = true := by decide
  have hsuffix : '/' ∉ ({} : Options).copySuffix := by decide
  exact ⟨linkFree_besideCopy, isPlain_of_mem_besidePaths, hsorted, hsuffix,
    updateAll_updateAll {} besideCopy besidePaths linkFree_besideCopy rfl hsuffix
      isPlain_of_mem_besidePaths hsorted⟩

end DocStub.Files

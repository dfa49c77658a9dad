import DocStub.Proofs.Files.Isolation

/-!
# The account of a run

A run takes the tree and the totals from file to file, and tells an observer what becomes of each of them.
What becomes of a file depends on the tree that the files before it left, so all of this is said of the run
and not of its files one by one.

**Reports.**  `Report` is what there is to say about one file.  Every report tells of a change, of nothing to
do or of a failure, and of one of them only (`Report.once`).

**Totals.**  `Totals.Tallies` says how totals go with reports.  One more report keeps it
(`Totals.Tallies.add`), and so it holds behind any sequence of reports (`tallies_ofOutcomes`).

**The loop.**  `Course.next` is the work on one more file.  Behind the last file, the observer was told of
every file in turn, and the totals are those of the reports (`course_eq`).

**Reports of a run.**  The report on a file is about the work in the tree at its turn (`getElem?_reports`), and
the files behind it do not matter (`reports_take`).  It tells of a change only if there are comments
(`one_le_comments_update`).
-/

namespace DocStub.Files

open Source (Documented document)

variable {ε σ : Type} {o : Options} {t : Tree} {p : Path} {ps : List Path}

/-- A file with what became of it. -/
abbrev Report (ε : Type) := Path × Except ε Outcome

namespace Report

/-- The number of new comments that a report tells of. -/
def comments (r : Report ε) : Nat :=
  match r.2 with
  | .ok x => x.comments
  | .error _ => 0

/-- The file was or would have been written. -/
def isChange (r : Report ε) : Bool :=
  match r.2 with
  | .ok (.written _) => true
  | .ok (.pending _) => true
  | _ => false

/-- There was nothing to document. -/
def isRest (r : Report ε) : Bool :=
  match r.2 with
  | .ok .untouched => true
  | _ => false

/-- The file with the failure that ended the work on it. -/
def failure? (r : Report ε) : Option (Path × ε) :=
  match r.2 with
  | .error e => some (r.1, e)
  | .ok _ => none

/-! ## Reports -/

lemma once (r : Report ε) : (if r.isChange then 1 else 0) + (if r.isRest then 1 else 0) +
    r.failure?.toList.length = 1 := by
  obtain ⟨p, outcome⟩ := r
  cases outcome with
  | error e => rfl
  | ok x => cases x <;> rfl

end Report

/-! ## Totals -/

namespace Totals

variable {s : Totals ε} {rs : List (Report ε)}

/-- The totals are those of some reports.  Every file is counted: it was changed, or there was nothing to do,
or the work on it failed.  The changed files are those that were or would have been written, and the failures
are listed in the order of the files. -/
structure Tallies (s : Totals ε) (rs : List (Report ε)) : Prop where
  files : s.files = rs.length
  parts : s.files = s.changed + rs.countP Report.isRest + s.failures.length
  changed : s.changed = rs.countP Report.isChange
  comments : s.comments = (rs.map Report.comments).sum
  failures : s.failures = rs.filterMap Report.failure?

lemma files_add (s : Totals ε) (r : Report ε) : (s.add r.1 r.2).files = s.files + 1 := by
  obtain ⟨p, outcome⟩ := r
  cases outcome with
  | error e => rfl
  | ok x => cases x <;> rfl

lemma changed_add (s : Totals ε) (r : Report ε) :
    (s.add r.1 r.2).changed = s.changed + if r.isChange then 1 else 0 := by
  obtain ⟨p, outcome⟩ := r
  cases outcome with
  | error e => rfl
  | ok x => cases x <;> rfl

lemma comments_add (s : Totals ε) (r : Report ε) :
    (s.add r.1 r.2).comments = s.comments + r.comments := by
  obtain ⟨p, outcome⟩ := r
  cases outcome with
  | error e => rfl
  | ok x => cases x <;> rfl

lemma failures_add (s : Totals ε) (r : Report ε) :
    (s.add r.1 r.2).failures = s.failures ++ r.failure?.toList := by
  obtain ⟨p, outcome⟩ := r
  cases outcome with
  | error e => rfl
  | ok x => cases x <;> exact (List.append_nil _).symm

/-- One more report is counted once. -/
lemma Tallies.add (h : s.Tallies rs) (r : Report ε) : (s.add r.1 r.2).Tallies (rs ++ [r]) where
  files := by rw [files_add, h.files, List.length_append, List.length_singleton]
  parts := by
    have honce := r.once
    rw [files_add, h.parts, changed_add, failures_add, List.countP_append, List.countP_singleton,
      List.length_append]
    omega
  changed := by rw [changed_add, h.changed, List.countP_append, List.countP_singleton]
  comments := by
    rw [comments_add, h.comments, List.map_append, List.sum_append, List.map_singleton,
      List.sum_singleton]
  failures := by
    rw [failures_add, h.failures, List.filterMap_append]
    cases hr : r.failure? <;> simp [hr]

/-- **Totals add up.** -/
theorem tallies_ofOutcomes (rs : List (Report ε)) : (ofOutcomes rs).Tallies rs := by
  induction rs using List.reverseRecOn with
  | nil => exact ⟨rfl, rfl, rfl, rfl, rfl⟩
  | append_singleton rs r ih =>
      rw [ofOutcomes, List.foldl_append]
      exact ih.add r

lemma Tallies.anyFailed_iff (h : s.Tallies rs) :
    s.anyFailed = true ↔ ∃ r ∈ rs, r.failure?.isSome = true := by
  rw [anyFailed, h.failures, Bool.not_eq_true', ← Bool.not_eq_true, List.isEmpty_iff,
    List.filterMap_eq_nil_iff]
  simp [Option.ne_none_iff_isSome]

end Totals

/-! ## The loop -/

/-- What a run takes from file to file: the tree that the files so far left, their totals, and the state of an
observer. -/
structure Course (σ : Type) where
  tree : Tree
  totals : Totals Failure
  seen : σ

/-- The work on one more file.  The observer is told what became of it, and it is counted. -/
def Course.next (o : Options) (tell : σ → Path → Except Failure Outcome → σ) (c : Course σ) (p : Path) :
    Course σ :=
  let outcome := (update o c.tree p).outcome
  { tree := (update o c.tree p).tree
    totals := c.totals.add p outcome
    seen := tell c.seen p outcome }

/-- A run with an observer that starts in the state `x`. -/
def course (o : Options) (tell : σ → Path → Except Failure Outcome → σ) (t : Tree) (x : σ)
    (ps : List Path) : Course σ :=
  ps.foldl (Course.next o tell) ⟨t, {}, x⟩

/-- What a run reports, file by file. -/
def reports (o : Options) (t : Tree) (ps : List Path) : List (Report Failure) :=
  (updateAll o t ps).map fun s => (s.path, s.outcome)

lemma reports_cons (o : Options) (t : Tree) (p : Path) (ps : List Path) :
    reports o t (p :: ps) = (p, (update o t p).outcome) :: reports o (update o t p).tree ps := by
  rw [reports, updateAll_cons, List.map_cons, path_update, reports]

/-- The work on the files, what is counted and what is told go in step. -/
lemma foldl_next (o : Options) (tell : σ → Path → Except Failure Outcome → σ) (c : Course σ)
    (ps : List Path) :
    ps.foldl (Course.next o tell) c =
      { tree := treeAfter c.tree (updateAll o c.tree ps)
        totals := (reports o c.tree ps).foldl (fun s r => s.add r.1 r.2) c.totals
        seen := (reports o c.tree ps).foldl (fun x r => tell x r.1 r.2) c.seen } := by
  induction ps generalizing c with
  | nil => rfl
  | cons p ps ih =>
      rw [List.foldl_cons, ih, updateAll_cons, treeAfter_cons, reports_cons]
      rfl

lemma course_eq (o : Options) (tell : σ → Path → Except Failure Outcome → σ) (t : Tree) (x : σ)
    (ps : List Path) :
    course o tell t x ps =
      { tree := treeAfter t (updateAll o t ps)
        totals := Totals.ofOutcomes (reports o t ps)
        seen := (reports o t ps).foldl (fun x r => tell x r.1 r.2) x } :=
  foldl_next o tell ⟨t, {}, x⟩ ps

/-! ## Reports of a run -/

/-- What is reported of the first files does not depend on those behind them. -/
lemma reports_take (o : Options) (t : Tree) (ps : List Path) (n : Nat) :
    reports o t (ps.take n) = (reports o t ps).take n := by
  induction ps generalizing t n with
  | nil => rw [List.take_nil, reports, updateAll_nil, List.map_nil, List.take_nil]
  | cons p ps ih =>
      cases n with
      | zero => rfl
      | succ n => rw [List.take_succ_cons, reports_cons, ih, reports_cons, List.take_succ_cons]

lemma getElem?_reports (o : Options) (t : Tree) (ps : List Path) (i : Nat) :
    (reports o t ps)[i]? = ps[i]?.map fun p =>
      (p, (update o (treeAfter t (updateAll o t (ps.take i))) p).outcome) := by
  induction ps generalizing t i with
  | nil => rfl
  | cons p ps ih =>
      rw [reports_cons]
      cases i with
      | zero => rfl
      | succ i =>
          rw [List.getElem?_cons_succ, List.getElem?_cons_succ, ih, List.take_succ_cons, updateAll_cons,
            treeAfter_cons]

lemma outcome_store {bytes : ByteArray} {d : Documented} {log : List Log.Record} {x : Outcome}
    (h : (store o t p bytes d log).outcome = .ok x) : x = .written d.blockCount := by
  rw [store] at h
  split at h
  · cases h
  · dsimp only at h
    split at h
    · cases h
    · exact (Except.ok.inj h).symm

/-- Only a text that changes leads to a change, and then there are comments to tell of. -/
lemma one_le_comments_update {x : Outcome} (hx : (update o t p).outcome = .ok x) :
    x = .untouched ∨ 1 ≤ x.comments := by
  rcases update_cases o t p with ⟨f, h⟩ | ⟨text, log, -, h⟩
  · rw [h] at hx
    cases hx
  · have hpos : (document text).isChanged = true → 1 ≤ (document text).blockCount := of_decide_eq_true
    rw [h] at hx
    split_ifs at hx with hchanged hdry
    · exact .inl (Except.ok.inj hx).symm
    · obtain rfl := Except.ok.inj hx
      exact .inr (hpos (by simpa using hchanged))
    · obtain rfl := outcome_store hx
      exact .inr (hpos (by simpa using hchanged))

lemma one_le_comments_of_mem_reports {r : Report Failure} (hr : r ∈ reports o t ps)
    (hchange : r.isChange = true) : 1 ≤ r.comments := by
  obtain ⟨i, hi⟩ := List.mem_iff_getElem?.mp hr
  rw [getElem?_reports, Option.map_eq_some_iff] at hi
  obtain ⟨p, -, rfl⟩ := hi
  cases houtcome : (update o (treeAfter t (updateAll o t (ps.take i))) p).outcome with
  | error f =>
      rw [houtcome] at hchange
      cases hchange
  | ok x =>
      rw [houtcome] at hchange
      rcases one_le_comments_update houtcome with rfl | hpos
      · cases hchange
      · exact hpos

/-- The account of a run.  An observer is told of the reports, one after the other, and of nothing else.
There is one report for each place of the list, on the work in the tree that the files before it left.  Behind
the first files of the list the totals are those of the first reports, and a report of a change tells of one
comment at least. -/
structure Accounted (o : Options) (t : Tree) (ps : List Path) : Prop where
  told : ∀ (σ : Type) (tell : σ → Path → Except Failure Outcome → σ) (x : σ),
    (course o tell t x ps).seen = (reports o t ps).foldl (fun x r => tell x r.1 r.2) x
  turns : ∀ i, (reports o t ps)[i]? = ps[i]?.map fun p =>
    (p, (update o (treeAfter t (updateAll o t (ps.take i))) p).outcome)
  totals : ∀ (n : Nat) (σ : Type) (tell : σ → Path → Except Failure Outcome → σ) (x : σ),
    (course o tell t x (ps.take n)).totals.Tallies ((reports o t ps).take n)
  positive : ∀ r ∈ reports o t ps, r.isChange = true → 1 ≤ r.comments

/-- **The account of a run.** -/
theorem accounted_updateAll (o : Options) (t : Tree) (ps : List Path) : Accounted o t ps where
  told σ tell x := by rw [course_eq]
  turns := getElem?_reports o t ps
  totals n σ tell x := by
    rw [course_eq, reports_take]
    exact Totals.tallies_ofOutcomes _
  positive _ := one_le_comments_of_mem_reports

end DocStub.Files

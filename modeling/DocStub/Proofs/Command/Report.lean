import DocStub.Command.Run
import DocStub.Proofs.Files.Canonical
import DocStub.Proofs.Files.Totals

/-!
# What the report adds up to

The report has a line on what became of each file, and ends with totals.  The totals are counted along the
run, and not from the lines.  They still come to what a reader of the lines would count.

**Lines.**  `numberIn` reads the number in a line.  The line on a file has the number of new comments in it
(`numberIn_outcomeLine`), and the work failed if the line says so (`outcomeLine_eq_failed_iff`).

**Totals.**  `sumLines` are totals that are counted from lines, and the totals of a run are those
(`totalLines_eq_sumLines`).  A file counts as changed by its number, since no file is changed without a
comment.

**The command.**  An argument that is refused ends the command before the first file, and then there is no
report.  Otherwise the report is as above, and the exit status tells whether some file failed.
-/

namespace DocStub.Command

open Files
open Text (decimal)

/-- The number in a line, zero if there is none. -/
def numberIn (line : List Char) : Nat := Nat.ofDigitChars 10 (line.filter Char.isDigit) 0

/-- The line on a file that failed. -/
def failedLine : List Char := "  failed".toList

/-- The totals as counted from the lines on the files. -/
def sumLines (isDryRun : Bool) (lines : List (List Char)) : List (List Char) :=
  let changed := lines.countP fun l => 0 < numberIn l
  let comments := (lines.map numberIn).sum
  let failed := lines.count failedLine
  [rule, "Files processed: ".toList ++ decimal lines.length] ++
    (if isDryRun then
      ["Files that would be updated: ".toList ++ decimal changed,
        "Doc comments that would be added: ".toList ++ decimal comments]
    else
      ["Files updated: ".toList ++ decimal changed, "Doc comments added: ".toList ++ decimal comments]) ++
    (if 0 < failed then ["Files failed: ".toList ++ decimal failed] else [])

/-- The steps that documenting the files of some settings takes.  There is none if an argument is refused. -/
def stepsFor (e : Environment) (s : Settings) : List Step :=
  match (survey e.tree s.extension s.paths).result with
  | .ok paths => updateAll s.options e.tree paths
  | .error _ => []

variable {e : Environment} {s : Settings}

/-! ## Lines -/

lemma numberIn_framed {a b : List Char} (ha : a.filter Char.isDigit = [])
    (hb : b.filter Char.isDigit = []) (n : Nat) : numberIn (a ++ (decimal n ++ b)) = n := by
  have hdigits : (decimal n).filter Char.isDigit = decimal n :=
    List.filter_eq_self.mpr fun c hc => Nat.isDigit_of_mem_toDigits (by decide) (by decide) hc
  rw [numberIn, List.filter_append, List.filter_append, ha, hb, hdigits, List.nil_append, List.append_nil]
  exact Nat.ofDigitChars_toDigits (by decide) (by decide)

lemma outcomeLine_written (n : Nat) :
    outcomeLine (.ok (.written n)) = "  added ".toList ++ (decimal n ++ " doc comment(s)".toList) :=
  List.append_assoc ..

lemma outcomeLine_pending (n : Nat) :
    outcomeLine (.ok (.pending n)) = "  would add ".toList ++ (decimal n ++ " doc comment(s)".toList) :=
  List.append_assoc ..

/-- The number in the line on a file is that of its new comments. -/
lemma numberIn_outcomeLine (r : Report Failure) : numberIn (outcomeLine r.2) = r.comments := by
  obtain ⟨p, outcome⟩ := r
  cases outcome with
  | error f =>
      have hline : numberIn "  failed".toList = 0 := by decide
      exact hline
  | ok x =>
      cases x with
      | written n =>
          dsimp only
          rw [outcomeLine_written]
          exact numberIn_framed rfl rfl n
      | pending n =>
          dsimp only
          rw [outcomeLine_pending]
          exact numberIn_framed rfl rfl n
      | untouched =>
          have hline : numberIn "  already documented or no changes needed".toList = 0 := by decide
          exact hline

lemma outcomeLine_eq_failed_iff (r : Report Failure) :
    outcomeLine r.2 = failedLine ↔ r.failure?.isSome = true := by
  have hother : ∀ a t : List Char, ¬ a <+: failedLine → a ++ t ≠ failedLine := fun a t ha h => ha ⟨t, h⟩
  obtain ⟨p, outcome⟩ := r
  cases outcome with
  | error f => exact iff_of_true rfl rfl
  | ok x =>
      refine iff_of_false ?_ Bool.false_ne_true
      cases x with
      | written n =>
          dsimp only
          rw [outcomeLine_written]
          exact hother _ _ (by decide)
      | pending n =>
          dsimp only
          rw [outcomeLine_pending]
          exact hother _ _ (by decide)
      | untouched =>
          have hline : "  already documented or no changes needed".toList ≠ failedLine := by decide
          exact hline

/-! ## Totals -/

/-- A file that was changed is one whose line has a number. -/
lemma isChange_iff {r : Report Failure} (hpos : r.isChange = true → 1 ≤ r.comments) :
    r.isChange = true ↔ 0 < numberIn (outcomeLine r.2) := by
  rw [numberIn_outcomeLine]
  refine ⟨hpos, fun h => ?_⟩
  obtain ⟨p, outcome⟩ := r
  cases outcome with
  | error f => exact absurd h (Nat.lt_irrefl 0)
  | ok x =>
      cases x with
      | written n => rfl
      | pending n => rfl
      | untouched => exact absurd h (Nat.lt_irrefl 0)

/-- Totals can be counted from the lines. -/
lemma totalLines_eq_sumLines {totals : Totals Failure} {rs : List (Report Failure)}
    (h : totals.Tallies rs) (hpos : ∀ r ∈ rs, r.isChange = true → 1 ≤ r.comments) (isDryRun : Bool) :
    totalLines isDryRun totals = sumLines isDryRun (rs.map fun r => outcomeLine r.2) := by
  have hfiles : totals.files = (rs.map fun r => outcomeLine r.2).length := by
    rw [h.files, List.length_map]
  have hchanged : totals.changed = (rs.map fun r => outcomeLine r.2).countP fun l => 0 < numberIn l := by
    rw [h.changed, List.countP_map]
    exact List.countP_congr fun r hr => by simpa using isChange_iff (hpos r hr)
  have hcomments : totals.comments = ((rs.map fun r => outcomeLine r.2).map numberIn).sum := by
    rw [h.comments, List.map_map]
    exact congrArg List.sum (List.map_congr_left fun r _ => (numberIn_outcomeLine r).symm)
  have hfailures : totals.failures.length = (rs.map fun r => outcomeLine r.2).count failedLine := by
    rw [h.failures, List.length_filterMap_eq_countP, List.count, List.countP_map]
    exact List.countP_congr fun r _ => by simpa using (outcomeLine_eq_failed_iff r).symm
  have hany : totals.anyFailed = true ↔ 0 < (rs.map fun r => outcomeLine r.2).count failedLine := by
    simp only [h.anyFailed_iff, List.count_pos_iff, List.mem_map, outcomeLine_eq_failed_iff]
  simp only [totalLines, sumLines, hfiles, hchanged, hcomments, hfailures, hany]

/-! ## The command -/

/-- What there is to say about the report and the exit status of documenting files.  The status tells whether
an argument is refused, malformed or unlistable, or the work on some file failed, and nothing else.  A refused
argument ends the command before the first file and without a report.  Otherwise all paths that were found are
worked on, and the report has the lines on the files, unless it is to be quiet, and the totals that can be
counted from these lines. -/
structure AddsUp (e : Environment) (s : Settings) (r : Result) : Prop where
  status : r.status = 1 ↔
    (∃ a ∈ s.paths, IsRefused e.tree a) ∨ ∃ step ∈ stepsFor e s, step.hasFailed = true
  status_cases : r.status = 0 ∨ r.status = 1
  refused : (∃ a ∈ s.paths, IsRefused e.tree a) →
    stepsFor e s = [] ∧ r.output = [] ∧ r.tree = e.tree ∧ r.writes = []
  steps : (∀ a ∈ s.paths, ¬ IsRefused e.tree a) →
    ∃ paths, (survey e.tree s.extension s.paths).result = .ok paths ∧
      stepsFor e s = updateAll s.options e.tree paths
  output : (∀ a ∈ s.paths, ¬ IsRefused e.tree a) →
    r.output = unlines ((if s.isQuiet then [] else
        ["Scanning: ".toList ++ List.intercalate ", ".toList s.paths, rule] ++
          (stepsFor e s).flatMap fun step =>
            ["Processing: ".toList ++ step.path.fileName?.getD step.path.spelling,
              outcomeLine step.outcome]) ++
      sumLines s.isDryRun ((stepsFor e s).map fun step => outcomeLine step.outcome))

lemma anyFailed_iff (steps : List Step) :
    (Totals.ofSteps steps).anyFailed = true ↔ ∃ step ∈ steps, step.hasFailed = true := by
  have hfailed : ∀ step : Step, (Report.failure? (step.path, step.outcome)).isSome = step.hasFailed := by
    intro step
    rw [Step.hasFailed, Report.failure?]
    cases step.outcome <;> rfl
  rw [Totals.ofSteps, (Totals.tallies_ofOutcomes _).anyFailed_iff]
  simp [hfailed]

/-- The totals of a run are those that its lines add up to. -/
lemma totalLines_ofSteps (isDryRun : Bool) (o : Options) (t : Tree) (ps : List Path) :
    totalLines isDryRun (Totals.ofSteps (updateAll o t ps)) =
      sumLines isDryRun ((updateAll o t ps).map fun step => outcomeLine step.outcome) := by
  have hsums := totalLines_eq_sumLines (Totals.tallies_ofOutcomes (reports o t ps))
    (fun _ => one_le_comments_of_mem_reports) isDryRun
  rw [reports, List.map_map] at hsums
  exact hsums

/-- What ends the search is reported in place of everything else. -/
lemma addsUp_of_refused {f : Log.Filter} {warnings : List Char} {b : Obstacle}
    (hfound : (survey e.tree s.extension s.paths).result = .error b) :
    AddsUp e s (documentFiles e s f warnings) := by
  have hbad : ∃ a ∈ s.paths, IsRefused e.tree a := exists_result_survey_eq_error_iff.mp ⟨b, hfound⟩
  have hfine : ¬ ∀ a ∈ s.paths, ¬ IsRefused e.tree a := by
    obtain ⟨a, ha, hrefused⟩ := hbad
    exact fun h => h a ha hrefused
  have hsteps : stepsFor e s = [] := by rw [stepsFor, hfound]
  simp only [documentFiles, hfound]
  exact
    { status := iff_of_true rfl (.inl hbad)
      status_cases := .inr rfl
      refused := fun _ => ⟨hsteps, rfl, rfl, rfl⟩
      steps := fun h => absurd h hfine
      output := fun h => absurd h hfine }

/-- The files that were found are documented and reported on. -/
lemma addsUp_of_found {f : Log.Filter} {warnings : List Char} {paths : List Path}
    (hfound : (survey e.tree s.extension s.paths).result = .ok paths) :
    AddsUp e s (documentFiles e s f warnings) := by
  have hfine : ¬ ∃ a ∈ s.paths, IsRefused e.tree a := by
    intro hbad
    obtain ⟨b, hb⟩ : ∃ b, (survey e.tree s.extension s.paths).result = .error b :=
      exists_result_survey_eq_error_iff.mpr hbad
    cases hfound.symm.trans hb
  have hsteps : stepsFor e s = updateAll s.options e.tree paths := by rw [stepsFor, hfound]
  have hfailed := anyFailed_iff (updateAll s.options e.tree paths)
  simp only [documentFiles, hfound]
  refine
    { status := ?_
      status_cases := ?_
      refused := fun h => absurd h hfine
      steps := fun _ => ⟨paths, hfound, hsteps⟩
      output := fun _ => ?_ }
  · rw [hsteps, ← hfailed, or_iff_right hfine]
    simp
  · split_ifs
    · exact .inr rfl
    · exact .inl rfl
  · rw [hsteps, report, totalLines_ofSteps]
    rfl

/-- **The account of a command.**  A run tells its observer of every file, in order, and counts what it tells
of.  The report has the same totals, which can be counted from its lines on the files, and the exit status
tells whether some file failed, or an argument is refused and no file was worked on. -/
theorem accounted_and_addsUp (o : Options) (t : Tree) (ps : List Path) (e : Environment) (s : Settings)
    (f : Log.Filter) (warnings : List Char) :
    Accounted o t ps ∧ AddsUp e s (documentFiles e s f warnings) := by
  refine ⟨accounted_updateAll o t ps, ?_⟩
  cases hfound : (survey e.tree s.extension s.paths).result with
  | error b => exact addsUp_of_refused hfound
  | ok paths => exact addsUp_of_found hfound

/-- A pattern with an open bracket ends the command with the status of a failure, and no file failed. -/
theorem not_status_iff_hasFailed_open_bracket :
    let e : Environment := ⟨["[".toList], .empty, none, {}⟩
    let s : Settings := { paths := ["[".toList] }
    Request.parse e.arguments = .work s ∧ (run e).output = [] ∧
      ¬ ((run e).status = 1 ↔ ∃ step ∈ stepsFor e s, step.hasFailed = true) := by
  intro e s
  have hparse : Request.parse e.arguments = .work s := by decide
  have hfree : e.tree.LinkFree := Tree.linkFree_of_entries fun x hx => absurd hx List.not_mem_nil
  have hplace : e.tree.place? ⟨"[".toList⟩ = some ["[".toList] := by decide
  have hmalformed : IsMalformed e.tree "[".toList := by
    refine ⟨?_, Tree.isDirectory_eq_of_place? hfree hplace, .unclosedSet 0, by cbv⟩
    rw [Bool.eq_false_iff]
    intro hfile
    obtain ⟨l, bytes, hl, hnode⟩ := (Tree.isFile_iff hfree).mp hfile
    obtain rfl := Option.some.inj (hplace.symm.trans hl)
    cases hnode
  have hbad : ∃ a ∈ s.paths, IsRefused e.tree a := ⟨_, List.mem_singleton_self _, .inl hmalformed⟩
  obtain ⟨b, hfound⟩ : ∃ b, (survey e.tree s.extension s.paths).result = .error b :=
    exists_result_survey_eq_error_iff.mpr hbad
  have hsum : AddsUp e s (run e) := by
    rw [run, hparse]
    exact addsUp_of_refused hfound
  obtain ⟨hsteps, houtput, -⟩ := hsum.refused hbad
  refine ⟨hparse, houtput, fun hiff => ?_⟩
  obtain ⟨step, hstep, -⟩ := hiff.mp (hsum.status.mpr (.inl hbad))
  rw [hsteps] at hstep
  exact absurd hstep List.not_mem_nil

end DocStub.Command

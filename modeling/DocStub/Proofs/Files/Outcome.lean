import DocStub.Proofs.Files.Run

/-!
# What an outcome depends on

What becomes of a file is decided by its bytes and by the directories of the tree, and so is the fault that
a failure reports.  This is not so for all paths: a path that goes on behind a missing file fails in another
way once the file is there.  The path of a copy does not go on behind a file.  Up to its last name it leads
through the directories that lead to the file.

**Following.**  `follow_create_congr`: trees with the same directories agree on what is in the way of such a
path, and so they agree on whether and why nothing can be written there (`write_eq_error_iff_congr`).

**Outcomes.**  `outcome_update_congr`: they agree on what becomes of a file that they agree on.
-/

namespace DocStub.Files

open Source (Documented document)
open Text (utf8Length)

namespace Tree

variable {t t' : Tree} {p q : Path} {l loc : Location} {bytes : ByteArray} {s : List Char}

/-! ## Following -/

/-- The last piece of a path leads to the same place, whatever is there. -/
lemma follow_create_singleton (hfree : t.LinkFree) (links : Nat) (loc : Location) (piece : List Char) :
    t.follow .create links loc [piece] =
      if !t.isDirectoryAt loc then .error .notDirectory
      else if piece = ['.', '.'] ∧ loc = [] then .error .notFound
      else if isStep piece ∧ nameLimit < utf8Length piece then .error .nameTooLong
      else .ok (next loc piece) := by
  have hend : ∀ k, t.follow .create links k [] = .ok k := fun k => by rw [follow]
  have hdots : isStep ['.', '.'] = false := rfl
  rw [follow, next]
  by_cases hup : piece = ['.', '.']
  · simp [hup, hdots, hend]
  · by_cases hstep : isStep piece = true
    · cases hnode : t.get? (loc ++ [piece]) with
      | none => simp [hup, hstep]
      | some node =>
          cases node with
          | link target => exact absurd hnode (hfree _ target)
          | file bytes => simp [hup, hstep, hend]
          | directory => simp [hup, hstep, hend]
    · simp [hup, hstep, hend]

/-- What is in the way of a path next to a file depends on the directories alone. -/
lemma follow_create_congr (hfree : t.LinkFree) (hfree' : t'.LinkFree)
    (hdirs : t'.isDirectoryAt = t.isDirectoryAt) (links : Nat) {front : List (List Char)}
    {last : List Char} (h : reach? t.isDirectoryAt loc (front ++ [last]) = some l) (piece : List Char) :
    t'.follow .create links loc (front ++ [piece]) = t.follow .create links loc (front ++ [piece]) := by
  induction front generalizing loc with
  | nil => rw [List.nil_append, follow_create_singleton hfree, follow_create_singleton hfree', hdirs]
  | cons first front ih =>
      obtain ⟨hdir, -, hrest⟩ := reach?_cons h
      have hnext := ih hrest
      rw [List.cons_append, follow, follow, hdirs]
      by_cases hup : first = ['.', '.']
      · rw [next, if_pos hup] at hnext
        rw [if_pos hup, if_pos hup, hnext]
      · by_cases hstep : isStep first = true
        · -- the path goes on behind this piece, so both trees have a directory there
          rw [next_of_isStep hstep] at hrest hnext
          have hon : t.isDirectoryAt (loc ++ [first]) = true := isDir_of_reach? (by simp) hrest
          have hon' : t'.isDirectoryAt (loc ++ [first]) = true := by rw [hdirs, hon]
          rw [get?_of_isDirectoryAt hon, get?_of_isDirectoryAt hon']
          simp [hup, hstep, hnext]
        · rw [next, if_neg hup, if_neg hstep] at hnext
          rw [hnext]
          simp [hup, hstep]

lemma locate_create_append_congr (hfree : t.LinkFree) (hfree' : t'.LinkFree)
    (hdirs : t'.isDirectoryAt = t.isDirectoryAt) (hplace : t.place? p = some l) (hs : '/' ∉ s) :
    t'.locate .create (p.append s) = t.locate .create (p.append s) := by
  obtain ⟨front, last, hpieces, hlonger⟩ := p.exists_pieces_append
  rw [place?] at hplace
  split_ifs at hplace
  rw [hpieces] at hplace
  rw [locate, locate, hlonger s hs, follow_create_congr hfree hfree' hdirs _ hplace]

/-! ## Writing -/

/-- Trees that agree on where a path leads and on the directories agree on why it cannot be written. -/
lemma write_eq_error_iff_congr (hlocate : t'.locate .create q = t.locate .create q)
    (hdirs : t'.isDirectoryAt = t.isDirectoryAt) (f : Fault) :
    t'.write q bytes = .error f ↔ t.write q bytes = .error f := by
  rw [write_eq, write_eq, hlocate, hdirs]
  cases t.locate .create q with
  | error g => rfl
  | ok l =>
      simp only [Except.bind]
      split_ifs <;> simp

end Tree

/-! ## Outcomes -/

variable {o : Options} {t t' : Tree} {p : Path} {l : Location} {bytes : ByteArray}

lemma eq_ok_of_toOption {ε α : Type} {x : Except ε α} {a : α} (h : x.toOption = some a) : x = .ok a := by
  cases x with
  | error f => cases h
  | ok b => rw [Option.some.inj h]

/-- There is room for a copy if it can be written, or if none is kept. -/
lemma exists_copyPlace?_iff (hfree : t.LinkFree) (bytes : ByteArray) :
    (∃ copy?, copyPlace? o t p = some copy?) ↔
      (o.keepsCopy = true → ∃ t', t.write (o.copyPath p) bytes = .ok t') := by
  rw [copyPlace?]
  by_cases hkeeps : o.keepsCopy = true
  · simp only [hkeeps, if_true, true_imp_iff, Option.map_eq_some_iff, Option.filter_eq_some_iff,
      Bool.not_eq_true', Tree.write_eq_ok_iff hfree]
    constructor
    · rintro ⟨-, k, ⟨hplace, hroom⟩, -⟩
      exact ⟨_, k, hplace, hroom, rfl⟩
    · rintro ⟨-, k, hplace, hroom, -⟩
      exact ⟨some k, k, ⟨hplace, hroom⟩, rfl⟩
  · simp [hkeeps]

/-- The fault of a copy is the fault of the work on the file. -/
lemma outcome_store_of_fault (hkeeps : o.keepsCopy = true) {f : Fault}
    (h : t.write (o.copyPath p) bytes = .error f) (d : Documented) (log : List Log.Record) :
    (store o t p bytes d log).outcome = .error (.copyNotStored (o.copyPath p) f) := by
  have hwriteAll : writeAll t (if o.keepsCopy then [⟨o.copyPath p, bytes⟩] else []) = .error f := by
    rw [if_pos hkeeps, ← h]
    simp [writeAll]
  simp only [store, hwriteAll]
  rfl

lemma outcome_store_congr (hfree : t.LinkFree) (hfree' : t'.LinkFree)
    (hdirs : t'.isDirectoryAt = t.isDirectoryAt)
    (hsuffix : o.keepsCopy = true → '/' ∉ o.copySuffix)
    (hplace : t.place? p = some l) (hnode : t.get? l = some (.file bytes))
    (hnode' : t'.get? l = some (.file bytes)) (d : Documented) (log log' : List Log.Record) :
    (store o t' p bytes d log').outcome = (store o t p bytes d log).outcome := by
  have hplace' : t'.place? p = some l := by rw [Tree.place?_congr hdirs, hplace]
  cases hcopy : copyPlace? o t p with
  | none =>
      have hroom := (exists_copyPlace?_iff (o := o) (p := p) hfree bytes).not.mp (by simp [hcopy])
      rw [Classical.not_imp] at hroom
      obtain ⟨hkeeps, hwrite⟩ := hroom
      cases hfault : t.write (o.copyPath p) bytes with
      | ok u => exact absurd ⟨u, hfault⟩ hwrite
      | error f =>
          have hlocate := Tree.locate_create_append_congr hfree hfree' hdirs hplace (hsuffix hkeeps)
          have hfault' := (Tree.write_eq_error_iff_congr hlocate hdirs f).mpr hfault
          rw [outcome_store_of_fault hkeeps hfault, outcome_store_of_fault hkeeps hfault']
  | some copy? =>
      have hcopy' : copyPlace? o t' p = some copy? := by rw [copyPlace?_congr hdirs, hcopy]
      have hstore : (store o t p bytes d log).outcome.toOption = some (.written d.blockCount) := by
        rw [(store_eq hfree hplace hnode d log).1, hcopy, Option.map_some]
      have hstore' : (store o t' p bytes d log').outcome.toOption = some (.written d.blockCount) := by
        rw [(store_eq hfree' hplace' hnode' d log').1, hcopy', Option.map_some]
      rw [eq_ok_of_toOption hstore, eq_ok_of_toOption hstore']

/-- **What an outcome depends on.**  Trees with the same directories that agree on a file agree on what
becomes of it, faults included. -/
theorem outcome_update_congr (hfree : t.LinkFree) (hfree' : t'.LinkFree)
    (hdirs : t'.isDirectoryAt = t.isDirectoryAt)
    (hsuffix : o.keepsCopy = true → '/' ∉ o.copySuffix)
    (hplace : t.place? p = some l) (hnode : t.get? l = some (.file bytes))
    (hnode' : t'.get? l = some (.file bytes)) :
    (update o t' p).outcome = (update o t p).outcome := by
  have hread : t.read p = .ok bytes := (Tree.read_eq_ok_iff_of_place? hfree hplace).mpr hnode
  have hread' : t'.read p = .ok bytes :=
    (Tree.read_eq_ok_iff_of_place? hfree' (by rw [Tree.place?_congr hdirs, hplace])).mpr hnode'
  rw [update, update, hread, hread']
  dsimp only
  cases Text.decode? bytes with
  | none => rfl
  | some text =>
      dsimp only
      split_ifs
      · rfl
      · rfl
      · exact outcome_store_congr hfree hfree' hdirs hsuffix hplace hnode hnode' _ _ _

end DocStub.Files

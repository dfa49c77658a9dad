import Mathlib.Tactic.Common
import DocStub.Files.Tree

/-!
# Where paths lead without links

In a tree without links nothing but the directories decides where a path leads, and writing a file makes
no directory and removes none.  So a path leads to the same place all along a run.

**Following.**  `reach?` follows the pieces of a path by the directories alone.  It agrees with the search
for a place to write (`toOption_follow_create`), and with the search for a file wherever there is one
(`follow_lookUp_eq_ok_iff`): the two searches differ in what they say about a place that is empty and
about slashes at the end.

**Reading and writing.**  `place?` is where a path leads.  Reading gives what the file there holds
(`read_eq_ok_iff`), if there is a file (`isFile_iff`), and writing puts a file there unless there is a
directory (`write_eq_ok_iff`).
-/

namespace DocStub.Files.Tree

open Text (utf8Length)

/-- There is no link in the tree. -/
def LinkFree (t : Tree) : Prop := ∀ loc target, t.get? loc ≠ some (.link target)

variable {t : Tree} {p : Path} {l loc : Location} {bytes : ByteArray}

lemma linkFree_of_entries (h : ∀ e ∈ t.entries, ∀ target, e.2 ≠ .link target) : t.LinkFree := by
  intro loc target hnode
  rw [get?] at hnode
  split_ifs at hnode
  · cases hnode
  · obtain ⟨before, after, hentries, -⟩ := List.lookup_eq_some_iff.mp hnode
    have hmem : (loc, Node.link target) ∈ t.entries := by
      rw [hentries]
      exact List.mem_append_right before List.mem_cons_self
    exact h _ hmem target rfl

/-! ## Following -/

/-- The location at the end of some pieces of a path, where `isDir` says what the directories are. -/
def reach? (isDir : Location → Bool) (loc : Location) : List (List Char) → Option Location
  | [] => some loc
  | piece :: rest =>
    if !isDir loc then none
    else if piece = ['.', '.'] then
      if loc = [] then none else reach? isDir loc.dropLast rest
    else if !isStep piece then reach? isDir loc rest
    else if rest ≠ [] ∧ rest.all List.isEmpty then none
    else if nameLimit < utf8Length piece then none
    else reach? isDir (loc ++ [piece]) rest

lemma reach?_eq_none {isDir : Location → Bool} (h : isDir loc = false) {pieces : List (List Char)}
    (hne : pieces ≠ []) : reach? isDir loc pieces = none := by
  cases pieces with
  | nil => exact absurd rfl hne
  | cons piece rest => simp [reach?, h]

lemma isStep_iff {n : List Char} : isStep n = true ↔ n ≠ [] ∧ n ≠ ['.'] ∧ n ≠ ['.', '.'] := by
  simp [isStep, and_assoc]

/-- The location behind one more piece. -/
def next (loc : Location) (piece : List Char) : Location :=
  if piece = ['.', '.'] then loc.dropLast else if isStep piece then loc ++ [piece] else loc

lemma next_of_isStep {piece : List Char} (h : isStep piece = true) (loc : Location) :
    next loc piece = loc ++ [piece] := by
  rw [next, if_neg (isStep_iff.mp h).2.2, if_pos h]

/-- Every piece is passed in a directory. -/
lemma reach?_cons {isDir : Location → Bool} {piece : List Char} {rest : List (List Char)}
    (h : reach? isDir loc (piece :: rest) = some l) :
    isDir loc = true ∧ (piece = ['.', '.'] → loc ≠ []) ∧
      reach? isDir (next loc piece) rest = some l := by
  rw [reach?] at h
  rw [next]
  split_ifs at h with hdir hup hroot hstep
  · rw [if_pos hup]
    exact ⟨by simpa using hdir, fun _ => hroot, h⟩
  · rw [if_neg hup, if_neg (by simpa using hstep)]
    exact ⟨by simpa using hdir, fun heq => absurd heq hup, h⟩
  · rw [if_neg hup, if_pos (by simpa using hstep)]
    exact ⟨by simpa using hdir, fun heq => absurd heq hup, h⟩

/-- No name on the way is too long. -/
lemma utf8Length_le_of_reach?_cons {isDir : Location → Bool} {piece : List Char}
    {rest : List (List Char)} (h : reach? isDir loc (piece :: rest) = some l)
    (hstep : isStep piece = true) : utf8Length piece ≤ nameLimit := by
  by_contra hlong
  rw [Nat.not_le] at hlong
  rw [reach?] at h
  simp [hstep, hlong, (isStep_iff.mp hstep).2.2] at h

/-- A piece is passed in a directory, unless it asks for too much. -/
lemma reach?_cons_eq {isDir : Location → Bool} {piece : List Char} {rest : List (List Char)}
    (hdir : isDir loc = true) (hup : piece = ['.', '.'] → loc ≠ [])
    (hname : isStep piece = true →
      utf8Length piece ≤ nameLimit ∧ ¬ (rest ≠ [] ∧ rest.all List.isEmpty = true)) :
    reach? isDir loc (piece :: rest) = reach? isDir (next loc piece) rest := by
  rw [reach?, next, hdir]
  by_cases hdots : piece = ['.', '.']
  · simp [hdots, hup hdots]
  · by_cases hstep : isStep piece = true
    · obtain ⟨hshort, hrest⟩ := hname hstep
      rw [if_neg hdots, if_neg hdots, if_pos hstep, if_neg hrest, if_neg (Nat.not_lt.mpr hshort), hstep]
      rfl
    · simp [hdots, hstep]

/-- Where a path leads can be read off its pieces. -/
lemma eq_foldl_of_reach? {isDir : Location → Bool} {pieces : List (List Char)}
    (h : reach? isDir loc pieces = some l) : l = pieces.foldl next loc := by
  induction pieces generalizing loc with
  | nil => exact (Option.some.inj h).symm
  | cons piece rest ih => exact ih (reach?_cons h).2.2

lemma isDirectoryAt_of_get?_none (h : t.get? loc = none) : t.isDirectoryAt loc = false := by
  simp [isDirectoryAt, h]

lemma isDirectoryAt_of_file (h : t.get? loc = some (.file bytes)) : t.isDirectoryAt loc = false := by
  simp [isDirectoryAt, h, Node.isDirectory]

/-- A place for a file is found by the directories alone. -/
lemma toOption_follow_create (hfree : t.LinkFree) (links : Nat) (loc : Location)
    (pieces : List (List Char)) :
    (t.follow .create links loc pieces).toOption = reach? t.isDirectoryAt loc pieces := by
  induction pieces generalizing loc with
  | nil =>
      rw [follow]
      rfl
  | cons piece rest ih =>
      rw [follow, reach?]
      simp only [true_and]
      cases hnode : t.get? (loc ++ [piece]) with
      | none =>
          -- where there is nothing, a path ends or fails
          have hend : rest = [] → some (loc ++ [piece]) = reach? t.isDirectoryAt (loc ++ [piece]) rest := by
            rintro rfl
            rfl
          have hmore : ¬ rest = [] → none = reach? t.isDirectoryAt (loc ++ [piece]) rest :=
            fun hrest => (reach?_eq_none (isDirectoryAt_of_get?_none hnode) hrest).symm
          split_ifs <;> first | rfl | exact ih _ | exact hend ‹_› | exact hmore ‹_›
      | some node =>
          cases node with
          | link target => exact absurd hnode (hfree _ target)
          | file bytes => split_ifs <;> first | rfl | exact ih _
          | directory => split_ifs <;> first | rfl | exact ih _

/-- Slashes at the end ask for a directory. -/
lemma reach?_ne_of_slashes {isDir : Location → Bool} (hl : isDir l = false) {rest : List (List Char)}
    (hne : rest ≠ []) (hslashes : rest.all List.isEmpty = true) (loc : Location) :
    reach? isDir loc rest ≠ some l := by
  induction rest with
  | nil => exact absurd rfl hne
  | cons piece rest ih =>
      rw [List.all_cons, Bool.and_eq_true, List.isEmpty_iff] at hslashes
      obtain ⟨rfl, hrest⟩ := hslashes
      have hstep : isStep [] = false := rfl
      rw [reach?, hstep]
      by_cases hdir : isDir loc = true
      · rw [hdir]
        cases rest with
        | nil =>
            rintro hloc
            obtain rfl := Option.some.inj hloc
            rw [hl] at hdir
            exact Bool.noConfusion hdir
        | cons x rest => exact ih (List.cons_ne_nil x rest) hrest
      · rw [Bool.not_eq_true] at hdir
        rw [hdir]
        exact Option.some_ne_none l ∘ Eq.symm

/-- The search for a file finds it in the same place. -/
lemma follow_lookUp_eq_ok_iff (hfree : t.LinkFree) (hfile : t.get? l = some (.file bytes)) (links : Nat)
    (loc : Location) (pieces : List (List Char)) :
    t.follow .lookUp links loc pieces = .ok l ↔ reach? t.isDirectoryAt loc pieces = some l := by
  have hl : t.isDirectoryAt l = false := isDirectoryAt_of_file hfile
  induction pieces generalizing loc with
  | nil =>
      rw [follow, reach?, Except.ok.injEq, Option.some.injEq]
  | cons piece rest ih =>
      have hslashes : (rest ≠ [] ∧ rest.all List.isEmpty = true) →
          reach? t.isDirectoryAt (loc ++ [piece]) rest ≠ some l :=
        fun h => reach?_ne_of_slashes hl h.1 h.2 _
      rw [follow, reach?]
      simp only [reduceCtorEq, false_and, if_false]
      cases hnode : t.get? (loc ++ [piece]) with
      | none =>
          have hmissing : reach? t.isDirectoryAt (loc ++ [piece]) rest ≠ some l := by
            intro h
            cases rest with
            | nil =>
                obtain rfl := Option.some.inj h
                exact Option.some_ne_none _ (hfile.symm.trans hnode)
            | cons x rest =>
                rw [reach?_eq_none (isDirectoryAt_of_get?_none hnode) (List.cons_ne_nil x rest)] at h
                exact Option.some_ne_none l h.symm
          split_ifs <;> first | exact ih _ | simp [hmissing]
      | some node =>
          cases node with
          | link target => exact absurd hnode (hfree _ target)
          | file bytes => split_ifs <;> first | exact ih _ | simp [ih, hslashes ‹_›] | simp
          | directory => split_ifs <;> first | exact ih _ | simp [ih, hslashes ‹_›] | simp

lemma isDir_of_reach? {isDir : Location → Bool} {pieces : List (List Char)} (hne : pieces ≠ [])
    (h : reach? isDir loc pieces = some l) : isDir loc = true := by
  obtain ⟨piece, rest, rfl⟩ := List.exists_cons_of_ne_nil hne
  exact (reach?_cons h).1

/-! ## Reading and writing -/

/-- Where a path leads. -/
def place? (t : Tree) (p : Path) : Option Location :=
  if '\x00' ∈ p.spelling then none
  else if pathLimit < utf8Length p.spelling then none
  else if p.spelling.head?.all (· == '/') then none
  else reach? t.isDirectoryAt [] p.pieces

lemma toOption_locate_create (hfree : t.LinkFree) (p : Path) :
    (t.locate .create p).toOption = t.place? p := by
  rw [locate, place?]
  split_ifs <;> first | rfl | exact toOption_follow_create hfree _ _ _

lemma locate_lookUp_eq_ok_iff (hfree : t.LinkFree) (hfile : t.get? l = some (.file bytes)) (p : Path) :
    t.locate .lookUp p = .ok l ↔ t.place? p = some l := by
  rw [locate, place?]
  split_ifs <;> first | exact follow_lookUp_eq_ok_iff hfree hfile _ _ _ | simp

/-- A path can be read where it leads to a file. -/
theorem read_eq_ok_iff (hfree : t.LinkFree) :
    t.read p = .ok bytes ↔ ∃ l, t.place? p = some l ∧ t.get? l = some (.file bytes) := by
  rw [read]
  constructor
  · intro h
    cases hlocate : t.locate .lookUp p with
    | error f =>
        rw [hlocate] at h
        cases h
    | ok l =>
        simp only [hlocate, bind, Except.bind] at h
        split at h
        · rename_i b hfile
          obtain rfl := Except.ok.inj h
          exact ⟨l, (locate_lookUp_eq_ok_iff hfree hfile p).mp hlocate, hfile⟩
        · cases h
        · cases h
  · rintro ⟨l, hplace, hfile⟩
    simp only [(locate_lookUp_eq_ok_iff hfree hfile p).mpr hplace, bind, Except.bind, hfile]

lemma read_eq_ok_iff_of_place? (hfree : t.LinkFree) (hplace : t.place? p = some l) :
    t.read p = .ok bytes ↔ t.get? l = some (.file bytes) := by
  simp only [read_eq_ok_iff hfree, hplace, Option.some.injEq, exists_eq_left']

/-- A path leads to a file where it can be read. -/
lemma isFile_iff_exists_read : t.isFile p = true ↔ ∃ bytes, t.read p = .ok bytes := by
  rw [isFile, find?, read]
  cases t.locate .lookUp p with
  | error f => simp [bind, Except.bind]
  | ok l =>
      simp only [bind, Except.bind]
      cases t.get? l with
      | none => simp
      | some node => cases node <;> simp

lemma isFile_iff (hfree : t.LinkFree) :
    t.isFile p = true ↔ ∃ l bytes, t.place? p = some l ∧ t.get? l = some (.file bytes) := by
  rw [isFile_iff_exists_read, exists_comm]
  exact exists_congr fun bytes => read_eq_ok_iff hfree

lemma isDirectoryAt_eq_false_iff : t.isDirectoryAt l = false ↔ t.get? l ≠ some .directory := by
  rw [isDirectoryAt]
  cases t.get? l with
  | none => simp
  | some node => cases node <;> simp [Node.isDirectory]

lemma get?_of_isDirectoryAt (h : t.isDirectoryAt l = true) : t.get? l = some .directory := by
  by_contra hnode
  rw [isDirectoryAt_eq_false_iff.mpr hnode] at h
  exact Bool.noConfusion h

lemma write_eq (t : Tree) (p : Path) (bytes : ByteArray) :
    t.write p bytes = (t.locate .create p).bind fun l =>
      if t.isDirectoryAt l then .error .isDirectory else .ok (t.insert l (.file bytes)) := by
  rw [write]
  cases t.locate .create p with
  | error f => rfl
  | ok l =>
      simp only [bind, Except.bind]
      by_cases hdir : t.isDirectoryAt l = true
      · rw [if_pos hdir, get?_of_isDirectoryAt hdir]
      · rw [if_neg hdir]
        rw [Bool.not_eq_true, isDirectoryAt_eq_false_iff] at hdir
        split
        · exact absurd ‹_› hdir
        · rfl

/-- A path can be written where it leads to a file or to nothing. -/
theorem write_eq_ok_iff (hfree : t.LinkFree) {t' : Tree} :
    t.write p bytes = .ok t' ↔
      ∃ l, t.place? p = some l ∧ t.isDirectoryAt l = false ∧ t' = t.insert l (.file bytes) := by
  rw [write_eq, ← toOption_locate_create hfree]
  cases t.locate .create p with
  | error f => simp only [Except.bind, Except.toOption, reduceCtorEq, false_and, exists_false]
  | ok l =>
      simp only [Except.bind, Except.toOption, Option.some.injEq, exists_eq_left']
      split_ifs with hdir
      · simp [hdir]
      · simp [hdir, eq_comm]

/-- The search for a directory finds it where the path leads. -/
lemma follow_lookUp_of_reach? (hl : t.isDirectoryAt l = true) (links : Nat) {pieces : List (List Char)}
    (h : reach? t.isDirectoryAt loc pieces = some l) : t.follow .lookUp links loc pieces = .ok l := by
  induction pieces generalizing loc with
  | nil =>
      obtain rfl := Option.some.inj h
      rw [follow]
  | cons piece rest ih =>
      obtain ⟨hdir, hup, hrest⟩ := reach?_cons h
      have hnext := ih hrest
      rw [follow, hdir]
      by_cases hdots : piece = ['.', '.']
      · rw [next, if_pos hdots] at hnext
        simpa [hdots, hup hdots] using hnext
      · by_cases hstep : isStep piece = true
        · -- here is a directory, whether the path goes on or not
          have hhere : t.isDirectoryAt (loc ++ [piece]) = true := by
            rw [next_of_isStep hstep] at hrest
            cases rest with
            | nil => rwa [Option.some.inj hrest]
            | cons x rest => exact isDir_of_reach? (List.cons_ne_nil x rest) hrest
          have hshort := Nat.not_lt.mpr (utf8Length_le_of_reach?_cons h hstep)
          rw [next_of_isStep hstep] at hnext
          simpa [hdots, hstep, get?_of_isDirectoryAt hhere, hshort] using hnext
        · rw [next, if_neg hdots, if_neg hstep] at hnext
          simpa [hdots, hstep] using hnext

/-- What the search finds can be read off the pieces as well. -/
lemma eq_foldl_of_follow_lookUp (hfree : t.LinkFree) {links : Nat} {pieces : List (List Char)}
    (h : t.follow .lookUp links loc pieces = .ok l) : l = pieces.foldl next loc := by
  induction pieces generalizing loc with
  | nil =>
      rw [follow] at h
      exact (Except.ok.inj h).symm
  | cons piece rest ih =>
      rw [follow] at h
      rw [List.foldl_cons]
      refine ih ?_
      rw [next]
      by_cases hdots : piece = ['.', '.']
      · simp only [hdots, if_true] at h ⊢
        split_ifs at h
        exact h
      · by_cases hstep : isStep piece = true
        · -- behind a name the search goes on, unless nothing is there
          simp only [hdots, hstep, reduceCtorEq, false_and, if_true, if_false, Bool.not_true,
            Bool.false_eq_true] at h ⊢
          split_ifs at h
          cases hnode : t.get? (loc ++ [piece]) with
          | none => simp [hnode] at h
          | some node =>
              cases node with
              | link target => exact absurd hnode (hfree _ target)
              | file bytes => simpa [hnode] using h
              | directory => simpa [hnode] using h
        · simp only [hdots, hstep, if_true, if_false, Bool.not_false, Bool.false_eq_true] at h ⊢
          split_ifs at h
          exact h

/-- A path leads to a directory if there is one in its place. -/
lemma isDirectory_eq_of_place? (hfree : t.LinkFree) (hplace : t.place? p = some l) :
    t.isDirectory p = t.isDirectoryAt l := by
  rw [place?] at hplace
  split_ifs at hplace with hnul hlong habsolute
  have hlocate : t.locate .lookUp p = t.follow .lookUp linkLimit [] p.pieces := by
    rw [locate, if_neg hnul, if_neg hlong, if_neg habsolute]
  rw [isDirectory, find?, hlocate]
  cases hfollow : t.follow .lookUp linkLimit [] p.pieces with
  | ok k =>
      rw [eq_foldl_of_follow_lookUp hfree hfollow, eq_foldl_of_reach? hplace]
      rfl
  | error f =>
      -- the search does not miss a directory
      have hl : t.isDirectoryAt l ≠ true := fun hl => by
        rw [follow_lookUp_of_reach? hl linkLimit hplace] at hfollow
        cases hfollow
      exact (Bool.eq_false_iff.mpr hl).symm

/-! ## Writing files -/

lemma ne_nil_of_isDirectoryAt (h : t.isDirectoryAt l = false) : l ≠ [] := by
  rintro rfl
  exact Bool.noConfusion h

lemma get?_insert_file (h : t.isDirectoryAt l = false) (bytes : ByteArray) (loc : Location) :
    (t.insert l (.file bytes)).get? loc = if loc = l then some (.file bytes) else t.get? loc := by
  split_ifs with hloc
  · rw [hloc, get?_insert_self t _ (ne_nil_of_isDirectoryAt h)]
  · exact get?_insert_of_ne t _ hloc

/-- What is at a location after a write depends on nothing but what was there. -/
lemma get?_insert_congr {t' : Tree} (h : t'.get? l = t.get? l) (loc : Location) (node : Node) :
    (t'.insert loc node).get? l = (t.insert loc node).get? l := by
  by_cases hl : l = loc
  · subst hl
    by_cases hroot : l = []
    · rw [hroot, get?_nil, get?_nil]
    · rw [get?_insert_self _ _ hroot, get?_insert_self _ _ hroot]
  · rw [get?_insert_of_ne _ _ hl, get?_insert_of_ne _ _ hl, h]

/-- Writing a file changes no directory. -/
lemma isDirectoryAt_insert_file (h : t.isDirectoryAt l = false) (bytes : ByteArray) :
    (t.insert l (.file bytes)).isDirectoryAt = t.isDirectoryAt := by
  funext loc
  rw [isDirectoryAt, get?_insert_file h]
  split_ifs with hloc
  · rw [hloc, h]
    rfl
  · rfl

lemma LinkFree.insert_file (hfree : t.LinkFree) (h : t.isDirectoryAt l = false) (bytes : ByteArray) :
    (t.insert l (.file bytes)).LinkFree := by
  intro loc target
  rw [get?_insert_file h]
  split_ifs
  · exact fun heq => Node.noConfusion (Option.some.inj heq)
  · exact hfree loc target

/-- Trees with the same directories agree on where paths lead. -/
lemma place?_congr {t' : Tree} (h : t'.isDirectoryAt = t.isDirectoryAt) (p : Path) :
    t'.place? p = t.place? p := by
  rw [place?, place?, h]

end DocStub.Files.Tree

import DocStub.Proofs.Files.Descent

/-!
# When a search ends early

A search stops at the first argument that it cannot make anything of, and then it comes to no paths at all.

**Listings.**  A directory is listed unless it is sealed (`exists_listing_eq_ok_iff`), or its path is one that
the system does not take.  On its way through a directory a search lists that directory and all below it
(`mem_directoriesIn_iff`), and gets through if all of them are listed (`exists_walk_eq_error_iff`).

**Arguments.**  `IsMalformed` says when an argument stands for nothing because it is no pattern, and
`IsUnlistable` when it leads to a directory that a search does not get through.  There are just two reasons for
the latter (`isUnlistable_iff`).  These are the arguments that are refused
(`exists_contribution_eq_error_iff`).

**Searches.**  A search ends early if some argument is refused, wherever it stands
(`exists_result_survey_eq_error_iff`).
-/

namespace DocStub.Files

open Text (utf8Length)

variable {t t' : Tree} {extension argument : List Char} {arguments : List (List Char)} {p dir : Path}
  {ps : List Path} {l loc : Location}

/-! ## Listings -/

namespace Tree

lemma exists_listing_eq_ok_iff : (∃ names, t.listing p = .ok names) ↔
    ∃ l, t.locate .lookUp p = .ok l ∧ t.isDirectoryAt l = true ∧ l ∉ t.sealed := by
  rw [listing]
  cases hlocate : t.locate .lookUp p with
  | error f => simp [bind, Except.bind]
  | ok l =>
      cases hl : t.isDirectoryAt l with
      | false => simp [bind, Except.bind, hl]
      | true => by_cases hsealed : l ∈ t.sealed <;> simp [bind, Except.bind, hl, hsealed]

/-- What is listed depends on the directories, and on which of them are sealed. -/
lemma exists_listing_congr (hfree : t.LinkFree) (hdirs : t'.isDirectoryAt = t.isDirectoryAt)
    (hsealed : t'.sealed = t.sealed) (h : ∃ names, t.listing p = .ok names) :
    ∃ names, t'.listing p = .ok names := by
  obtain ⟨l, hlocate, hl, hfine⟩ := exists_listing_eq_ok_iff.mp h
  refine exists_listing_eq_ok_iff.mpr ⟨l, locate_lookUp_congr hfree hdirs hl hlocate, ?_, ?_⟩
  · rw [hdirs, hl]
  · rw [hsealed]
    exact hfine

lemma mem_directoriesUnder_iff :
    l ∈ t.directoriesUnder loc ↔ t.isDirectoryAt (loc ++ l) = true ∧ loc ++ l ∈ t.entries.map Prod.fst := by
  rw [directoriesUnder, List.mem_mergeSort, List.mem_filterMap, List.mem_map]
  constructor
  · rintro ⟨⟨k, node⟩, hmem, hl⟩
    dsimp only at hl
    split_ifs at hl with hk
    obtain rfl := List.isPrefixOf?_eq_some_iff_append_eq.mp hl
    exact ⟨hk, _, hmem, rfl⟩
  · rintro ⟨hdir, ⟨k, node⟩, hmem, rfl⟩
    refine ⟨_, hmem, ?_⟩
    dsimp only
    rw [if_pos hdir]
    exact List.isPrefixOf?_eq_some_iff_append_eq.mpr rfl

lemma mem_map_fst_of_isDirectoryAt (hl : t.isDirectoryAt l = true) (hne : l ≠ []) :
    l ∈ t.entries.map Prod.fst := by
  have hnode := get?_of_isDirectoryAt hl
  rw [get?, if_neg hne] at hnode
  obtain ⟨before, after, hentries, -⟩ := List.lookup_eq_some_iff.mp hnode
  exact hentries ▸ List.mem_map_of_mem (List.mem_append_right before List.mem_cons_self)

end Tree

/-- A search goes through a directory and all directories below it. -/
lemma mem_directoriesIn_iff (hdir : t.locate .lookUp dir = .ok loc) (hloc : t.isDirectoryAt loc = true) :
    p ∈ directoriesIn t dir ↔ ∃ l, t.isDirectoryAt (loc ++ l) = true ∧ l.foldl Path.join dir = p := by
  rw [directoriesIn, hdir, List.mem_cons, List.mem_map]
  simp only [Tree.mem_directoriesUnder_iff]
  constructor
  · rintro (rfl | ⟨l, ⟨hl, -⟩, rfl⟩)
    · exact ⟨[], by rwa [List.append_nil], rfl⟩
    · exact ⟨l, hl, rfl⟩
  · rintro ⟨l, hl, rfl⟩
    by_cases hne : loc ++ l = []
    · -- the root of the tree has no entry
      obtain ⟨-, rfl⟩ := List.append_eq_nil_iff.mp hne
      exact .inl rfl
    · exact .inr ⟨l, ⟨hl, Tree.mem_map_fst_of_isDirectoryAt hl hne⟩, rfl⟩

/-- The first directory that cannot be listed ends a search. -/
lemma exists_walk_eq_error_iff : (∃ b, walk t extension argument = .error b) ↔
    ∃ p ∈ directoriesIn t ⟨argument⟩, ∃ fault, t.listing p = .error fault := by
  have hunlisted : ∀ p, (unlisted? t argument p).isSome = true ↔ ∃ fault, t.listing p = .error fault := by
    intro p
    rw [unlisted?]
    cases t.listing p <;> simp
  have hsome := List.findSome?_isSome_iff (f := unlisted? t argument) (l := directoriesIn t ⟨argument⟩)
  simp only [hunlisted] at hsome
  rw [← hsome, walk]
  cases (directoriesIn t ⟨argument⟩).findSome? (unlisted? t argument) <;> simp

/-- A sealed directory keeps the files beside it from being found. -/
example :
    let t : Tree :=
      { entries :=
          [(["src".toList], .directory), (["src".toList, "A.java".toList], .file .empty),
            (["src".toList, "lib".toList], .directory)]
        sealed := [["src".toList, "lib".toList]] }
    walk t "java".toList "src".toList = .error (.unlisted "src".toList ⟨"src/lib".toList⟩ .denied) := by
  cbv

/-- A search that gets through finds all files that are there. -/
lemma filesIn_of_walk (h : walk t extension argument = .ok ps) : filesIn t extension ⟨argument⟩ = ps := by
  rw [walk] at h
  split at h
  · cases h
  · exact Except.ok.inj h

/-! ## Arguments -/

/-- The argument leads neither to a file nor to a directory, and it is no pattern. -/
def IsMalformed (t : Tree) (argument : List Char) : Prop :=
  t.isFile ⟨argument⟩ = false ∧ t.isDirectory ⟨argument⟩ = false ∧
    ∃ fault, Glob.Pattern.parse argument = .error fault

/-- The argument leads to a directory, and that or a directory below it cannot be listed. -/
def IsUnlistable (t : Tree) (argument : List Char) : Prop :=
  t.isDirectory ⟨argument⟩ = true ∧
    ∃ p ∈ directoriesIn t ⟨argument⟩, ∃ fault, t.listing p = .error fault

/-- A search ends at the argument. -/
def IsRefused (t : Tree) (argument : List Char) : Prop := IsMalformed t argument ∨ IsUnlistable t argument

lemma Tree.isDirectory_eq_false_of_isFile (h : t.isFile p = true) : t.isDirectory p = false := by
  rw [Tree.isFile] at h
  rw [Tree.isDirectory]
  split at h
  · rename_i bytes hnode
    rw [hnode]
    rfl
  · cases h

lemma Tree.isFile_eq_false_of_isDirectory (h : t.isDirectory p = true) : t.isFile p = false := by
  rw [Bool.eq_false_iff]
  intro hfile
  rw [isDirectory_eq_false_of_isFile hfile] at h
  exact Bool.noConfusion h

/-- A search does not get through a directory if that or one below it is sealed, or has too long a path, and for
no other reason. -/
theorem isUnlistable_iff (hfree : t.LinkFree) (hordinary : t.IsOrdinary) :
    IsUnlistable t argument ↔ ∃ loc l, t.locate .lookUp ⟨argument⟩ = .ok loc ∧
      t.isDirectoryAt (loc ++ l) = true ∧
        (loc ++ l ∈ t.sealed ∨ Tree.pathLimit < utf8Length (l.foldl Path.join ⟨argument⟩).spelling) := by
  constructor
  · rintro ⟨hdir, p, hp, fault, hfault⟩
    obtain ⟨loc, hlocate, hloc⟩ := Tree.exists_locate_of_isDirectory hdir
    obtain ⟨l, hl, rfl⟩ := (mem_directoriesIn_iff hlocate hloc).mp hp
    refine ⟨loc, l, hlocate, hl, ?_⟩
    by_contra hfine
    obtain ⟨hopen, hshort⟩ := not_or.mp hfine
    have hplace := Tree.locate_foldl_join hfree hordinary hlocate hl (Nat.not_lt.mp hshort)
    obtain ⟨names, hnames⟩ := Tree.exists_listing_eq_ok_iff.mpr ⟨_, hplace, hl, hopen⟩
    cases hnames.symm.trans hfault
  · rintro ⟨loc, l, hlocate, hl, hreason⟩
    have hloc : t.isDirectoryAt loc = true := by
      by_cases h : loc = loc ++ l
      · rwa [← h] at hl
      · exact hordinary.rooted _ hl _ (List.prefix_append _ _) h
    have hdir : t.isDirectory ⟨argument⟩ = true := by
      rw [Tree.isDirectory, Tree.find?, hlocate]
      exact hloc
    refine ⟨hdir, _, (mem_directoriesIn_iff hlocate hloc).mpr ⟨l, hl, rfl⟩, ?_⟩
    cases hlisting : t.listing (l.foldl Path.join ⟨argument⟩) with
    | error fault => exact ⟨fault, rfl⟩
    | ok names =>
        obtain ⟨k, hk, -, hopen⟩ := Tree.exists_listing_eq_ok_iff.mp ⟨names, hlisting⟩
        have hshort := Tree.utf8Length_le_of_locate hk
        have hplace := Tree.locate_foldl_join hfree hordinary hlocate hl hshort
        obtain rfl := Except.ok.inj (hplace.symm.trans hk)
        rcases hreason with hsealed | hlong
        · exact absurd hsealed hopen
        · exact absurd hshort (Nat.not_le.mpr hlong)

lemma exists_contribution_eq_error_iff :
    (∃ b, contribution t extension argument = .error b) ↔ IsRefused t argument := by
  rw [contribution, IsRefused, IsMalformed, IsUnlistable]
  dsimp only
  split_ifs with hfile hdir
  · simp [hfile, Tree.isDirectory_eq_false_of_isFile hfile]
  · have hwalk : (∃ b, walk t extension argument = .error b) ↔
        ∃ p ∈ directoriesIn t ⟨argument⟩, ∃ fault, t.listing p = .error fault := exists_walk_eq_error_iff
    rw [← hwalk]
    cases walk t extension argument with
    | error b => exact iff_of_true ⟨b, rfl⟩ (.inr ⟨hdir, b, rfl⟩)
    | ok paths =>
        refine iff_of_false ?_ ?_
        · rintro ⟨b, hb⟩
          cases hb
        · rintro (⟨-, hnodir, -⟩ | ⟨-, b, hb⟩)
          · exact absurd hdir (Bool.eq_false_iff.mp hnodir)
          · cases hb
  · have hneither : t.isFile ⟨argument⟩ = false ∧ t.isDirectory ⟨argument⟩ = false :=
      ⟨Bool.eq_false_iff.mpr hfile, Bool.eq_false_iff.mpr hdir⟩
    cases Glob.Pattern.parse argument with
    | error fault => exact iff_of_true ⟨_, rfl⟩ (.inl ⟨hneither.1, hneither.2, fault, rfl⟩)
    | ok g =>
        refine iff_of_false ?_ ?_
        · rintro ⟨b, hb⟩
          cases hb
        · rintro (⟨-, -, fault, hfault⟩ | ⟨hisdir, -⟩)
          · cases hfault
          · exact hdir hisdir

/-! ## Searches -/

/-- Gathering ends early if some argument is refused, whichever comes first. -/
lemma exists_result_gather_eq_error_iff :
    (∃ b, (gather t extension arguments).result = .error b) ↔ ∃ a ∈ arguments, IsRefused t a := by
  induction arguments with
  | nil => simp [gather]
  | cons a arguments ih =>
      have hhere : (∃ b, contribution t extension a = .error b) ↔ IsRefused t a :=
        exists_contribution_eq_error_iff
      rw [List.exists_mem_cons_iff, ← ih, ← hhere]
      cases hcontribution : contribution t extension a with
      | error b => simp [gather, hcontribution]
      | ok found =>
          obtain ⟨paths, log⟩ := found
          cases hmore : (gather t extension arguments).result <;>
            simp [gather, hcontribution, hmore, Functor.map, Except.map]

lemma exists_result_survey_eq_error_iff :
    (∃ b, (survey t extension arguments).result = .error b) ↔ ∃ a ∈ arguments, IsRefused t a := by
  have hsome : (∃ b, (gather t extension arguments).result = .error b) ↔ ∃ a ∈ arguments, IsRefused t a :=
    exists_result_gather_eq_error_iff
  rw [← hsome]
  cases hgather : (gather t extension arguments).result <;>
    simp [survey, hgather, Functor.map, Except.map]

end DocStub.Files

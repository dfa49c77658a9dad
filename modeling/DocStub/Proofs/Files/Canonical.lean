import Mathlib.Data.List.Forall2
import DocStub.Proofs.Files.Rediscovery

/-!
# What a search comes to

A search is given arguments that may overlap: files, the directories above them, patterns that describe both,
and the same path in several spellings.  What it comes to depends on the set of its arguments alone.

**Arguments.**  `Contributes` says which paths an argument stands for, and a search that does not end early
collects what its arguments contribute (`mem_of_result_gather_iff`).

**Lists.**  A list in strict order is determined by its members, spelling aside
(`forall₂_same_of_pairwise`).  `Lists` is a list in strict order of all paths that some argument contributes,
so there is one such list, and it does not matter in which order, or how often, the paths were come across.

**Searches.**  Two searches for the same arguments fail both, or come to the same paths (`survey_canonical`).
-/

namespace DocStub.Files

variable {t : Tree} {extension argument : List Char} {arguments arguments' : List (List Char)} {p : Path}
  {ps ps' : List Path}

/-! ## Arguments -/

/-- The paths that an argument stands for.  A file stands for itself, whatever its extension.  A directory
stands for the files with the extension below it.  Anything else is a pattern, and stands for the files that it
describes. -/
inductive Contributes (t : Tree) (extension argument : List Char) : Path → Prop where
  | file : t.isFile ⟨argument⟩ = true → Contributes t extension argument ⟨argument⟩
  | listed {loc l : Location} : t.isDirectory ⟨argument⟩ = true →
      t.locate .lookUp ⟨argument⟩ = .ok loc → t.ListsFile (loc ++ l) → EndsIn extension l →
      Contributes t extension argument (l.foldl Path.join ⟨argument⟩)
  | described {g : Glob.Pattern} {p : Path} : t.isFile ⟨argument⟩ = false →
      t.isDirectory ⟨argument⟩ = false → Glob.Pattern.parse argument = .ok g → p ∈ g.expand t →
      t.isFile p = true → Contributes t extension argument p

lemma mem_of_contribution_iff {log : List Log.Record}
    (h : contribution t extension argument = .ok (ps, log)) :
    p ∈ ps ↔ Contributes t extension argument p := by
  rw [contribution] at h
  dsimp only at h
  split_ifs at h with hfile hdir
  · obtain ⟨rfl, -⟩ := Prod.mk.inj (Except.ok.inj h)
    rw [List.mem_singleton]
    constructor
    · rintro rfl
      exact .file hfile
    · intro hp
      cases hp with
      | file => rfl
      | listed hdir => rw [Tree.isDirectory_eq_false_of_isFile hfile] at hdir; cases hdir
      | described hnofile => rw [hfile] at hnofile; cases hnofile
  · split at h
    · cases h
    · rename_i found hwalk
      obtain ⟨rfl, -⟩ := Prod.mk.inj (Except.ok.inj h)
      obtain ⟨loc, hlocate, -⟩ := Tree.exists_locate_of_isDirectory hdir
      rw [← filesIn_of_walk hwalk, mem_filesIn_iff hlocate]
      constructor
      · rintro ⟨l, hl, hends, rfl⟩
        exact .listed hdir hlocate hl hends
      · intro hp
        cases hp with
        | file hisfile => exact absurd hisfile hfile
        | @listed loc' l _ hlocate' hl hends =>
            obtain rfl := Except.ok.inj (hlocate.symm.trans hlocate')
            exact ⟨l, hl, hends, rfl⟩
        | described _ hnodir => rw [hdir] at hnodir; cases hnodir
  · split at h
    · cases h
    · rename_i g hparse
      obtain ⟨rfl, -⟩ := Prod.mk.inj (Except.ok.inj h)
      rw [List.mem_filter]
      constructor
      · rintro ⟨hp, hisfile⟩
        exact .described (Bool.eq_false_iff.mpr hfile) (Bool.eq_false_iff.mpr hdir) hparse hp hisfile
      · intro hp
        cases hp with
        | file hisfile => exact absurd hisfile hfile
        | listed hisdir => exact absurd hisdir hdir
        | described _ _ hparse' hp hisfile =>
            obtain rfl := Except.ok.inj (hparse.symm.trans hparse')
            exact ⟨hp, hisfile⟩

/-! ## Gathering -/

/-- What is gathered are the contributions of all arguments. -/
lemma mem_of_result_gather_iff (h : (gather t extension arguments).result = .ok ps) :
    p ∈ ps ↔ ∃ a ∈ arguments, Contributes t extension a p := by
  induction arguments generalizing ps with
  | nil =>
      obtain rfl := Except.ok.inj h
      simp
  | cons a arguments ih =>
      rw [List.exists_mem_cons_iff]
      cases hcontribution : contribution t extension a with
      | error b => simp [gather, hcontribution] at h
      | ok found =>
          obtain ⟨paths, log⟩ := found
          cases hmore : (gather t extension arguments).result with
          | error b => simp [gather, hcontribution, hmore, Functor.map, Except.map] at h
          | ok more =>
              simp only [gather, hcontribution, hmore, Functor.map, Except.map] at h
              obtain rfl := Except.ok.inj h
              rw [List.mem_append, mem_of_contribution_iff hcontribution, ih hmore]

/-! ## Lists -/

/-- A list in strict order of the paths that the arguments contribute.  Each path in it is spelled as an
argument contributes it, and each contributed path is in it in some spelling. -/
structure Lists (t : Tree) (extension : List Char) (arguments : List (List Char)) (ps : List Path) :
    Prop where
  ordered : ps.Pairwise fun p q => p.isBefore q = true
  sound : ∀ p ∈ ps, ∃ a ∈ arguments, Contributes t extension a p
  complete : ∀ a ∈ arguments, ∀ p, Contributes t extension a p → ∃ q ∈ ps, p.Same q

lemma Lists.congr (h : ∀ a, a ∈ arguments ↔ a ∈ arguments') (hps : Lists t extension arguments ps) :
    Lists t extension arguments' ps where
  ordered := hps.ordered
  sound p hp := by
    obtain ⟨a, ha, hcontributes⟩ := hps.sound p hp
    exact ⟨a, (h a).mp ha, hcontributes⟩
  complete a ha := hps.complete a ((h a).mpr ha)

/-- Of each path one spelling is kept. -/
lemma exists_same_mem_arrange (hp : p ∈ ps) : ∃ q ∈ arrange ps, p.Same q := by
  cases hfirst : firstSpelling? ps p with
  | none => exact absurd rfl (firstSpelling?_eq_none_iff.mp hfirst p hp)
  | some q =>
      obtain ⟨-, hsame⟩ := mem_and_same_of_firstSpelling? hfirst
      refine ⟨q, mem_arrange_iff.mpr ?_, hsame⟩
      -- the first spelling of the path is also that of its first spelling
      have hcongr : ∀ r, q.Same r ↔ p.Same r := fun r => by rw [Path.Same, Path.Same, ← hsame]
      rw [← hfirst, firstSpelling?, firstSpelling?]
      simp only [hcongr]

/-- Lists in strict order with the same members are the same, spelling aside. -/
lemma forall₂_same_of_pairwise (hps : ps.Pairwise fun p q => p.isBefore q = true)
    (hps' : ps'.Pairwise fun p q => p.isBefore q = true) (hsub : ∀ p ∈ ps, ∃ q ∈ ps', p.Same q)
    (hsub' : ∀ p ∈ ps', ∃ q ∈ ps, p.Same q) : List.Forall₂ Path.Same ps ps' := by
  have hkeys : ∀ {qs : List Path}, (qs.Pairwise fun p q => p.isBefore q = true) →
      (qs.map Path.key).Pairwise (· < ·) := fun h =>
    List.pairwise_map.mpr (h.imp fun hbefore => Path.isBefore_iff.mp hbefore)
  have hmem : ∀ {qs rs : List Path}, (∀ p ∈ qs, ∃ q ∈ rs, p.Same q) →
      ∀ k ∈ qs.map Path.key, k ∈ rs.map Path.key := by
    intro qs rs h k hk
    obtain ⟨p, hp, rfl⟩ := List.mem_map.mp hk
    obtain ⟨q, hq, hsame⟩ := h p hp
    exact Path.key_eq_iff.mpr hsame ▸ List.mem_map_of_mem hq
  have heq : ps.map Path.key = ps'.map Path.key :=
    (hkeys hps).eq_of_mem_iff (hkeys hps') fun k => ⟨hmem hsub k, hmem hsub' k⟩
  have hforall : List.Forall₂ (fun p q => p.key = q.key) ps ps' := by
    rw [← List.forall₂_map_left_iff (R := fun k q => k = Path.key q), ← List.forall₂_map_right_iff,
      List.forall₂_eq_eq_eq]
    exact heq
  exact hforall.imp fun _ _ hkey => Path.key_eq_iff.mp hkey

/-- There is one list of the contributed paths, spelling aside. -/
lemma Lists.forall₂_same (hps : Lists t extension arguments ps) (hps' : Lists t extension arguments ps') :
    List.Forall₂ Path.Same ps ps' := by
  refine forall₂_same_of_pairwise hps.ordered hps'.ordered (fun p hp => ?_) (fun p hp => ?_)
  · obtain ⟨a, ha, hcontributes⟩ := hps.sound p hp
    exact hps'.complete a ha p hcontributes
  · obtain ⟨a, ha, hcontributes⟩ := hps'.sound p hp
    exact hps.complete a ha p hcontributes

/-! ## Searches -/

/-- What is gathered is arranged to the list of the contributed paths. -/
lemma exists_lists_survey (h : ∀ a ∈ arguments, ¬ IsRefused t a) :
    ∃ ps, (survey t extension arguments).result = .ok ps ∧ Lists t extension arguments ps := by
  cases hgather : (gather t extension arguments).result with
  | error b =>
      obtain ⟨a, ha, hrefused⟩ := exists_result_gather_eq_error_iff.mp ⟨b, hgather⟩
      exact absurd hrefused (h a ha)
  | ok found =>
      refine ⟨arrange found, by simp [survey, hgather, Functor.map, Except.map], pairwise_arrange found, ?_, ?_⟩
      · exact fun p hp => (mem_of_result_gather_iff hgather).mp (mem_of_mem_arrange hp)
      · exact fun a ha p hp => exists_same_mem_arrange ((mem_of_result_gather_iff hgather).mpr ⟨a, ha, hp⟩)

/-- **Searching is canonical.**  Two searches for the same arguments, in whatever order and however often each
is given, fail both, which they do if some argument is malformed or leads to a directory that cannot be listed
throughout, or come to the same paths: those that the arguments contribute, in strict order. -/
theorem survey_canonical (t : Tree) (extension : List Char) (arguments arguments' : List (List Char))
    (h : ∀ a, a ∈ arguments ↔ a ∈ arguments') :
    ((∃ a ∈ arguments, IsMalformed t a ∨ IsUnlistable t a) ∧
        (∃ b, (survey t extension arguments).result = .error b) ∧
        ∃ b, (survey t extension arguments').result = .error b) ∨
      (∀ a ∈ arguments, ¬ (IsMalformed t a ∨ IsUnlistable t a)) ∧
        ∃ ps ps', (survey t extension arguments).result = .ok ps ∧
          (survey t extension arguments').result = .ok ps' ∧ Lists t extension arguments ps ∧
          Lists t extension arguments' ps' ∧ List.Forall₂ Path.Same ps ps' := by
  by_cases hrefused : ∃ a ∈ arguments, IsRefused t a
  · have hrefused' : ∃ a ∈ arguments', IsRefused t a := by
      obtain ⟨a, ha, hbad⟩ := hrefused
      exact ⟨a, (h a).mp ha, hbad⟩
    exact .inl ⟨hrefused, exists_result_survey_eq_error_iff.mpr hrefused,
      exists_result_survey_eq_error_iff.mpr hrefused'⟩
  · have hfine : ∀ a ∈ arguments, ¬ IsRefused t a := fun a ha hbad => hrefused ⟨a, ha, hbad⟩
    have hfine' : ∀ a ∈ arguments', ¬ IsRefused t a := fun a ha => hfine a ((h a).mpr ha)
    obtain ⟨ps, hps, hlists⟩ := exists_lists_survey hfine
    obtain ⟨ps', hps', hlists'⟩ := exists_lists_survey hfine'
    exact .inr ⟨hfine, ps, ps', hps, hps', hlists, hlists',
      hlists.forall₂_same (hlists'.congr fun a => (h a).symm)⟩

/-- A file in another spelling, a pattern that describes it, and the directory around it. -/
theorem survey_canonical_overlapping :
    let arguments := ["./A.java".toList, "*.java".toList, ".".toList]
    let arguments' := [".".toList, "*.java".toList, ".".toList, "./A.java".toList, "*.java".toList]
    (∀ a, a ∈ arguments ↔ a ∈ arguments') ∧
      ∃ ps ps', (survey besideCopy "java".toList arguments).result = .ok ps ∧
        (survey besideCopy "java".toList arguments').result = .ok ps' ∧
        Lists besideCopy "java".toList arguments ps ∧ Lists besideCopy "java".toList arguments' ps' ∧
        List.Forall₂ Path.Same ps ps' := by
  intro arguments arguments'
  have h : ∀ a, a ∈ arguments ↔ a ∈ arguments' := by
    intro a
    simp only [arguments, arguments', List.mem_cons, List.not_mem_nil, or_false]
    tauto
  have hfine : ∀ a ∈ arguments, ¬ IsRefused besideCopy a := by
    intro a ha
    simp only [arguments, List.mem_cons, List.not_mem_nil, or_false] at ha
    rcases ha with rfl | rfl | rfl
    · have hplace : besideCopy.place? ⟨"./A.java".toList⟩ = some ["A.java".toList] := by decide
      have hfile : besideCopy.isFile ⟨"./A.java".toList⟩ = true :=
        (Tree.isFile_iff linkFree_besideCopy).mpr ⟨_, _, hplace, rfl⟩
      rintro (⟨hnofile, -⟩ | ⟨hdir, -⟩)
      · exact absurd hfile (Bool.eq_false_iff.mp hnofile)
      · exact absurd hdir (Bool.eq_false_iff.mp (Tree.isDirectory_eq_false_of_isFile hfile))
    · have hparse : Glob.Pattern.parse "*.java".toList =
          .ok ⟨[.name [.anyText, .char '.', .char 'j', .char 'a', .char 'v', .char 'a']], false, false⟩ := by
        cbv
      have hplace : besideCopy.place? ⟨"*.java".toList⟩ = some ["*.java".toList] := by decide
      rintro (⟨-, -, fault, hfault⟩ | ⟨hdir, -⟩)
      · cases hparse.symm.trans hfault
      · rw [Tree.isDirectory_eq_of_place? linkFree_besideCopy hplace] at hdir
        exact Bool.noConfusion hdir
    · have hplace : besideCopy.place? ⟨".".toList⟩ = some [] := by decide
      have hdir : besideCopy.isDirectory ⟨".".toList⟩ = true :=
        Tree.isDirectory_eq_of_place? linkFree_besideCopy hplace
      rintro (⟨-, hnodir, -⟩ | hunlistable)
      · exact absurd hdir (Bool.eq_false_iff.mp hnodir)
      · exact not_isUnlistable_besideCopy hunlistable
  rcases survey_canonical besideCopy "java".toList arguments arguments' h with ⟨hbad, -⟩ | ⟨-, hlists⟩
  · obtain ⟨a, ha, hrefused⟩ := hbad
    exact absurd hrefused (hfine a ha)
  · exact ⟨h, hlists⟩

end DocStub.Files

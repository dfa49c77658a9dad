import Mathlib.Data.List.TakeWhile
import DocStub.Proofs.Files.CopyPlace
import DocStub.Proofs.Files.Order

/-!
# What a directory lists

A search walks through a directory and spells the paths of the files that it finds from the spelling of the
directory.

**Names.**  The extension of a name is what comes behind its last dot, if something is in front of it
(`extensionOf?_eq_some_iff`).

**Spellings.**  A path that was joined from names has their components behind those of the directory
(`components_foldl_join`), so different files of a directory have different paths, and a file has the name
that its path ends with (`getLast?_of_place?`).

**Listing.**  What is found depends on where there are files, and not on their order in the tree
(`mem_filesIn_iff`).  The directory itself is found by the directories alone (`locate_lookUp_congr`).
-/

namespace DocStub.Files

/-! ## Names -/

namespace Path

variable {p q : Path} {n name x a w : List Char}

lemma extensionOf?_append (ha : a ≠ []) (hx : '.' ∉ x) : extensionOf? (a ++ '.' :: x) = some x := by
  have hreverse : (a ++ '.' :: x).reverse = x.reverse ++ '.' :: a.reverse := by simp
  have hfront : ∀ c ∈ x.reverse, (c != '.') = true := fun c hc =>
    bne_iff_ne.mpr fun heq => hx (heq ▸ List.mem_reverse.mp hc)
  obtain ⟨c, r, hr⟩ := List.exists_cons_of_ne_nil (List.reverse_ne_nil_iff.mpr ha)
  rw [extensionOf?, hreverse, List.dropWhile_append_of_pos hfront, List.takeWhile_append_of_pos hfront, hr]
  simp

/-- The extension of a name is behind its last dot, which is not at the front. -/
lemma extensionOf?_eq_some_iff :
    extensionOf? name = some x ↔ ∃ a, a ≠ [] ∧ name = a ++ '.' :: x ∧ '.' ∉ x := by
  constructor
  · intro h
    rw [extensionOf?] at h
    split at h
    · rename_i c r hdrop
      obtain rfl := Option.some.inj h
      refine ⟨(c :: r).reverse, by simp, ?_, fun hdot => ?_⟩
      · have hsplit := List.takeWhile_append_dropWhile (p := (· != '.')) (l := name.reverse)
        rw [hdrop] at hsplit
        simpa using (congrArg List.reverse hsplit).symm
      · have hno := List.mem_takeWhile_imp (List.mem_reverse.mp hdot)
        simp at hno
    · cases h
  · rintro ⟨a, ha, rfl, hx⟩
    exact extensionOf?_append ha hx

/-! ## Spellings -/

lemma pieces_append_slash (w : List Char) (hn : '/' ∉ n) :
    (⟨w ++ '/' :: n⟩ : Path).pieces = w.splitOn '/' ++ [n] := by
  rw [pieces, List.splitOn_append_cons_self, List.splitOn_eq_singleton hn]

/-- The start of a path is at its front. -/
lemma start?_congr (hhead : p.spelling.head? = q.spelling.head?)
    (hpieces : p.pieces.head? = q.pieces.head?) : p.start? = q.start? := by
  rw [start?, start?, hhead, hpieces]

lemma head?_splitOn_append (w : List Char) (l : List (List Char)) :
    (w.splitOn '/' ++ l).head? = (w.splitOn '/').head? :=
  List.head?_append_of_ne_nil _ (List.splitOn_ne_nil _ _)

/-- One more piece behind a slash is one more component, or none. -/
lemma components_append_slash (w : List Char) (hn : '/' ∉ n) :
    (⟨w ++ '/' :: n⟩ : Path).components =
      (⟨w ++ ['/']⟩ : Path).components ++ (Component.ofPiece? n).toList := by
  have hslash := pieces_append_slash w (n := []) List.not_mem_nil
  have hpieces := pieces_append_slash w hn
  have hstart : (⟨w ++ '/' :: n⟩ : Path).start? = (⟨w ++ ['/']⟩ : Path).start? := by
    refine start?_congr ?_ ?_
    · simp [List.head?_append]
    · rw [hslash, hpieces, head?_splitOn_append, head?_splitOn_append]
  have hnone : Component.ofPiece? [] = none := rfl
  rw [components, components, hstart, hslash, hpieces, List.filterMap_append, List.filterMap_append]
  cases hc : Component.ofPiece? n <;> simp [hc, hnone]

/-- A slash at the end means nothing. -/
lemma components_trailing (hw : w ≠ []) : (⟨w ++ ['/']⟩ : Path).components = (⟨w⟩ : Path).components := by
  have hslash := pieces_append_slash w (n := []) List.not_mem_nil
  have hstart : (⟨w ++ ['/']⟩ : Path).start? = (⟨w⟩ : Path).start? := by
    refine start?_congr (List.head?_append_of_ne_nil _ hw) ?_
    rw [hslash, head?_splitOn_append]
    rfl
  have hnone : Component.ofPiece? [] = none := rfl
  rw [components, components, hstart, hslash, List.filterMap_append]
  simp [hnone, pieces]

/-- A joined name is behind the directory, with a slash between them where there has to be one. -/
lemma join_cases (p : Path) (n : List Char) :
    p.spelling = [] ∧ p.join n = ⟨n⟩ ∨
      ∃ w, p.join n = ⟨w ++ '/' :: n⟩ ∧ (⟨w ++ ['/']⟩ : Path).components = p.components := by
  rw [join]
  split_ifs with h
  · by_cases hnil : p.spelling = []
    · exact .inl ⟨hnil, by rw [hnil]; rfl⟩
    · obtain ⟨w, hw⟩ := List.getLast?_eq_some_iff.mp (h.resolve_left hnil)
      exact .inr ⟨w, by rw [hw]; simp, by rw [← hw]⟩
  · exact .inr ⟨p.spelling, rfl, components_trailing fun hnil => h (.inl hnil)⟩

lemma components_join (p : Path) (hstep : Tree.isStep n = true) (hn : '/' ∉ n) :
    (p.join n).components = p.components ++ [.name n] := by
  have hname := ofPiece?_of_isStep hstep
  obtain ⟨hnil, hjoin⟩ | ⟨w, hjoin, hp⟩ := p.join_cases n
  · obtain ⟨hne, hdot, -⟩ := Tree.isStep_iff.mp hstep
    have hpieces : (⟨n⟩ : Path).pieces = [n] := List.splitOn_eq_singleton hn
    have hstart : (⟨n⟩ : Path).start? = none := by
      have hhead : n.head? ≠ some '/' := fun h => hn (List.mem_of_mem_head? h)
      simp [start?, hpieces, hhead, hdot]
    have hp : p.components = [] := by
      have hspelling : p = ⟨[]⟩ := congrArg Path.mk hnil
      rw [hspelling]
      rfl
    rw [hjoin, hp, components, hstart, hpieces]
    simp [hname]
  · rw [hjoin, components_append_slash w hn, hp, hname]
    rfl

/-- The names of a joined path are its last components. -/
lemma components_foldl_join {l : Location} (hl : ∀ n ∈ l, Tree.isStep n = true ∧ '/' ∉ n) (p : Path) :
    (l.foldl join p).components = p.components ++ l.map .name := by
  induction l generalizing p with
  | nil => exact (List.append_nil _).symm
  | cons n l ih =>
      obtain ⟨⟨hstep, hn⟩, hl⟩ := List.forall_mem_cons.mp hl
      rw [List.foldl_cons, ih hl, components_join p hstep hn]
      simp

/-- A joined path ends with the name. -/
lemma getLast?_pieces_join (p : Path) (hn : '/' ∉ n) : (p.join n).pieces.getLast? = some n := by
  obtain ⟨-, hjoin⟩ | ⟨w, hjoin, -⟩ := p.join_cases n
  · rw [hjoin, pieces, List.splitOn_eq_singleton hn]
    rfl
  · rw [hjoin, pieces_append_slash w hn, List.getLast?_concat]

end Path

namespace Tree

variable {t t' : Tree} {p : Path} {l k loc : Location} {bytes : ByteArray}

/-- What a path leads to, other than a directory, has the name that the path ends with. -/
lemma getLast?_of_place? (hplace : t.place? p = some l) (hl : t.isDirectoryAt l = false) :
    l.getLast? = p.pieces.getLast? := by
  obtain ⟨front, last, hpieces, -⟩ := p.exists_pieces_append
  have hroot : Rooted t.isDirectoryAt [] := fun a ha hne => absurd (List.prefix_nil.mp ha) hne
  rw [place?] at hplace
  split_ifs at hplace
  rw [hpieces] at hplace
  obtain ⟨-, a, rfl, -⟩ := exists_parent_of_reach? hroot hplace hl
  rw [hpieces, List.getLast?_concat, List.getLast?_concat]

/-! ## Files -/

/-- There is a file at a location. -/
def ListsFile (t : Tree) (l : Location) : Prop := ∃ bytes, (l, Node.file bytes) ∈ t.entries

lemma listsFile_of_get? (h : t.get? l = some (.file bytes)) : t.ListsFile l := by
  rw [get?] at h
  split_ifs at h
  · cases h
  · obtain ⟨before, after, hentries, -⟩ := List.lookup_eq_some_iff.mp h
    exact ⟨bytes, hentries ▸ List.mem_append_right before List.mem_cons_self⟩

/-- A written file is one more, or one that was there. -/
lemma listsFile_insert_file (t : Tree) (k : Location) (bytes : ByteArray) :
    (t.insert k (.file bytes)).ListsFile l ↔ l = k ∨ t.ListsFile l := by
  simp only [ListsFile, insert, List.mem_cons, Prod.mk.injEq, List.mem_filter, bne_iff_ne]
  by_cases hl : l = k
  · simp [hl]
  · simp [hl]

lemma mem_filesUnder_iff : l ∈ t.filesUnder loc ↔ t.ListsFile (loc ++ l) := by
  rw [filesUnder, List.mem_filterMap]
  constructor
  · rintro ⟨⟨k, node⟩, hmem, hl⟩
    cases node with
    | file bytes =>
        rw [List.isPrefixOf?_eq_some_iff_append_eq] at hl
        exact ⟨bytes, hl ▸ hmem⟩
    | directory => cases hl
    | link target => cases hl
  · rintro ⟨bytes, hmem⟩
    exact ⟨_, hmem, List.isPrefixOf?_eq_some_iff_append_eq.mpr rfl⟩

/-- The names in the tree are those that a path can lead along: none is empty, a dot or a double dot, and
none holds a slash. -/
def HasNames (t : Tree) : Prop := ∀ e ∈ t.entries, ∀ n ∈ e.1, isStep n = true ∧ '/' ∉ n

/-! ## Directories -/

lemma follow_ne_of_isDirectoryAt (hloc : t.isDirectoryAt loc = false) (hl : t.isDirectoryAt l = true)
    (links : Nat) (pieces : List (List Char)) : t.follow .lookUp links loc pieces ≠ .ok l := by
  intro h
  cases pieces with
  | nil =>
      rw [follow] at h
      obtain rfl := Except.ok.inj h
      rw [hl] at hloc
      exact Bool.noConfusion hloc
  | cons piece rest =>
      rw [follow, hloc] at h
      cases h

/-- The search for a directory looks at directories only. -/
lemma follow_lookUp_congr (hfree : t.LinkFree) (hdirs : t'.isDirectoryAt = t.isDirectoryAt)
    (hl : t.isDirectoryAt l = true) {links : Nat} {pieces : List (List Char)}
    (h : t.follow .lookUp links loc pieces = .ok l) : t'.follow .lookUp links loc pieces = .ok l := by
  induction pieces generalizing loc with
  | nil =>
      rw [follow] at h ⊢
      exact h
  | cons piece rest ih =>
      rw [follow] at h ⊢
      rw [hdirs]
      simp only [reduceCtorEq, false_and, if_false] at h ⊢
      split_ifs at h ⊢
      · exact ih h
      · exact ih h
      · cases hnode : t.get? (loc ++ [piece]) with
        | none => simp [hnode] at h
        | some node =>
            rw [hnode] at h
            cases node with
            | link target => exact absurd hnode (hfree _ target)
            | file bytes => exact absurd h (follow_ne_of_isDirectoryAt (isDirectoryAt_of_file hnode) hl _ _)
            | directory =>
                have hdir : t'.isDirectoryAt (loc ++ [piece]) = true := by
                  rw [hdirs, isDirectoryAt, hnode]
                  rfl
                rw [get?_of_isDirectoryAt hdir]
                exact ih h

lemma locate_lookUp_congr (hfree : t.LinkFree) (hdirs : t'.isDirectoryAt = t.isDirectoryAt)
    (hl : t.isDirectoryAt l = true) (h : t.locate .lookUp p = .ok l) : t'.locate .lookUp p = .ok l := by
  rw [locate] at h ⊢
  split_ifs at h ⊢
  exact follow_lookUp_congr hfree hdirs hl h

lemma exists_locate_of_isDirectory (h : t.isDirectory p = true) :
    ∃ l, t.locate .lookUp p = .ok l ∧ t.isDirectoryAt l = true := by
  rw [isDirectory, find?] at h
  cases hlocate : t.locate .lookUp p with
  | error f => simp [hlocate] at h
  | ok l =>
      rw [hlocate] at h
      exact ⟨l, rfl, h⟩

end Tree

/-! ## Listing -/

/-- The names end with one that has the extension. -/
def EndsIn (extension : List Char) (names : List (List Char)) : Prop :=
  ∃ n, names.getLast? = some n ∧ hasExtension extension n = true

variable {t : Tree} {extension : List Char} {p q dir : Path} {loc : Location}

/-- A directory lists the files below it that have the extension. -/
lemma mem_filesIn_iff (hdir : t.locate .lookUp dir = .ok loc) : p ∈ filesIn t extension dir ↔
    ∃ l, t.ListsFile (loc ++ l) ∧ EndsIn extension l ∧ l.foldl Path.join dir = p := by
  have hends : ∀ l : Location, l.getLast?.any (hasExtension extension) = true ↔ EndsIn extension l :=
    fun l => Option.any_eq_true ..
  rw [filesIn, hdir]
  simp only [List.mem_map, List.mem_filter, Tree.mem_filesUnder_iff, hends, and_assoc]

lemma exists_names_of_mem_filesIn (hnames : t.HasNames) (h : p ∈ filesIn t extension dir) :
    ∃ l : Location, (∀ n ∈ l, Tree.isStep n = true ∧ '/' ∉ n) ∧ EndsIn extension l ∧
      l.foldl Path.join dir = p := by
  cases hlocate : t.locate .lookUp dir with
  | error f => simp [filesIn, hlocate] at h
  | ok loc =>
      obtain ⟨l, ⟨bytes, hmem⟩, hends, hjoin⟩ := (mem_filesIn_iff hlocate).mp h
      exact ⟨l, fun n hn => hnames _ hmem n (List.mem_append_right loc hn), hends, hjoin⟩

/-- A directory lists no path in two spellings. -/
lemma eq_of_same_of_mem_filesIn (hnames : t.HasNames) (hp : p ∈ filesIn t extension dir)
    (hq : q ∈ filesIn t extension dir) (hsame : p.Same q) : p = q := by
  obtain ⟨l, hl, -, rfl⟩ := exists_names_of_mem_filesIn hnames hp
  obtain ⟨k, hk, -, rfl⟩ := exists_names_of_mem_filesIn hnames hq
  rw [Path.Same, Path.components_foldl_join hl, Path.components_foldl_join hk, List.append_cancel_left_eq]
    at hsame
  rw [List.map_injective_iff.mpr (fun a b h => Path.Component.name.inj h) hsame]

/-- The path of a listed file ends with a name that has the extension. -/
lemma endsIn_pieces_of_mem_filesIn (hnames : t.HasNames) (h : p ∈ filesIn t extension dir) :
    EndsIn extension p.pieces := by
  obtain ⟨l, hl, ⟨n, hlast, hn⟩, rfl⟩ := exists_names_of_mem_filesIn hnames h
  obtain ⟨a, rfl⟩ := List.getLast?_eq_some_iff.mp hlast
  refine ⟨n, ?_, hn⟩
  rw [List.foldl_concat, Path.getLast?_pieces_join _ (hl n (by simp)).2]

end DocStub.Files

import Mathlib.Data.List.Basic
import DocStub.Files.Update
import DocStub.Proofs.Files.Reach

/-!
# Where copies go

The path of a copy is the path of the file with a suffix at its end.  Without a slash in the suffix the
copy goes next to the file, and the suffix is at the end of its name.

**Pieces.**  The suffix belongs to the last piece of the path (`exists_pieces_append`).

**Places.**  A path that leads to a file ends with the name of the file, so the copy has the place of the
file up to the name (`place?_append`).  The directories on the way matter for this: after a double dot at
the end a suffix would be a name of its own.

**Order.**  The place of a path of names is spelled by its components (`components_eq_of_place?`), so no
path comes before a file in whose copy's place it is (`isBefore_eq_false_of_suffixed`).
-/

namespace DocStub.Files

open Text (utf8Length)

/-- The location with a suffix at the end of its last name. -/
def suffixed (s : List Char) (l : Location) : Location :=
  l.dropLast ++ (l.getLast?.map (· ++ s)).toList

@[simp] lemma suffixed_concat (s : List Char) (a : Location) (n : List Char) :
    suffixed s (a ++ [n]) = a ++ [n ++ s] := by
  simp [suffixed]

lemma suffixed_nil (l : Location) : suffixed [] l = l := by
  obtain rfl | ⟨a, n, rfl⟩ := List.eq_nil_or_concat' l
  · rfl
  · simp

lemma suffixed_ne_self {s : List Char} (hs : s ≠ []) {l : Location} (hl : l ≠ []) : suffixed s l ≠ l := by
  obtain rfl | ⟨a, n, rfl⟩ := List.eq_nil_or_concat' l
  · exact absurd rfl hl
  · simpa using hs

lemma suffixed_injective (s : List Char) : Function.Injective (suffixed s) := by
  intro l k h
  obtain rfl | ⟨a, n, rfl⟩ := List.eq_nil_or_concat' l <;>
    obtain rfl | ⟨b, m, rfl⟩ := List.eq_nil_or_concat' k
  · rfl
  · simp [suffixed] at h
  · simp [suffixed] at h
  · rw [suffixed_concat, suffixed_concat] at h
    obtain ⟨rfl, hname⟩ := List.append_inj' h rfl
    rw [List.append_cancel_right (List.singleton_inj.mp hname)]

/-! ## Pieces -/

/-- A suffix without slashes belongs to the last piece. -/
lemma Path.exists_pieces_append (p : Path) : ∃ front last, p.pieces = front ++ [last] ∧
    ∀ s, '/' ∉ s → (p.append s).pieces = front ++ [last ++ s] := by
  by_cases hslash : '/' ∈ p.spelling
  · obtain ⟨v, u, hsplit, hv⟩ := List.eq_append_cons_of_mem (List.mem_reverse.mpr hslash)
    have hspelling : p.spelling = u.reverse ++ '/' :: v.reverse := by
      rw [← List.reverse_reverse p.spelling, hsplit]
      simp
    have hlast : '/' ∉ v.reverse := fun h => hv (List.mem_reverse.mp h)
    refine ⟨u.reverse.splitOn '/', v.reverse, ?_, fun s hs => ?_⟩
    · rw [Path.pieces, hspelling, List.splitOn_append_cons_self, List.splitOn_eq_singleton hlast]
    · have hlonger : '/' ∉ v.reverse ++ s := List.not_mem_append hlast hs
      rw [Path.pieces, Path.append, hspelling, List.append_assoc, List.cons_append,
        List.splitOn_append_cons_self, List.splitOn_eq_singleton hlonger]
  · refine ⟨[], p.spelling, List.splitOn_eq_singleton hslash, fun s hs => ?_⟩
    exact List.splitOn_eq_singleton (List.not_mem_append hslash hs)

/-- The path can be given to the system: it holds no character that ends texts, and neither the path nor a
piece of it is too long. -/
structure Path.Fits (p : Path) : Prop where
  nul : '\x00' ∉ p.spelling
  length : utf8Length p.spelling ≤ Tree.pathLimit
  names : ∀ n ∈ p.pieces, utf8Length n ≤ Tree.nameLimit

namespace Tree

variable {t : Tree} {p q : Path} {k l loc : Location} {s : List Char}

/-- A suffix makes no dots of a name. -/
lemma isStep_append {n : List Char} (hn : isStep n = true) (s : List Char) : isStep (n ++ s) = true := by
  rw [isStep_iff] at hn ⊢
  obtain ⟨hne, hdot, hdots⟩ := hn
  refine ⟨List.append_ne_nil_of_left_ne_nil hne s, fun h => ?_, fun h => ?_⟩
  · rcases List.append_eq_singleton_iff.mp h with ⟨h, -⟩ | ⟨h, -⟩
    · exact hne h
    · exact hdot h
  · obtain ⟨c, r, rfl⟩ := List.exists_cons_of_ne_nil hne
    rw [List.cons_append] at h
    obtain ⟨rfl, htail⟩ := List.cons.inj h
    rcases List.append_eq_singleton_iff.mp htail with ⟨rfl, -⟩ | ⟨rfl, -⟩
    · exact hdot rfl
    · exact hdots rfl

/-! ## Places -/

/-- All that is on the way to a location is a directory. -/
def Rooted (isDir : Location → Bool) (loc : Location) : Prop :=
  ∀ a, a <+: loc → a ≠ loc → isDir a = true

lemma Rooted.isDir_dropLast {isDir : Location → Bool} (h : Rooted isDir loc) (hne : loc ≠ []) :
    isDir loc.dropLast = true :=
  h _ (List.dropLast_prefix loc) fun heq => by
    have hlen := congrArg List.length heq
    have hpos := List.length_pos_iff.mpr hne
    rw [List.length_dropLast] at hlen
    omega

lemma Rooted.next {isDir : Location → Bool} (h : Rooted isDir loc) (hloc : isDir loc = true)
    (piece : List Char) : Rooted isDir (next loc piece) := by
  have hprefix : ∀ a, a <+: loc → isDir a = true := by
    intro a ha
    by_cases heq : a = loc
    · rw [heq, hloc]
    · exact h a ha heq
  intro a ha hne
  rw [Tree.next] at ha hne
  split_ifs at ha hne
  · exact hprefix a (ha.trans (List.dropLast_prefix loc))
  · exact hprefix a ((List.prefix_concat_iff.mp ha).resolve_left hne)
  · exact hprefix a ha

/-- Only a name leads out of the directories. -/
lemma isStep_of_isDir_next {isDir : Location → Bool} {piece : List Char} (h : Rooted isDir loc)
    (hloc : isDir loc = true) (hup : piece = ['.', '.'] → loc ≠ [])
    (hnext : isDir (next loc piece) = false) : isStep piece = true := by
  by_contra hstep
  rw [next, if_neg hstep] at hnext
  split_ifs at hnext with hdots
  · rw [h.isDir_dropLast (hup hdots)] at hnext
    exact Bool.noConfusion hnext
  · rw [hloc] at hnext
    exact Bool.noConfusion hnext

/-- What leads to a file ends with its name, and another name there leads to the same directory. -/
lemma exists_parent_of_reach? {isDir : Location → Bool} {front : List (List Char)} {last : List Char}
    (hroot : Rooted isDir loc) (h : reach? isDir loc (front ++ [last]) = some l) (hl : isDir l = false) :
    isStep last = true ∧ ∃ a, l = a ++ [last] ∧ ∀ n k, isStep n = true →
      reach? isDir loc (front ++ [n]) = some k → k = a ++ [n] := by
  induction front generalizing loc with
  | nil =>
      obtain ⟨hdir, hup, hend⟩ := reach?_cons h
      obtain rfl := Option.some.inj hend
      have hstep : isStep last = true := isStep_of_isDir_next hroot hdir hup hl
      refine ⟨hstep, loc, next_of_isStep hstep loc, fun n k hn hk => ?_⟩
      have hother := Option.some.inj (reach?_cons hk).2.2
      rw [← hother, next_of_isStep hn]
  | cons piece front ih =>
      obtain ⟨hdir, -, hrest⟩ := reach?_cons h
      obtain ⟨hstep, a, hla, hother⟩ := ih (hroot.next hdir piece) hrest
      exact ⟨hstep, a, hla, fun n k hn hk => hother n k hn (reach?_cons hk).2.2⟩

/-- The copy of a file goes next to the file. -/
lemma place?_append (hplace : t.place? p = some l) (hl : t.isDirectoryAt l = false) (hs : '/' ∉ s)
    (hcopy : t.place? (p.append s) = some k) : k = suffixed s l := by
  obtain ⟨front, last, hpieces, hlonger⟩ := p.exists_pieces_append
  have hroot : Rooted t.isDirectoryAt [] := fun a ha hne => absurd (List.prefix_nil.mp ha) hne
  rw [place?] at hplace hcopy
  split_ifs at hplace hcopy
  rw [hpieces] at hplace
  rw [hlonger s hs] at hcopy
  obtain ⟨hstep, a, rfl, hother⟩ := exists_parent_of_reach? hroot hplace hl
  rw [suffixed_concat]
  exact hother _ _ (isStep_append hstep s) hcopy

/-- Another short name leads on where a name does. -/
lemma exists_reach?_of_isStep {isDir : Location → Bool} {front : List (List Char)} {last n : List Char}
    (h : reach? isDir loc (front ++ [last]) = some l) (hn : isStep n = true)
    (hshort : utf8Length n ≤ nameLimit) : ∃ k, reach? isDir loc (front ++ [n]) = some k := by
  induction front generalizing loc with
  | nil =>
      obtain ⟨hdir, -, -⟩ := reach?_cons h
      exact ⟨loc ++ [n], by simp [reach?, hdir, hn, (isStep_iff.mp hn).2.2, Nat.not_lt.mpr hshort]⟩
  | cons piece front ih =>
      obtain ⟨hdir, hup, hrest⟩ := reach?_cons h
      obtain ⟨k, hk⟩ := ih hrest
      refine ⟨k, ?_⟩
      rw [List.cons_append, reach?_cons_eq hdir hup fun hstep =>
        ⟨utf8Length_le_of_reach?_cons h hstep, ?_⟩]
      · exact hk
      · -- a name is behind this piece, and not just slashes
        simp [(isStep_iff.mp hn).1]

/-- There is a place for the copy of a file where its path can be given to the system. -/
lemma exists_place?_append (hplace : t.place? p = some l) (hl : t.isDirectoryAt l = false) (hs : '/' ∉ s)
    (hfits : (p.append s).Fits) : ∃ k, t.place? (p.append s) = some k := by
  obtain ⟨front, last, hpieces, hlonger⟩ := p.exists_pieces_append
  have hroot : Rooted t.isDirectoryAt [] := fun a ha hne => absurd (List.prefix_nil.mp ha) hne
  have hshort : utf8Length (last ++ s) ≤ nameLimit := hfits.names _ (by rw [hlonger s hs]; simp)
  rw [place?] at hplace
  split_ifs at hplace with _ _ habsolute
  rw [hpieces] at hplace
  obtain ⟨hstep, -⟩ := exists_parent_of_reach? hroot hplace hl
  have hfront : ¬ (p.append s).spelling.head?.all (· == '/') = true := by
    rw [Path.append]
    cases hspelling : p.spelling with
    | nil => simp [hspelling] at habsolute
    | cons c cs => simpa [hspelling] using habsolute
  rw [place?, if_neg hfits.nul, if_neg (Nat.not_lt.mpr hfits.length), if_neg hfront, hlonger s hs]
  exact exists_reach?_of_isStep hplace (isStep_append hstep s) hshort

end Tree

/-! ## Order -/

/-- An order of lists does not look at a common front. -/
lemma lex_append_append {α : Type} [BEq α] [ReflBEq α] {lt : α → α → Bool} (hlt : ∀ x, lt x x = false)
    (front a b : List α) : List.lex (front ++ a) (front ++ b) lt = List.lex a b lt := by
  induction front with
  | nil => rfl
  | cons x front ih => simp [hlt, ih]

namespace Path

variable {p q : Path} {l : Location} {s : List Char}

/-- The path is made of names alone, so it is relative and has no dots in front or double dots. -/
def IsPlain (p : Path) : Prop := ∀ c ∈ p.components, ∃ n, c = .name n

lemma ofPiece?_of_isStep {piece : List Char} (h : Tree.isStep piece = true) :
    Component.ofPiece? piece = some (.name piece) := by
  obtain ⟨hne, hdot, hdots⟩ := Tree.isStep_iff.mp h
  rw [Component.ofPiece?, if_neg (not_or.mpr ⟨hne, hdot⟩), if_neg hdots]

/-- The piece stands for a name, or for nothing. -/
def IsPlainPiece (piece : List Char) : Prop := ∀ c, Component.ofPiece? piece = some c → ∃ n, c = .name n

/-- A piece leads on by the name that it stands for. -/
lemma map_name_next {piece : List Char} (h : IsPlainPiece piece) (loc : Location) :
    (Tree.next loc piece).map Component.name =
      loc.map Component.name ++ (Component.ofPiece? piece).toList := by
  by_cases hstep : Tree.isStep piece = true
  · rw [Tree.next_of_isStep hstep, ofPiece?_of_isStep hstep, List.map_append]
    rfl
  · have hdots : piece = [] ∨ piece = ['.'] ∨ piece = ['.', '.'] := by
      by_contra hnone
      rw [not_or, not_or] at hnone
      exact hstep (Tree.isStep_iff.mpr hnone)
    rcases hdots with rfl | rfl | rfl
    · exact (List.append_nil _).symm
    · exact (List.append_nil _).symm
    · obtain ⟨n, hn⟩ := h .parent rfl
      exact Component.noConfusion hn

lemma map_name_foldl_next {pieces : List (List Char)} (h : ∀ piece ∈ pieces, IsPlainPiece piece)
    (loc : Location) : (pieces.foldl Tree.next loc).map Component.name =
      loc.map Component.name ++ pieces.filterMap Component.ofPiece? := by
  induction pieces generalizing loc with
  | nil => exact (List.append_nil _).symm
  | cons piece pieces ih =>
      obtain ⟨hpiece, hrest⟩ := List.forall_mem_cons.mp h
      rw [List.foldl_cons, ih hrest, map_name_next hpiece, List.append_assoc]
      cases hc : Component.ofPiece? piece <;> simp [hc]

lemma IsPlain.start?_eq_none (hp : p.IsPlain) : p.start? = none := by
  cases hstart : p.start? with
  | none => rfl
  | some c =>
      obtain ⟨n, rfl⟩ := hp c (by simp [components, hstart])
      rw [start?] at hstart
      split_ifs at hstart <;> exact Component.noConfusion (Option.some.inj hstart)

/-- The components of a plain path spell the location that it leads to. -/
lemma components_eq_of_place? {t : Tree} (hp : p.IsPlain) (hplace : t.place? p = some l) :
    p.components = l.map Component.name := by
  have hpieces : ∀ piece ∈ p.pieces, IsPlainPiece piece := fun piece hmem c hc =>
    hp c (List.mem_append_right _ (List.mem_filterMap.mpr ⟨piece, hmem, hc⟩))
  rw [Tree.place?] at hplace
  split_ifs at hplace
  rw [components, hp.start?_eq_none, Tree.eq_foldl_of_reach? hplace, map_name_foldl_next hpieces]
  rfl

lemma isBeforeIn_append (k rest : List Nat) : isBefore.isBeforeIn (k ++ rest) k = false := by
  have hblt : ∀ n : Nat, Nat.blt n n = false := fun n => by
    rw [Bool.eq_false_iff, ne_eq, Nat.blt_eq]
    exact Nat.lt_irrefl n
  have hcommon := lex_append_append hblt k rest []
  rwa [List.append_nil, List.lex_nil] at hcommon

lemma isBeforeIn_self (k : List Nat) : isBefore.isBeforeIn k k = false := by
  have hfront := isBeforeIn_append k []
  rwa [List.append_nil] at hfront

/-- No path comes before a file in whose copy's place it is. -/
lemma isBefore_eq_false_of_suffixed (hp : p.components = (suffixed s l).map .name)
    (hq : q.components = l.map .name) : p.isBefore q = false := by
  obtain rfl | ⟨a, n, rfl⟩ := List.eq_nil_or_concat' l
  · rw [isBefore, key, key, hp, hq]
    rfl
  · have hname : (Component.name (n ++ s)).key = (Component.name n).key ++ s.map Char.toNat := by
      simp [Component.key]
    have hpkey : p.key = (a.map Component.name).map Component.key ++ [(Component.name (n ++ s)).key] := by
      rw [key, hp, suffixed_concat, List.map_append, List.map_append]
      rfl
    have hqkey : q.key = (a.map Component.name).map Component.key ++ [(Component.name n).key] := by
      rw [key, hq, List.map_append, List.map_append]
      rfl
    -- the directories are the same, and the longer name does not come first
    rw [isBefore, hpkey, hqkey, lex_append_append isBeforeIn_self, hname, List.cons_lex_cons,
      isBeforeIn_append, List.lex_nil, Bool.and_false, Bool.or_false]

end Path

end DocStub.Files

import Mathlib.Data.List.Induction
import DocStub.Proofs.Files.Listing

/-!
# The way down from a directory

A search spells the path of a directory by joining names to the path where it started, and asks the system for
that path again.

**Spellings.**  A joined name is the last piece of the path, whether there was a slash at its end or not
(`pieces_join`), and the path gets longer (`utf8Length_le_append`).

**Places.**  In a tree without links a path goes on from where its front leads (`follow_lookUp_append`).  So if
the tree is one that the system can hold (`IsOrdinary`), the path of a directory leads there, unless it is too
long (`locate_foldl_join`).
-/

namespace DocStub.Files

open Text (utf8Length)

variable {t : Tree} {p dir : Path} {l loc : Location} {n : List Char}

/-! ## Spellings -/

lemma utf8Length_le_append (a b : List Char) : utf8Length a ≤ utf8Length (a ++ b) := by
  rw [utf8Length, utf8Length, List.foldl_append]
  generalize a.foldl (fun n c => n + c.utf8Size) 0 = n
  induction b generalizing n with
  | nil => exact Nat.le_refl n
  | cons c b ih => exact (Nat.le_add_right n _).trans (ih _)

/-- The system takes the name: it is neither empty nor a dot or a double dot, no slash and no NUL is in it, and
it is not too long. -/
def IsName (n : List Char) : Prop :=
  Tree.isStep n = true ∧ '/' ∉ n ∧ '\x00' ∉ n ∧ utf8Length n ≤ Tree.nameLimit

namespace Path

lemma spelling_join (p : Path) (n : List Char) :
    (p.join n).spelling = p.spelling ++ n ∨ (p.join n).spelling = p.spelling ++ '/' :: n := by
  rw [join]
  split_ifs
  · exact .inl rfl
  · exact .inr rfl

/-- A name becomes the last piece.  It takes the place of an empty one. -/
lemma pieces_join (hne : p.spelling ≠ []) (hn : '/' ∉ n) :
    (p.join n).pieces = p.pieces ++ [n] ∨
      ∃ front, p.pieces = front ++ [[]] ∧ (p.join n).pieces = front ++ [n] := by
  rw [join]
  split_ifs with h
  · obtain ⟨w, hw⟩ := List.getLast?_eq_some_iff.mp (h.resolve_left hne)
    refine .inr ⟨w.splitOn '/', ?_, ?_⟩
    · rw [pieces, hw]
      exact pieces_append_slash w List.not_mem_nil
    · rw [hw, List.append_assoc]
      exact pieces_append_slash w hn
  · exact .inl (pieces_append_slash p.spelling hn)

end Path

/-! ## Places -/

namespace Tree

/-- The tree is as the system can hold it: what is around a directory are directories, and it takes the names on
the way to a directory. -/
structure IsOrdinary (t : Tree) : Prop where
  rooted : ∀ l, t.isDirectoryAt l = true → Rooted t.isDirectoryAt l
  named : ∀ l, t.isDirectoryAt l = true → ∀ n ∈ l, IsName n

/-- Without links, a path goes on from where its front leads. -/
lemma follow_lookUp_append (hfree : t.LinkFree) (links : Nat) (loc : Location)
    (front rest : List (List Char)) : t.follow .lookUp links loc (front ++ rest) =
      (t.follow .lookUp links loc front).bind fun k => t.follow .lookUp links k rest := by
  induction front generalizing loc with
  | nil =>
      rw [List.nil_append, follow.eq_1]
      rfl
  | cons piece front ih =>
      rw [List.cons_append, follow, follow.eq_def _ _ _ _ (piece :: front)]
      simp only [reduceCtorEq, false_and, if_false]
      split_ifs
      · rfl
      · rfl
      · exact ih _
      · exact ih _
      · rfl
      · cases hnode : t.get? (loc ++ [piece]) with
        | none => rfl
        | some node =>
            cases node with
            | link target => exact absurd hnode (hfree _ target)
            | file bytes => exact ih _
            | directory => exact ih _

lemma locate_join (hfree : t.LinkFree) (hn : IsName n) (hp : t.locate .lookUp p = .ok loc)
    (hloc : t.isDirectoryAt loc = true) (hdir : t.isDirectoryAt (loc ++ [n]) = true)
    (hlength : utf8Length (p.join n).spelling ≤ pathLimit) :
    t.locate .lookUp (p.join n) = .ok (loc ++ [n]) := by
  obtain ⟨hstep, hslash, hnul, hshort⟩ := hn
  rw [locate] at hp
  split_ifs at hp with hpnul hplong hphead
  have hne : p.spelling ≠ [] := by
    intro h
    rw [h] at hphead
    exact hphead rfl
  have hlast : t.follow .lookUp linkLimit loc [n] = .ok (loc ++ [n]) := by
    have hnode := get?_of_isDirectoryAt hdir
    obtain ⟨-, -, hdots⟩ := isStep_iff.mp hstep
    rw [follow]
    simp [hloc, hdots, hstep, Nat.not_lt.mpr hshort, hnode, follow]
  have hpieces : t.follow .lookUp linkLimit [] (p.join n).pieces = .ok (loc ++ [n]) := by
    rcases p.pieces_join hne hslash with h | ⟨front, hfront, h⟩
    · rw [h, follow_lookUp_append hfree, hp]
      exact hlast
    · rw [hfront, follow_lookUp_append hfree] at hp
      rw [h, follow_lookUp_append hfree]
      cases hk : t.follow .lookUp linkLimit [] front with
      | error f =>
          rw [hk] at hp
          cases hp
      | ok k =>
          -- an empty piece leads nowhere else
          have hkloc : k = loc := by
            have hstay : t.follow .lookUp linkLimit k [[]] = .ok loc := by
              rw [hk] at hp
              exact hp
            cases hkdir : t.isDirectoryAt k with
            | false => simp [follow, hkdir] at hstay
            | true => simpa [follow, hkdir, isStep] using hstay
          rw [hkloc]
          exact hlast
  rw [locate, if_neg, if_neg (Nat.not_lt.mpr hlength), if_neg, hpieces]
  · rcases p.spelling_join n with h | h <;> rw [h, List.head?_append_of_ne_nil _ hne] <;> exact hphead
  · rcases p.spelling_join n with h | h <;> rw [h] <;> simp [hpnul, hnul]

/-- The path of a directory leads there if it is not too long. -/
lemma locate_foldl_join (hfree : t.LinkFree) (hordinary : t.IsOrdinary)
    (hdir : t.locate .lookUp dir = .ok loc) (hl : t.isDirectoryAt (loc ++ l) = true)
    (hlength : utf8Length (l.foldl Path.join dir).spelling ≤ pathLimit) :
    t.locate .lookUp (l.foldl Path.join dir) = .ok (loc ++ l) := by
  induction l using List.reverseRecOn with
  | nil => rwa [List.append_nil]
  | append_singleton l n ih =>
      rw [← List.append_assoc] at hl
      have habove : t.isDirectoryAt (loc ++ l) = true :=
        hordinary.rooted _ hl _ (List.prefix_append _ _) (by simp)
      rw [List.foldl_concat] at hlength ⊢
      have hshorter : utf8Length (l.foldl Path.join dir).spelling ≤ pathLimit := by
        refine le_trans ?_ hlength
        rcases (l.foldl Path.join dir).spelling_join n with h | h <;> rw [h] <;> exact utf8Length_le_append _ _
      have hname := hordinary.named _ hl n (by simp)
      rw [locate_join hfree hname (ih habove hshorter) habove hl hlength, List.append_assoc]

lemma utf8Length_le_of_locate {purpose : Purpose} (h : t.locate purpose p = .ok l) :
    utf8Length p.spelling ≤ pathLimit := by
  rw [locate] at h
  split_ifs at h with _ hlong
  exact Nat.not_lt.mp hlong

end Tree

end DocStub.Files

import DocStub.Proofs.Text.Blank
import DocStub.Text.Lowercase

/-!
# What lower-casing leaves alone

A sign is an ASCII character in front of the letters: a control character, a blank, a digit, or most of
the punctuation.  Lower-casing keeps the signs of a text and brings in none, whatever the letters around
them become.

**One character.**  `lower_of_isSign` and `isSign_of_mem_lower`.  The second one needs a look at the
table of capitals: none of its rows leads below the letters or outside the code points.

**A text.**  `lowercase_go_cons` cuts the lower-case form of a text after the image of its first
character, and `mem_lowercase_iff` follows by induction.
-/

namespace DocStub.Text

/-- A character in front of the letters of ASCII. -/
def IsSign (c : Char) : Prop := c.toNat < 0x41

instance (c : Char) : Decidable (IsSign c) := inferInstanceAs (Decidable (c.toNat < 0x41))

/-! ## One character -/

lemma toNat_ofNat_of_isValidChar {n : Nat} (h : n.isValidChar) : (Char.ofNat n).toNat = n := by
  rw [Char.ofNat, dif_pos h]
  rfl

lemma lower_of_isSign {c : Char} (hc : IsSign c) : lower c = [c] := by
  have hlt : c.toNat < 0x80 := Nat.lt_trans hc (by decide)
  have hlower : IsSign c → c.toLower = c :=
    forall_ascii (P := fun c => IsSign c → c.toLower = c) (by decide +kernel) hlt
  rw [lower, if_pos hlt, hlower hc]

/-- Every row of the table leads to letters: not below them, and not to a surrogate. -/
lemma caseShifts_bounds :
    ∀ p ∈ caseShifts, 0x41 ≤ p.2 ∧
      (p.2 + (p.1.last - p.1.first) < 0xD800 ∨
        0xDFFF < p.2 ∧ p.2 + (p.1.last - p.1.first) < 0x110000) := by
  decide +kernel

lemma isSign_of_mem_lower {c x : Char} (hx : x ∈ lower c) (hsign : IsSign x) : IsSign c := by
  by_contra hc
  unfold lower at hx
  split_ifs at hx with hlt hdot
  · have hletter : ¬ IsSign c → ¬ IsSign c.toLower :=
      forall_ascii (P := fun c => ¬ IsSign c → ¬ IsSign c.toLower) (by decide +kernel) hlt
    rw [List.mem_singleton] at hx
    exact hletter hc (hx ▸ hsign)
  · have hboth : ¬ IsSign 'i' ∧ ¬ IsSign (Char.ofNat 0x307) := by decide
    simp only [List.mem_cons, List.not_mem_nil, or_false] at hx
    rcases hx with rfl | rfl
    · exact hboth.1 hsign
    · exact hboth.2 hsign
  · split at hx
    · rename_i s target hfind
      obtain ⟨hlow, hhigh⟩ := caseShifts_bounds _ (List.mem_of_find?_eq_some hfind)
      have hmem : s.contains c.toNat = true := by
        simpa using List.find?_some hfind
      simp only [Stride.contains, Bool.and_eq_true, decide_eq_true_eq] at hmem
      have hvalid : (target + (c.toNat - s.first)).isValidChar := by
        simp only at hhigh
        unfold Nat.isValidChar
        omega
      rw [List.mem_singleton] at hx
      rw [hx, IsSign, toNat_ofNat_of_isValidChar hvalid] at hsign
      simp only at hlow
      omega
    · rw [List.mem_singleton] at hx
      exact hc (hx ▸ hsign)

lemma lower_ne_nil (c : Char) : lower c ≠ [] := by
  unfold lower
  split_ifs
  · simp
  · simp
  · split <;> simp

/-! ## A text -/

/-- The image of a character in a text, with what stands around it. -/
def lowerIn (before : List Char) (c : Char) (after : List Char) : List Char :=
  if c = 'Σ' then [lowerSigma before after] else lower c

lemma lowercase_go_cons (before : List Char) (c : Char) (t : List Char) :
    lowercase.go before (c :: t) = lowerIn before c t ++ lowercase.go (c :: before) t := rfl

lemma lowerIn_of_isSign {c : Char} (hc : IsSign c) (before after : List Char) :
    lowerIn before c after = [c] := by
  have hne : c ≠ 'Σ' := by
    rintro rfl
    exact absurd hc (by decide)
  rw [lowerIn, if_neg hne, lower_of_isSign hc]

lemma isSign_of_mem_lowerIn {before after : List Char} {c x : Char}
    (hx : x ∈ lowerIn before c after) (hsign : IsSign x) : IsSign c := by
  unfold lowerIn at hx
  split_ifs at hx with hc
  · rw [List.mem_singleton, lowerSigma] at hx
    split_ifs at hx
    · exact absurd (hx ▸ hsign) (by decide)
    · exact absurd (hx ▸ hsign) (by decide)
  · exact isSign_of_mem_lower hx hsign

lemma lowerIn_ne_nil (before : List Char) (c : Char) (after : List Char) :
    lowerIn before c after ≠ [] := by
  unfold lowerIn
  split_ifs
  · simp
  · exact lower_ne_nil c

/-- A sign occurs in the lower-case form of a text exactly when it occurs in the text. -/
theorem mem_lowercase_iff {x : Char} (hx : IsSign x) {t : List Char} :
    x ∈ lowercase t ↔ x ∈ t := by
  suffices h : ∀ before, x ∈ lowercase.go before t ↔ x ∈ t from h []
  induction t with
  | nil => simp [lowercase.go]
  | cons c t ih =>
      intro before
      rw [lowercase_go_cons, List.mem_append, ih, List.mem_cons]
      refine or_congr_left ⟨fun hmem => ?_, ?_⟩
      · rw [lowerIn_of_isSign (isSign_of_mem_lowerIn hmem hx), List.mem_singleton] at hmem
        exact hmem
      · rintro rfl
        rw [lowerIn_of_isSign hx]
        exact List.mem_singleton_self x

end DocStub.Text

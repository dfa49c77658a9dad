import DocStub.Proofs.Files.Copies

/-!
# The bytes that a rewrite replaces

A copy is stored before its file is written, so that the bytes of the file are in two places at that time.
The second write leaves them in one, or in none: where a copy goes is up to the suffix, and with the empty
suffix it goes to the file itself.

**Two writes.**  A file that was written was read before (`exists_store_of_isWritten`), and its copy was
written in between (`exists_writes_store`).

**Two places.**  The copy is there in between, and it is there afterwards if and only if its path and the
path of the file lead to different places (`read_copy_iff`).  Of the suffixes without a slash, the empty one
alone makes them the same.
-/

namespace DocStub.Files

open Source (document)

variable {o : Options} {t between after : Tree} {p q : Path} {text : List Char}

/-! ## Two writes -/

/-- Only a file with something to document is stored. -/
lemma exists_store_of_isWritten (hwritten : (update o t p).IsWritten) :
    ∃ text log, t.read p = .ok (Text.encode text) ∧ (document text).isChanged = true ∧
      update o t p = store o t p (Text.encode text) (document text) log := by
  obtain ⟨n, hn⟩ := hwritten
  rcases update_cases o t p with ⟨f, h⟩ | ⟨text, log, hread, h⟩
  · rw [h] at hn
    cases hn
  · rw [h] at hn ⊢
    split_ifs at hn ⊢ with hchanged hdry
    · cases hn
    · cases hn
    · exact ⟨text, log, hread, by simpa using hchanged, rfl⟩

/-- The copy is written first, and the file into the tree with the copy. -/
lemma exists_writes_store (hkeeps : o.keepsCopy = true) {bytes : ByteArray} {d : Source.Documented}
    {log : List Log.Record} (hwritten : (store o t p bytes d log).IsWritten) :
    ∃ between, t.write (o.copyPath p) bytes = .ok between ∧
      between.write p (Text.encode d.text) = .ok (store o t p bytes d log).tree ∧
      (store o t p bytes d log).writes = [⟨o.copyPath p, bytes⟩, ⟨p, Text.encode d.text⟩] := by
  obtain ⟨n, hn⟩ := hwritten
  have hcopies : writeAll t [⟨o.copyPath p, bytes⟩] = t.write (o.copyPath p) bytes := by simp [writeAll]
  simp only [store, hkeeps, if_true, hcopies] at hn ⊢
  cases hcopy : t.write (o.copyPath p) bytes with
  | error f =>
      rw [hcopy] at hn
      cases hn
  | ok between =>
      rw [hcopy] at hn
      dsimp only at hn ⊢
      cases hfile : between.write p (Text.encode d.text) with
      | error f =>
          rw [hfile] at hn
          cases hn
      | ok after => exact ⟨between, rfl, hfile, rfl⟩

/-! ## Two places -/

/-- What was written is read. -/
lemma read_of_write (hfree : t.LinkFree) {bytes : ByteArray} (hwrite : t.write q bytes = .ok after) :
    after.LinkFree ∧ after.isDirectoryAt = t.isDirectoryAt ∧ after.read q = .ok bytes := by
  obtain ⟨l, hplace, hl, rfl⟩ := (Tree.write_eq_ok_iff hfree).mp hwrite
  have hdirs := Tree.isDirectoryAt_insert_file hl bytes
  have hfree' := hfree.insert_file hl bytes
  refine ⟨hfree', hdirs, (Tree.read_eq_ok_iff hfree').mpr ⟨l, ?_, ?_⟩⟩
  · rw [Tree.place?_congr hdirs, hplace]
  · exact Tree.get?_insert_self t _ (Tree.ne_nil_of_isDirectoryAt hl)

/-- A write leaves all files alone that are in other places. -/
lemma read_write_of_ne (hfree : t.LinkFree) {bytes : ByteArray} (hwrite : t.write p bytes = .ok after)
    (hne : t.place? q ≠ t.place? p) {old : ByteArray} (hread : t.read q = .ok old) :
    after.read q = .ok old := by
  obtain ⟨l, hplace, hl, rfl⟩ := (Tree.write_eq_ok_iff hfree).mp hwrite
  obtain ⟨k, hk, hnode⟩ := (Tree.read_eq_ok_iff hfree).mp hread
  have hkl : k ≠ l := by
    rintro rfl
    exact hne (hk.trans hplace.symm)
  rw [Tree.read_eq_ok_iff (hfree.insert_file hl bytes)]
  refine ⟨k, ?_, ?_⟩
  · rw [Tree.place?_congr (Tree.isDirectoryAt_insert_file hl bytes), hk]
  · rw [Tree.get?_insert_of_ne t _ hkl, hnode]

/-- Paths to the same place read the same. -/
lemma read_congr_of_place? (hfree : t.LinkFree) (h : t.place? q = t.place? p) {bytes : ByteArray} :
    t.read q = .ok bytes ↔ t.read p = .ok bytes := by
  simp only [Tree.read_eq_ok_iff hfree, h]

/-- **When a copy is still there.**  The new text of the file is not the old one, so the old bytes are read
behind the path of the copy if and only if that path leads elsewhere. -/
lemma read_copy_iff (hfree : t.LinkFree) (hchanged : (document text).isChanged = true)
    (hcopy : t.write q (Text.encode text) = .ok between)
    (hfile : between.write p (Text.encode (document text).text) = .ok after) :
    after.read q = .ok (Text.encode text) ↔ t.place? q ≠ t.place? p := by
  obtain ⟨hfree', hdirs, hread⟩ := read_of_write hfree hcopy
  obtain ⟨hfree'', hdirs', hnew⟩ := read_of_write hfree' hfile
  constructor
  · intro hold hsame
    have hplaces : after.place? q = after.place? p := by
      rw [Tree.place?_congr hdirs', Tree.place?_congr hdirs, Tree.place?_congr hdirs',
        Tree.place?_congr hdirs, hsame]
    rw [read_congr_of_place? hfree'' hplaces, hnew] at hold
    exact encode_document_ne hchanged (Except.ok.inj hold)
  · intro hne
    refine read_write_of_ne hfree' hfile ?_ hread
    rwa [Tree.place?_congr hdirs, Tree.place?_congr hdirs]

/-- A suffix without a slash leads from a file to another place, unless it is empty. -/
lemma place?_copyPath_ne_iff (hfree : t.LinkFree) {bytes : ByteArray} (hread : t.read p = .ok bytes)
    (hsuffix : '/' ∉ o.copySuffix) :
    t.place? (o.copyPath p) ≠ t.place? p ↔ o.copySuffix ≠ [] := by
  obtain ⟨l, hplace, hnode⟩ := (Tree.read_eq_ok_iff hfree).mp hread
  have hl : t.isDirectoryAt l = false := Tree.isDirectoryAt_of_file hnode
  constructor
  · intro hne hnil
    refine hne ?_
    rw [Options.copyPath, hnil, Path.append, List.append_nil]
  · intro hne hsame
    rw [hplace] at hsame
    have hbeside : l = suffixed o.copySuffix l := Tree.place?_append hplace hl hsuffix hsame
    exact suffixed_ne_self hne (Tree.ne_nil_of_isDirectoryAt hl) hbeside.symm

/-- **When a rewrite keeps the original.**  The bytes of the file are written to the path of its copy, and
read there when the file is written.  They are read there afterwards if and only if the two paths lead to
different places; with no slash in the suffix, if and only if it is not empty. -/
theorem original_of_isWritten (o : Options) (t : Tree) (p : Path) (hfree : t.LinkFree)
    (hkeeps : o.keepsCopy = true) (hwritten : (update o t p).IsWritten) :
    ∃ old new between, t.read p = .ok old ∧
      (update o t p).writes = [⟨o.copyPath p, old⟩, ⟨p, new⟩] ∧
      t.write (o.copyPath p) old = .ok between ∧ between.read (o.copyPath p) = .ok old ∧
      between.write p new = .ok (update o t p).tree ∧
      ((update o t p).tree.read (o.copyPath p) = .ok old ↔ t.place? (o.copyPath p) ≠ t.place? p) ∧
      ('/' ∉ o.copySuffix →
        ((update o t p).tree.read (o.copyPath p) = .ok old ↔ o.copySuffix ≠ [])) := by
  obtain ⟨text, log, hread, hchanged, hstore⟩ := exists_store_of_isWritten hwritten
  rw [hstore] at hwritten ⊢
  obtain ⟨between, hcopy, hfile, hwrites⟩ := exists_writes_store hkeeps hwritten
  have hkept := read_copy_iff hfree hchanged hcopy hfile
  exact ⟨_, _, between, hread, hwrites, hcopy, (read_of_write hfree hcopy).2.2, hfile, hkept,
    fun hsuffix => hkept.trans (place?_copyPath_ne_iff hfree hread hsuffix)⟩

lemma isWritten_besideCopy (s : List Char) (k : Location)
    (hplace : copyPlace? { copySuffix := s } besideCopy ⟨"A.java".toList⟩ = some (some k)) :
    (update { copySuffix := s } besideCopy ⟨"A.java".toList⟩).IsWritten := by
  have hverdict : verdict { copySuffix := s } besideCopy ⟨"A.java".toList⟩ =
      .rewrites ["A.java".toList] (some k) (Text.encode "int x;\n".toList) (document "int x;\n".toList) :=
    verdict_eq_rewrites_iff.mpr ⟨by decide, rfl, hplace, _, Text.decode?_encode _, by decide, rfl⟩
  exact (isWritten_update_iff linkFree_besideCopy rfl).mpr ⟨_, _, _, _, hverdict⟩

theorem original_of_isWritten_besideCopy :
    let o : Options := {}
    let p : Path := ⟨"A.java".toList⟩
    besideCopy.LinkFree ∧ o.keepsCopy = true ∧ (update o besideCopy p).IsWritten ∧
      ∃ old new between, besideCopy.read p = .ok old ∧
        (update o besideCopy p).writes = [⟨o.copyPath p, old⟩, ⟨p, new⟩] ∧
        besideCopy.write (o.copyPath p) old = .ok between ∧ between.read (o.copyPath p) = .ok old ∧
        between.write p new = .ok (update o besideCopy p).tree ∧
        ((update o besideCopy p).tree.read (o.copyPath p) = .ok old ↔
          besideCopy.place? (o.copyPath p) ≠ besideCopy.place? p) ∧
        ('/' ∉ o.copySuffix →
          ((update o besideCopy p).tree.read (o.copyPath p) = .ok old ↔ o.copySuffix ≠ [])) := by
  intro o p
  have hwritten : (update o besideCopy p).IsWritten :=
    isWritten_besideCopy _ ["A.java.backup".toList] (by decide)
  exact ⟨linkFree_besideCopy, rfl, hwritten,
    original_of_isWritten o besideCopy p linkFree_besideCopy rfl hwritten⟩

/-- With the empty suffix a file is its own copy, and no place holds its old bytes. -/
theorem not_keepsCopy_emptySuffix :
    let o : Options := { copySuffix := [] }
    let p : Path := ⟨"A.java".toList⟩
    besideCopy.LinkFree ∧ (update o besideCopy p).IsWritten ∧
      ¬ KeepsCopy o besideCopy (update o besideCopy p).tree p := by
  intro o p
  have hwritten : (update o besideCopy p).IsWritten := isWritten_besideCopy _ ["A.java".toList] (by decide)
  refine ⟨linkFree_besideCopy, hwritten, ?_⟩
  obtain ⟨text, log, hread, hchanged, hstore⟩ := exists_store_of_isWritten hwritten
  rw [hstore] at hwritten ⊢
  obtain ⟨between, hcopy, hfile, -⟩ := exists_writes_store rfl hwritten
  rintro ⟨bytes, hbytes, hkept⟩
  obtain rfl := Except.ok.inj (hread.symm.trans hbytes)
  exact (read_copy_iff linkFree_besideCopy hchanged hcopy hfile).mp hkept rfl

end DocStub.Files

import DocStub.Proofs.Files.CopyPlace
import DocStub.Proofs.Source.FixedPoint

/-!
# What becomes of a file

The work on one file reads, documents, stores a copy and writes, and each of these can end it.  In a tree
without links, `verdict` says at once what it comes to, and `update_eq_verdict` that it comes to this.
Of any tree, `update_cases` says what the work does once the file is read.

**What it depends on.**  The directories decide where the file and its copy are, and the bytes of the file
decide the rest, so trees that agree on both have the same verdict (`verdict_congr`).  The last write
cannot fail: the file was read, and no directory has come up in its place since.

**What it changes.**  The file and the place of its copy, and nothing else (`get?_advance`).
The directories stay (`isDirectoryAt_advance`).

**What it leaves.**  A written file has nothing left to document (`verdict_advance_self`).
-/

namespace DocStub.Files

open Source (Documented document)

/-- What the work on a file comes to.  It ends early, or there is nothing to document, or the bytes of the
file go to the place of its copy, if one is kept, and a new text takes their place. -/
inductive Verdict where
  | fails
  | rests
  | rewrites (place : Location) (copy? : Option Location) (old : ByteArray) (new : Documented)

/-- The tree with some bytes in the place of a copy, if there is one. -/
def Tree.withCopy (t : Tree) (copy? : Option Location) (bytes : ByteArray) : Tree :=
  copy?.elim t fun k => t.insert k (.file bytes)

namespace Verdict

/-- The outcome, unless the work ends early. -/
def outcome? : Verdict → Option Outcome
  | fails => none
  | rests => some .untouched
  | rewrites _ _ _ new => some (.written new.blockCount)

/-- The locations that are written. -/
def touched : Verdict → List Location
  | rewrites place copy? _ _ => copy?.toList ++ [place]
  | _ => []

/-- The tree afterwards. -/
def tree (t : Tree) : Verdict → Tree
  | rewrites place copy? old new => (t.withCopy copy? old).insert place (.file (Text.encode new.text))
  | _ => t

/-- What is left to do afterwards. -/
def settled : Verdict → Verdict
  | fails => fails
  | _ => rests

end Verdict

variable {o : Options} {t t' : Tree} {p : Path} {l k : Location} {copy? : Option Location}
  {old bytes : ByteArray} {new : Documented}

/-- Where the copy of a file goes: to no place if no copy is kept, and nowhere if there is no room. -/
def copyPlace? (o : Options) (t : Tree) (p : Path) : Option (Option Location) :=
  if o.keepsCopy then
    ((t.place? (o.copyPath p)).filter fun k => !t.isDirectoryAt k).map some
  else some none

/-- What the work on a file comes to in a tree without links. -/
def verdict (o : Options) (t : Tree) (p : Path) : Verdict :=
  match t.place? p with
  | none => .fails
  | some l =>
    match t.get? l with
    | some (.file bytes) =>
      match Text.decode? bytes with
      | none => .fails
      | some text =>
        if !(document text).isChanged then .rests
        else
          match copyPlace? o t p with
          | none => .fails
          | some copy? => .rewrites l copy? bytes (document text)
    | _ => .fails

/-- The tree after the work on a file, in a tree without links. -/
def advance (o : Options) (t : Tree) (p : Path) : Tree := (verdict o t p).tree t

/-- Nothing is left to do for the file. -/
def IsSettled (o : Options) (t : Tree) (p : Path) : Prop := (verdict o t p).settled = verdict o t p

lemma copyPlace?_eq_some_some_iff : copyPlace? o t p = some (some k) ↔
    o.keepsCopy = true ∧ t.place? (o.copyPath p) = some k ∧ t.isDirectoryAt k = false := by
  rw [copyPlace?]
  split_ifs with hkeeps <;> simp [hkeeps, Option.filter_eq_some_iff]

lemma verdict_eq_rewrites_iff : verdict o t p = .rewrites l copy? old new ↔
    t.place? p = some l ∧ t.get? l = some (.file old) ∧ copyPlace? o t p = some copy? ∧
      ∃ text, Text.decode? old = some text ∧ (document text).isChanged = true ∧ document text = new := by
  constructor
  · intro h
    rw [verdict] at h
    split at h
    · cases h
    · rename_i k hplace
      split at h
      · rename_i bytes hnode
        split at h
        · cases h
        · rename_i text htext
          split_ifs at h with hchanged
          split at h
          · cases h
          · rename_i c hcopy
            cases h
            exact ⟨hplace, hnode, hcopy, text, htext, by simpa using hchanged, rfl⟩
      · cases h
  · rintro ⟨hplace, hnode, hcopy, text, htext, hchanged, rfl⟩
    simp only [verdict, hplace, hnode, htext, hchanged, hcopy, Bool.not_true, Bool.false_eq_true, if_false]

/-! ## What it depends on -/

lemma copyPlace?_congr (hdirs : t'.isDirectoryAt = t.isDirectoryAt) (o : Options) (p : Path) :
    copyPlace? o t' p = copyPlace? o t p := by
  rw [copyPlace?, copyPlace?, Tree.place?_congr hdirs, hdirs]

/-- Trees with the same directories that agree on a file agree on what becomes of it. -/
lemma verdict_congr (hdirs : t'.isDirectoryAt = t.isDirectoryAt)
    (hnode : ∀ l, t.place? p = some l → t'.get? l = t.get? l) : verdict o t' p = verdict o t p := by
  rw [verdict, verdict, Tree.place?_congr hdirs, copyPlace?_congr hdirs]
  cases hplace : t.place? p with
  | none => rfl
  | some l =>
      dsimp only
      rw [hnode l hplace]

/-! ## What it changes -/

lemma get?_withCopy_of_ne (h : copy? ≠ some l) (t : Tree) (bytes : ByteArray) :
    (t.withCopy copy? bytes).get? l = t.get? l := by
  cases copy? with
  | none => rfl
  | some k => exact Tree.get?_insert_of_ne _ _ fun heq => h (congrArg some heq.symm)

lemma isDirectoryAt_withCopy (h : ∀ k, copy? = some k → t.isDirectoryAt k = false) (bytes : ByteArray) :
    (t.withCopy copy? bytes).isDirectoryAt = t.isDirectoryAt := by
  cases copy? with
  | none => rfl
  | some k => exact Tree.isDirectoryAt_insert_file (h k rfl) bytes

lemma linkFree_withCopy (hfree : t.LinkFree) (h : ∀ k, copy? = some k → t.isDirectoryAt k = false)
    (bytes : ByteArray) : (t.withCopy copy? bytes).LinkFree := by
  cases copy? with
  | none => exact hfree
  | some k => exact hfree.insert_file (h k rfl) bytes

lemma isDirectoryAt_of_copyPlace? (h : copyPlace? o t p = some copy?) :
    ∀ k, copy? = some k → t.isDirectoryAt k = false := by
  rintro k rfl
  exact (copyPlace?_eq_some_some_iff.mp h).2.2

/-- Where nothing is left to do, nothing is done. -/
lemma IsSettled.advance_eq (h : IsSettled o t p) : advance o t p = t := by
  rw [advance]
  cases hv : verdict o t p with
  | fails => rfl
  | rests => rfl
  | rewrites l copy? old new =>
      rw [IsSettled, hv] at h
      exact Verdict.noConfusion h

lemma Verdict.mem_touched_iff {v : Verdict} : l ∈ v.touched ↔
    ∃ k copy? old new, v = .rewrites k copy? old new ∧ (copy? = some l ∨ l = k) := by
  cases v with
  | fails => simp [touched]
  | rests => simp [touched]
  | rewrites k copy? old new =>
      rw [touched, List.mem_append, Option.mem_toList, List.mem_singleton]
      constructor
      · exact fun h => ⟨k, copy?, old, new, rfl, h⟩
      · rintro ⟨_, _, _, _, ⟨⟩, h⟩
        exact h

/-- What is touched is the place of the file, or that place with the suffix. -/
lemma exists_of_mem_touched (hsuffix : '/' ∉ o.copySuffix) (h : l ∈ (verdict o t p).touched) :
    ∃ k, t.place? p = some k ∧ (l = k ∨ l = suffixed o.copySuffix k) := by
  obtain ⟨k, copy?, old, new, hv, h⟩ := Verdict.mem_touched_iff.mp h
  obtain ⟨hplace, hnode, hcopy, -⟩ := verdict_eq_rewrites_iff.mp hv
  refine ⟨k, hplace, h.symm.imp_right ?_⟩
  rintro rfl
  obtain ⟨-, hcopyplace, -⟩ := copyPlace?_eq_some_some_iff.mp hcopy
  exact Tree.place?_append hplace (Tree.isDirectoryAt_of_file hnode) hsuffix hcopyplace

/-- Nothing else than the file and its copy is touched. -/
lemma get?_advance (h : l ∉ (verdict o t p).touched) : (advance o t p).get? l = t.get? l := by
  rw [advance]
  cases hv : verdict o t p with
  | fails => rfl
  | rests => rfl
  | rewrites place copy? old new =>
      simp only [hv, Verdict.touched, List.mem_append, Option.mem_toList, List.mem_singleton,
        not_or] at h
      rw [Verdict.tree, Tree.get?_insert_of_ne _ _ h.2, get?_withCopy_of_ne h.1]

/-- No directory is made or removed. -/
lemma isDirectoryAt_advance (o : Options) (t : Tree) (p : Path) :
    (advance o t p).isDirectoryAt = t.isDirectoryAt := by
  rw [advance]
  cases hv : verdict o t p with
  | fails => rfl
  | rests => rfl
  | rewrites l copy? old new =>
      obtain ⟨-, hnode, hcopy, -⟩ := verdict_eq_rewrites_iff.mp hv
      have hdirs := isDirectoryAt_withCopy (isDirectoryAt_of_copyPlace? hcopy) old
      have hl : (t.withCopy copy? old).isDirectoryAt l = false := by
        rw [hdirs, Tree.isDirectoryAt_of_file hnode]
      rw [Verdict.tree, Tree.isDirectoryAt_insert_file hl, hdirs]

/-- All paths lead where they led before. -/
lemma place?_advance (o : Options) (t : Tree) (p q : Path) : (advance o t p).place? q = t.place? q :=
  Tree.place?_congr (isDirectoryAt_advance o t p) q

lemma linkFree_advance (hfree : t.LinkFree) (o : Options) (p : Path) : (advance o t p).LinkFree := by
  rw [advance]
  cases hv : verdict o t p with
  | fails => exact hfree
  | rests => exact hfree
  | rewrites l copy? old new =>
      obtain ⟨-, hnode, hcopy, -⟩ := verdict_eq_rewrites_iff.mp hv
      have hroom := isDirectoryAt_of_copyPlace? hcopy
      have hl : (t.withCopy copy? old).isDirectoryAt l = false := by
        rw [isDirectoryAt_withCopy hroom, Tree.isDirectoryAt_of_file hnode]
      exact (linkFree_withCopy hfree hroom old).insert_file hl _

/-! ## The work itself -/

/-- The copy is stored where there is room for it. -/
lemma toOption_writeAll_copies (hfree : t.LinkFree) (o : Options) (p : Path) (bytes : ByteArray) :
    (writeAll t (if o.keepsCopy then [⟨o.copyPath p, bytes⟩] else [])).toOption =
      (copyPlace? o t p).map fun copy? => t.withCopy copy? bytes := by
  rw [copyPlace?]
  split_ifs
  · have hwrite : writeAll t [⟨o.copyPath p, bytes⟩] = t.write (o.copyPath p) bytes := by
      simp [writeAll]
    rw [hwrite, Option.map_map]
    ext t'
    have hok : (t.write (o.copyPath p) bytes).toOption = some t' ↔
        t.write (o.copyPath p) bytes = .ok t' := by
      cases t.write (o.copyPath p) bytes <;> simp [Except.toOption]
    rw [hok, Tree.write_eq_ok_iff hfree, Option.map_eq_some_iff]
    refine exists_congr fun k => ?_
    rw [Option.filter_eq_some_iff, Bool.not_eq_true', and_assoc, eq_comm (a := t')]
    rfl
  · rfl

/-- The last write follows a read of the file, so it goes well. -/
lemma store_eq (hfree : t.LinkFree) (hplace : t.place? p = some l)
    (hnode : t.get? l = some (.file bytes)) (d : Documented) (log : List Log.Record) :
    (store o t p bytes d log).outcome.toOption =
        (copyPlace? o t p).map (fun _ => .written d.blockCount) ∧
      (store o t p bytes d log).tree =
        (copyPlace? o t p).elim t fun copy? => Verdict.tree t (.rewrites l copy? bytes d) := by
  have hcopies := toOption_writeAll_copies hfree o p bytes
  cases hwrite : writeAll t (if o.keepsCopy then [⟨o.copyPath p, bytes⟩] else []) with
  | error f =>
      rw [hwrite] at hcopies
      have hnowhere : copyPlace? o t p = none := Option.map_eq_none_iff.mp hcopies.symm
      simp only [store, hwrite, hnowhere]
      exact ⟨rfl, rfl⟩
  | ok t' =>
      rw [hwrite] at hcopies
      obtain ⟨copy?, hcopy, rfl⟩ := Option.map_eq_some_iff.mp hcopies.symm
      have hroom := isDirectoryAt_of_copyPlace? hcopy
      have hdirs := isDirectoryAt_withCopy hroom bytes
      have hlast : (t.withCopy copy? bytes).write p (Text.encode d.text) =
          .ok ((t.withCopy copy? bytes).insert l (.file (Text.encode d.text))) := by
        rw [Tree.write_eq_ok_iff (linkFree_withCopy hfree hroom bytes), Tree.place?_congr hdirs, hdirs]
        exact ⟨l, hplace, Tree.isDirectoryAt_of_file hnode, rfl⟩
      simp only [store, hwrite, hlast, hcopy]
      exact ⟨rfl, rfl⟩

/-- The work on a file comes to its verdict. -/
theorem update_eq_verdict (hfree : t.LinkFree) (hwrites : o.isDryRun = false) (p : Path) :
    (update o t p).outcome.toOption = (verdict o t p).outcome? ∧
      (update o t p).tree = advance o t p := by
  rw [update, advance, verdict]
  cases hread : t.read p with
  | error f =>
      cases hplace : t.place? p with
      | none => exact ⟨rfl, rfl⟩
      | some l =>
          dsimp only
          split
          · rename_i bytes hnode
            rw [(Tree.read_eq_ok_iff hfree).mpr ⟨l, hplace, hnode⟩] at hread
            cases hread
          · exact ⟨rfl, rfl⟩
  | ok bytes =>
      obtain ⟨l, hplace, hnode⟩ := (Tree.read_eq_ok_iff hfree).mp hread
      simp only [hplace, hnode]
      cases Text.decode? bytes with
      | none => exact ⟨rfl, rfl⟩
      | some text =>
          simp only [hwrites, Bool.false_eq_true, if_false]
          split_ifs
          · exact ⟨rfl, rfl⟩
          · obtain ⟨houtcome, htree⟩ := store_eq hfree hplace hnode (document text) (o := o)
              (Source.traceRecords text ++ [note .debug (p.spelling ++ ": ".toList ++
                Source.countsMessage (document text))])
            rw [houtcome, htree]
            cases copyPlace? o t p <;> exact ⟨rfl, rfl⟩

/-- What the work on a file can come to: it is not read, or its text decides. -/
lemma update_cases (o : Options) (t : Tree) (p : Path) :
    (∃ f, update o t p = .failed p (.unreadable p f) t [] []) ∨
      ∃ text log, t.read p = .ok (Text.encode text) ∧
        update o t p =
          if !(document text).isChanged then ⟨p, .ok .untouched, t, [], log⟩
          else if o.isDryRun then ⟨p, .ok (.pending (document text).blockCount), t, [], log⟩
          else store o t p (Text.encode text) (document text) log := by
  rw [update]
  cases hread : t.read p with
  | error f => exact .inl ⟨f, rfl⟩
  | ok bytes =>
      dsimp only
      cases htext : Text.decode? bytes with
      | none => exact .inl ⟨.notText, rfl⟩
      | some text =>
          obtain rfl := Text.decode?_eq_some_iff.mp htext
          exact .inr ⟨text, _, rfl, rfl⟩

/-- A run that only reports changes no tree. -/
lemma tree_update_of_isDryRun (hdry : o.isDryRun = true) (t : Tree) (p : Path) : (update o t p).tree = t := by
  rcases update_cases o t p with ⟨f, h⟩ | ⟨text, log, -, h⟩
  · rw [h]
    rfl
  · rw [h]
    simp only [hdry, if_true]
    split_ifs <;> rfl

lemma linkFree_tree_update (hfree : t.LinkFree) (o : Options) (p : Path) :
    (update o t p).tree.LinkFree := by
  cases hdry : o.isDryRun with
  | true =>
      rw [tree_update_of_isDryRun hdry]
      exact hfree
  | false =>
      rw [(update_eq_verdict hfree hdry p).2]
      exact linkFree_advance hfree o p

/-! ## What it leaves -/

/-- A documented text is not changed again. -/
lemma isChanged_document_document (text : List Char) :
    (document (document text).text).isChanged = false := by
  rw [Bool.eq_false_iff, ne_eq, Source.isChanged_document_iff, not_not, Source.text_document_eq_iff]
  exact Source.forall_kind?_entries_document text

/-- A text that is changed is written down in other bytes. -/
lemma encode_document_ne {text : List Char} (hchanged : (document text).isChanged = true) :
    Text.encode (document text).text ≠ Text.encode text := by
  intro hsame
  have htexts := congrArg Text.decode? hsame
  rw [Text.decode?_encode, Text.decode?_encode] at htexts
  exact Source.isChanged_document_iff.mp hchanged (Option.some.inj htexts)

/-- A written file holds its new text. -/
lemma get?_advance_self (hv : verdict o t p = .rewrites l copy? old new) :
    (advance o t p).get? l = some (.file (Text.encode new.text)) := by
  obtain ⟨-, hnode, -⟩ := verdict_eq_rewrites_iff.mp hv
  have hl : l ≠ [] := Tree.ne_nil_of_isDirectoryAt (Tree.isDirectoryAt_of_file hnode)
  rw [advance, hv]
  exact Tree.get?_insert_self _ _ hl

/-- Its copy holds the old bytes, unless the copy is the file. -/
lemma get?_advance_copy (hv : verdict o t p = .rewrites l (some k) old new) (hk : k ≠ l) :
    (advance o t p).get? k = some (.file old) := by
  obtain ⟨-, -, hcopy, -⟩ := verdict_eq_rewrites_iff.mp hv
  have hne : k ≠ [] := Tree.ne_nil_of_isDirectoryAt (isDirectoryAt_of_copyPlace? hcopy k rfl)
  rw [advance, hv, Verdict.tree, Tree.get?_insert_of_ne _ _ hk]
  exact Tree.get?_insert_self _ _ hne

/-- A written file has nothing left to document. -/
lemma verdict_advance_self (o : Options) (t : Tree) (p : Path) :
    verdict o (advance o t p) p = (verdict o t p).settled := by
  cases hv : verdict o t p with
  | fails =>
      rw [IsSettled.advance_eq (by rw [IsSettled, hv]; rfl), hv]
      rfl
  | rests =>
      rw [IsSettled.advance_eq (by rw [IsSettled, hv]; rfl), hv]
      rfl
  | rewrites l copy? old new =>
      obtain ⟨hplace, -, -, text, -, -, rfl⟩ := verdict_eq_rewrites_iff.mp hv
      rw [verdict, Tree.place?_congr (isDirectoryAt_advance o t p), hplace]
      simp only [get?_advance_self hv, Text.decode?_encode, isChanged_document_document, Bool.not_false,
        if_true]
      rfl

end DocStub.Files

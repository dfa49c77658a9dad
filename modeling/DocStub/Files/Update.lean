import DocStub.Files.Tree
import DocStub.Source.Trace
import DocStub.Text.Utf8

/-!
# Documenting files

A file is read, its text documented, and, if that changes it, written back after a copy of it was
stored beside it.  A failure ends the work on one file and leaves the others alone.

* `Options` — whether files are written at all, and where copies go.
* `Outcome`, `Failure` — what became of a file.
* `update` — the work on one file, as a `Step`.
* `updateAll` — the work on a list of files, one after the other.
* `Totals` — the sums over some outcomes.
-/

namespace DocStub.Files

open Log (Record)
open Source (Documented document)
open Text (decimal)

/-- How files are documented: whether changes are reported only, and whether a copy of a file is
stored before the file is overwritten.  The path of a copy has the suffix at its end. -/
structure Options where
  isDryRun : Bool := false
  keepsCopy : Bool := true
  copySuffix : List Char := ".backup".toList
deriving DecidableEq, Repr

/-- The path of the copy of a file. -/
def Options.copyPath (o : Options) (p : Path) : Path := p.append o.copySuffix

/-- What became of a file.  It was written, or would have been, with a number of new comments, or
there was nothing to document. -/
inductive Outcome where
  | written (comments : Nat)
  | pending (comments : Nat)
  | untouched
deriving DecidableEq, Repr

/-- The number of new comments that an outcome tells of. -/
def Outcome.comments : Outcome → Nat
  | written n => n
  | pending n => n
  | untouched => 0

/-- Why the work on a file ended early, with the path that could not be read or written. -/
inductive Failure where
  | unreadable (p : Path) (cause : Fault)
  | copyNotStored (p : Path) (cause : Fault)
  | notWritten (p : Path) (cause : Fault)
deriving DecidableEq, Repr

/-- The message about a failure, with its cause. -/
def Failure.message : Failure → List Char
  | unreadable p f => "failed to read ".toList ++ p.spelling ++ ": ".toList ++ f.message
  | copyNotStored p f =>
    "failed to write backup ".toList ++ p.spelling ++ ": ".toList ++ f.message
  | notWritten p f => "failed to write ".toList ++ p.spelling ++ ": ".toList ++ f.message

/-! ## One file -/

/-- Some bytes and the path that they go to. -/
structure Write where
  path : Path
  bytes : ByteArray

/-- The tree with some writes carried out, in their order. -/
def writeAll (t : Tree) (ws : List Write) : Except Fault Tree :=
  ws.foldlM (fun t w => t.write w.path w.bytes) t

/-- The work on one file: what became of it, the tree afterwards, what was written, in this order,
and what there is to log. -/
structure Step where
  path : Path
  outcome : Except Failure Outcome
  tree : Tree
  writes : List Write
  log : List Record

/-- A record about the work on files. -/
def note (level : Log.Level) (message : List Char) : Record := ⟨level, .updating, message⟩

/-- A step that ended with a failure, after some writes that led to the tree `t`. -/
def Step.failed (p : Path) (f : Failure) (t : Tree) (writes : List Write) (log : List Record) :
    Step :=
  ⟨p, .error f, t, writes, log ++ [note .error (p.spelling ++ ": ".toList ++ f.message)]⟩

/-- Writes a documented text to its file, after storing a copy of the bytes that it replaces. -/
def store (o : Options) (t : Tree) (p : Path) (bytes : ByteArray) (d : Documented)
    (log : List Record) : Step :=
  let copies : List Write := if o.keepsCopy then [⟨o.copyPath p, bytes⟩] else []
  match writeAll t copies with
  | .error f => .failed p (.copyNotStored (o.copyPath p) f) t [] log
  | .ok t =>
    let log := log ++
      copies.map fun w => note .info ("backup written to ".toList ++ w.path.spelling)
    let text := Text.encode d.text
    match t.write p text with
    | .error f => .failed p (.notWritten p f) t copies log
    | .ok t =>
      let message := p.spelling ++ ": inserted ".toList ++ decimal d.blockCount ++
        " doc block(s)".toList
      ⟨p, .ok (.written d.blockCount), t, copies ++ [⟨p, text⟩], log ++ [note .info message]⟩

/-- Documents one file. -/
def update (o : Options) (t : Tree) (p : Path) : Step :=
  match t.read p with
  | .error f => .failed p (.unreadable p f) t [] []
  | .ok bytes =>
    match Text.decode? bytes with
    | none => .failed p (.unreadable p .notText) t [] []
    | some text =>
      let d := document text
      let log := Source.traceRecords text ++
        [note .debug (p.spelling ++ ": ".toList ++ Source.countsMessage d)]
      if !d.isChanged then ⟨p, .ok .untouched, t, [], log⟩
      else if o.isDryRun then ⟨p, .ok (.pending d.blockCount), t, [], log⟩
      else store o t p bytes d log

/-! ## Many files -/

/-- Documents one file after the other, whatever becomes of each. -/
def updateAll (o : Options) (t : Tree) : List Path → List Step
  | [] => []
  | p :: ps =>
    let s := update o t p
    s :: updateAll o s.tree ps

/-- The tree after some steps that started with `t`. -/
def treeAfter (t : Tree) (steps : List Step) : Tree := (steps.getLast?.map Step.tree).getD t

@[simp] theorem updateAll_nil (o : Options) (t : Tree) : updateAll o t [] = [] := rfl

@[simp] theorem updateAll_cons (o : Options) (t : Tree) (p : Path) (ps : List Path) :
    updateAll o t (p :: ps) = update o t p :: updateAll o (update o t p).tree ps := rfl

/-- The sums over some outcomes: the numbers of files, of files that were or would have been
written, and of new comments in them, and the files that failed.  What is kept about a failure is up
to the caller. -/
structure Totals (ε : Type) where
  files : Nat := 0
  changed : Nat := 0
  comments : Nat := 0
  failures : List (Path × ε) := []

namespace Totals

variable {ε : Type}

/-- The totals with one more file. -/
def add (s : Totals ε) (p : Path) (outcome : Except ε Outcome) : Totals ε :=
  match outcome with
  | .error e => { s with files := s.files + 1, failures := s.failures ++ [(p, e)] }
  | .ok .untouched => { s with files := s.files + 1 }
  | .ok (.written n) | .ok (.pending n) =>
    { s with files := s.files + 1, changed := s.changed + 1, comments := s.comments + n }

/-- Whether some file failed. -/
def anyFailed (s : Totals ε) : Bool := !s.failures.isEmpty

/-- The totals of a list of outcomes. -/
def ofOutcomes (outcomes : List (Path × Except ε Outcome)) : Totals ε :=
  outcomes.foldl (fun s (p, outcome) => s.add p outcome) {}

/-- The totals of some steps. -/
def ofSteps (steps : List Step) : Totals Failure :=
  ofOutcomes (steps.map fun s => (s.path, s.outcome))

end Totals

end DocStub.Files

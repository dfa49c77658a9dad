import DocStub.Files.Glob.Expand
import DocStub.Log.Record
import DocStub.Text.Decimal

/-!
# Looking for files

An argument of the program is the path of a file, the path of a directory to be searched, or a glob
pattern.  The files that all arguments contribute are put in order, each of them once.

* `Obstacle` — what ends a search early.
* `walk` — the files with a given extension below a directory.
* `contribution` — the files for one argument.
* `survey` — the files for all arguments, with what there is to log.
-/

namespace DocStub.Files

open Log (Record)
open Text (decimal)

/-- What ends a search early: an argument that is no pattern, or one that is a directory with a directory in
it, or itself, that cannot be listed. -/
inductive Obstacle where
  | badPattern (argument : List Char) (fault : Glob.Fault)
  | unlisted (argument : List Char) (dir : Path) (fault : Fault)
deriving DecidableEq, Repr

/-- The message about an obstacle, without the causes. -/
def Obstacle.message : Obstacle → List Char
  | badPattern argument _ => "invalid glob pattern: ".toList ++ argument
  | unlisted argument _ _ => "failed to scan directory: ".toList ++ argument

/-- The causes, each with its own cause behind it. -/
def Obstacle.causes : Obstacle → List (List Char)
  | badPattern _ fault => [fault.message]
  | unlisted _ dir fault =>
    ["IO error for operation on ".toList ++ dir.spelling ++ ": ".toList ++ fault.message, fault.message]

/-- The message with the causes. -/
def Obstacle.explanation (b : Obstacle) : List Char :=
  List.intercalate ": ".toList (b.message :: b.causes)

/-- Whether a name has the given extension.  Dots at the front of the extension do not count. -/
def hasExtension (extension name : List Char) : Bool :=
  Path.extensionOf? name == some (extension.dropWhile (· == '.'))

/-- The files with the given extension in a directory and below it. -/
def filesIn (t : Tree) (extension : List Char) (dir : Path) : List Path :=
  match t.locate .lookUp dir with
  | .ok loc =>
    ((t.filesUnder loc).filter fun l => l.getLast?.any (hasExtension extension)).map fun l =>
      l.foldl Path.join dir
  | .error _ => []

/-- A directory and those below it. -/
def directoriesIn (t : Tree) (dir : Path) : List Path :=
  match t.locate .lookUp dir with
  | .ok loc => dir :: (t.directoriesUnder loc).map fun l => l.foldl Path.join dir
  | .error _ => [dir]

/-- Why a directory cannot be listed, if it cannot. -/
def unlisted? (t : Tree) (argument : List Char) (dir : Path) : Option Obstacle :=
  match t.listing dir with
  | .ok _ => none
  | .error fault => some (.unlisted argument dir fault)

/-- Searches the directory that an argument leads to, and those below it, for files with the given
extension.  The first directory that cannot be listed ends the search. -/
def walk (t : Tree) (extension argument : List Char) : Except Obstacle (List Path) :=
  match (directoriesIn t ⟨argument⟩).findSome? (unlisted? t argument) with
  | some b => .error b
  | none => .ok (filesIn t extension ⟨argument⟩)

/-- The paths for one argument, and what there is to log about it. -/
def contribution (t : Tree) (extension argument : List Char) :
    Except Obstacle (List Path × List Record) :=
  let p : Path := ⟨argument⟩
  if t.isFile p then .ok ([p], [])
  else if t.isDirectory p then
    match walk t extension argument with
    | .error b => .error b
    | .ok paths =>
      let message := argument ++ ": ".toList ++ decimal paths.length ++ " matching file(s)".toList
      .ok (paths, [⟨.debug, .discovery, message⟩])
  else
    match Glob.Pattern.parse argument with
    | .error fault => .error (.badPattern argument fault)
    | .ok g =>
      let paths := (g.expand t).filter t.isFile
      let message := "no files matched: ".toList ++ argument
      .ok (paths, if paths.isEmpty then [⟨.warn, .discovery, message⟩] else [])

/-! ## Order -/

/-- Drops each path that is the same as the one kept before it. -/
def dropRepeats : List Path → List Path
  | p :: q :: ps => if p.Same q then dropRepeats (p :: ps) else p :: dropRepeats (q :: ps)
  | ps => ps

/-- Paths in the order of their components, each of them once, in its first spelling. -/
def arrange (ps : List Path) : List Path := dropRepeats (ps.mergeSort fun p q => !q.isBefore p)

/-! ## All arguments -/

/-- What a search came to: the paths that were found, or what ended it, and what there is to log. -/
structure Survey where
  result : Except Obstacle (List Path)
  log : List Record

/-- Searches for one argument after the other, up to the first obstacle. -/
def gather (t : Tree) (extension : List Char) : List (List Char) → Survey
  | [] => ⟨.ok [], []⟩
  | argument :: rest =>
    match contribution t extension argument with
    | .error b => ⟨.error b, []⟩
    | .ok (paths, log) =>
      let more := gather t extension rest
      ⟨(paths ++ ·) <$> more.result, log ++ more.log⟩

/-- Searches for all arguments and puts the paths in order. -/
def survey (t : Tree) (extension : List Char) (arguments : List (List Char)) : Survey :=
  let s := gather t extension arguments
  { s with result := arrange <$> s.result }

end DocStub.Files

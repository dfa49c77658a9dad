import DocStub.Files.Glob.Pattern
import DocStub.Files.Tree

/-!
# The paths that a glob pattern describes

A pattern is followed through a tree segment by segment.  A segment without stars, question marks
and brackets is not compared with names but appended to the path, so it may be a dot.

* `childPaths`, `descendants` — the paths below a directory.
* `expandFrom` — the paths that some segments lead to.
* `Pattern.expand` — the paths that a pattern describes.
-/

namespace DocStub.Files.Glob

/-- Whether a path means the directory where relative paths start. -/
def isHere (p : Path) : Bool := p.components = [.current]

/-- The path of an entry of a directory.  The directory where relative paths start is not
mentioned. -/
def childPath (p : Path) (name : List Char) : Path := if isHere p then ⟨name⟩ else p.join name

/-- The names in the directory that a path leads to, each with its path. -/
def childPaths (t : Tree) (p : Path) : List (List Char × Path) :=
  match t.listing p with
  | .ok names => names.map fun n => (n, childPath p n)
  | .error _ => []

/-- What is below a directory, down to a given depth, by name and path.  Links to directories are
entered. -/
def descendants (t : Tree) : Nat → Path → List (List Char × Path)
  | 0, _ => []
  | depth + 1, p => (childPaths t p).flatMap fun e => e :: descendants t depth e.2

/-- A depth that no path exceeds: between two links it goes through each entry at most once, and
few links are followed. -/
def depthLimit (t : Tree) : Nat := (Tree.linkLimit + 1) * (t.entries.length + 1)

/-- The entries that stand for a directory itself and the one above it.  They are considered where
the first character of a name is given as a dot. -/
def dotEntries (atoms : List Atom) (p : Path) : List (List Char × Path) :=
  if atoms.head? = some (.char '.') then
    [['.'], ['.', '.']].map fun name => (name, p.join name)
  else []

/-- The paths that some segments lead to from a path. -/
def expandFrom (t : Tree) : List Segment → Path → List Path
  | [], p => [p]
  | [.directories], p => ((descendants t (depthLimit t) p).map Prod.snd).filter t.isDirectory
  | .directories :: .directories :: rest, p => expandFrom t (.directories :: rest) p
  | .directories :: .name atoms :: rest, p =>
    ((descendants t (depthLimit t) p).filter fun e => Atom.admitAll atoms e.1).flatMap fun e =>
      expandFrom t rest e.2
  | .name atoms :: rest, p =>
    match Atom.literal? atoms with
    | some name =>
      let q := childPath p name
      let goesOn := if name = ['.'] ∨ name = ['.', '.'] then t.isDirectory p else (t.find? q).isSome
      if goesOn then expandFrom t rest q else []
    | none =>
      let candidates := if (t.listing p).isOk then childPaths t p ++ dotEntries atoms p else []
      (candidates.filter fun e => Atom.admitAll atoms e.1).flatMap fun e => expandFrom t rest e.2

/-- The paths that a pattern describes, in no particular order.  Nothing outside the tree can be
reached. -/
def Pattern.expand (t : Tree) (g : Pattern) : List Path :=
  if g.isAbsolute ∨ g.segments = [] then []
  else
    let paths := expandFrom t g.segments .here
    if g.wantsDirectory then paths.filter t.isDirectory else paths

end DocStub.Files.Glob

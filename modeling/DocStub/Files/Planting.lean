import DocStub.Files.Tree

/-!
# Building a tree

A tree is built entry by entry.  The directories on the way to an entry come into being with it.

* `Tree.makeDirectory` — a directory with those above it.
* `Tree.plant` — any entry.
-/

namespace DocStub.Files.Tree

/-- The directory that holds what a path leads to, as a path. -/
def parentPath (p : Path) : Path := ⟨List.intercalate ['/'] p.pieces.dropLast⟩

/-- The tree with a directory where a path leads to, and with the directories above it. -/
def makeDirectory (t : Tree) (p : Path) : Except Fault Tree :=
  (List.range p.pieces.length).foldlM (fun t i => do
    let p : Path := ⟨List.intercalate ['/'] (p.pieces.take (i + 1))⟩
    if t.isDirectory p then return t
    let loc ← t.locate .create p
    match t.get? loc with
    | none => return t.insert loc .directory
    | some _ => .error .notDirectory) t

/-- The tree with one more entry. -/
def plant (t : Tree) (p : Path) (node : Node) : Except Fault Tree := do
  let parent := parentPath p
  let t ← if parent.spelling = [] then .ok t else t.makeDirectory parent
  match node with
  | .directory => t.makeDirectory p
  | .file bytes => t.write p bytes
  | .link target =>
    let dir ← if parent.spelling = [] then .ok [] else t.locate .lookUp parent
    return t.insert (dir ++ p.pieces.getLast?.toList) (.link target)

end DocStub.Files.Tree

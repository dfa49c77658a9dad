import DocStub.Files.Path
import DocStub.Text.Utf8

/-!
# File trees

A tree holds files, directories and symbolic links, each at a location: the names that lead to it
from the root.  Paths are relative to the root.

* `Tree`, `Tree.get?`, `Tree.insert` — what is at a location, and putting something there.
* `Tree.locate` — the location that a path leads to, links followed.
* `Tree.read`, `Tree.write` — reading and writing a file by its path.
* `Tree.listing` — the names in the directory that a path leads to.
* `Tree.filesUnder`, `Tree.directoriesUnder` — what a directory holds at any depth.
* `Tree.changes` — the files in which two trees differ.

Directories between the root and an entry are entries themselves.  The operations here keep it so.
-/

namespace DocStub.Files

open Text (utf8Length)

/-- The names that lead from the root of a tree to one of its entries. -/
abbrev Location := List (List Char)

/-- What can be at a location.  A symbolic link has the spelling of its target. -/
inductive Node where
  | file (bytes : ByteArray)
  | directory
  | link (target : List Char)

/-- Whether a node is a directory. -/
def Node.isDirectory : Node → Bool
  | directory => true
  | _ => false

/-- Why a path cannot be read, listed or written.  A NUL is the character that ends texts for the
system. -/
inductive Fault where
  | notFound
  | notDirectory
  | isDirectory
  | tooManyLinks
  | nameTooLong
  | holdsNul
  | denied
  | notText
deriving DecidableEq, Repr

/-- The message about a fault. -/
def Fault.message : Fault → List Char
  | notFound => "No such file or directory (os error 2)".toList
  | notDirectory => "Not a directory (os error 20)".toList
  | isDirectory => "Is a directory (os error 21)".toList
  | tooManyLinks => "Too many levels of symbolic links (os error 40)".toList
  | nameTooLong => "File name too long (os error 36)".toList
  | holdsNul => "file name contained an unexpected NUL byte".toList
  | denied => "Permission denied (os error 13)".toList
  | notText => "stream did not contain valid UTF-8".toList

/-- A tree of files.  It has the entries below the root, each location at most once.  A sealed directory
may not be listed, but paths still lead through it. -/
structure Tree where
  entries : List (Location × Node) := []
  sealed : List Location := []

namespace Tree

/-- What is at a location.  The root is a directory. -/
def get? (t : Tree) (loc : Location) : Option Node :=
  if loc = [] then some .directory else t.entries.lookup loc

/-- Puts a node at a location, in the place of what was there. -/
def insert (t : Tree) (loc : Location) (node : Node) : Tree :=
  { t with entries := (loc, node) :: t.entries.filter fun e => e.1 != loc }

/-- Whether there is a directory at a location. -/
def isDirectoryAt (t : Tree) (loc : Location) : Bool := (t.get? loc).any Node.isDirectory

theorem get?_nil (t : Tree) : t.get? [] = some .directory := rfl

theorem lookup_filter_ne {loc l : Location} (h : l ≠ loc) (es : List (Location × Node)) :
    (es.filter fun e => e.1 != loc).lookup l = es.lookup l := by
  induction es with
  | nil => rfl
  | cons e es ih =>
    rcases e with ⟨k, node⟩
    by_cases hk : k = loc
    · subst hk
      have hl : (l == k) = false := by simpa using h
      simp [List.lookup_cons, hl, ih]
    · simp [hk, List.lookup_cons, ih]

theorem get?_insert_self (t : Tree) {loc : Location} (node : Node) (h : loc ≠ []) :
    (t.insert loc node).get? loc = some node := by
  simp [get?, insert, h]

theorem get?_insert_of_ne (t : Tree) {loc l : Location} (node : Node) (h : l ≠ loc) :
    (t.insert loc node).get? l = t.get? l := by
  have hl : (l == loc) = false := by simpa using h
  simp only [get?, insert, List.lookup_cons, hl, lookup_filter_ne h]

@[simp] theorem sealed_insert (t : Tree) (loc : Location) (node : Node) :
    (t.insert loc node).sealed = t.sealed := rfl

/-! ## Following a path -/

/-- What a path is followed for: to find what is there, or to create a file where nothing is. -/
inductive Purpose where
  | lookUp
  | create
deriving DecidableEq, Repr

/-- The number of links that are followed along one path. -/
def linkLimit : Nat := 40

/-- The greatest number of bytes in a name. -/
def nameLimit : Nat := 255

/-- The greatest number of bytes in a path. -/
def pathLimit : Nat := 4095

/-- Whether a piece of a path leads to another location. -/
def isStep (piece : List Char) : Bool := piece != [] && piece != ['.'] && piece != ['.', '.']

/-- The location at the end of some pieces of a path that start in the directory `loc`, with at
most `links` links on the way.

A piece counts only in a directory, so `a/.` and `a/` fail where `a` is a file.  A link is replaced
by the pieces of its target.  On the way to a new file, the last piece need not exist, and slashes
behind it ask for a directory, which cannot be created so. -/
def follow (t : Tree) (purpose : Purpose) (links : Nat) (loc : Location) :
    List (List Char) → Except Fault Location
  | [] => .ok loc
  | piece :: rest =>
    if !t.isDirectoryAt loc then .error .notDirectory
    else if piece = ['.', '.'] then
      if loc = [] then .error .notFound else follow t purpose links loc.dropLast rest
    else if !isStep piece then follow t purpose links loc rest
    else if purpose = .create ∧ rest ≠ [] ∧ rest.all List.isEmpty then .error .isDirectory
    else if nameLimit < utf8Length piece then .error .nameTooLong
    else
      match t.get? (loc ++ [piece]) with
      | none =>
        if purpose = .create ∧ rest = [] then .ok (loc ++ [piece]) else .error .notFound
      | some (.link target) =>
        match links with
        | 0 => .error .tooManyLinks
        | links + 1 =>
          if target.head?.all (· == '/') then .error .notFound
          else follow t purpose links loc (target.splitOn '/' ++ rest)
      | some _ => follow t purpose links (loc ++ [piece]) rest
termination_by pieces => (links, pieces.length)

/-- The location that a path leads to.  Nothing outside the tree can be reached, so an absolute
path leads nowhere, as does the empty one. -/
def locate (t : Tree) (purpose : Purpose) (p : Path) : Except Fault Location :=
  if '\x00' ∈ p.spelling then .error .holdsNul
  else if pathLimit < utf8Length p.spelling then .error .nameTooLong
  else if p.spelling.head?.all (· == '/') then .error .notFound
  else follow t purpose linkLimit [] p.pieces

/-- What a path leads to. -/
def find? (t : Tree) (p : Path) : Option Node :=
  match t.locate .lookUp p with
  | .ok loc => t.get? loc
  | .error _ => none

/-- Whether a path leads to a file. -/
def isFile (t : Tree) (p : Path) : Bool :=
  match t.find? p with
  | some (.file _) => true
  | _ => false

/-- Whether a path leads to a directory. -/
def isDirectory (t : Tree) (p : Path) : Bool := (t.find? p).any Node.isDirectory

/-! ## Reading and writing -/

/-- The bytes of the file that a path leads to. -/
def read (t : Tree) (p : Path) : Except Fault ByteArray := do
  match t.get? (← t.locate .lookUp p) with
  | some (.file bytes) => .ok bytes
  | some _ => .error .isDirectory
  | none => .error .notFound

/-- The tree after some bytes were written to the file that a path leads to, or to a new one. -/
def write (t : Tree) (p : Path) (bytes : ByteArray) : Except Fault Tree := do
  let loc ← t.locate .create p
  match t.get? loc with
  | some .directory => .error .isDirectory
  | _ => .ok (t.insert loc (.file bytes))

/-! ## Directories -/

/-- The names in a directory. -/
def children (t : Tree) (loc : Location) : List (List Char) :=
  t.entries.filterMap fun (l, _) => if l ≠ [] ∧ l.dropLast = loc then l.getLast? else none

/-- The names in the directory that a path leads to. -/
def listing (t : Tree) (p : Path) : Except Fault (List (List Char)) := do
  let loc ← t.locate .lookUp p
  if !t.isDirectoryAt loc then .error .notDirectory
  else if loc ∈ t.sealed then .error .denied
  else .ok (t.children loc)

/-- The files below a directory, at any depth, by the names that lead to them from there.  Links
are not followed. -/
def filesUnder (t : Tree) (loc : Location) : List Location :=
  t.entries.filterMap fun (l, node) =>
    match node with
    | .file _ => loc.isPrefixOf? l
    | _ => none

/-- The directories below a directory, at any depth, by the names that lead to them from there.  Each is
behind those that hold it. -/
def directoriesUnder (t : Tree) (loc : Location) : List Location :=
  (t.entries.filterMap fun (l, _) => if t.isDirectoryAt l then loc.isPrefixOf? l else none).mergeSort
    fun a b => a.length ≤ b.length

/-! ## Comparing trees -/

/-- The spelling of a location as a path. -/
def spell (loc : Location) : List Char := List.intercalate ['/'] loc

/-- Whether there is a file with the given bytes at a location. -/
def holds (t : Tree) (loc : Location) (bytes : ByteArray) : Bool :=
  match t.get? loc with
  | some (.file b) => b.data == bytes.data
  | _ => false

/-- The files of the tree that are new since `before` or hold other bytes, in the order of their
paths. -/
def changes (t before : Tree) : List (List Char × ByteArray) :=
  (t.entries.filterMap fun (l, node) =>
    match node with
    | .file bytes => if before.holds l bytes then none else some (spell l, bytes)
    | _ => none).mergeSort fun a b =>
      !List.lex (b.1.map Char.toNat) (a.1.map Char.toNat) Nat.blt

end Tree

end DocStub.Files

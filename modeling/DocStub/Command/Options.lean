/-!
# The command line

Arguments are options or paths.  An option has a long name, and some have a letter too; letters can
be joined (`-nq`), and a value can follow its option or be attached to it (`-etxt`, `-e=txt`,
`--extension=txt`).  After `--` every argument is a path.

* `Switch` — the options, and `Switch.ofLong?`, `Switch.ofLetter?`, their names.
* `Settings` — what a command line asks for.
* `Request`, `Request.parse` — how a command line is understood.  The first thing that is wrong and
  the first request for help, whichever comes first, decides.
-/

namespace DocStub.Command

/-- An option. -/
inductive Switch where
  | extension
  | dryRun
  | noCopy
  | copySuffix
  | verbose
  | quiet
  | help
deriving DecidableEq, Repr

namespace Switch

/-- The long names of the options. -/
def longNames : List (List Char × Switch) :=
  [("extension".toList, extension), ("dry-run".toList, dryRun), ("no-backup".toList, noCopy),
    ("backup-suffix".toList, copySuffix), ("verbose".toList, verbose), ("quiet".toList, quiet),
    ("help".toList, help)]

/-- The option with a long name. -/
def ofLong? (name : List Char) : Option Switch := longNames.lookup name

/-- The option with a letter. -/
def ofLetter? : Char → Option Switch
  | 'e' => some extension
  | 'n' => some dryRun
  | 'v' => some verbose
  | 'q' => some quiet
  | 'h' => some help
  | _ => none

/-- Whether an option has a value. -/
def takesValue : Switch → Bool
  | extension => true
  | copySuffix => true
  | _ => false

end Switch

/-- What a command line asks for.  The paths are those of files and directories, or patterns, the
extension is that of the files to look for in directories, and the verbosity is how often more
logging was asked for.  A quiet report leaves out what became of single files. -/
structure Settings where
  paths : List (List Char) := []
  extension : List Char := "java".toList
  isDryRun : Bool := false
  keepsCopy : Bool := true
  copySuffix : List Char := ".backup".toList
  verbosity : Nat := 0
  isQuiet : Bool := false
deriving DecidableEq, Repr

/-- How a command line is understood. -/
inductive Request where
  | help
  | malformed
  | work (settings : Settings)
deriving DecidableEq, Repr

/-- What has been read of a command line: the settings and the options so far. -/
structure Reading where
  settings : Settings := {}
  given : List Switch := []
deriving DecidableEq, Repr

namespace Reading

/-- Takes an option, with its value if it has one.  Only the wish for more logging may be repeated,
and help is no setting. -/
def take? (r : Reading) (s : Switch) (value : List Char) : Option Reading :=
  if s ∈ r.given ∧ s ≠ .verbose then none
  else
    let given := s :: r.given
    match s with
    | .extension => some ⟨{ r.settings with extension := value }, given⟩
    | .dryRun => some ⟨{ r.settings with isDryRun := true }, given⟩
    | .noCopy => some ⟨{ r.settings with keepsCopy := false }, given⟩
    | .copySuffix => some ⟨{ r.settings with copySuffix := value }, given⟩
    | .verbose => some ⟨{ r.settings with verbosity := r.settings.verbosity + 1 }, given⟩
    | .quiet => some ⟨{ r.settings with isQuiet := true }, given⟩
    | .help => none

/-- Takes some paths. -/
def addPaths (r : Reading) (paths : List (List Char)) : Reading :=
  { r with settings := { r.settings with paths := r.settings.paths ++ paths } }

end Reading

/-- What one argument comes to.  The value of an option may still be to come. -/
inductive Progress where
  | next (r : Reading)
  | needsValue (r : Reading) (s : Switch)
  | help
  | malformed
deriving DecidableEq, Repr

namespace Progress

/-- Goes on, unless something is wrong. -/
def ofReading? : Option Reading → Progress
  | some r => next r
  | none => malformed

/-- An argument with a long name: the text after its two hyphens. -/
def ofLong (r : Reading) (t : List Char) : Progress :=
  match Switch.ofLong? (t.takeWhile (· != '=')), t.dropWhile (· != '=') with
  | none, _ => malformed
  | some s, [] =>
    if s = .help then help else if s.takesValue then needsValue r s else ofReading? (r.take? s [])
  | some s, _ :: value => if s.takesValue then ofReading? (r.take? s value) else malformed

/-- An argument of joined letters: the text after its hyphen.  What follows the letter of an option
with a value is the value, except for an equals sign in front of it. -/
def ofLetters (r : Reading) : List Char → Progress
  | [] => next r
  | c :: t =>
    match Switch.ofLetter? c with
    | none => malformed
    | some s =>
      if s = .help then help
      else if s.takesValue then
        match t with
        | [] => needsValue r s
        | '=' :: value => ofReading? (r.take? s value)
        | value => ofReading? (r.take? s value)
      else
        match r.take? s [] with
        | none => malformed
        | some r => ofLetters r t

/-- Any argument but the two hyphens alone.  A single hyphen is a path. -/
def ofArgument (r : Reading) : List Char → Progress
  | '-' :: '-' :: t => ofLong r t
  | '-' :: c :: t => ofLetters r (c :: t)
  | path => next (r.addPaths [path])

end Progress

/-- Whether an argument cannot be the value of an option. -/
def looksLikeOption : List Char → Bool
  | '-' :: _ :: _ => true
  | _ => false

/-- Understands the arguments that follow what has been read. -/
def readArguments (r : Reading) : List (List Char) → Request
  | [] => .work r.settings
  | argument :: rest =>
    if argument = ['-', '-'] then .work (r.addPaths rest).settings
    else
      match Progress.ofArgument r argument with
      | .malformed => .malformed
      | .help => .help
      | .next r => readArguments r rest
      | .needsValue r s =>
        match rest with
        | [] => .malformed
        | value :: rest =>
          if looksLikeOption value then .malformed
          else
            match r.take? s value with
            | none => .malformed
            | some r => readArguments r rest

/-- Understands a command line. -/
def Request.parse (arguments : List (List Char)) : Request := readArguments {} arguments

end DocStub.Command

import DocStub.Command.Options
import DocStub.Command.Report
import DocStub.Files.Survey
import DocStub.Log.Filter

/-!
# Running a command

A command reads its arguments, its input and a tree of files, and answers with an exit status, two
texts and the tree that it leaves.

* `Environment` — what a command is given.
* `Result` — what it answers.
* `run` — the command.
-/

namespace DocStub.Command

open Files

/-- What a command is given.  The specification of a log filter, the value of an environment variable,
takes precedence over the arguments. -/
structure Environment where
  arguments : List (List Char)
  input : ByteArray
  logSpec? : Option (List Char)
  tree : Tree

/-- What a command answers: the exit status, the texts on the two outputs, the files afterwards, and
what was written to files, in this order. -/
structure Result where
  status : Nat
  output : List Char
  errors : List Char
  tree : Tree
  writes : List Write := []

/-- The least weighty level that is logged, by how often more logging was asked for. -/
def levelOf : Nat → Log.Level
  | 0 => .warn
  | 1 => .info
  | 2 => .debug
  | _ => .trace

/-- The log filter, with a warning for every part of its specification that cannot be read. -/
def filterOf (spec? : Option (List Char)) (verbosity : Nat) : Log.Filter × List Char :=
  match spec? with
  | none => (.ofLevel (levelOf verbosity), [])
  | some spec =>
    let (f, faults) := Log.Filter.parse spec
    let warning (t : List Char) := "warning: ".toList ++ t ++ ", ignoring it".toList
    (f, unlines (faults.map warning))

/-- A cause with something in front of its first line, and blanks of the same width in front of the
others. -/
def causeText (front cause : List Char) : List Char :=
  front ++ List.intercalate ('\n' :: List.replicate front.length ' ') (cause.splitOn '\n')

/-- The message about an error and its causes, which are numbered if there are several. -/
def errorText (message : List Char) (causes : List (List Char)) : List Char :=
  let texts : List (List Char) :=
    match causes with
    | [cause] => [causeText "    ".toList cause]
    | _ => causes.mapIdx fun i cause => causeText ("    ".toList ++ Text.decimal i ++ ": ".toList) cause
  unlines (["Error: ".toList ++ message, [], "Caused by:".toList] ++ texts)

/-- Documents the text on the standard input. -/
def documentInput (e : Environment) (f : Log.Filter) (warnings : List Char) : Result :=
  match Text.decode? e.input with
  | none =>
    { status := 1
      output := []
      errors := warnings ++ errorText "failed to read stdin".toList [Fault.notText.message]
      tree := e.tree }
  | some text =>
    let d := Source.document text
    let message := "stdin: ".toList ++ Text.decimal d.blockCount ++ " block(s) inserted".toList
    let log := Source.traceRecords text ++ [⟨.debug, .command, message⟩]
    { status := 0, output := d.text, errors := warnings ++ Log.render f log, tree := e.tree }

/-- The way files are documented under some settings. -/
def Settings.options (s : Settings) : Files.Options := ⟨s.isDryRun, s.keepsCopy, s.copySuffix⟩

/-- Documents the files that the settings name. -/
def documentFiles (e : Environment) (s : Settings) (f : Log.Filter) (warnings : List Char) :
    Result :=
  let found := survey e.tree s.extension s.paths
  match found.result with
  | .error b =>
    { status := 1
      output := []
      errors := warnings ++ Log.render f found.log ++ errorText b.message b.causes
      tree := e.tree }
  | .ok paths =>
    let steps := updateAll s.options e.tree paths
    { status := if (Totals.ofSteps steps).anyFailed then 1 else 0
      output := unlines (report s.isQuiet s.isDryRun s.paths steps)
      errors := warnings ++ Log.render f (found.log ++ steps.flatMap Step.log)
      tree := treeAfter e.tree steps
      writes := steps.flatMap Step.writes }

/-- Runs the command. -/
def run (e : Environment) : Result :=
  match Request.parse e.arguments with
  | .malformed =>
    let message := "error: the arguments cannot be understood, try '--help'".toList
    { status := 2, output := [], errors := unlines [message], tree := e.tree }
  | .help => { status := 0, output := helpText, errors := [], tree := e.tree }
  | .work s =>
    let (f, warnings) := filterOf e.logSpec? s.verbosity
    if s.paths = [] then documentInput e f warnings else documentFiles e s f warnings

end DocStub.Command

import DocStub.Files.Update

/-!
# The report

* `stepLines` — what the report says about one file.
* `totalLines` — what it says at the end.
* `report` — the whole report.
* `helpText` — the explanation of the options.
-/

namespace DocStub.Command

open Files
open Text (decimal)

/-- The line between the parts of the report. -/
def rule : List Char := List.replicate 32 '='

/-- What became of a file, in words. -/
def outcomeLine : Except Failure Outcome → List Char
  | .ok (.written n) => "  added ".toList ++ decimal n ++ " doc comment(s)".toList
  | .ok (.pending n) => "  would add ".toList ++ decimal n ++ " doc comment(s)".toList
  | .ok .untouched => "  already documented or no changes needed".toList
  | .error _ => "  failed".toList

/-- The report on one file.  The file is called by the last name of its path. -/
def stepLines (s : Step) : List (List Char) :=
  ["Processing: ".toList ++ s.path.fileName?.getD s.path.spelling, outcomeLine s.outcome]

/-- The totals. -/
def totalLines (isDryRun : Bool) (s : Totals Failure) : List (List Char) :=
  [rule, "Files processed: ".toList ++ decimal s.files] ++
    (if isDryRun then
      ["Files that would be updated: ".toList ++ decimal s.changed,
        "Doc comments that would be added: ".toList ++ decimal s.comments]
    else
      ["Files updated: ".toList ++ decimal s.changed,
        "Doc comments added: ".toList ++ decimal s.comments]) ++
    (if s.anyFailed then ["Files failed: ".toList ++ decimal s.failures.length] else [])

/-- The report on the work that `arguments` asked for.  A quiet report consists of the totals. -/
def report (isQuiet isDryRun : Bool) (arguments : List (List Char)) (steps : List Step) :
    List (List Char) :=
  (if isQuiet then []
  else
    ["Scanning: ".toList ++ List.intercalate ", ".toList arguments, rule] ++
      steps.flatMap stepLines) ++
    totalLines isDryRun (Totals.ofSteps steps)

/-- The text of some lines. -/
def unlines (ls : List (List Char)) : List Char := ls.flatMap fun l => l ++ ['\n']

/-- The explanation of the options. -/
def helpText : List Char :=
  unlines <| [
    "Insert Javadoc comment blocks above undocumented Java declarations",
    "",
    "Usage: javadoc-gen [OPTIONS] [PATHS]...",
    "",
    "Arguments:",
    "  [PATHS]...  Files, directories (searched recursively) or glob patterns. If omitted, reads Java source from stdin and writes to stdout",
    "",
    "Options:",
    "  -e, --extension <EXTENSION>          Extension of files to pick up inside directories [default: java]",
    "  -n, --dry-run                        Show what would change without writing anything",
    "      --no-backup                      Overwrite files without writing a backup copy first",
    "      --backup-suffix <BACKUP_SUFFIX>  Suffix appended to the path of each backup copy [default: .backup]",
    "  -v, --verbose...                     Increase log verbosity (-v info, -vv debug, -vvv trace)",
    "  -q, --quiet                          Suppress per-file progress lines",
    "  -h, --help                           Print help"].map String.toList

end DocStub.Command

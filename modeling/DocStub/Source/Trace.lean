import DocStub.Log.Record
import DocStub.Source.Document
import DocStub.Text.Decimal

/-!
# What there is to log about a text

* `traceRecords` — a record for every line that receives a comment.
* `countsMessage` — the numbers of a documented text in words.
-/

namespace DocStub.Source

open Text (decimal)

/-- The records about the lines of a text that receive a comment. -/
def traceRecords (t : List Char) : List Log.Record :=
  (declarations t).map fun (number, kind, content) =>
    ⟨.trace, .documenting,
      kind.label ++ " at line ".toList ++ decimal number ++ ": ".toList ++ content⟩

/-- How many lines a text has and how many comments of each kind it received. -/
def countsMessage (d : Documented) : List Char :=
  decimal d.lineCount ++ " line(s), ".toList ++ decimal d.blockCount ++ " block(s) (".toList ++
    decimal d.byKind.classes ++ " class, ".toList ++
    decimal d.byKind.interfaces ++ " interface, ".toList ++
    decimal d.byKind.methods ++ " method, ".toList ++
    decimal d.byKind.fields ++ " field)".toList

end DocStub.Source

/-!
# Log records

* `Level` — how much a record matters, and `Level.rank`, the order from errors to traces.
* `Origin` — the part of the program that a record comes from, with the name that filters use.
* `Record`, `Record.render` — a record and its line in the log.
-/

namespace DocStub.Log

/-- How much a record matters, the weightiest first. -/
inductive Level where
  | error
  | warn
  | info
  | debug
  | trace
deriving DecidableEq, Repr

namespace Level

/-- The place of a level, from the weightiest to the least. -/
def rank : Level → Nat
  | error => 1
  | warn => 2
  | info => 3
  | debug => 4
  | trace => 5

/-- The name of a level. -/
def label : Level → List Char
  | error => "ERROR".toList
  | warn => "WARN".toList
  | info => "INFO".toList
  | debug => "DEBUG".toList
  | trace => "TRACE".toList

/-- The name of a level, filled up to the width of the longest one. -/
def paddedLabel (l : Level) : List Char := l.label.rightpad 5 ' '

end Level

/-- The part of the program that a record comes from. -/
inductive Origin where
  | command
  | discovery
  | updating
  | documenting
deriving DecidableEq, Repr

/-- The name of an origin in filters. -/
def Origin.name : Origin → List Char
  | command => "javadoc_gen".toList
  | discovery => "javadoc_gen::discover".toList
  | updating => "javadoc_gen::process".toList
  | documenting => "javadoc_gen::transform".toList

/-- A message for the log. -/
structure Record where
  level : Level
  origin : Origin
  message : List Char
deriving DecidableEq, Repr

/-- The record as it is written to the log.  Further lines of a message are indented. -/
def Record.render (r : Record) : List Char :=
  ['['] ++ r.level.paddedLabel ++ "] ".toList ++
    (r.message.flatMap fun c => if c = '\n' then "\n    ".toList else [c]) ++ ['\n']

end DocStub.Log

import DocStub.Log.ControlSequence
import DocStub.Log.Record
import DocStub.Regex.Meaning

/-!
# Log filters

A filter says which records are written.  It is given as a list of directives, separated by commas:
a level for all records, or a level for those whose origin has a name that starts in a given way.
The directive with the longest name decides.

* `Directive` — a level and, perhaps, the start of a name.
* `Filter` — the directives, and perhaps a regular expression that messages must match.
* `Filter.parse` — the filter that a specification describes, and what is wrong with the rest of it.
* `Filter.admits` — whether a record is written.
-/

namespace DocStub.Log

open Regex (Expr)
open Text (trim)

/-- The most that a directive lets through: the rank of a level, or nothing at all. -/
abbrev Threshold := Nat

/-- Lets everything through. -/
def Threshold.all : Threshold := Level.trace.rank

/-- The level that a word names, in any letter case. -/
def Threshold.ofWord? (w : List Char) : Option Threshold :=
  let w := w.map Char.toUpper
  if w = "OFF".toList then some 0
  else ([Level.error, .warn, .info, .debug, .trace].find? fun l => l.label == w).map Level.rank

/-- One rule of a filter: how the names start that it is about, and the most that it lets through.
A rule without a start is about all names. -/
structure Directive where
  start? : Option (List Char)
  threshold : Threshold
deriving DecidableEq, Repr

/-- Whether a directive is about an origin of the given name. -/
def Directive.concerns (d : Directive) (name : List Char) : Bool :=
  d.start?.all fun start => start.isPrefixOf name

/-- The length of what a directive asks of a name. -/
def Directive.weight (d : Directive) : Nat := (d.start?.map List.length).getD 0

/-- Reads one directive.  The error is the part that cannot be read. -/
def Directive.parse (t : List Char) : Except (List Char) Directive :=
  match t.splitOn '=' with
  | [word] =>
    match Threshold.ofWord? word with
    | some threshold => .ok ⟨none, threshold⟩
    | none => .ok ⟨some word, .all⟩
  | [start, word] =>
    if trim word = [] then .ok ⟨some start, .all⟩
    else
      match Threshold.ofWord? (trim word) with
      | some threshold => .ok ⟨some start, threshold⟩
      | none => .error (trim word)
  | _ => .error t

/-- Which records are written.  There is at most one rule for each start of a name, and a message
must match `content?` somewhere. -/
structure Filter where
  directives : List Directive
  content? : Option Expr := none
deriving DecidableEq, Repr

namespace Filter

/-- The filter that lets all records of a level and of weightier ones through. -/
def ofLevel (l : Level) : Filter := { directives := [⟨none, l.rank⟩] }

/-- Adds a directive, in the place of an earlier one about the same names. -/
def addDirective (ds : List Directive) (d : Directive) : List Directive :=
  if ds.any fun e => e.start? == d.start? then
    ds.map fun e => if e.start? == d.start? then d else e
  else ds ++ [d]

/-- The filter of a list of directives.  Without any, errors alone are written. -/
def ofDirectives (ds : List Directive) (content? : Option Expr) : Filter :=
  match ds.foldl addDirective [] with
  | [] => { ofLevel .error with content? }
  | ds => { directives := ds, content? }

/-- What is said about a part of a specification that cannot be read. -/
def specFault (part : List Char) : List Char :=
  "invalid logging spec '".toList ++ part ++ "'".toList

/-- What is said about a pattern that is refused. -/
def patternFault (pattern : List Char) (r : Regex.Refusal) : List Char :=
  "invalid regex filter - ".toList ++ r.message pattern

/-- The directives between commas, and what is wrong with the parts that are none. -/
def parseDirectives (rules : List Char) : List Directive × List (List Char) :=
  let results := (((rules.splitOn ',').map trim).filter fun t => !t.isEmpty).map Directive.parse
  (results.filterMap fun | .ok d => some d | .error _ => none,
    results.filterMap fun | .ok _ => none | .error t => some (specFault t))

/-- Reads a specification: directives between commas and, after a slash, a pattern that messages
must match.  The second part says what is wrong with what is left out. -/
def parse (spec : List Char) : Filter × List (List Char) :=
  match spec.splitOn '/' with
  | [rules] =>
    let (ds, faults) := parseDirectives rules
    (ofDirectives ds none, faults)
  | [rules, pattern] =>
    let (ds, faults) := parseDirectives rules
    match Expr.ofPattern pattern with
    | .ok e => (ofDirectives ds (some e), faults)
    | .error r => (ofDirectives ds none, faults ++ [patternFault pattern r])
  | _ => (ofDirectives [] none, [specFault spec ++ " (too many '/'s)".toList])

/-- The directive that decides about records of an origin: the one that asks most of its name, and
the last of those. -/
def deciding? (f : Filter) (name : List Char) : Option Directive :=
  (f.directives.filter fun d => d.concerns name).foldl
    (fun best d => if best.all fun b => b.weight ≤ d.weight then some d else best) none

/-- Whether a record is written. -/
def admits (f : Filter) (r : Record) : Bool :=
  (f.deciding? r.origin.name).any (fun d => r.level.rank ≤ d.threshold) &&
    f.content?.all fun e => e.occursIn r.message

end Filter

/-- The log of some records, as it is shown.  A sequence that a record leaves open ends with it. -/
def render (f : Filter) (rs : List Record) : List Char :=
  (rs.filter f.admits).flatMap fun r => shown r.render

end DocStub.Log

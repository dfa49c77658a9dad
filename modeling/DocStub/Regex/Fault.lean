import DocStub.Text.Decimal

/-!
# Faults of a regular expression

A pattern that is no regular expression is answered with a text that quotes it, points at the place
of the fault, and says what is wrong.

* `Span` — a stretch of a pattern.
* `Cause`, `Cause.message` — what is wrong, and its wording.
* `Fault` — a cause and its place, perhaps with an earlier place that it clashes with.
* `Fault.report` — the whole answer.

A pattern of several lines is quoted between two rules, and its lines are numbered.
-/

namespace DocStub.Regex

/-- A stretch of a pattern, by the numbers of characters before it and before its end. -/
structure Span where
  start : Nat
  stop : Nat
deriving DecidableEq, Repr, Inhabited

/-- What can be wrong with a pattern.  `Cause.message` puts it into words. -/
inductive Cause where
  | escapeInClass
  | classRangeOrder
  | classRangeBoundary
  | classUnclosed
  | numberTooLarge
  | numberMissing
  | hexEmpty
  | hexNoCharacter
  | hexDigit
  | escapeUnfinished
  | escapeUnknown
  | negationDangling
  | negationRepeated
  | flagRepeated
  | flagsUnfinished
  | flagUnknown
  | nameRepeated
  | nameEmpty
  | nameCharacter
  | nameUnfinished
  | groupUnclosed
  | groupUnopened
  | nestedTooDeeply
  | countOrder
  | countUnclosed
  | nothingToRepeat
  | boundaryUnclosed
  | boundaryUnknown
  | boundaryUnfinished
  | propertyEscape
  | backreference
  | lookAround
  | unicodeNotAllowed
  | notText
  | propertyUnknown
  | propertyValueUnknown
deriving DecidableEq, Repr

/-- How deeply groups, classes and repetitions may be nested. -/
def nestLimit : Nat := 250

/-- The wording of a cause. -/
def Cause.message : Cause → String
  | escapeInClass => "invalid escape sequence found in character class"
  | classRangeOrder => "invalid character class range, the start must be <= the end"
  | classRangeBoundary => "invalid range boundary, must be a literal"
  | classUnclosed => "unclosed character class"
  | numberTooLarge => "decimal literal invalid"
  | numberMissing => "repetition quantifier expects a valid decimal"
  | hexEmpty => "hexadecimal literal empty"
  | hexNoCharacter => "hexadecimal literal is not a Unicode scalar value"
  | hexDigit => "invalid hexadecimal digit"
  | escapeUnfinished => "incomplete escape sequence, reached end of pattern prematurely"
  | escapeUnknown => "unrecognized escape sequence"
  | negationDangling => "dangling flag negation operator"
  | negationRepeated => "flag negation operator repeated"
  | flagRepeated => "duplicate flag"
  | flagsUnfinished => "expected flag but got end of regex"
  | flagUnknown => "unrecognized flag"
  | nameRepeated => "duplicate capture group name"
  | nameEmpty => "empty capture group name"
  | nameCharacter => "invalid capture group character"
  | nameUnfinished => "unclosed capture group name"
  | groupUnclosed => "unclosed group"
  | groupUnopened => "unopened group"
  | nestedTooDeeply =>
    "exceed the maximum number of nested parentheses/brackets (" ++
      String.ofList (Text.decimal nestLimit) ++ ")"
  | countOrder => "invalid repetition count range, the start must be <= the end"
  | countUnclosed => "unclosed counted repetition"
  | nothingToRepeat => "repetition operator missing expression"
  | boundaryUnclosed =>
    "special word boundary assertion is either unclosed or contains an invalid character"
  | boundaryUnknown =>
    "unrecognized special word boundary assertion, valid choices are: start, end, start-half " ++
      "or end-half"
  | boundaryUnfinished =>
    "found either the beginning of a special word boundary or a bounded repetition on a \\b " ++
      "with an opening brace, but no closing brace"
  | propertyEscape => "invalid Unicode character class"
  | backreference => "backreferences are not supported"
  | lookAround => "look-around, including look-ahead and look-behind, is not supported"
  | unicodeNotAllowed => "Unicode not allowed here"
  | notText => "pattern can match invalid UTF-8"
  | propertyUnknown => "Unicode property not found"
  | propertyValueUnknown => "Unicode property value not found"

/-- A cause, its place, and the place of what it clashes with. -/
structure Fault where
  cause : Cause
  span : Span
  earlier? : Option Span := none
deriving DecidableEq, Repr

/-- A place in a pattern by line and column, both from zero. -/
structure Place where
  line : Nat
  column : Nat
deriving DecidableEq, Repr

/-- The place behind the first `n` characters of a pattern. -/
def placeAt (pattern : List Char) (n : Nat) : Place :=
  let before := pattern.take n
  ⟨before.count '\n', (before.reverse.takeWhile (· != '\n')).length⟩

/-- The lines of a pattern.  Nothing behind the last line feed is no line. -/
def patternLines (pattern : List Char) : List (List Char) :=
  let withoutReturn (l : List Char) := if l.getLast? = some '\r' then l.dropLast else l
  let pieces := pattern.splitOn '\n'
  match pieces.getLast? with
  | none | some [] => pieces.dropLast.map withoutReturn
  | some last => pieces.dropLast.map withoutReturn ++ [last]

/-- Marks under the stretches of a line, each given by its first column and the one behind it, in
their order.  An empty stretch has a mark too.  The marks so far end before `reached`. -/
def marks (reached : Nat) : List (Nat × Nat) → List Char
  | [] => []
  | (first, stop) :: rest =>
    let width := max 1 (stop - first)
    List.replicate (first - reached) ' ' ++ List.replicate width '^' ++
      marks (max reached first + width) rest

namespace Fault

/-- The places of a fault, in their order in the pattern. -/
def spans (f : Fault) : List Span :=
  match f.earlier? with
  | none => [f.span]
  | some e =>
    if f.span.start < e.start ∨ (f.span.start = e.start ∧ f.span.stop ≤ e.stop) then [f.span, e]
    else [e, f.span]

/-- The pattern, with marks under its lines. -/
def quotation (f : Fault) (pattern : List Char) : List Char :=
  let lineCount := (pattern.splitOn '\n').length
  let width := (Text.decimal lineCount).length
  let places := f.spans.map fun s => (placeAt pattern s.start, placeAt pattern s.stop)
  (patternLines pattern).zipIdx.flatMap fun (line, i) =>
    let number := Text.decimal (i + 1)
    let margin :=
      if lineCount = 1 then List.replicate 4 ' '
      else List.replicate (width - number.length) ' ' ++ number ++ [':', ' ']
    let here := places.filter fun (a, b) => a.line = i ∧ b.line = i
    let notes :=
      if here = [] then []
      else
        List.replicate margin.length ' ' ++ marks 0 (here.map fun (a, b) => (a.column, b.column)) ++
          ['\n']
    margin ++ line ++ ['\n'] ++ notes

/-- Notes about the places that extend over several lines. -/
def notes (f : Fault) (pattern : List Char) : List Char :=
  (f.spans.map fun s => (placeAt pattern s.start, placeAt pattern s.stop)).flatMap fun (a, b) =>
    if a.line = b.line then []
    else
      "on line ".toList ++ Text.decimal (a.line + 1) ++ " (column ".toList ++
        Text.decimal (a.column + 1) ++ ") through line ".toList ++ Text.decimal (b.line + 1) ++
        " (column ".toList ++ Text.decimal b.column ++ ")\n".toList

/-- What is said about a fault of a pattern. -/
def report (f : Fault) (pattern : List Char) : List Char :=
  let rule := List.replicate 79 '~' ++ ['\n']
  let body :=
    if '\n' ∈ pattern then rule ++ f.quotation pattern ++ rule ++ f.notes pattern
    else f.quotation pattern
  "regex parse error:\n".toList ++ body ++ "error: ".toList ++ f.cause.message.toList

end Fault

end DocStub.Regex

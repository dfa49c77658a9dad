import DocStub.Comment.Block
import DocStub.Declaration.Kind
import DocStub.Prose.Phrase

/-!
# Composing a comment

* `classLines`, `interfaceLines`, `methodLines`, `fieldLines` — what the comment on a declaration
  of each kind says.
* `compose` — the comment block for a declaration line.
-/

namespace DocStub.Comment

open Declaration

/-- Asks the author for what cannot be read off a declaration. -/
def todo : List Char := "TODO: Add detailed description".toList

/-- The comment on a class. -/
def classLines (line : List Char) : List (List Char) :=
  [nameOfClass line ++ " class.".toList, todo, [], "@author TODO".toList, "@version 1.0".toList]

/-- The comment on an interface. -/
def interfaceLines (line : List Char) : List (List Char) :=
  [nameOfInterface line ++ " interface.".toList, todo]

/-- The tag line for a parameter of the method with the given name. -/
def parameterTag (method : List Char) (p : Parameter) : List Char :=
  "@param ".toList ++ p.name ++ [' '] ++ Prose.parameterPhrase p method

/-- The tag line for the result of a method that returns something. -/
def resultTag? (type : List Char) : Option (List Char) :=
  (Prose.resultPhrase? type).map ("@return ".toList ++ ·)

/-- The tag line for an exception. -/
def exceptionTag (exception : List Char) : List Char :=
  "@throws ".toList ++ exception ++ " if TODO".toList

/-- The comment on a method: a summary, then the parameters, the result and the exceptions. -/
def methodLines (line : List Char) : List (List Char) :=
  let m := Method.ofLine line
  [Prose.summary m.name] ++ m.parameters.map (parameterTag m.name) ++
    (resultTag? m.returnType).toList ++ (thrownNames line).map exceptionTag

/-- The comment on a field. -/
def fieldLines (line : List Char) : List (List Char) :=
  [Prose.fieldSentence (nameOfField line) (typeOfField line)]

/-- The content of the comment on a declaration of the given kind. -/
def contentLines (kind : Kind) (line : List Char) : List (List Char) :=
  match kind with
  | .classType => classLines line
  | .interfaceType => interfaceLines line
  | .method => methodLines line
  | .field => fieldLines line

/-- The comment block for a declaration line. -/
def compose (kind : Kind) (line indentation : List Char) : Block :=
  ⟨indentation, contentLines kind line⟩

end DocStub.Comment

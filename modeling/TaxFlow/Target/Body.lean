import TaxFlow.Chart.Basic
import TaxFlow.Page.Outline
import TaxFlow.Target.CodeSettings
import TaxFlow.Text.Casing

/-!
# Statements and declarations

The outlines that all target languages have in common: comments, the steps of a method, and the
parts of declarations.
-/
namespace TaxFlow.CodeSettings

open TaxFlow.Chart

/-- A comment, line by line; a block comment has an opening and a closing line. -/
def comment (v : CodeSettings) (text : String) (simple : Bool) : List Outline :=
  let style := v.statementSettings.comments
  let mark := if simple then style.lineMark else style.blockMark
  let lines := (Text.lines text).map fun line => Outline.line .comment (mark ++ Text.trim line)
  if simple then lines
  else .line .comment style.opening :: lines ++ [Outline.line .comment style.closing]

def commentOf (v : CodeSettings) (text : Option String) (simple : Bool) : List Outline :=
  match text with
  | some text => v.comment text simple
  | none => [.halt .missingComment]

def declarationComment (v : CodeSettings) (text : Option String) (simple : Bool) : List Outline :=
  match text with
  | some text => .blank :: v.comment text simple
  | none => []

/-- The comment of a method; an empty one counts as none. -/
def methodComment (v : CodeSettings) (text : Option String) : List Outline :=
  match text with
  | some text => if text.isEmpty then [] else v.comment text false
  | none => []

mutual

/-- The outline of a step. Notes and nested methods are left out, and so is an empty alternative. -/
def step (v : CodeSettings) : Step → List Outline
  | .note _ => []
  | .method .. => []
  | .eval _ source => Outline.given (v.assignment source) fun s => [.line .assignment s]
  | .execute _ method => [.line .call (v.call method)]
  | .condition _ source body =>
    Outline.given (v.value source) fun s =>
      [.block .branch (v.statementSettings.beforeCondition ++ s ++
        v.statementSettings.afterCondition) (v.body body)]
  | .consequent _ body =>
    match v.statementSettings.filler with
    | some filler => if body.isEmpty then [.line .filler filler] else v.body body
    | none => v.body body
  | .alternative _ body =>
    if body.isEmpty then [] else .outdented .otherwise v.statementSettings.otherwise :: v.body body

def body (v : CodeSettings) : List Step → List Outline
  | [] => []
  | s :: ss => v.step s ++ v.body ss

end

def capitalized (name : Option String) : Except Fault String :=
  match name with
  | some name => .ok (Text.capitalize name)
  | none => .error .missingName

def inner (s : String) : String := String.ofList s.toList.tail.dropLast

def isListType (type : Option String) : Except Fault Bool :=
  match type with
  | some type => .ok ("[]".toList.isSuffixOf type.toList)
  | none => .error .missingType

/-- The value of a constant as a formula: the braces around a list become brackets. -/
def constantFormula (c : Constant) : Except Fault (Option String) := do
  if ← isListType c.type then
    match c.value with
    | some value => .ok (some ("[" ++ inner value ++ "]"))
    | none => .error .missingValue
  else .ok c.value

def constantValue (v : CodeSettings) (c : Constant) : Except Fault String := do
  v.value (← constantFormula c)

end TaxFlow.CodeSettings

import TaxFlow.Dialect.Render
import TaxFlow.Formula.Basic
import TaxFlow.Page.Basic

/-!
# Settings of a target language

How a target language writes statements and comments, and its formulas as they stand in a chart.
-/
namespace TaxFlow

structure CommentStyle where
  lineMark : String
  opening : String
  blockMark : String
  closing : String
  deriving DecidableEq, Repr

def slashComments : CommentStyle := ⟨"// ", "/**", " * ", " */"⟩

def hashComments : CommentStyle := ⟨"# ", "\"\"\"", "", "\"\"\""⟩

/-- The settings of a language for statements. -/
structure StatementSettings where
  /-- In front of an assigned variable; without it nothing can be assigned. -/
  place : Option String
  receiver : String
  ending : String
  beforeCondition : String := "if ("
  afterCondition : String := ")"
  otherwise : String := "\x7d else \x7b"
  /-- Fills a branch that would be empty. -/
  filler : Option String := none
  comments : CommentStyle := slashComments
  /-- Whether size marks of numbers are removed before a formula is read. -/
  removesSizeLiterals : Bool := false
  deriving DecidableEq, Repr

namespace StatementSettings

def php : StatementSettings :=
  { place := some "$this->"
    receiver := "$this->"
    ending := ";"
    removesSizeLiterals := true }

def python : StatementSettings :=
  { place := some "self."
    receiver := "self."
    ending := ""
    beforeCondition := "if "
    afterCondition := ""
    otherwise := "else:"
    filler := some "pass"
    comments := hashComments
    removesSizeLiterals := true }

/-- Languages that name their object in front of a point. -/
def pointed (owner : Option String) (ending : String) : StatementSettings :=
  { place := owner.map (· ++ ".")
    receiver := shown owner ++ "."
    ending }

end StatementSettings

/-- The settings with which a generator writes the code of a chart: those of its language for
formulas and for statements, and the names of the chart. -/
structure CodeSettings where
  dialect : Dialect
  statementSettings : StatementSettings
  scope : Scope
  deriving DecidableEq, Repr

namespace CodeSettings

def className (v : CodeSettings) : String := shown v.scope.className

/-- The text of a formula that is going to be read. -/
def source (v : CodeSettings) (formula : Option String) : Except Fault (Option String) :=
  if v.statementSettings.removesSizeLiterals then
    match formula with
    | some s => .ok (some (Formula.removeSizeLiterals s))
    | none => .error .missingSizedFormula
  else .ok formula

/-- A condition, or the value of a constant or variable. -/
def value (v : CodeSettings) (formula : Option String) : Except Fault String := do
  v.dialect.render v.scope (← Formula.value (← v.source formula))

def assignment (v : CodeSettings) (formula : Option String) : Except Fault String := do
  let (id, e) ← Formula.assignment (← v.source formula)
  let words ← v.dialect.toCode v.scope e
  match v.statementSettings.place with
  | some place => .ok (place ++ id ++ " = " ++ String.join words ++ v.statementSettings.ending)
  | none => .error .missingInstance

def call (v : CodeSettings) (method : Option String) : String :=
  v.statementSettings.receiver ++ shown method ++ "()" ++ v.statementSettings.ending

end CodeSettings
end TaxFlow

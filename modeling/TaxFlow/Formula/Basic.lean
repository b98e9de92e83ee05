import TaxFlow.Fault
import TaxFlow.Formula.Prepare
import TaxFlow.Formula.Script

/-!
# Formulas of a chart

The two ways in which a chart uses a formula: as an assignment, of which the target and the value
are taken, and as a condition or value. Only the first statement of a formula counts, but all of it
has to be well-formed.
-/
namespace TaxFlow.Formula

/-- Reads the text of a formula that has been prepared as statements, or tells why it cannot be
read. -/
abbrev ScriptReader := List Char → Except Fault (List Statement)

/-- The reader for a grammar. No grammar reads null characters. -/
def readerOf (script : List Char → Option (List Statement)) : ScriptReader := fun cs =>
  if cs.contains '\x00' then .error .nullCharacter
  else match script cs with
    | some ss => .ok ss
    | none => .error .unreadableFormula

def statementsOf : ScriptReader := readerOf script?

/-- The first statement of a formula in chart notation. -/
def firstStatementBy (reader : ScriptReader) : Option String → Except Fault Statement
  | none => .error .missingFormula
  | some source => do
    match ← reader (prepared source.toList) with
    | [] => .error .emptyFormula
    | s :: _ => .ok s

def firstStatement : Option String → Except Fault Statement := firstStatementBy statementsOf

/-- The first target of a statement has to be a plain name. -/
def plainTarget : Expr → Except Fault String
  | .name id => .ok id
  | e => .error (.notPlainTarget e.kind)

def Statement.assignment : Statement → Except Fault (String × Expr)
  | .assign target _ value => do
    let id ← plainTarget target
    .ok (id, value)
  | .delete target targets => do
    let _ ← plainTarget target
    .error (.withoutValue (Statement.delete target targets).kind)
  | s => .error (.notAssignment s.kind)

/-- The value of a statement; some statements may leave theirs out. -/
def Statement.value : Statement → Except Fault (Option Expr)
  | .assign _ _ value | .augmented _ _ value | .expression value => .ok (some value)
  | .annotated _ _ value | .return value => .ok value
  | s => .error (.withoutValue s.kind)

def assignmentBy (reader : ScriptReader) (source : Option String) :
    Except Fault (String × Expr) := do
  (← firstStatementBy reader source).assignment

def valueBy (reader : ScriptReader) (source : Option String) : Except Fault (Option Expr) := do
  (← firstStatementBy reader source).value

def assignment : Option String → Except Fault (String × Expr) := assignmentBy statementsOf

def value : Option String → Except Fault (Option Expr) := valueBy statementsOf

theorem firstStatement_some (source : String) :
    firstStatement (some source) = (do
      match ← statementsOf (prepared source.toList) with
      | [] => .error .emptyFormula
      | s :: _ => .ok s) :=
  rfl

theorem assignment_eq (source : Option String) :
    assignment source = (do (← firstStatement source).assignment) :=
  rfl

theorem value_eq (source : Option String) : value source = (do (← firstStatement source).value) :=
  rfl

end TaxFlow.Formula

import TaxFlow.Fault
import TaxFlow.Number.Reader

/-!
# Variables and constants

The declarations of a chart. Whatever a document leaves out is missing here too, except for the
defaults of variables of a known type.
-/
namespace TaxFlow.Chart

open TaxFlow.Number

structure Variable where
  name : Option String
  type : Option String
  default : Option String
  comment : Option String
  deriving DecidableEq, Repr

structure Constant where
  name : Option String
  type : Option String
  value : Option String
  comment : Option String
  deriving DecidableEq, Repr

def typeDefault (type : Option String) : Option String :=
  match type with
  | some "int" => some "0"
  | some "BigDecimal" => some "new BigDecimal(0)"
  | some "double" => some "0.0"
  | _ => none

/-- A number text with a point, cut to a whole number. -/
def wholeDefault (text : String) : Except Fault String :=
  match Binary64.ofText? text with
  | none => .error (.badNumber text)
  | some .nan => .error .notANumber
  | some x =>
    match x.truncate? with
    | some n => .ok (toString n)
    | none => .error .infiniteNumber

/-- The default of a variable: the one of its type if none is given, and a whole number for whole
variables. -/
def effectiveDefault (type default : Option String) : Except Fault (Option String) :=
  match default with
  | none => .ok (typeDefault type)
  | some text =>
    if text.isEmpty then .ok ((typeDefault type).or default)
    else if type = some "int" ∧ text.toList.contains '.' then (wholeDefault text).map some
    else .ok default

def Variable.declared (name type default comment : Option String) : Except Fault Variable := do
  .ok ⟨name, type, ← effectiveDefault type default, comment⟩

end TaxFlow.Chart

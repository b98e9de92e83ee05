import TaxFlow.Dialect.Basic
import TaxFlow.Fault
import TaxFlow.Formula.Expr

/-!
# Decimals of a support library

The functions of a support library that stand for the members of decimals, and the choice of a
constructor by the type of its argument.
-/
namespace TaxFlow.Dialect

open TaxFlow.Formula

inductive LibraryMember where
  /-- A function or value by itself. -/
  | alone (text : String)
  /-- A method of the value. -/
  | method (name : String)
  deriving DecidableEq, Repr

def libraryMembers : List (String × LibraryMember) :=
  [("valueOf", .alone "NewFromInt"), ("ZERO", .alone "NewFromInt(0)"),
    ("ONE", .alone "NewFromInt(1)"), ("TEN", .alone "NewFromInt(10)"),
    ("longValue", .method "IntPart"), ("add", .method "Add"),
    ("subtract", .method "Subtract"), ("multiply", .method "Multiply"),
    ("divide", .method "Divide"),
    ("compareTo", .method "CompareTo"), ("setScale", .method "SetScale"),
    ("ROUND_UP", .alone "ROUND_UP"), ("ROUND_DOWN", .alone "ROUND_DOWN")]

/-- The constructor for an argument. Literals and variables decide by their type, calls count as
whole numbers, and of an operation the left operand decides. -/
def constructorFor (types : TypeTable) : Expr → Except Fault String
  | .constant (.int _) | .constant (.negative _) => .ok "NewFromInt"
  | .constant _ => .ok "NewFromFloat"
  | .name id =>
    match types.lookup (some id) with
    | some "int64" => .ok "NewFromInt"
    | some "float64" => .ok "NewFromFloat"
    | type => .error (.untypedName id type)
  | .call .. => .ok "NewFromInt"
  | .binary _ left _ => constructorFor types left
  | e => .error (.unsupportedArgument e.kind)

/-- A call as it is written: its callee and how many of its arguments. -/
structure CallShape where
  callee : List String
  arity : Nat
  deriving DecidableEq, Repr

def withLast (callee : List String) (word : String) : List String := callee.dropLast ++ [word]

/-- The shape of a call. Roundings keep one argument and divisions two; `downward` tells whether a
rounding asks for the lower value. The first argument of a constructor decides which one it is. -/
def callShape (types : TypeTable) (callee : List String) (args : List Expr) (downward : Bool) :
    Except Fault CallShape :=
  match callee.getLast? with
  | none => .error .noLastWord
  | some last =>
    if last = "Round" ∧ 1 < args.length then
      .ok ⟨if downward then withLast callee "RoundCash" else callee, 1⟩
    else if last = "Div" ∧ 1 < args.length then .ok ⟨withLast callee "Divide", 2⟩
    else if last = "NewFromInt" then
      match args with
      | [] => .error .missingArgument
      | arg :: _ => do .ok ⟨withLast callee (← constructorFor types arg), args.length⟩
    else .ok ⟨callee, args.length⟩

end TaxFlow.Dialect

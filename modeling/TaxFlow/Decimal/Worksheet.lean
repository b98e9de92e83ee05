import TaxFlow.Decimal.Operand

/-!
# Worksheets

A sequence of operations on decimals. Each result is kept, so that later operations can refer to it;
a failed one leaves nothing.
-/
namespace TaxFlow

inductive Operation where
  | add | subtract | multiply | divide | setScale | compareTo | longValue | valueOf
  /-- A zero with so many places. -/
  | zeroWithPlaces
  | unknown (name : String)
  deriving DecidableEq, Repr

namespace Operation

def named : List (String × Operation) :=
  [("add", add), ("subtract", subtract), ("multiply", multiply), ("divide", divide),
    ("setScale", setScale), ("compareTo", compareTo), ("longValue", longValue),
    ("valueOf", valueOf),
    ("_mk_exp", zeroWithPlaces)]

def ofName (name : String) : Operation := (named.lookup name).getD (unknown name)

/-- The name under which an operation is reported. -/
def name : Operation → String
  | unknown name => name
  | op => ((named.find? fun entry => entry.2 = op).map Prod.fst).getD ""

def required : Operation → List String
  | add | subtract | multiply | divide | compareTo => ["other"]
  | setScale => ["scale", "rounding"]
  | valueOf => ["value"]
  | zeroWithPlaces => ["prec"]
  | longValue | unknown _ => []

def optional : Operation → List String
  | divide => ["scale", "rounding"]
  | _ => []

/-- How many operands an operation takes, the one it works on included. -/
def takesText (least most : Nat) : String :=
  if least = most then
    toString (most + 1) ++ " positional argument" ++ if most = 0 then "" else "s"
  else "from " ++ toString (least + 1) ++ " to " ++ toString (most + 1) ++ " positional arguments"

def checked (op : Operation) (args : List Operand) : Except DecimalFault Unit :=
  let least := op.required.length
  let most := least + op.optional.length
  if args.length < least then .error (.missingOperands op.name (op.required.drop args.length))
  else if most < args.length then
    .error (.surplusOperands op.name (takesText least most) (args.length + 1))
  else .ok ()

def ofDecimal (x : Except DecimalFault Decimal) : Except DecimalFault Operand := x.map .decimal

def apply (op : Operation) (x : Decimal) (args : List Operand) : Except DecimalFault Operand := do
  let first := args.getD 0 .missing
  let second := args.getD 1 .missing
  let third := args.getD 2 .missing
  match op with
  | unknown name => .error (.lacking "BigDecimal" name)
  | add => checked op args; ofDecimal (Decimal.withNumber "+" x.add first)
  | subtract => checked op args; ofDecimal (Decimal.withNumber "-" x.subtract first)
  | multiply => checked op args; ofDecimal (x.productWith first)
  | divide => checked op args; ofDecimal (x.quotientWith first second third)
  | setScale => checked op args; ofDecimal (x.rescaledTo first second)
  | compareTo => checked op args; ofDecimal (x.orderWith first)
  | longValue => checked op args; x.wholePart.map .integer
  | zeroWithPlaces => checked op args; ofDecimal (Decimal.zeroWithPlaces first)
  | valueOf => checked op args; ofDecimal (Decimal.ofOperand first)

end Operation

inductive DecimalConstant where
  | zero | one | ten | roundUp | roundDown
  deriving DecidableEq, Repr

def DecimalConstant.value : DecimalConstant → Operand
  | zero => .decimal (.ofInt 0)
  | one => .decimal (.ofInt 1)
  | ten => .decimal (.ofInt 10)
  | roundUp => .text "ROUND_UP"
  | roundDown => .text "ROUND_DOWN"

/-- An operand, or the result of an earlier entry. -/
inductive WorksheetArgument where
  | value (o : Operand)
  | result (entry : Nat)
  deriving DecidableEq, Repr

inductive WorksheetEntry where
  /-- A new decimal by its first argument, or zero without one. -/
  | new (args : List WorksheetArgument)
  | constant (k : DecimalConstant)
  | free (op : Operation) (args : List WorksheetArgument)
  /-- An operation on the result of an earlier entry. -/
  | on (entry : Nat) (op : Operation) (args : List WorksheetArgument)
  deriving DecidableEq, Repr

namespace Worksheet

def resultAt (results : List Operand) (entry : Nat) : Operand := results.getD entry .missing

def operandOf (results : List Operand) : WorksheetArgument → Operand
  | .value o => o
  | .result entry => resultAt results entry

def perform (results : List Operand) : WorksheetEntry → Except DecimalFault Operand
  | .new [] => .ok DecimalConstant.zero.value
  | .new (arg :: _) => Operation.ofDecimal (Decimal.ofOperand (operandOf results arg))
  | .constant k => .ok k.value
  | .free op args => op.apply (.ofInt 0) (args.map (operandOf results))
  | .on entry op args =>
    match resultAt results entry with
    | .decimal x => op.apply x (args.map (operandOf results))
    | o => .error (.lacking o.kind op.name)

/-- Carries out entries in order, given the results so far. -/
def run (results : List Operand) : List WorksheetEntry → List (Except DecimalFault Operand)
  | [] => []
  | entry :: entries =>
    let r := perform results entry
    r :: run (results ++ [r.toOption.getD .missing]) entries

end Worksheet
end TaxFlow

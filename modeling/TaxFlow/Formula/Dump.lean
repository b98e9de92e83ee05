import TaxFlow.Fault
import TaxFlow.Formula.Expr
import TaxFlow.Formula.Literal
import TaxFlow.Number.Shortest
import TaxFlow.Text.Quoted

/-!
# Formulas as nested text

Literals as text, and whole expressions with the kind of every element and its named parts.
-/
namespace TaxFlow.Formula

open TaxFlow.Number

/-- The decimal text of a whole number, if it is not too long. -/
def integerText (n : Nat) : Except Fault String :=
  if n < Nat.pow 10 maxIntegerDigits then .ok (toString n) else .error .integerTooLong

def Constant.plainText : Constant → Except Fault String
  | .int n => integerText n
  | .negative n => do .ok ("-" ++ (← integerText (n + 1)))
  | .float x => .ok (x.text Bool.true)
  | .imaginary x => .ok (x.text Bool.false ++ "j")
  | .complex x y =>
    let imaginary := y.text Bool.false
    .ok ("(" ++ x.text Bool.false ++ (if imaginary.startsWith "-" then "" else "+") ++
      imaginary ++ "j)")
  | .text s _ => .ok s
  | .bytes b => .ok (Text.quoteBytes b)
  | .true => .ok "True"
  | .false => .ok "False"
  | .none => .ok "None"
  | .ellipsis => .ok "Ellipsis"
  | .other s => s.elim (.error .integerTooLong) .ok

/-- The parts of a literal; texts are quoted. -/
def Constant.dump : Constant → Except Fault String
  | .text s marked =>
    .ok ("Constant(value=" ++ Text.quote s ++ (if marked then ", kind='u')" else ")"))
  | k => do .ok ("Constant(value=" ++ (← k.plainText) ++ ")")

/-- An element of the given kind with its parts. -/
def element (kind : String) (parts : List String) : String :=
  kind ++ "(" ++ ", ".intercalate parts ++ ")"

def listPart (name : String) (items : List String) : String :=
  name ++ "=[" ++ ", ".intercalate items ++ "]"

mutual

def Expr.dump : Expr → Except Fault String
  | .name id => .ok (element "Name" ["id=" ++ Text.quote id, "ctx=Load()"])
  | .constant k => k.dump
  | .member e name => do
    .ok (element "Attribute" ["value=" ++ (← e.dump), "attr=" ++ Text.quote name, "ctx=Load()"])
  | .subscript e i => do
    .ok (element "Subscript" ["value=" ++ (← e.dump), "slice=" ++ (← i.dump), "ctx=Load()"])
  | .call f args keywords => do
    .ok (element "Call" ["func=" ++ (← f.dump), listPart "args" (← dumpAll args),
      listPart "keywords" (← dumpKeywords keywords)])
  | .binary op a b => do
    .ok (element "BinOp" ["left=" ++ (← a.dump), "op=" ++ op.kind ++ "()", "right=" ++ (← b.dump)])
  | .unary op e => do .ok (element "UnaryOp" ["op=" ++ op.kind ++ "()", "operand=" ++ (← e.dump)])
  | .bool op es => do
    .ok (element "BoolOp" ["op=" ++ op.kind ++ "()", listPart "values" (← dumpAll es)])
  | .compare a op b more => do
    let left ← a.dump
    let right ← b.dump
    .ok (element "Compare" ["left=" ++ left,
      listPart "ops" ((op :: more.map Prod.fst).map fun op => op.kind ++ "()"),
      listPart "comparators" (right :: (← dumpLinks more))])
  | .incomplete a op => do
    .ok (element "Compare" ["left=" ++ (← a.dump),
      listPart "ops" (op.toList.map fun op => op.kind ++ "()"), listPart "comparators" []])
  | .list es => do .ok (element "List" [listPart "elts" (← dumpAll es), "ctx=Load()"])
  | .tuple es => do .ok (element "Tuple" [listPart "elts" (← dumpAll es), "ctx=Load()"])
  | .set es => do .ok (element "Set" [listPart "elts" (← dumpAll es)])
  | .dict es => do
    .ok (element "Dict" [listPart "keys" (← dumpKeys es), listPart "values" (← dumpValues es)])
  | .conditional t b e => do
    .ok (element "IfExp" ["test=" ++ (← t.dump), "body=" ++ (← b.dump), "orelse=" ++ (← e.dump)])
  | .starred e => do .ok (element "Starred" ["value=" ++ (← e.dump), "ctx=Load()"])
  | .slice lower upper step => do
    .ok (element "Slice" ((← dumpBound "lower" lower) ++ (← dumpBound "upper" upper) ++
      (← dumpBound "step" step)))
  | .other kind => .ok (element kind [])
  | .holder kind value => do .ok (element kind (← dumpBound "value" value))

def dumpAll : List Expr → Except Fault (List String)
  | [] => .ok []
  | e :: es => do
    let s ← e.dump
    .ok (s :: (← dumpAll es))

def dumpKeywords : List (Option String × Expr) → Except Fault (List String)
  | [] => .ok []
  | (name, e) :: ks => do
    let s ← e.dump
    let parts := (name.map fun n => "arg=" ++ Text.quote n).toList ++ ["value=" ++ s]
    .ok (element "keyword" parts :: (← dumpKeywords ks))

def dumpLinks : List (CompareOp × Expr) → Except Fault (List String)
  | [] => .ok []
  | (_, e) :: ls => do
    let s ← e.dump
    .ok (s :: (← dumpLinks ls))

def dumpKeys : List (Option Expr × Expr) → Except Fault (List String)
  | [] => .ok []
  | (key, _) :: es => do
    let s ← dumpKey key
    .ok (s :: (← dumpKeys es))

def dumpValues : List (Option Expr × Expr) → Except Fault (List String)
  | [] => .ok []
  | (_, e) :: es => do
    let s ← e.dump
    .ok (s :: (← dumpValues es))

def dumpKey : Option Expr → Except Fault String
  | none => .ok "None"
  | some e => e.dump

def dumpBound (name : String) : Option Expr → Except Fault (List String)
  | none => .ok []
  | some e => do .ok [name ++ "=" ++ (← e.dump)]

end

end TaxFlow.Formula

import TaxFlow.Dialect.Decimals
import TaxFlow.Formula.Dump

/-!
# Formulas in a dialect

The conversion of syntax trees to code: the words of an expression in a target language, in order.
Elements without a counterpart are faults, found from left to right.
-/
namespace TaxFlow.Dialect

open TaxFlow.Formula

def unsupported (kind : String) : Fault := .unsupportedElement ("<ast." ++ kind ++ ">")

def binaryWord (op : BinaryOp) : Except Fault String :=
  match op with
  | .add => .ok " + "
  | .sub => .ok " - "
  | .mul => .ok " * "
  | .div => .ok " / "
  | op => .error (unsupported op.kind)

def compareWord (op : CompareOp) : Except Fault String :=
  match op with
  | .lt => .ok " < "
  | .le => .ok " <= "
  | .gt => .ok " > "
  | .ge => .ok " >= "
  | .eq => .ok " == "
  | .notEq => .ok " != "
  | op => .error (unsupported op.kind)

/-- A minus is kept; every other sign counts as a plus. -/
def unaryWord : UnaryOp → String
  | .minus => "-"
  | _ => "+"

def boolWord (d : Dialect) : BoolOp → String
  | .and => " " ++ d.andWord ++ " "
  | .or => " " ++ d.orWord ++ " "

/-- A name: the decimal class, its constructor, a constant of the class, or a variable. -/
def nameWord (d : Dialect) (scope : Scope) (id : String) : String :=
  if id = "BigDecimal" then "BigDecimal"
  else if id = "BigDecimalConstructor" then d.constructor
  else if d.classConstants && scope.constants.contains (some id) then
    (scope.className.getD "None") ++ d.constantAccessor ++ id
  else d.ownerPart ++ id

def constantWord (k : Constant) : Except Fault String :=
  if k.isNumber then k.plainText else .error (unsupported "Constant")

/-- A member behind the words of its value. The last of these words decides how some members of the
decimal class are accessed, so that there has to be one. -/
def memberWords (d : Dialect) (value : List String) (name : String) : Except Fault (List String) :=
  match d.vocabulary with
  | .aliased aliases statics =>
    match aliases.lookup name with
    | some other => .ok (value ++ [d.constantAccessor, other])
    | none =>
      if statics.contains name then
        match value.getLast? with
        | some last =>
          .ok (value ++ [if last = "BigDecimal" then d.constantAccessor else d.accessor, name])
        | none => .error .noLastWord
      else .ok (value ++ [d.accessor, name])
  | _ => .ok (value ++ [d.accessor, name])

def subscriptWords (value index : List String) : List String := value ++ ["["] ++ index ++ ["]"]

mutual

/-- Converts an expression to code, word by word. A literal as index has no counterpart; of an index
with a field for a value, such as a member or a subscript, only that value counts. -/
def toCode (d : Dialect) (scope : Scope) : Expr → Except Fault (List String)
  | .name id => .ok [d.nameWord scope id]
  | .constant k => do .ok [← constantWord k]
  | .member e name =>
    match d.vocabulary with
    | .mapped =>
      match libraryMembers.lookup name with
      | some (.alone text) => .ok [text]
      | some (.method text) => do .ok ((← d.toCode scope e) ++ [d.accessor, text])
      | none => .error (.unmappedMember name)
    | _ => do d.memberWords (← d.toCode scope e) name
  | .subscript e (.constant k) => do
    let _ ← d.toCode scope e
    .error (.unsupportedElement (← k.plainText))
  | .subscript e (.member i _) => do .ok (subscriptWords (← d.toCode scope e) (← d.toCode scope i))
  | .subscript e (.subscript i _) => do
      .ok (subscriptWords (← d.toCode scope e) (← d.toCode scope i))
  | .subscript e (.starred i) => do .ok (subscriptWords (← d.toCode scope e) (← d.toCode scope i))
  | .subscript e (.holder _ (some i)) => do
      .ok (subscriptWords (← d.toCode scope e) (← d.toCode scope i))
  | .subscript e (.holder _ none) => do
    let _ ← d.toCode scope e
    .error (.unsupportedElement "None")
  | .subscript e i => do .ok (subscriptWords (← d.toCode scope e) (← d.toCode scope i))
  | .call f args _ => do
    let callee ← d.toCode scope f
    let shape ← match d.vocabulary with
      | .mapped => callShape scope.types callee args false
      | _ => .ok ⟨callee, args.length⟩
    let inner ← d.listWords scope shape.arity args
    .ok (shape.callee ++ ["("] ++ inner ++ [")"])
  | .binary op a b => do
    let left ← d.toCode scope a
    let word ← binaryWord op
    let right ← d.toCode scope b
    .ok (left ++ [word] ++ right)
  | .unary op e => do .ok (unaryWord op :: (← d.toCode scope e))
  | .bool op es => d.boolWords scope (d.boolWord op) es
  | .compare a op b _ => do
    let left ← d.toCode scope a
    let word ← compareWord op
    let right ← d.toCode scope b
    .ok (left ++ [word] ++ right)
  | .incomplete a op => do
    let _ ← d.toCode scope a
    let _ ← op.mapM compareWord
    .error .missingOperand
  | .list es => do
    let inner ← d.listWords scope es.length es
    .ok (d.listOpening ++ inner ++ [d.listClosing])
  | e => .error (unsupported e.kind)

def listWords (d : Dialect) (scope : Scope) : Nat → List Expr → Except Fault (List String)
  | 0, _ => .ok []
  | _, [] => .ok []
  | n + 1, e :: es => do
    let first ← d.toCode scope e
    if n = 0 || es.isEmpty then .ok first
    else do .ok (first ++ [", "] ++ (← d.listWords scope n es))

def boolWords (d : Dialect) (scope : Scope) (word : String) : List Expr → Except Fault (List String)
  | [] => .ok []
  | e :: es => do
    let first ← d.toCode scope e
    if es.isEmpty then .ok first else do .ok (first ++ [word] ++ (← d.boolWords scope word es))

end

/-- What is made of several expressions one by one, with a word between them. -/
def joinedBy (convert : Expr → Except Fault (List String)) (word : String) :
    List Expr → Except Fault (List String)
  | [] => .ok []
  | e :: es => do
    let first ← convert e
    if es.isEmpty then .ok first else do .ok (first ++ [word] ++ (← joinedBy convert word es))

def valueWords (d : Dialect) (scope : Scope) : Option Expr → Except Fault (List String)
  | some e => d.toCode scope e
  | none => .error (.unsupportedElement "None")

def render (d : Dialect) (scope : Scope) (e : Option Expr) : Except Fault String := do
  .ok (String.join (← d.valueWords scope e))

end TaxFlow.Dialect

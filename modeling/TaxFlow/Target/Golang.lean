import TaxFlow.Target.Body
import TaxFlow.Target.Support.Golang

/-!
# Go

A struct with the constants and variables, a function that makes one with its defaults, and setters,
getters and methods. The declared types are remembered, because constructors of decimals depend on
them.
-/
namespace TaxFlow

/-- Notes the type of a name; an earlier one is forgotten. -/
def TypeTable.note (types : TypeTable) (name : Option String) (type : String) : TypeTable :=
  (name, type) :: types.filter fun entry => entry.1 ≠ name

def entryBefore (a b : String × String) : Bool := a.1 < b.1 || (a.1 = b.1 && a.2 ≤ b.2)

def TypeTable.sorted (types : TypeTable) : List (String × String) :=
  (types.map fun (name, type) => (shown name, type)).mergeSort entryBefore

namespace CodeSettings

open TaxFlow.Chart

def golangTypes : List (String × String) :=
  [("BigDecimal.ZERO", "NewFromInt(0)"), ("BigDecimal[]", "[]BigDecimal"),
    ("BigDecimal", "BigDecimal"), ("int", "int64"), ("double", "float64")]

def golangType (type : Option String) : Except Fault String :=
  match type.bind fun type => golangTypes.lookup type with
  | some s => .ok s
  | none => .error (.unknownType type)

/-- A constant whose value is written as a formula. -/
def golangConstant (k : Constant) : Except Fault Constant := do
  .ok { k with value := ← constantFormula k }

/-- The constants with their values written as formulas, up to the first that cannot be declared. -/
def golangConstants : List Constant → List Constant
  | [] => []
  | k :: ks =>
    match golangConstant k with
    | .ok k' =>
      match golangType k.type with
      | .ok _ => k' :: golangConstants ks
      | .error _ => k' :: ks
    | .error _ => k :: ks

def golangConstantType (k : Constant) : Except Fault String := do
  let k ← golangConstant k
  golangType k.type

/-- Notes types in order, up to the first that is none. -/
def noteTypes (types : TypeTable) : List (Option String × Except Fault String) → TypeTable × Bool
  | [] => (types, true)
  | (name, .ok type) :: rest => noteTypes (types.note name type) rest
  | (_, .error _) :: _ => (types, false)

def golangTypesOf (types : TypeTable) (c : Chart) : TypeTable :=
  match noteTypes types (c.constants.map fun k => (k.name, golangConstantType k)) with
  | (types, false) => types
  | (types, true) =>
    match c.allVariables with
    | .ok (inputs, outputs, internals) =>
      (noteTypes types ((inputs ++ outputs ++ internals).map fun x =>
        (x.name, golangType x.type))).1
    | .error _ => types

def golangField (v : CodeSettings) (name comment : Option String) (type : Except Fault String) :
    List Outline :=
  v.declarationComment comment false ++
  Outline.given type fun type => [.text (shown name ++ " " ++ type)]

/-- The variables of a kind under their heading. -/
def golangFields (v : CodeSettings) (heading : String) (xs : List Variable) : List Outline :=
  [Outline.blank, .text ("// " ++ heading),
    .text "// ------------------------ Variables -------------------------"] ++
  xs.flatMap fun x => v.golangField x.name x.comment (golangType x.type)

def golangStruct (v : CodeSettings) (c : Chart) : List Outline :=
  .text "// ------------------------ Constants -------------------------" ::
  c.constants.flatMap (fun k => v.golangField k.name k.comment (golangConstantType k)) ++
  Outline.given c.allVariables fun (inputs, outputs, internals) =>
    v.golangFields "Input variables" inputs ++
    v.golangFields "Output variables" outputs ++
    v.golangFields "Internal variables" internals

def golangInitial (v : CodeSettings) (name comment : Option String) (value : Except Fault String) :
    List Outline :=
  v.declarationComment comment false ++
  Outline.given value fun s => [.text (shown name ++ ": " ++ s ++ ",")]

def golangDefault (v : CodeSettings) (x : Variable) : List Outline :=
  match x.default with
  | some s => v.golangInitial x.name x.comment (v.value (some s))
  | none => []

def golangInitials (v : CodeSettings) (c : Chart) : List Outline :=
  .text "// ------------------------ Constants -------------------------" ::
  c.constants.flatMap (fun k => v.golangInitial k.name k.comment (v.constantValue k)) ++
  [Outline.blank, .text "// ------------------------ Variables -------------------------"] ++
  Outline.given c.allVariables fun (inputs, outputs, internals) =>
    (inputs ++ outputs ++ internals).flatMap v.golangDefault

def golangHead (v : CodeSettings) (signature : String) : String :=
  "func (" ++ shown v.dialect.owner ++ " *" ++ v.className ++ ") " ++ signature

def golangSetter (v : CodeSettings) (x : Variable) : List Outline :=
  let signature := do
    let name ← capitalized x.name
    .ok ("Set" ++ name ++ "(value " ++ (← golangType x.type) ++ ")")
  .blank :: Outline.given signature fun s =>
    [.block (.setter x.name) (v.golangHead s)
      [.text (shown v.dialect.owner ++ "." ++ shown x.name ++ " = value")]]

def golangGetter (v : CodeSettings) (x : Variable) : List Outline :=
  let signature := do
    let name ← capitalized x.name
    .ok ("Get" ++ name ++ "() " ++ (← golangType x.type))
  .blank :: Outline.given signature fun s =>
    [.block (.getter x.name) (v.golangHead s)
      [.text ("return " ++ shown v.dialect.owner ++ "." ++ shown x.name)]]

def golangMethod (v : CodeSettings) (m : Method) : List Outline :=
  .blank :: v.methodComment m.comment ++
    [Outline.block (.method m.name) (v.golangHead (shown m.name ++ "()")) (v.body m.body)]

def golangFile (v : CodeSettings) (package : Option String) (c : Chart) : List Outline :=
  let package := package.getD ""
  v.comment "This file is automatically generated by LstGen2, do not edit!" false ++
  [Outline.text ("package " ++ if package.isEmpty then "tax" else package), .blank,
    .text Support.golang, .blank,
    .block .plain ("type " ++ v.className ++ " struct") (v.golangStruct c),
    .block .plain ("func New" ++ v.className ++ "() *" ++ v.className)
      [.block .plain ("return &" ++ v.className) (v.golangInitials c)]] ++
  Outline.given c.inputs (fun xs => xs.flatMap v.golangSetter) ++
  Outline.given c.outputs (fun xs => xs.flatMap v.golangGetter) ++
  v.golangMethod c.main ++
  c.methods.flatMap v.golangMethod ++
  [Outline.blank]

end CodeSettings
end TaxFlow

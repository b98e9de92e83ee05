import TaxFlow.Target.Body

/-!
# JavaScript

A constructor function that takes inputs by name, constants as its properties, and setters, getters
and methods in its prototype.
-/
namespace TaxFlow.CodeSettings

open TaxFlow.Chart

/-- The default of a variable, or null if it has none. -/
def javascriptDefault (v : CodeSettings) (x : Variable) : Except Fault String :=
  match x.default with
  | some s => if s.isEmpty then .ok "null" else v.value (some (Formula.removeSizeLiterals s))
  | none => .ok "null"

/-- The default of a variable; an input may be given by name. -/
def javascriptVariable (v : CodeSettings) (isInput : Bool) (x : Variable) : List Outline :=
  v.declarationComment x.comment false ++
  Outline.given (v.javascriptDefault x) fun s =>
    .text ("this." ++ shown x.name ++ " = " ++ s ++ ";") ::
      if isInput then
        [.block .branch ("if (params[\"" ++ shown x.name ++ "\"] !== undefined)")
          (Outline.given (capitalized x.name) fun name =>
            [.text ("this.set" ++ name ++ "(params[\"" ++ shown x.name ++ "\"]);")])]
      else []

def javascriptVariables (v : CodeSettings) (heading : String) (isInput : Bool)
    (xs : List Variable) :
    List Outline :=
  .blank :: .text ("/* " ++ heading ++ " */") :: xs.flatMap (v.javascriptVariable isInput)

def javascriptConstant (v : CodeSettings) (k : Constant) : List Outline :=
  v.declarationComment k.comment false ++
  Outline.given (v.constantValue k) fun s =>
    [.text ("Object.defineProperty(" ++ v.className ++ ", '" ++ shown k.name ++
      "', \x7bvalue: " ++ s ++
      "\x7d);")]

def prototypeBlock (v : CodeSettings) (purpose : Purpose) (name parameters : String)
    (body : List Outline) :
    Outline :=
  .block purpose (v.className ++ ".prototype." ++ name ++ " = function(" ++ parameters ++ ")") body

def javascriptSetter (v : CodeSettings) (x : Variable) : List Outline :=
  .blank :: Outline.given (capitalized x.name) fun name =>
    [v.prototypeBlock (.setter x.name) ("set" ++ name) "value"
      [.text ("this." ++ shown x.name ++ " = value;")]]

def javascriptGetter (v : CodeSettings) (x : Variable) : List Outline :=
  .blank :: Outline.given (capitalized x.name) fun name =>
    [v.prototypeBlock (.getter x.name) ("get" ++ name) ""
      [.text ("return this." ++ shown x.name ++ ";")]]

def javascriptMethod (v : CodeSettings) (m : Method) : List Outline :=
  .blank :: v.methodComment m.comment ++
    [v.prototypeBlock (.method m.name) (shown m.name) "" (v.body m.body)]

def javascriptFile (v : CodeSettings) (c : Chart) : List Outline :=
  [Outline.text
    ("// the generated code requires a big decimal implementation, you can for example use " ++
      "`npm install bigdecimal`"),
    .text "// const big = require('../node_modules/bigdecimal')",
    .text "// const BigDecimal = big.BigDecimal;",
    .block .plain ("function " ++ v.className ++ "(params)")
      (Outline.given c.allVariables fun (inputs, outputs, internals) =>
        v.javascriptVariables "Input variables" true inputs ++
        v.javascriptVariables "Output variables" false outputs ++
        v.javascriptVariables "Internal variables" false internals),
    .blank, .text "/* Constants */"] ++
  c.constants.flatMap v.javascriptConstant ++
  Outline.given c.inputs (fun xs => xs.flatMap v.javascriptSetter) ++
  Outline.given c.outputs (fun xs => xs.flatMap v.javascriptGetter) ++
  v.javascriptMethod c.main ++
  c.methods.flatMap v.javascriptMethod ++
  [Outline.text ("module.exports = " ++ v.className ++ ";")]

end TaxFlow.CodeSettings

import TaxFlow.Target.Body
import TaxFlow.Target.Support.Python

/-!
# Python

A class with its constants, a constructor that takes inputs by name, setters, getters and methods.
-/
namespace TaxFlow.CodeSettings

open TaxFlow.Chart

def pythonConstant (v : CodeSettings) (k : Constant) : List Outline :=
  Outline.given (v.constantValue k) fun s =>
    .text (shown k.name ++ " = " ++ s) ::
      match k.comment with
      | some text => v.comment text false ++ [.blank]
      | none => []

/-- The default of a variable; an input may be given by name. -/
def pythonVariable (v : CodeSettings) (isInput : Bool) (x : Variable) : List Outline :=
  v.declarationComment x.comment true ++
  Outline.given (v.value x.default) fun s =>
    .text ("self." ++ shown x.name ++ " = " ++ s) ::
      if isInput then
        [.block .branch ("if \"" ++ shown x.name ++ "\" in kwargs")
          (Outline.given (capitalized x.name) fun name =>
            [.text ("self.set" ++ name ++ "(kwargs[\"" ++ shown x.name ++ "\"])")])]
      else []

def pythonVariables (v : CodeSettings) (heading : String) (isInput : Bool) (xs : List Variable) :
    List Outline :=
  .text ("# " ++ heading) :: xs.flatMap (v.pythonVariable isInput) ++ [Outline.blank]

def pythonConstructor (v : CodeSettings) (c : Chart) : List Outline :=
  Outline.given c.allVariables fun (inputs, outputs, internals) =>
    v.pythonVariables "input variables" true inputs ++
    v.pythonVariables "output variables" false outputs ++
    v.pythonVariables "internal variables" false internals

def pythonSetter (x : Variable) : List Outline :=
  .blank :: Outline.given (capitalized x.name) fun name =>
    [.block (.setter x.name) ("def set" ++ name ++ "(self, value)")
      [.text ("self." ++ shown x.name ++ " = " ++
        if x.type = some "BigDecimal" then "BigDecimal(value)" else "value")]]

def pythonGetter (x : Variable) : List Outline :=
  .blank :: Outline.given (capitalized x.name) fun name =>
    [.block (.getter x.name) ("def get" ++ name ++ "(self)")
      [.text ("return self." ++ shown x.name)]]

def pythonMethod (v : CodeSettings) (m : Method) : List Outline :=
  [.blank, .block (.method m.name) ("def " ++ shown m.name ++ "(self)")
    (v.methodComment m.comment ++ v.body m.body)]

def pythonFile (v : CodeSettings) (c : Chart) : List Outline :=
  [.text "# coding: utf-8", .blank, .text Support.python, .blank,
    .block .plain ("class " ++ v.className)
      (c.constants.flatMap v.pythonConstant ++
      [Outline.blank, .block .plain "def __init__(self, **kwargs)" (v.pythonConstructor c)] ++
      Outline.given c.inputs (fun xs => xs.flatMap pythonSetter) ++
      Outline.given c.outputs (fun xs => xs.flatMap pythonGetter) ++
      v.pythonMethod c.main ++
      c.methods.flatMap v.pythonMethod)]

end TaxFlow.CodeSettings

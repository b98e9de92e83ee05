import TaxFlow.Target.Body
import TaxFlow.Target.Support.Php

/-!
# PHP

A class with private variables, an initializer, getters, setters and methods. Constants are set by
the initializer like variables.
-/
namespace TaxFlow.CodeSettings

open TaxFlow.Chart

/-- The formula of the default of a variable that may have none. -/
def phpDefault (x : Variable) : String :=
  match x.default with
  | some s => if s.isEmpty then fallback else s
  | none => fallback
where
  fallback := if x.type = some "BigDecimal" then "BigDecimal.valueOf(0)" else "0"

def phpVariable (v : CodeSettings) (x : Variable) : List Outline :=
  v.declarationComment x.comment true ++ [Outline.text ("private $" ++ shown x.name ++ ";")]

def phpVariables (v : CodeSettings) (heading : String) (xs : Except Fault (List Variable)) :
    List Outline :=
  v.comment heading false ++ Outline.given xs fun xs => xs.flatMap v.phpVariable

/-- A value given to a variable or constant. -/
def phpInitial (name : Option String) (value : Except Fault String) : List Outline :=
  Outline.given value fun s => [.text ("$this->" ++ shown name ++ " = " ++ s ++ ";")]

def phpInitials (v : CodeSettings) (heading : String) (xs : List Variable) : List Outline :=
  .text ("// " ++ heading) :: xs.flatMap (fun x => phpInitial x.name (v.value (phpDefault x))) ++
    [Outline.blank]

def phpInitializer (v : CodeSettings) (c : Chart) : List Outline :=
  Outline.given c.allVariables fun (inputs, outputs, internals) =>
    v.phpInitials "Initialize internal variables" internals ++
    v.phpInitials "Initialize input variables" inputs ++
    v.phpInitials "Initialize output variables" outputs ++
    .text "// Initialize \"constants\"" ::
    c.constants.flatMap fun k => phpInitial k.name (v.constantValue k)

def phpGetter (x : Variable) : List Outline :=
  .blank :: Outline.given (capitalized x.name) fun name =>
    [.block (.getter x.name) ("public function get" ++ name ++ "()")
      [.text ("return $this->" ++ shown x.name ++ ";")]]

def phpSetter (x : Variable) : List Outline :=
  .blank :: Outline.given (capitalized x.name) fun name =>
    [.block (.setter x.name) ("public function set" ++ name ++ "($value)")
      [.text ("$this->" ++ shown x.name ++ " = " ++
        (if x.type = some "BigDecimal" then "BigDecimal::valueOf($value)" else "$value") ++ ";")]]

def phpMethod (v : CodeSettings) (visibility : String) (m : Method) : List Outline :=
  .blank :: v.methodComment m.comment ++
    [Outline.block (.method m.name) (visibility ++ " function " ++ shown m.name ++ "()")
      (v.body m.body)]

/-- The whole file; the class may be in a namespace. -/
def phpFile (v : CodeSettings) (namespaceName : Option String) (c : Chart) : List Outline :=
  let space := namespaceName.getD ""
  [Outline.text "<?php", .blank] ++
  (if space.isEmpty then [] else [Outline.text ("namespace " ++ space ++ ";"), .blank]) ++
  [Outline.blank, .text Support.php, .blank,
    .block .plain ("class " ++ v.className)
      (v.phpVariables "Internal variables" c.internals ++ [Outline.blank] ++
      v.phpVariables "Input variables" c.inputs ++ [Outline.blank] ++
      v.phpVariables "Output variables" c.outputs ++
      [Outline.blank, .block .plain "public function __construct()" [.text "$this->initialize();"],
        .blank, .block .plain "protected function initialize()" (v.phpInitializer c)] ++
      Outline.given c.outputs (fun xs => xs.flatMap phpGetter) ++
      Outline.given c.inputs (fun xs => xs.flatMap phpSetter) ++
      v.phpMethod "public" c.main ++
      c.methods.flatMap (v.phpMethod "protected"))]

end TaxFlow.CodeSettings

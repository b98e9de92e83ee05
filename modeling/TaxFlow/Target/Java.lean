import TaxFlow.Target.Body

/-!
# Java

A class with its constants, variables, setters, getters and methods.
-/
namespace TaxFlow.CodeSettings

open TaxFlow.Chart

/-- The value of a constant; the brackets around a list become braces again. -/
def javaConstantValue (v : CodeSettings) (k : Constant) : Except Fault String := do
  let isList ← isListType k.type
  let s ← v.constantValue k
  .ok (if isList then "\x7b" ++ inner s ++ "\x7d" else s)

def javaConstant (v : CodeSettings) (k : Constant) : List Outline :=
  v.declarationComment k.comment false ++
  Outline.given (v.javaConstantValue k) fun s =>
    [.text ("protected final static " ++ shown k.type ++ " " ++ shown k.name ++ " = " ++ s ++ ";")]

def javaVariable (v : CodeSettings) (x : Variable) : List Outline :=
  v.declarationComment x.comment false ++
  [Outline.text ("protected " ++ shown x.type ++ " " ++ shown x.name ++ " = " ++
    shown x.default ++ ";")]

def javaVariables (v : CodeSettings) (heading : String) (xs : List Variable) : List Outline :=
  .blank :: .text ("/* " ++ heading ++ " */") :: xs.flatMap v.javaVariable

def javaSetter (x : Variable) : List Outline :=
  .blank :: Outline.given (capitalized x.name) fun name =>
    [.block (.setter x.name) ("public void set" ++ name ++ "(" ++ shown x.type ++ " value)")
      [.text ("this." ++ shown x.name ++ " = value;")]]

def javaGetter (x : Variable) : List Outline :=
  .blank :: Outline.given (capitalized x.name) fun name =>
    [.block (.getter x.name) ("public " ++ shown x.type ++ " get" ++ name ++ "()")
      [.text ("return this." ++ shown x.name ++ ";")]]

def javaMethod (v : CodeSettings) (visibility : String) (m : Method) : List Outline :=
  .blank :: v.methodComment m.comment ++
    [Outline.block (.method m.name) (visibility ++ " void " ++ shown m.name ++ "()")
      (v.body m.body)]

/-- The whole file; the class may be in a package. -/
def javaFile (v : CodeSettings) (package : Option String) (c : Chart) : List Outline :=
  let package := package.getD ""
  (if package.isEmpty then [] else [Outline.text ("package " ++ package ++ ";"), .blank]) ++
  [Outline.text "import java.math.BigDecimal;", .blank,
    .block .plain ("public class " ++ v.className)
      (.text "/* Constants */" ::
      c.constants.flatMap v.javaConstant ++
      Outline.given c.allVariables (fun (inputs, outputs, internals) =>
        v.javaVariables "Input variables" inputs ++
        v.javaVariables "Output variables" outputs ++
        v.javaVariables "Internal variables" internals) ++
      Outline.given c.inputs (fun xs => xs.flatMap javaSetter) ++
      Outline.given c.outputs (fun xs => xs.flatMap javaGetter) ++
      v.javaMethod "public" c.main ++
      c.methods.flatMap (v.javaMethod "protected")),
    .blank]

end TaxFlow.CodeSettings

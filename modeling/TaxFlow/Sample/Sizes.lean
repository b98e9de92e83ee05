import TaxFlow.CommandLine.Run
import TaxFlow.Sample.Document

/-!
# Sizes of generated code

How long the code for the sample is in each language, under several settings.
-/
namespace TaxFlow.Sample

def code (target : Target) (s : Settings) (c : Chart) : Except Fault String :=
  match (Generator.new target s c).generate c with
  | (g, none) => .ok g.page.text
  | (_, some fault) => .error fault

def codeSize (target : Target) (s : Settings) (methods : Nat) : Except Fault Nat := do
  .ok (← code target s (← chart methods)).length

def settingsFor : Target → Settings
  | .php => { className := some "Bench", namespaceName := some "Lohn" }
  | _ => { className := some "Bench", package := some "tax" }

def languages : List (String × Target) :=
  [("php", .php), ("python", .python), ("golang", .golang), ("java", .java),
    ("javascript", .javascript)]

def codeSizes (methods : Nat) : Except Fault (List (String × Nat)) :=
  languages.mapM fun (name, target) => do .ok (name, ← codeSize target (settingsFor target) methods)

/-- The sample with further outputs that have no default. -/
def withBareOutputs (c : Chart) : Chart :=
  { c with outputs := c.outputs.map fun xs =>
    xs ++ [⟨some "RATE", some "BigDecimal", none, none⟩, ⟨some "DAY", some "int", none, none⟩] }

/-- The sizes of the sample with and without bare outputs in a namespace, taken together. -/
def phpSize (methods : Nat) : Except Fault Nat := do
  let s : Settings := { className := some "Bench", namespaceName := some "Bench" }
  let c ← chart methods
  .ok ((← code .php s c).length + (← code .php s (withBareOutputs c)).length)

def pythonSize (methods : Nat) : Except Fault Nat := codeSize .python (settingsFor .python) methods

def javaSize (methods : Nat) : Except Fault Nat :=
  codeSize .java { className := some "Bench", package := some "de.example" } methods

def javascriptSize (methods : Nat) : Except Fault Nat :=
  codeSize .javascript { className := some "Bench", indent := some "  " } methods

def golangSize (methods : Nat) : Except Fault Nat :=
  codeSize .golang { className := some "Bench", indent := some "\t", package := some "tax" } methods

/-- The arguments that write the code in a language from one file to another. -/
def arguments (language : String) : List String :=
  ["-l", language, "-x", "sample.xml", "--outfile", "sample.out", "--class-name", "Bench",
    "--java-package-name", "de.example", "--go-package-name", "tax", "--php-ns", "Lohn"]

/-- A folder with the sample and nothing else. -/
def surroundings (methods : Nat) : CommandLine.Surroundings :=
  { folder := [(["sample.xml"], (document methods).toUTF8)]
    network := .content ByteArray.empty }

/-- The bytes of the file that the command line leaves for a language. -/
def fileSize (methods : Nat) (language : String) : Nat :=
  let outcome := CommandLine.run (arguments language) (surroundings methods)
  match outcome.folder.read? "sample.out" with
  | some bytes => bytes.size
  | none => 0

def fileSizes (methods : Nat) : List Nat :=
  ["python", "php", "java", "javascript", "golang"].map (fileSize methods)

def defaults : Except Fault (List ((String × Option String) × Option String)) :=
  [("int", some "3.0"), ("double", none), ("BigDecimal", none), ("int", none)].mapM
    fun (type, given) => do .ok ((type, given), ← Chart.effectiveDefault (some type) given)

end TaxFlow.Sample

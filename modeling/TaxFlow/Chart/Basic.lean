import TaxFlow.Chart.Repair
import TaxFlow.Chart.Step
import TaxFlow.Chart.Variable
import TaxFlow.Markup.Document

/-!
# Flow charts

A wage-tax flow chart: the declared variables and constants, the main method and the further ones. A
list of variables with a bad default is a fault of its own; it does not keep the rest from being
read.
-/
namespace TaxFlow

open TaxFlow.Markup

structure Method where
  comment : Option String
  name : Option String
  body : List Chart.Step
  deriving Repr

structure Chart where
  name : Option String
  main : Method
  methods : List Method
  inputs : Except Fault (List Chart.Variable)
  outputs : Except Fault (List Chart.Variable)
  internals : Except Fault (List Chart.Variable)
  constants : List Chart.Constant

namespace Chart

/-- The children of a name, each with the comment in front of it. -/
def named (base : String) (parent : Node) : List (Option String × Node) :=
  (withComments none parent.children).filter fun (_, n) => n.isNamed base

/-- The elements at the end of a path of names below the root, in document order. -/
def atPath (root : Node) : List String → List (Option String × Node)
  | [] => []
  | [base] => named base root
  | base :: path => (named base root).flatMap fun (_, n) => atPath n path

def below (root : Node) (path : List String) : List (Option String × Node) :=
  if root.isNamed "PAP" then atPath root path else []

def variableOf (entry : Option String × Node) : Except Fault Variable :=
  let (comment, n) := entry
  Variable.declared (n.attribute? "name") (n.attribute? "type") (n.attribute? "default") comment

def constantOf (entry : Option String × Node) : Constant :=
  let (comment, n) := entry
  ⟨n.attribute? "name", n.attribute? "type", n.attribute? "value", comment⟩

def methodOf (entry : Option String × Node) : Method :=
  let (comment, n) := entry
  ⟨comment, n.attribute? "name", stepsOf none n.children⟩

def variablesAt (root : Node) (group kind : String) : Except Fault (List Variable) :=
  (below root ["VARIABLES", group, kind]).mapM variableOf

/-- The chart of a document tree. The main method is always called the same. -/
def ofNode (root : Node) : Except Fault Chart :=
  let root := repairTree root
  match below root ["METHODS", "MAIN"] with
  | [] => .error .noMain
  | main :: _ =>
    .ok
      { name := root.attribute? "name"
        main := { methodOf main with name := some "MAIN" }
        methods := (below root ["METHODS", "METHOD"]).map methodOf
        inputs := variablesAt root "INPUTS" "INPUT"
        outputs := variablesAt root "OUTPUTS" "OUTPUT"
        internals := variablesAt root "INTERNALS" "INTERNAL"
        constants := (below root ["CONSTANTS", "CONSTANT"]).map constantOf }

/-- The chart of a document, given how documents are read. -/
def readBy (reader : Source → Except Fault Node) (source : Source) : Except Fault Chart := do
  ofNode (← reader source)

def read (source : Source) : Except Fault Chart := readBy Markup.read source

/-- All variables by their kinds: inputs, outputs and internals. -/
def allVariables (c : Chart) : Except Fault (List Variable × List Variable × List Variable) := do
  .ok (← c.inputs, ← c.outputs, ← c.internals)

def constantNames (c : Chart) : List (Option String) := c.constants.map Constant.name

def nameBefore : Option String → Option String → Bool
  | none, _ => true
  | some _, none => false
  | some a, some b => a ≤ b

/-- The names of the constants in order, each once. -/
def sortedConstantNames (c : Chart) : List (Option String) :=
  (c.constantNames.eraseDups).mergeSort nameBefore

end Chart
end TaxFlow

import TaxFlow.Release
import TaxFlow.Sample.Document

/-!
# Surveys

What is found in a chart and among the releases, item by item.
-/
namespace TaxFlow.Sample

inductive Finding where
  | text (content : Option String)
  | count (number : Nat)
  | declared (v : Chart.Variable)
  | fixed (k : Chart.Constant)
  deriving DecidableEq, Repr

/-- The name of a chart, how much it holds of each kind, and its declarations. -/
def surveyOf (c : Chart) : Except Fault (List Finding) := do
  let inputs ← c.inputs
  let outputs ← c.outputs
  let internals ← c.internals
  .ok ([Finding.text c.name, .count inputs.length, .count outputs.length, .count internals.length,
      .count c.constants.length, .count c.sortedConstantNames.length, .count c.methods.length,
      .text c.main.name] ++
    (inputs ++ outputs ++ internals).map Finding.declared ++ c.constants.map Finding.fixed)

/-- The names under which neither a document nor a service is found, once for each. -/
def refusals (names : List String) : List Finding :=
  names.flatMap fun name =>
    match Release.named (some name) with
    | .error (.unknownRelease name) => [.text name, .text name]
    | _ => []

def survey (methods : Nat) : Except Fault (List Finding) := do
  let findings ← surveyOf (← chart methods)
  .ok (findings ++ findings ++ findings ++ refusals ["nope_a", "nope_b"] ++
    [Finding.count Release.all.length])

end TaxFlow.Sample

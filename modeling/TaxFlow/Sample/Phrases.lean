import TaxFlow.Dialect.Render
import TaxFlow.Formula.Basic

/-!
# Sample formulas

Formulas of every shape in the common spelling, and calls whose form depends on their arguments.
-/
namespace TaxFlow.Sample

open TaxFlow.Formula

def scope : Scope :=
  { className := some "Bench"
    constants := [some "TAB1", some "ZAHL1"] }

def formulas : List String :=
  ["A + B - C * D / E", "A.b.c", "foo(A, B, C)", "TAB1[K]", "[1, 2, 3]", "-A", "A == B", "A != B",
    "A < B", "A <= B", "A > B", "A >= B", "A && B || C", "BigDecimal", "new BigDecimal", "ZAHL1"]

/-- A formula in the common spelling. An element without counterpart is only named as such. -/
def phrase (formula : String) : Except Fault String :=
  match Formula.value (some formula) >>= Dialect.common.render scope with
  | .error (.unsupportedElement _) => .ok "unknown-node"
  | result => result

/-- So many formulas, over and over again, and one that has no counterpart. -/
def phrases (count : Nat) : Except Fault (List String) :=
  ((List.range count).map (fun i => formulas.getD (i % formulas.length) "") ++
    ["A if B else C"]).mapM
    phrase

def constructorWord (arg : Expr) : Except Fault String :=
  match Dialect.constructorFor [] arg with
  | .error (.untypedName ..) => .ok "badname"
  | .error (.unsupportedArgument _) => .ok "weird"
  | result => result

def callPhrase (callee : String) (args : List Int) : Except Fault String := do
  let args := args.map fun n => Expr.constant (.int n.toNat)
  let shape ← Dialect.callShape [] [callee] args true
  let words ← Dialect.golang.listWords scope shape.arity args
  .ok (String.join (shape.callee ++ ["("] ++ words ++ [")"]))

def memberPhrase (name : String) : Except Fault String :=
  match Dialect.golang.render scope (some (.member (.name "A") name)) with
  | .error (.unmappedMember _) => .ok "unmapped"
  | result => result

/-- What depends on the support library: members, constructors, and calls of which some arguments
are dropped. -/
def libraryPhrases : Except Fault (List String) := do
  .ok [← memberPhrase "missing", ← constructorWord (.name "A"),
    ← constructorWord (.constant (.int 1)), ← constructorWord
    (.constant (.float (.finite false 3 (-1)))), ← constructorWord (.list []),
    ← callPhrase "Round" [2, 9], ← callPhrase "Div" [1, 2, 3]]

end TaxFlow.Sample

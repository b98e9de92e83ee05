import TaxFlow.Target.Generator

/-!
# Sessions

Several generators that share one chart. Each has a place of its own; what one of them leaves behind
in the chart the others find there.
-/
namespace TaxFlow

inductive VariableKind where
  | input | output | internal
  deriving DecidableEq, Repr

namespace Chart

def variablesOf (c : Chart) : VariableKind → Except Fault (List Variable)
  | .input => c.inputs
  | .output => c.outputs
  | .internal => c.internals

def withVariables (c : Chart) (xs : List Variable) : VariableKind → Chart
  | .input => { c with inputs := .ok xs }
  | .output => { c with outputs := .ok xs }
  | .internal => { c with internals := .ok xs }

/-- A position in a list; a negative one counts from the end. -/
def position? (length : Nat) (index : Int) : Option Nat :=
  let i := if index < 0 then index + length else index
  if 0 ≤ i ∧ i < length then some i.toNat else none

/-- Gives a variable another default. -/
def setDefault (c : Chart) (kind : VariableKind) (index : Int) (value : Option String) :
    Except Fault (Chart × Variable) := do
  let xs ← c.variablesOf kind
  match (position? xs.length index).bind fun i => xs[i]?.map fun x => (i, x) with
  | some (i, x) =>
    let x := { x with default := value }
    .ok (c.withVariables (xs.set i x) kind, x)
  | none => .error .noSuchVariable

end Chart

structure Session where
  chart : Chart
  generators : List (Nat × Generator) := []

inductive SessionStep where
  /-- A new generator; its owner and the types it knows may be given. -/
  | new (slot : Nat) (target : Target) (settings : Settings) (owner : Option (Option String))
      (types : Option TypeTable)
  | generate (slot : Nat)
  | convert (slot : Nat) (usage : Generator.Usage) (source : Option String)
  | comment (slot : Nat) (text : Option String) (simple : Bool)
  | constants
  | setDefault (kind : VariableKind) (index : Int) (value : Option String)

inductive SessionResult where
  | className (name : Option String)
  | written (text : String) (level : Int) (fault : Option Fault) (types : Option TypeTable)
  | converted (words : Except Fault (List String))
  | noted (text : String) (fault : Option Fault)
  | constants (cs : List Chart.Constant)
  | declared (x : Except Fault Chart.Variable)
  /-- There is no generator in this place. -/
  | nothing

namespace Session

def find? (s : Session) (slot : Nat) : Option Generator := s.generators.lookup slot

def keep (s : Session) (slot : Nat) (g : Generator) : Session :=
  { s with generators := (slot, g) :: s.generators.filter fun entry => entry.1 ≠ slot }

/-- Takes what has been written from the page of a generator. -/
def taken (g : Generator) : String × Generator := (g.page.text, { g with page := g.page.cleared })

def act (s : Session) : SessionStep → Session × SessionResult
  | .new slot target settings owner types =>
    let g := Generator.new target settings s.chart
    let g := { g with owner := owner.getD g.owner, types := types.getD g.types }
    (s.keep slot g, .className g.className)
  | .generate slot =>
    match s.find? slot with
    | none => (s, .nothing)
    | some g =>
      let (after, fault) := g.generate s.chart
      let (text, after) := taken after
      ({ s with chart := g.leaves s.chart }.keep slot after,
        .written text after.page.level fault
          (if g.target = .golang then some after.types else none))
  | .convert slot usage source =>
    match s.find? slot with
    | none => (s, .nothing)
    | some g => (s, .converted (g.convert s.chart usage source))
  | .comment slot text simple =>
    match s.find? slot with
    | none => (s, .nothing)
    | some g =>
      let (after, fault) := g.put (g.comment s.chart text simple)
      let (text, after) := taken after
      (s.keep slot after, .noted text fault)
  | .constants => (s, .constants s.chart.constants)
  | .setDefault kind index value =>
    match s.chart.setDefault kind index value with
    | .ok (chart, x) => ({ s with chart }, .declared (.ok x))
    | .error fault => (s, .declared (.error fault))

def run (s : Session) : List SessionStep → List SessionResult
  | [] => []
  | step :: steps =>
    let (s, result) := s.act step
    result :: run s steps

end Session
end TaxFlow

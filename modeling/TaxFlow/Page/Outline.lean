import TaxFlow.Page.Basic

/-!
# Outlines

The lines and blocks of a generated text, before they are indented. An outline that cannot be
completed ends in a fault: whatever stands before it is still written.
-/
namespace TaxFlow

/-- What a line or a block is for. -/
inductive Purpose where
  | plain
  /-- A comment of the chart. -/
  | comment
  /-- A value is assigned. -/
  | assignment
  /-- A method is called. -/
  | call
  /-- A condition is tested. -/
  | branch
  /-- The condition was not met. -/
  | otherwise
  /-- Nothing is done. -/
  | filler
  | setter (name : Option String)
  | getter (name : Option String)
  | method (name : Option String)
  deriving DecidableEq, Repr

inductive Outline where
  | line (purpose : Purpose) (text : String)
  /-- A line one level further out. -/
  | outdented (purpose : Purpose) (text : String)
  | block (purpose : Purpose) (head : String) (body : List Outline)
  | halt (fault : Fault)
  deriving Repr

namespace Outline

def blank : Outline := line .plain ""

def text (s : String) : Outline := line .plain s

/-- The outlines that depend on a value, or its fault. -/
def given {α : Type} (x : Except Fault α) (f : α → List Outline) : List Outline :=
  match x with
  | .ok a => f a
  | .error fault => [halt fault]

end Outline

namespace Page

mutual

def put (p : Page) : Outline → Page × Option Fault
  | .line _ text => (p.line text, none)
  | .outdented _ text => ((p.lower.line text).raise, none)
  | .block _ head body =>
    match (p.enter head).putAll body with
    | (p, some fault) => (p, some fault)
    | (p, none) => (p.leave, none)
  | .halt fault => (p, some fault)

/-- Writes outlines one after the other, up to the first fault. -/
def putAll (p : Page) : List Outline → Page × Option Fault
  | [] => (p, none)
  | o :: os =>
    match p.put o with
    | (p, some fault) => (p, some fault)
    | (p, none) => p.putAll os

end

end Page
end TaxFlow

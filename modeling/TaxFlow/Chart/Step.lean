import TaxFlow.Markup.Node

/-!
# Steps

The statements of a chart, as its document nests them. Every step but a note has the comment in
front of it.
-/
namespace TaxFlow.Chart

open TaxFlow.Markup

inductive Step where
  /-- A remark within the chart. -/
  | note (content : Option String)
  | eval (comment source : Option String)
  | execute (comment method : Option String)
  /-- What is done if a condition is met. -/
  | consequent (comment : Option String) (body : List Step)
  /-- What is done otherwise. -/
  | alternative (comment : Option String) (body : List Step)
  | condition (comment source : Option String) (body : List Step)
  | method (comment name : Option String) (body : List Step)
  deriving Repr

def commentText : Option Node → Option String
  | some (.comment text) => some text
  | _ => none

mutual

/-- The step of a node, given the comment in front of it. -/
def Step.ofNode? (comment : Option String) : Node → Option Step
  | .element name attributes text children =>
    let value (key : String) := attributes.lookup (Name.plain key)
    match name with
    | ⟨none, "EVAL"⟩ => some (.eval comment (value "exec"))
    | ⟨none, "EXECUTE"⟩ => some (.execute comment (value "method"))
    | ⟨none, "COMMENT"⟩ => some (.note text)
    | ⟨none, "THEN"⟩ => some (.consequent comment (stepsOf none children))
    | ⟨none, "ELSE"⟩ => some (.alternative comment (stepsOf none children))
    | ⟨none, "IF"⟩ => some (.condition comment (value "expr") (stepsOf none children))
    | ⟨none, "METHOD"⟩ | ⟨none, "MAIN"⟩ =>
      some (.method comment (value "name") (stepsOf none children))
    | _ => none
  | _ => none

/-- The steps of siblings, given the comment in front of them. -/
def stepsOf (comment : Option String) : List Node → List Step
  | [] => []
  | n :: ns => (Step.ofNode? comment n).toList ++ stepsOf (commentText (some n)) ns

end

def withComments (comment : Option String) : List Node → List (Option String × Node)
  | [] => []
  | n :: ns => (comment, n) :: withComments (commentText (some n)) ns

end TaxFlow.Chart

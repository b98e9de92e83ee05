import TaxFlow.Markup.Node

/-!
# Repairing trees

Some charts close a condition before its alternative. An alternative that directly follows a
condition is moved into it, as its last child; the children of the condition are looked at only
afterwards, so that a condition at its end takes the alternative in turn.
-/
namespace TaxFlow.Chart

open TaxFlow.Markup

mutual

def nodeCount : Node → Nat
  | .element _ _ _ children => 1 + nodeCounts children
  | _ => 1

def nodeCounts : List Node → Nat
  | [] => 0
  | n :: ns => nodeCount n + nodeCounts ns

end

theorem nodeCounts_append (ns ms : List Node) :
    nodeCounts (ns ++ ms) = nodeCounts ns + nodeCounts ms := by
  induction ns with
  | nil => simp [nodeCounts]
  | cons n ns ih => simp [nodeCounts, ih]; omega

/-- Siblings with every alternative in its condition. -/
def repaired : List Node → List Node
  | [] => []
  | .element name attributes text children :: alternative :: rest =>
    if name = Name.plain "IF" && alternative.isNamed "ELSE" then
      .element name attributes text (repaired (children ++ [alternative])) :: repaired rest
    else .element name attributes text (repaired children) :: repaired (alternative :: rest)
  | .element name attributes text children :: rest =>
    .element name attributes text (repaired children) :: repaired rest
  | .comment text :: rest => .comment text :: repaired rest
  | .instruction :: rest => .instruction :: repaired rest
termination_by ns => nodeCounts ns
decreasing_by
  all_goals simp only [nodeCounts, nodeCount, nodeCounts_append]
  all_goals omega

/-- Repairs a tree: every alternative that follows its condition is moved into it. -/
def repairTree (root : Node) : Node :=
  match root with
  | .element name attributes text children => .element name attributes text (repaired children)
  | n => n

end TaxFlow.Chart

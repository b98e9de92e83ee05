import TaxFlow.Proofs.DocumentOrder

/-!
# Stray alternatives

Where an alternative ends up that stands directly behind a condition. Repairing keeps the nodes of a
tree in document order, so a node is known by its position in that order, and what can change is the
position of its parent. The alternative first becomes the last child of the condition; if the
condition ends in another one, it then stands directly behind that one, and is moved on. Its parent
is the innermost of these conditions.
-/
namespace TaxFlow.Markup

open TaxFlow.Chart (nodeCount nodeCounts nodeCounts_append)

/-- A node without what is below it. -/
def Node.label : Node → Label
  | .element name attributes _ _ => .element name attributes
  | .comment text => .comment text
  | .instruction => .instruction

mutual

/-- The position of the parent for a node and for all nodes below it, in document order. The node
itself is at position `start`. -/
def Node.parentsFrom (parent : Option Nat) (start : Nat) : Node → List (Option Nat)
  | .element _ _ _ children => parent :: parentsOf (some start) (start + 1) children
  | .comment _ => [parent]
  | .instruction => [parent]

def parentsOf (parent : Option Nat) (start : Nat) : List Node → List (Option Nat)
  | [] => []
  | n :: ns => n.parentsFrom parent start ++ parentsOf parent (start + nodeCount n) ns

end

/-- The positions of the parents in a tree; the root has none. -/
def Node.parents (root : Node) : List (Option Nat) := root.parentsFrom none 0

/-- Whether a node is among nodes or below them, at this position in document order, with another
one directly behind it among its siblings. -/
inductive Adjacent (x y : Node) : List Node → Nat → Prop
  | here {rest : List Node} : Adjacent x y (x :: y :: rest) 0
  | later {n : Node} {ns : List Node} {i : Nat} : Adjacent x y ns i →
      Adjacent x y (n :: ns) (nodeCount n + i)
  | within {name : Name} {attributes : List (Name × String)} {text : Option String}
      {children ns : List Node} {i : Nat} :
    Adjacent x y children i → Adjacent x y (.element name attributes text children :: ns) (1 + i)

mutual

theorem length_labels : (n : Node) → n.labels.length = nodeCount n
  | .element _ _ _ children => by
    simp [Node.labels, nodeCount, length_labelsOf children, Nat.add_comm]
  | .comment _ => rfl
  | .instruction => rfl

theorem length_labelsOf : (ns : List Node) → (labelsOf ns).length = nodeCounts ns
  | [] => by simp [nodeCounts]
  | n :: ns => by simp [nodeCounts, length_labels n, length_labelsOf ns]

end

mutual

theorem length_parentsFrom (parent : Option Nat) (start : Nat) :
    (n : Node) → (n.parentsFrom parent start).length = nodeCount n
  | .element _ _ _ children => by
    simp [Node.parentsFrom, nodeCount, length_parentsOf (some start) (start + 1) children,
      Nat.add_comm]
  | .comment _ => rfl
  | .instruction => rfl

theorem length_parentsOf (parent : Option Nat) (start : Nat) :
    (ns : List Node) → (parentsOf parent start ns).length = nodeCounts ns
  | [] => by simp [parentsOf, nodeCounts]
  | n :: ns => by
    simp [parentsOf, nodeCounts, length_parentsFrom parent start n,
      length_parentsOf parent (start + nodeCount n) ns]

end

theorem nodeCount_pos (n : Node) : 0 < nodeCount n := by
  cases n with
  | element name attributes text children =>
    rw [nodeCount]
    omega
  | comment text => exact Nat.one_pos
  | instruction => exact Nat.one_pos

theorem head?_labels (n : Node) : n.labels[0]? = some n.label := by
  cases n <;> rfl

/-- Behind the first node come the positions for the others. -/
theorem getElem?_parentsOf_cons (parent : Option Nat) (start : Nat) (n : Node)
    (ns : List Node) (i : Nat) :
    (parentsOf parent start (n :: ns))[nodeCount n + i]? =
      (parentsOf parent (start + nodeCount n) ns)[i]? := by
  rw [parentsOf, List.getElem?_append_right (by rw [length_parentsFrom]; omega), length_parentsFrom,
    Nat.add_sub_cancel_left]

/-- Behind an element come the positions for its children. -/
theorem getElem?_parentsOf_children (parent : Option Nat) (start : Nat) {name : Name}
    {attributes : List (Name × String)}
    {text : Option String} {children ns : List Node} {i : Nat} (h : i < nodeCounts children) :
    (parentsOf parent start (.element name attributes text children :: ns))[1 + i]? =
      (parentsOf (some start) (start + 1) children)[i]? := by
  rw [parentsOf, Node.parentsFrom, List.getElem?_append_left, Nat.add_comm 1 i,
    List.getElem?_cons_succ]
  rw [List.length_cons, length_parentsOf]
  omega

namespace Adjacent

variable {x y : Node} {ns : List Node} {i : Nat}

/-- Both nodes are among those that are counted. -/
theorem bound (h : Adjacent x y ns i) : i + nodeCount x + nodeCount y ≤ nodeCounts ns := by
  induction h with
  | here => simp only [nodeCounts]; omega
  | later h ih => simp only [nodeCounts]; omega
  | within h ih => simp only [nodeCounts, nodeCount]; omega

theorem append_left (h : Adjacent x y ns i) (ms : List Node) : Adjacent x y (ns ++ ms) i := by
  induction h with
  | here => exact .here
  | later h ih => exact ih.later
  | within h ih => exact h.within

theorem append_right (h : Adjacent x y ns i) (ms : List Node) :
    Adjacent x y (ms ++ ns) (nodeCounts ms + i) := by
  induction ms with
  | nil => simpa [nodeCounts] using h
  | cons m ms ih => simpa [nodeCounts, Nat.add_assoc] using ih.later (n := m)

/-- The first node is at the position, the second one directly behind all that is below the
first. -/
theorem labels (h : Adjacent x y ns i) :
    (labelsOf ns)[i]? = some x.label ∧ (labelsOf ns)[i + nodeCount x]? = some y.label := by
  induction h with
  | here =>
    constructor
    · rw [labelsOf_cons, List.getElem?_append_left (by rw [length_labels]; exact nodeCount_pos x),
        head?_labels]
    · rw [labelsOf_cons, List.getElem?_append_right (by rw [length_labels]; omega),
        length_labels, Nat.zero_add, Nat.sub_self, labelsOf_cons,
        List.getElem?_append_left (by rw [length_labels]; exact nodeCount_pos y), head?_labels]
  | @later n ns i h ih =>
    have hskip : ∀ k, (labelsOf (n :: ns))[nodeCount n + k]? = (labelsOf ns)[k]? := by
      intro k
      rw [labelsOf_cons, List.getElem?_append_right (by rw [length_labels]; omega), length_labels,
        Nat.add_sub_cancel_left]
    rw [Nat.add_assoc, hskip, hskip]
    exact ih
  | @within name attributes text children ns i h ih =>
    have hskip : ∀ k, k < nodeCounts children →
        (labelsOf (.element name attributes text children :: ns))[1 + k]? =
          (labelsOf children)[k]? := by
      intro k hk
      rw [labelsOf_cons, Node.labels, List.getElem?_append_left, Nat.add_comm 1 k,
        List.getElem?_cons_succ]
      rw [List.length_cons, length_labelsOf]
      omega
    have hbound := h.bound
    have hy := nodeCount_pos y
    rw [Nat.add_assoc, hskip i (by omega), hskip (i + nodeCount x) (by omega)]
    exact ih

end Adjacent

end TaxFlow.Markup

namespace TaxFlow.Chart

open TaxFlow.Markup

mutual

/-- The position of the innermost condition at the end of a node: the node's own, unless its last
child is a condition. -/
def innermost (position : Nat) : Node → Nat
  | .element _ _ _ children => innermostOf position (position + 1) children
  | _ => position

/-- The same for the children of a node at position `owner`, of which the first is at position
`start`. -/
def innermostOf (owner start : Nat) : List Node → Nat
  | [] => owner
  | [n] => if n.isNamed "IF" then innermost start n else owner
  | n :: m :: ns => innermostOf owner (start + nodeCount n) (m :: ns)

end

/-- Whether the last child of a node is a condition. -/
def endsInCondition (n : Node) : Bool := n.children.getLast?.any (·.isNamed "IF")

/-- Only a last child matters, and only if it is a condition. -/
theorem innermostOf_cons {n : Node} (h : n.isNamed "IF" = false) (owner start : Nat)
    (ns : List Node) :
    innermostOf owner start (n :: ns) = innermostOf owner (start + nodeCount n) ns := by
  cases ns with
  | nil => simp [innermostOf, h]
  | cons m ns => rw [innermostOf]

mutual

theorem le_innermost (position : Nat) : (n : Node) → position ≤ innermost position n
  | .element _ _ _ children => by
    have h := innermostOf_bounds position (position + 1) (Nat.lt_succ_self position) children
    rw [innermost]
    exact h.1
  | .comment _ => by simp [innermost]
  | .instruction => by simp [innermost]

/-- The innermost condition is the owner itself unless the children end in a condition. -/
theorem innermostOf_bounds (owner start : Nat) (h : owner < start) : (ns : List Node) →
    owner ≤ innermostOf owner start ns ∧
      (innermostOf owner start ns = owner ↔ ns.getLast?.any (·.isNamed "IF") = false)
  | [] => by simp [innermostOf]
  | [n] => by
    have hn := le_innermost start n
    rw [innermostOf]
    split
    · rename_i hif
      constructor
      · omega
      · simp only [List.getLast?_singleton, Option.any_some, hif, Bool.true_eq_false, iff_false]
        omega
    · rename_i hif
      simpa using hif
  | n :: m :: ns => by
    have hns := innermostOf_bounds owner (start + nodeCount n) (by omega) (m :: ns)
    rw [innermostOf, List.getLast?_cons_cons]
    exact hns

end

theorem innermost_eq_self_iff (position : Nat) (n : Node) :
    innermost position n = position ↔ endsInCondition n = false := by
  cases n with
  | element name attributes text children =>
    rw [innermost]
    exact (innermostOf_bounds position (position + 1) (Nat.lt_succ_self position) children).2
  | comment text => simp [innermost, endsInCondition, Node.children]
  | instruction => simp [innermost, endsInCondition, Node.children]

theorem nodeCounts_repaired (ns : List Node) : nodeCounts (repaired ns) = nodeCounts ns := by
  rw [← length_labelsOf, ← length_labelsOf, labelsOf_repaired]

/-- A node at the end of others has its place behind all of them. -/
theorem nodeCounts_lt_repaired (ns : List Node) (n : Node) :
    nodeCounts ns < nodeCounts (repaired (ns ++ [n])) := by
  have hpos := nodeCount_pos n
  simp only [nodeCounts_repaired, nodeCounts_append, nodeCounts]
  omega

section Count

variable (name : Name) (attributes : List (Name × String)) (text : Option String)
    (children : List Node)

theorem nodeCount_inner :
    nodeCount (.element name attributes text (repaired children)) =
      nodeCount (.element name attributes text children) := by
  simp only [nodeCount, nodeCounts_repaired]

/-- A condition with its alternative has as many nodes as the two had apart. -/
theorem nodeCount_joined (other : Node) :
    nodeCount (.element name attributes text (repaired (children ++ [other]))) =
      nodeCount (.element name attributes text children) + nodeCount other := by
  simp only [nodeCount, nodeCounts_repaired, nodeCounts_append, nodeCounts]
  omega

end Count

theorem repaired_singleton (n : Node) : repaired [n] = [repairTree n] := by
  cases n <;> simp [repaired, repairTree]

theorem not_condition {n : Node} (h : n.isNamed "ELSE" = true) : n.isNamed "IF" = false :=
  isNamed_eq_false (by decide) h

/-- An alternative at the end of nodes with one owner: its parent is the innermost condition at
their end. The induction follows the way in which the nodes in front of it are repaired. -/
theorem parent_of_last {alternative : Node} (ha : alternative.isNamed "ELSE" = true)
    (ns : List Node) (owner start : Nat) :
    (parentsOf (some owner) start (repaired (ns ++ [alternative])))[nodeCounts ns]? =
      some (some (innermostOf owner start ns)) := by
  have halone : ∀ owner start, (parentsOf (some owner) start (repaired [alternative]))[0]? =
      some (some owner) := by
    intro owner start
    rw [repaired_singleton]
    cases alternative <;> simp [repairTree, parentsOf, Node.parentsFrom]
  fun_induction repaired ns generalizing owner start with
  | case1 => simpa [nodeCounts, innermostOf] using halone owner start
  | case2 name attributes text children other rest hjoin ih₁ ih₂ =>
    have hother : other.isNamed "IF" = false := by
      rw [Bool.and_eq_true] at hjoin
      exact not_condition hjoin.2
    rw [List.cons_append, List.cons_append, repaired, if_pos hjoin, innermostOf,
      innermostOf_cons hother, nodeCounts, nodeCounts, ← Nat.add_assoc, Nat.add_assoc start,
      ← nodeCount_joined, getElem?_parentsOf_cons]
    exact ih₂ owner _
  | case3 name attributes text children other rest hjoin ih₁ ih₂ =>
    rw [List.cons_append, List.cons_append, repaired, if_neg hjoin, innermostOf, nodeCounts,
      ← nodeCount_inner, getElem?_parentsOf_cons]
    exact ih₂ owner _
  | case4 name attributes text children rest h ih₁ ih₂ =>
    obtain rfl : rest = [] := by
      cases rest with
      | nil => rfl
      | cons m ms => exact absurd rfl (h m ms)
    by_cases hif : name = Name.plain "IF"
    · -- The alternative becomes the last child of the condition.
      have hlast := ih₁ start (start + 1)
      rw [List.singleton_append, repaired, if_pos (by simp [hif, ha])]
      simp only [nodeCounts, nodeCount, Nat.add_zero]
      rw [getElem?_parentsOf_children _ _ (nodeCounts_lt_repaired children alternative), hlast]
      simp [innermostOf, innermost, Node.isNamed, hif]
    · rw [List.singleton_append, repaired, if_neg (by simp [hif]), nodeCounts, nodeCounts,
        ← nodeCount_inner, getElem?_parentsOf_cons, halone]
      simp [innermostOf, Node.isNamed, hif]
  | case5 text rest ih =>
    rw [List.cons_append, repaired, nodeCounts, getElem?_parentsOf_cons, ih, innermostOf_cons rfl]
  | case6 rest ih =>
    rw [List.cons_append, repaired, nodeCounts, getElem?_parentsOf_cons, ih, innermostOf_cons rfl]

section Lifting

variable {x y : Node} {parent : Option Nat} {start i : Nat} {ns : List Node}

/-- What holds among the children of an element holds below it. -/
theorem parent_below {name : Name} {attributes : List (Name × String)} {text : Option String}
    {children : List Node} (h : Adjacent x y children i)
    (hparent : (parentsOf (some start) (start + 1) (repaired children))[i + nodeCount x]? =
      some (some (innermost (start + 1 + i) x))) :
    (parentsOf parent start
        (.element name attributes text (repaired children) :: ns))[1 + i + nodeCount x]? =
      some (some (innermost (start + (1 + i)) x)) := by
  have hbound := h.bound
  have hpos := nodeCount_pos y
  rw [Nat.add_assoc, getElem?_parentsOf_children _ _ (by rw [nodeCounts_repaired]; omega), hparent,
    Nat.add_assoc]

/-- What holds among nodes holds behind another one. -/
theorem parent_behind {m : Node}
    (hparent : (parentsOf parent (start + nodeCount m) ns)[i + nodeCount x]? =
      some (some (innermost (start + nodeCount m + i) x))) :
    (parentsOf parent start (m :: ns))[nodeCount m + i + nodeCount x]? =
      some (some (innermost (start + (nodeCount m + i)) x)) := by
  rw [Nat.add_assoc, getElem?_parentsOf_cons, hparent, Nat.add_assoc]

end Lifting

/-- An alternative directly behind a condition, wherever the two stand. The induction follows the
way in which the nodes are repaired: what is below a condition, and below an alternative that it
takes, is looked at only then. -/
theorem parent_of_alternative {x alternative : Node} (hx : x.isNamed "IF" = true)
    (ha : alternative.isNamed "ELSE" = true) {ns : List Node} {i : Nat}
    (h : Adjacent x alternative ns i) (parent : Option Nat) (start : Nat) :
    (parentsOf parent start (repaired ns))[i + nodeCount x]? =
      some (some (innermost (start + i) x)) := by
  fun_induction repaired ns generalizing i parent start with
  | case1 => cases h
  | case2 name attributes text children other rest hjoin ih₁ ih₂ =>
    rw [Bool.and_eq_true] at hjoin
    cases h with
    | here =>
      have hroom := nodeCounts_lt_repaired children alternative
      rw [Nat.zero_add, nodeCount, getElem?_parentsOf_children _ _ hroom, parent_of_last ha]
      rfl
    | later h =>
      cases h with
      | here =>
        rw [not_condition hjoin.2] at hx
        cases hx
      | later h =>
        rw [← Nat.add_assoc (nodeCount _), ← nodeCount_joined]
        exact parent_behind (ih₂ h _ _)
      | @within name' attributes' text' children' _ k h =>
        have hinner :
            Adjacent x alternative (children ++ [Node.element name' attributes' text' children'])
            (nodeCounts children + (1 + k)) := h.within.append_right children
        rw [nodeCount, Nat.add_assoc 1]
        exact parent_below hinner (ih₁ hinner _ _)
    | within h =>
      have hinner := h.append_left [other]
      exact parent_below hinner (ih₁ hinner _ _)
  | case3 name attributes text children other rest hjoin ih₁ ih₂ =>
    cases h with
    | here =>
      have hname : name = Name.plain "IF" := by simpa [Node.isNamed] using hx
      exact absurd (by simp [hname, ha]) hjoin
    | later h =>
      rw [← nodeCount_inner]
      exact parent_behind (ih₂ h _ _)
    | within h => exact parent_below h (ih₁ h _ _)
  | case4 name attributes text children rest hrest ih₁ ih₂ =>
    cases h with
    | here => exact absurd rfl (hrest _ _)
    | later h =>
      rw [← nodeCount_inner]
      exact parent_behind (ih₂ h _ _)
    | within h => exact parent_below h (ih₁ h _ _)
  | case5 text rest ih =>
    cases h with
    | here => cases hx
    | later h => exact parent_behind (ih h _ _)
  | case6 rest ih =>
    cases h with
    | here => cases hx
    | later h => exact parent_behind (ih h _ _)

/-- An alternative directly behind a condition ends up in the innermost condition at the end of that
one, and so in the condition itself exactly if the last child of the condition is no condition. All
nodes keep their positions. -/
theorem stray_alternative_parent {root x alternative : Node} {m : Nat}
    (h : Adjacent x alternative [root] m)
    (hx : x.isNamed "IF" = true) (ha : alternative.isNamed "ELSE" = true) :
    let n := m + nodeCount x
    (repairTree root).labels = root.labels ∧ root.labels[m]? = some x.label ∧
    root.labels[n]? = some alternative.label ∧
      (repairTree root).parents[n]? = some (some (innermost m x)) ∧
      ((repairTree root).parents[n]? = some (some m) ↔ endsInCondition x = false) := by
  intro n
  have hlabels := h.labels
  rw [labelsOf_cons, labelsOf_nil, List.append_nil] at hlabels
  have hparent : (repairTree root).parents[n]? = some (some (innermost m x)) := by
    have hparents := parent_of_alternative hx ha h none 0
    rwa [repaired_singleton, parentsOf, parentsOf, List.append_nil, Nat.zero_add] at hparents
  refine ⟨labels_repairTree root, hlabels.1, hlabels.2, hparent, ?_⟩
  rw [hparent, Option.some.injEq, Option.some.injEq]
  exact innermost_eq_self_iff m x

/-- A condition that ends in another one, and the alternative behind it. -/
def nestedCondition : Node :=
  .element (Name.plain "IF") [(Name.plain "expr", "A")] none
    [.element (Name.plain "THEN") [] none [],
      .element (Name.plain "IF") [(Name.plain "expr", "B")] none []]

def strayBehindNested : Node :=
  .element (Name.plain "ELSE") [] none
    [.element (Name.plain "EVAL") [(Name.plain "exec", "X = 1")] none []]

/-- The alternative belongs to the condition at position 3, but becomes a child of the one at
position 5. -/
theorem nestedCondition_takes_alternative :
    let root := Node.element (Name.plain "PAP") [] none [.element (Name.plain "METHODS") [] none
      [.element (Name.plain "MAIN") [] none [nestedCondition, strayBehindNested]]]
    nestedCondition.isNamed "IF" = true ∧ strayBehindNested.isNamed "ELSE" = true ∧
      root.labels[3]? = some nestedCondition.label ∧
      root.labels[6]? = some strayBehindNested.label ∧
      root.parents[6]? = root.parents[3]? ∧ (repairTree root).parents[6]? = some (some 5) ∧
      (repairTree root).parents[6]? ≠ some (some 3) := by
  intro root
  have hadjacent : Adjacent nestedCondition strayBehindNested [root] 3 :=
    .within (.within (.within .here))
  obtain ⟨-, hx, ha, hparent, hiff⟩ := stray_alternative_parent hadjacent rfl rfl
  refine ⟨rfl, rfl, hx, ha, rfl, hparent, ?_⟩
  exact fun hown => absurd (hiff.1 hown) (by decide)

end TaxFlow.Chart

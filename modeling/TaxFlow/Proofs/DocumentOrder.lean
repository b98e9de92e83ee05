import TaxFlow.Chart.Basic

/-!
# Document order

The nodes of a tree in document order, each without its children. Repairing alternatives changes
where they are nested, but neither the nodes nor their order; the elements outside of all conditions
stay where they are.
-/
namespace TaxFlow.Markup

/-- A node by itself. -/
inductive Label where
  | element (name : Name) (attributes : List (Name × String))
  | comment (text : String)
  | instruction
  deriving DecidableEq, Repr

mutual

/-- A node and all nodes below it, in document order. -/
def Node.labels : Node → List Label
  | .element name attributes _ children => .element name attributes :: labelsOf children
  | .comment text => [.comment text]
  | .instruction => [.instruction]

def labelsOf : List Node → List Label
  | [] => []
  | n :: ns => n.labels ++ labelsOf ns

end

@[simp] theorem labelsOf_nil : labelsOf [] = [] := by simp [labelsOf]

@[simp] theorem labelsOf_cons (n : Node) (ns : List Node) :
    labelsOf (n :: ns) = n.labels ++ labelsOf ns := by simp [labelsOf]

@[simp] theorem labelsOf_append (ns ms : List Node) :
    labelsOf (ns ++ ms) = labelsOf ns ++ labelsOf ms := by
  induction ns with
  | nil => simp
  | cons n ns ih => simp [ih]

def Node.isElement : Node → Bool
  | .element .. => true
  | _ => false

end TaxFlow.Markup

namespace TaxFlow.Chart

open TaxFlow.Markup

/-- Repairing keeps all nodes in document order: an alternative that directly follows a condition
comes directly behind everything within the condition. -/
theorem labelsOf_repaired (ns : List Node) : labelsOf (repaired ns) = labelsOf ns := by
  fun_induction repaired ns with
  | case1 => simp
  | case2 name attributes text children alternative rest h ih₁ ih₂ =>
    simp [Node.labels, ih₁, ih₂]
  | case3 name attributes text children alternative rest h ih₁ ih₂ =>
    simp [Node.labels, ih₁, ih₂]
  | case4 name attributes text children rest h ih₁ ih₂ => simp [Node.labels, ih₁, ih₂]
  | case5 text rest ih => simp [ih]
  | case6 rest ih => simp [ih]

/-- An element with the alternatives below it repaired. -/
theorem labels_repairTree (n : Node) : (repairTree n).labels = n.labels := by
  cases n with
  | element name attributes text children => simp [repairTree, Node.labels, labelsOf_repaired]
  | comment text => rfl
  | instruction => rfl

theorem repairTree_isNamed (base : String) (n : Node) :
    (repairTree n).isNamed base = n.isNamed base := by
  cases n <;> rfl

/-- A node of one name has no other. -/
theorem isNamed_eq_false {base other : String} (hne : base ≠ other) {n : Node}
    (h : n.isNamed other = true) : n.isNamed base = false := by
  cases n with
  | element name attributes text children =>
    simp only [Node.isNamed, decide_eq_true_eq] at h
    simp [Node.isNamed, h, Name.plain, Ne.symm hne]
  | comment text => rfl
  | instruction => rfl

/-- Siblings of a name that is neither that of conditions nor that of alternatives stay siblings. -/
theorem repaired_filter_isNamed {base : String} (hif : base ≠ "IF") (helse : base ≠ "ELSE")
    (ns : List Node) :
    (repaired ns).filter (·.isNamed base) = (ns.filter (·.isNamed base)).map repairTree := by
  fun_induction repaired ns with
  | case1 => rfl
  | case2 name attributes text children alternative rest h ih₁ ih₂ =>
    rw [Bool.and_eq_true, decide_eq_true_eq] at h
    obtain ⟨rfl, halt⟩ := h
    have hcondition : ∀ ms,
        (Node.element (Name.plain "IF") attributes text ms).isNamed base = false :=
      fun ms => isNamed_eq_false hif (by simp [Node.isNamed])
    simp [hcondition, isNamed_eq_false helse halt, ih₂]
  | case3 name attributes text children alternative rest h ih₁ ih₂ =>
    rw [List.filter_cons, List.filter_cons, ih₂]
    by_cases hn : name = Name.plain base <;> simp [Node.isNamed, hn, repairTree]
  | case4 name attributes text children rest h ih₁ ih₂ =>
    rw [List.filter_cons, List.filter_cons, ih₂]
    by_cases hn : name = Name.plain base <;> simp [Node.isNamed, hn, repairTree]
  | case5 text rest ih => simpa [Node.isNamed] using ih
  | case6 rest ih => simpa [Node.isNamed] using ih

theorem withComments_nodes (comment : Option String) (ns : List Node) :
    (withComments comment ns).map Prod.snd = ns := by
  induction ns generalizing comment with
  | nil => rfl
  | cons n ns ih => simp [withComments, ih]

theorem named_nodes (base : String) (parent : Node) :
    (named base parent).map Prod.snd = parent.children.filter (·.isNamed base) := by
  unfold named
  rw [← withComments_nodes none parent.children, List.filter_map, withComments_nodes]
  rfl

theorem repairTree_children (n : Node) : (repairTree n).children = repaired n.children := by
  cases n with
  | element name attributes text children => rfl
  | comment text => simp [repairTree, Node.children, repaired]
  | instruction => simp [repairTree, Node.children, repaired]

theorem atPath_nodes (root : Node) (base next : String) (path : List String) :
    (atPath root (base :: next :: path)).map Prod.snd =
      (root.children.filter (·.isNamed base)).flatMap
        fun n => (atPath n (next :: path)).map Prod.snd := by
  rw [← named_nodes, List.flatMap_map]
  simp [atPath, List.map_flatMap]

/-- Elements on a path that leads through no condition and no alternative are found again in a
repaired tree, in the same order. -/
theorem atPath_repairTree {path : List String} (hif : "IF" ∉ path) (helse : "ELSE" ∉ path)
    (root : Node) :
    (atPath (repairTree root) path).map Prod.snd =
      ((atPath root path).map Prod.snd).map repairTree := by
  induction path generalizing root with
  | nil => rfl
  | cons base path ih =>
    rw [List.mem_cons, not_or] at hif helse
    have hfilter := repaired_filter_isNamed (Ne.symm hif.1) (Ne.symm helse.1) root.children
    rw [← repairTree_children] at hfilter
    cases path with
    | nil => simp only [atPath, named_nodes, hfilter]
    | cons next path =>
      rw [atPath_nodes, atPath_nodes, hfilter, List.flatMap_map, List.map_flatMap]
      simp only [ih hif.2 helse.2]

/-- The elements at the end of a path of names below the root. -/
def elementsAt (root : Node) (path : List String) : List Node := (below root path).map Prod.snd

theorem elementsAt_repairTree (path : List String) (hif : "IF" ∉ path) (helse : "ELSE" ∉ path)
    (root : Node) : elementsAt (repairTree root) path = (elementsAt root path).map repairTree := by
  unfold elementsAt below
  rw [repairTree_isNamed]
  split
  · exact atPath_repairTree hif helse root
  · rfl

end TaxFlow.Chart

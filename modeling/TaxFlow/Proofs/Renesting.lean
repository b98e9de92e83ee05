import Mathlib.Logic.Relation
import TaxFlow.Proofs.StrayAlternatives

/-!
# Re-nesting

Repairing moves one alternative after the other to the end of the condition directly in front of it.
A single move leaves every node at its position in document order, and only the alternative that is
moved gets another parent; so the same holds of all moves together. In a tree whose conditions hold
consequents and alternatives only, and where no alternative directly follows another one, nothing is
left to be moved afterwards.
-/
namespace TaxFlow.Markup

open TaxFlow.Chart (nodeCount nodeCounts)

/-- Whether a label is that of an element of a name outside of all namespaces. -/
def Label.isNamed (base : String) : Label → Bool
  | .element name _ => name = Name.plain base
  | _ => false

theorem isNamed_label (base : String) (n : Node) : n.label.isNamed base = n.isNamed base := by
  cases n <;> rfl

theorem labels_eq_cons (n : Node) : n.labels = n.label :: labelsOf n.children := by
  cases n <;> simp [Node.labels, Node.label, Node.children]

theorem parentsFrom_eq_cons (parent : Option Nat) (start : Nat) (n : Node) :
    n.parentsFrom parent start = parent :: parentsOf (some start) (start + 1) n.children := by
  cases n <;> simp [Node.parentsFrom, Node.children, parentsOf]

theorem parentsOf_append (parent : Option Nat) (start : Nat) (ns ms : List Node) :
    parentsOf parent start (ns ++ ms) =
      parentsOf parent start ns ++ parentsOf parent (start + nodeCounts ns) ms := by
  induction ns generalizing start with
  | nil => simp [parentsOf, nodeCounts]
  | cons n ns ih => simp [parentsOf, nodeCounts, ih, Nat.add_assoc]

/-- The parents of nodes and of all nodes below them, without those of alternatives. -/
def settledParents (parent : Option Nat) (start : Nat) (ns : List Node) :
    List (Option (Option Nat)) :=
  List.zipWith (fun label p => if label.isNamed "ELSE" then none else some p) (labelsOf ns)
    (parentsOf parent start ns)

theorem settledParents_append (parent : Option Nat) (start : Nat) (ns ms : List Node) :
    settledParents parent start (ns ++ ms) =
      settledParents parent start ns ++ settledParents parent (start + nodeCounts ns) ms := by
  rw [settledParents, labelsOf_append, parentsOf_append, List.zipWith_append]
  · rfl
  · rw [length_labelsOf, length_parentsOf]

theorem settledParents_cons (parent : Option Nat) (start : Nat) (n : Node) (ns : List Node) :
    settledParents parent start (n :: ns) =
      settledParents parent start [n] ++ settledParents parent (start + nodeCount n) ns := by
  rw [← List.singleton_append, settledParents_append]
  simp [nodeCounts]

theorem settledParents_singleton (parent : Option Nat) (start : Nat) (n : Node) :
    settledParents parent start [n] =
      (if n.isNamed "ELSE" then none else some parent) :: settledParents (some start)
        (start + 1) n.children := by
  simp [settledParents, parentsOf, labels_eq_cons, parentsFrom_eq_cons, isNamed_label]

/-- Where an alternative is nested shows at no other node. -/
theorem settledParents_alternative {n : Node} (h : n.isNamed "ELSE" = true)
    (parent parent' : Option Nat) (start : Nat) :
    settledParents parent start [n] = settledParents parent' start [n] := by
  rw [settledParents_singleton, settledParents_singleton, if_pos h, if_pos h]

/-- The parent of a node that is no alternative can be read off. -/
theorem getElem?_parentsOf_of_settled {parent : Option Nat} {start i : Nat} {ns ms : List Node}
    {label : Label}
    (hlabels : labelsOf ms = labelsOf ns)
    (h : settledParents parent start ms = settledParents parent start ns)
    (hlabel : (labelsOf ns)[i]? = some label) (hother : label.isNamed "ELSE" = false) :
    (parentsOf parent start ms)[i]? = (parentsOf parent start ns)[i]? := by
  have hi : i < nodeCounts ns := by
    rw [← length_labelsOf]
    exact (List.getElem?_eq_some_iff.1 hlabel).1
  have hcount : nodeCounts ms = nodeCounts ns := by rw [← length_labelsOf, hlabels, length_labelsOf]
  obtain ⟨p, hp⟩ : ∃ p, (parentsOf parent start ms)[i]? = some p :=
    ⟨_, List.getElem?_eq_getElem (by rw [length_parentsOf, hcount]; exact hi)⟩
  obtain ⟨q, hq⟩ : ∃ q, (parentsOf parent start ns)[i]? = some q :=
    ⟨_, List.getElem?_eq_getElem (by rw [length_parentsOf]; exact hi)⟩
  have hboth := congrArg (·[i]?) h
  simp only [settledParents, List.getElem?_zipWith, hlabels, hlabel, hp, hq, hother] at hboth
  rw [hp, hq]
  simpa using hboth

end TaxFlow.Markup

namespace TaxFlow.Chart

open TaxFlow.Markup

/-- One alternative, among nodes or below them, is moved to the end of the condition directly in
front of it. -/
inductive Moved : List Node → List Node → Prop
  | here {attributes : List (Name × String)} {text : Option String} {children rest : List Node}
      {alternative : Node}
    (h : alternative.isNamed "ELSE" = true) :
    Moved (.element (Name.plain "IF") attributes text children :: alternative :: rest)
      (.element (Name.plain "IF") attributes text (children ++ [alternative]) :: rest)
  | later {n : Node} {ns ms : List Node} : Moved ns ms → Moved (n :: ns) (n :: ms)
  | within {name : Name} {attributes : List (Name × String)} {text : Option String}
      {children children' ns : List Node} :
    Moved children children' →
    Moved (.element name attributes text children :: ns)
      (.element name attributes text children' :: ns)

section Moves

open Relation (ReflTransGen)

variable {ns ms : List Node}

theorem Moved.labelsOf_eq (h : Moved ns ms) : labelsOf ms = labelsOf ns := by
  induction h with
  | here h => simp [Node.labels]
  | later h ih => simp [ih]
  | within h ih => simp [Node.labels, ih]

theorem Moved.nodeCounts_eq (h : Moved ns ms) : nodeCounts ms = nodeCounts ns := by
  rw [← length_labelsOf, h.labelsOf_eq, length_labelsOf]

/-- A move changes no parent but that of an alternative. -/
theorem Moved.settledParents_eq (h : Moved ns ms) (parent : Option Nat) (start : Nat) :
    settledParents parent start ms = settledParents parent start ns := by
  induction h generalizing parent start with
  | @here attributes text children rest alternative h =>
    rw [settledParents_cons, settledParents_cons _ _ (.element _ _ _ children),
      settledParents_cons _ _ alternative, settledParents_singleton, settledParents_singleton]
    simp only [Node.children, settledParents_append, nodeCount, nodeCounts_append,
      nodeCounts, Node.isNamed]
    -- The alternative stands at the same position, with the condition as its parent.
    rw [settledParents_alternative h (some start) parent]
    simp [Nat.add_assoc]
  | @later n ns ms h ih => rw [settledParents_cons, ih, ← settledParents_cons]
  | @within name attributes text children children' ns h ih =>
    have hcount : nodeCount (.element name attributes text children') =
        nodeCount (.element name attributes text children) := by
      rw [nodeCount, nodeCount, h.nodeCounts_eq]
    have hname : (Node.element name attributes text children').isNamed "ELSE" =
        (Node.element name attributes text children).isNamed "ELSE" := rfl
    rw [settledParents_cons, settledParents_cons _ _ (.element _ _ _ children),
      settledParents_singleton, settledParents_singleton, hcount, hname]
    simp only [Node.children, ih]

/-- Any number of moves keep the nodes in document order, and the parents of all that are no
alternatives. -/
theorem settledParents_of_moves (h : ReflTransGen Moved ns ms) :
    labelsOf ms = labelsOf ns ∧ ∀ parent start,
      settledParents parent start ms = settledParents parent start ns := by
  induction h with
  | refl => exact ⟨rfl, fun _ _ => rfl⟩
  | tail _ hlast ih =>
    refine ⟨hlast.labelsOf_eq.trans ih.1, fun parent start => ?_⟩
    rw [hlast.settledParents_eq, ih.2]

theorem moves_later (n : Node) (h : ReflTransGen Moved ns ms) :
    ReflTransGen Moved (n :: ns) (n :: ms) :=
  h.lift (n :: ·) fun _ _ => Moved.later

theorem moves_within (name : Name) (attributes : List (Name × String)) (text : Option String)
    (rest : List Node) (h : ReflTransGen Moved ns ms) :
    ReflTransGen Moved (.element name attributes text ns :: rest)
      (.element name attributes text ms :: rest) :=
  h.lift (Node.element name attributes text · :: rest) fun _ _ => Moved.within

/-- Repairing is nothing but moving alternatives. -/
theorem moves_repaired (ns : List Node) : ReflTransGen Moved ns (repaired ns) := by
  fun_induction repaired ns with
  | case1 => exact .refl
  | case2 name attributes text children alternative rest hjoin ih₁ ih₂ =>
    rw [Bool.and_eq_true, decide_eq_true_eq] at hjoin
    obtain ⟨rfl, halternative⟩ := hjoin
    refine .head (.here halternative) ?_
    exact (moves_within _ _ _ _ ih₁).trans (moves_later _ ih₂)
  | case3 name attributes text children alternative rest hjoin ih₁ ih₂ =>
    exact (moves_within _ _ _ _ ih₁).trans (moves_later _ ih₂)
  | case4 name attributes text children rest hrest ih₁ ih₂ =>
    exact (moves_within _ _ _ _ ih₁).trans (moves_later _ ih₂)
  | case5 text rest ih => exact moves_later _ ih
  | case6 rest ih => exact moves_later _ ih

theorem moves_repairTree (root : Node) : ReflTransGen Moved [root] [repairTree root] := by
  rw [← repaired_singleton]
  exact moves_repaired [root]

/-- Repairing does nothing but move alternatives, one at a time, into the conditions directly in
front of them. All nodes stay, in document order, and every node that is no alternative keeps its
parent. -/
theorem repairTree_moves_alternatives_only (root : Node) :
    ReflTransGen Moved [root] [repairTree root] ∧ (repairTree root).labels = root.labels ∧
      ∀ (i : Nat) (label : Label), root.labels[i]? = some label → label.isNamed "ELSE" = false →
        (repairTree root).parents[i]? = root.parents[i]? := by
  refine ⟨moves_repairTree root, labels_repairTree root, fun i label hlabel hother => ?_⟩
  obtain ⟨hlabels, hparents⟩ := settledParents_of_moves (moves_repairTree root)
  have hi : (labelsOf [root])[i]? = some label := by simpa using hlabel
  have hsame := getElem?_parentsOf_of_settled hlabels (hparents none 0) hi hother
  simpa [parentsOf, Node.parents] using hsame

/-- An alternative with a condition in it that is followed by an alternative itself: the inner
condition, at position 5, and its consequent keep their parents, although both are moved along with
the outer alternative. -/
theorem movedTwice_keeps_parents :
    let inner := [Node.element (Name.plain "IF") [] none [.element (Name.plain "THEN") [] none []],
      .element (Name.plain "ELSE") [] none []]
    let root := Node.element (Name.plain "MAIN") [] none
      [.element (Name.plain "IF") [] none [.comment "c", .element (Name.plain "IF") [] none []],
        .element (Name.plain "ELSE") [] none inner]
    (repairTree root).parents = [none, some 0, some 1, some 1, some 3, some 4, some 5, some 5] ∧
      root.parents = [none, some 0, some 1, some 1, some 0, some 4, some 5, some 4] ∧
      root.labels[5]? = some (.element (Name.plain "IF") []) ∧
      (repairTree root).parents[5]? = root.parents[5]? := by
  intro inner root
  have hlabel : root.labels[5]? = some (.element (Name.plain "IF") []) := by
    simp [root, inner, Node.labels]
  refine ⟨?_, ?_, hlabel, (repairTree_moves_alternatives_only root).2.2 5 _ hlabel (by decide)⟩
  · simp [root, inner, repairTree, repaired, Node.isNamed, Node.parents, Node.parentsFrom,
      parentsOf, nodeCount, Name.plain]
  · simp [root, inner, Node.parents, Node.parentsFrom, parentsOf, nodeCount, nodeCounts]

end Moves

section Tidy

variable {n : Node} {ns : List Node}

/-- Whether an element of the second name directly follows one of the first name. -/
def hasPair (first second : String) : List Node → Bool
  | x :: y :: ns => x.isNamed first && y.isNamed second || hasPair first second (y :: ns)
  | _ => false

theorem hasPair_tail {first second : String} (h : hasPair first second (n :: ns) = false) :
    hasPair first second ns = false := by
  cases ns with
  | nil => rfl
  | cons m ns => exact (Bool.or_eq_false_iff.1 h).2

mutual

/-- Whether below a node the elements within conditions are consequents and alternatives only, and
no alternative directly follows another one. -/
def isWellPlaced : Node → Bool
  | .element name _ _ children =>
    (name ≠ Name.plain "IF" || children.all fun c =>
      !c.isElement || c.isNamed "THEN" || c.isNamed "ELSE") &&
      !hasPair "ELSE" "ELSE" children && areWellPlaced children
  | _ => true

def areWellPlaced : List Node → Bool
  | [] => true
  | n :: ns => isWellPlaced n && areWellPlaced ns

end

theorem areWellPlaced_append (ns ms : List Node) :
    areWellPlaced (ns ++ ms) = (areWellPlaced ns && areWellPlaced ms) := by
  induction ns with
  | nil => simp [areWellPlaced]
  | cons n ns ih => simp [areWellPlaced, ih, Bool.and_assoc]

theorem not_condition_of_branch
    (h : (!n.isElement || n.isNamed "THEN" || n.isNamed "ELSE") = true) :
    n.isNamed "IF" = false := by
  simp only [Bool.or_eq_true, Bool.not_eq_true'] at h
  rcases h with (hplain | hconsequent) | halternative
  · cases n with
    | element name attributes text children => cases hplain
    | comment text => rfl
    | instruction => rfl
  · exact isNamed_eq_false (by decide) hconsequent
  · exact not_condition halternative

/-- Whether no condition, among nodes or below them, has an alternative directly behind it. -/
def Tidy (ns : List Node) : Prop :=
  ∀ x y i, Adjacent x y ns i → x.isNamed "IF" = true → y.isNamed "ELSE" = false

theorem Tidy.nil : Tidy [] := by
  intro x y i h
  cases h

theorem Tidy.cons (hbelow : Tidy n.children) (hns : Tidy ns)
    (hnext : n.isNamed "IF" = true → ∀ y ∈ ns.head?, y.isNamed "ELSE" = false) :
    Tidy (n :: ns) := by
  intro x y i h hx
  cases h with
  | here => exact hnext hx y rfl
  | later h => exact hns x y _ h hx
  | within h => exact hbelow x y _ h hx

theorem Tidy.tail (h : Tidy (n :: ns)) : Tidy ns := fun x y _ hadjacent => h x y _ hadjacent.later

theorem Tidy.below (h : Tidy (n :: ns)) : Tidy n.children := by
  cases n with
  | element name attributes text children => exact fun x y _ hadjacent => h x y _ hadjacent.within
  | comment text => exact .nil
  | instruction => exact .nil

/-- Where no alternative is stray there is nothing to repair. -/
theorem Tidy.repaired_eq (h : Tidy ns) : repaired ns = ns := by
  fun_induction repaired ns with
  | case1 => rfl
  | case2 name attributes text children alternative rest hjoin ih₁ ih₂ =>
    rw [Bool.and_eq_true] at hjoin
    have hnone := h _ _ _ .here (by simpa [Node.isNamed] using hjoin.1)
    rw [hjoin.2] at hnone
    cases hnone
  | case3 name attributes text children alternative rest hjoin ih₁ ih₂ =>
    rw [ih₁ h.below, ih₂ h.tail]
  | case4 name attributes text children rest hrest ih₁ ih₂ => rw [ih₁ h.below, ih₂ h.tail]
  | case5 text rest ih => rw [ih h.tail]
  | case6 rest ih => rw [ih h.tail]

/-- The first of several nodes has the same name after repairing. -/
theorem head?_repaired_isNamed (base : String) (ns : List Node) :
    (repaired ns).head?.map (·.isNamed base) = ns.head?.map (·.isNamed base) := by
  fun_cases repaired ns <;> simp [Node.isNamed]

theorem head?_repaired_of_head? {base : String} (h : ∀ y ∈ ns.head?, y.isNamed base = false) :
    ∀ y ∈ (repaired ns).head?, y.isNamed base = false := by
  intro y hy
  have hsame := head?_repaired_isNamed base ns
  rw [Option.mem_def.1 hy, Option.map_some] at hsame
  obtain ⟨x, hx, hxy⟩ := Option.map_eq_some_iff.1 hsame.symm
  rw [← hxy]
  exact h x hx

/-- Whether alternatives are apart from each other, or there is no condition among the siblings. -/
def Harmless (ns : List Node) : Prop :=
  hasPair "ELSE" "ELSE" ns = false ∨ ∀ n ∈ ns, n.isNamed "IF" = false

theorem Harmless.tail (h : Harmless (n :: ns)) : Harmless ns :=
  h.imp hasPair_tail fun hnone m hm => hnone m (List.mem_cons_of_mem n hm)

/-- Repairing leaves nothing stray. At the end of a condition the alternative that is moved there
may follow another one; then no condition is among these siblings. -/
theorem tidy_repaired (h : areWellPlaced ns = true) (hsiblings : Harmless ns) :
    Tidy (repaired ns) := by
  fun_induction repaired ns with
  | case1 => exact .nil
  | case2 name attributes text children alternative rest hjoin ih₁ ih₂ =>
    rw [Bool.and_eq_true, decide_eq_true_eq] at hjoin
    obtain ⟨rfl, halternative⟩ := hjoin
    simp only [areWellPlaced, isWellPlaced, Bool.and_eq_true] at h
    obtain ⟨⟨⟨hbranches, -⟩, hchildren⟩, hother, hrest⟩ := h
    have hpairs : hasPair "ELSE" "ELSE" (alternative :: rest) = false := by
      rcases hsiblings with hpairs | hnone
      · exact hasPair_tail hpairs
      · simpa [Node.isNamed] using hnone _ List.mem_cons_self
    have hnone : ∀ n ∈ children ++ [alternative], n.isNamed "IF" = false := by
      intro n hn
      rcases List.mem_append.1 hn with hn | hn
      · simp only [ne_eq, not_true, decide_false, Bool.false_or, List.all_eq_true] at hbranches
        exact not_condition_of_branch (hbranches n hn)
      · rw [List.mem_singleton.1 hn]
        exact not_condition halternative
    have hnext : ∀ y ∈ rest.head?, y.isNamed "ELSE" = false := by
      cases rest with
      | nil => simp
      | cons y rest =>
        simpa [hasPair, halternative, Bool.or_eq_false_iff] using (Bool.or_eq_false_iff.1 hpairs).1
    have hinner : areWellPlaced (children ++ [alternative]) = true := by
      simp [areWellPlaced_append, areWellPlaced, hchildren, hother]
    exact .cons (ih₁ hinner (.inr hnone)) (ih₂ hrest (.inl (hasPair_tail hpairs))) fun _ =>
      head?_repaired_of_head? hnext
  | case3 name attributes text children alternative rest hjoin ih₁ ih₂ =>
    simp only [areWellPlaced, isWellPlaced, Bool.and_eq_true, Bool.not_eq_true'] at h
    refine .cons (ih₁ h.1.2 (.inl h.1.1.2)) (ih₂ (by simp [areWellPlaced, h.2]) hsiblings.tail)
      fun hname => ?_
    refine head?_repaired_of_head? fun y hy => ?_
    rw [List.head?_cons, Option.mem_some] at hy
    subst hy
    rw [← Bool.not_eq_true]
    intro hother
    rw [Bool.and_eq_true] at hjoin
    exact hjoin ⟨hname, hother⟩
  | case4 name attributes text children rest hrest ih₁ ih₂ =>
    obtain rfl : rest = [] := by
      cases rest with
      | nil => rfl
      | cons m ms => exact absurd rfl (hrest m ms)
    simp only [areWellPlaced, isWellPlaced, Bool.and_eq_true, Bool.not_eq_true'] at h
    refine .cons (ih₁ h.1.2 (.inl h.1.1.2)) (ih₂ rfl (.inl rfl)) fun _ => ?_
    simp [repaired]
  | case5 text rest ih =>
    exact .cons .nil (ih (by simpa [areWellPlaced, isWellPlaced] using h) hsiblings.tail)
      fun hname => by cases hname
  | case6 rest ih =>
    exact .cons .nil (ih (by simpa [areWellPlaced, isWellPlaced] using h) hsiblings.tail)
      fun hname => by cases hname

/-- If conditions hold consequents and alternatives only, and no alternative directly follows
another one, then after repairing no condition has an alternative directly behind it. Repairing
again changes nothing, and the repaired tree is read as the same chart. -/
theorem repairTree_once_is_enough {root : Node} (h : isWellPlaced root = true) :
    (∀ x y i, Adjacent x y [repairTree root] i → x.isNamed "IF" = true → y.isNamed "ELSE" = false) ∧
      repairTree (repairTree root) = repairTree root ∧ ofNode (repairTree root) = ofNode root := by
  have htidy : Tidy [repairTree root] := by
    rw [← repaired_singleton]
    exact tidy_repaired (by simp [areWellPlaced, h]) (.inl rfl)
  have hagain : repairTree (repairTree root) = repairTree root := by
    have hsame := htidy.repaired_eq
    rw [repaired_singleton] at hsame
    exact List.cons.inj hsame |>.1
  refine ⟨htidy, hagain, ?_⟩
  unfold ofNode
  rw [hagain]

/-- Two conditions with stray alternatives, the second one in the alternative of the first, which is
followed by another condition. -/
theorem strayInStray_repaired_once :
    let condition := fun children : List Node => Node.element (Name.plain "IF") [] none children
    let consequent := Node.element (Name.plain "THEN") [] none []
    let alternative := fun children : List Node => Node.element (Name.plain "ELSE") [] none children
    let root := Node.element (Name.plain "MAIN") [] none
      [condition [consequent], alternative [condition [.comment "c", consequent], alternative []],
        condition [consequent]]
    isWellPlaced root = true ∧ repairTree root ≠ root ∧
    repairTree (repairTree root) = repairTree root := by
  intro condition consequent alternative root
  have hplaced : isWellPlaced root = true := by decide
  refine ⟨hplaced, ?_, (repairTree_once_is_enough hplaced).2.1⟩
  simp [root, condition, alternative, repairTree, repaired, Node.isNamed]

end Tidy

end TaxFlow.Chart

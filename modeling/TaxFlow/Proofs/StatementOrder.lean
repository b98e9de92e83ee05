import TaxFlow.Proofs.DocumentOrder
import TaxFlow.Proofs.Lines
import TaxFlow.Target.Generator

/-!
# Statements in document order

The assignments and calls of a written method are those of its element in the document, in document
order: neither repairing the alternatives, nor reading the steps, nor writing them loses, repeats or
moves one.
-/
namespace TaxFlow

open Markup Chart Outline

/-- What an element of a chart does by itself. -/
inductive Action where
  | eval (source : Option String)
  | execute (method : Option String)
  deriving DecidableEq, Repr

namespace Markup

/-- The action of an element, if it is one. -/
def Label.action? : Label → Option Action
  | .element name attributes =>
    if name = Name.plain "EVAL" then some (.eval (attributes.lookup (Name.plain "exec")))
    else if name = Name.plain "EXECUTE"
      then some (.execute (attributes.lookup (Name.plain "method")))
    else none
  | _ => none

@[simp] theorem Label.action?_comment (text : String) : (Label.comment text).action? = none := rfl

@[simp] theorem Label.action?_instruction : Label.instruction.action? = none := rfl

/-- The actions of nodes and of all that is below them, in document order. -/
def actionsOf (ns : List Node) : List Action := (labelsOf ns).filterMap Label.action?

@[simp] theorem actionsOf_nil : actionsOf [] = [] := by simp [actionsOf]

@[simp] theorem actionsOf_cons (n : Node) (ns : List Node) :
    actionsOf (n :: ns) = n.labels.filterMap Label.action? ++ actionsOf ns := by simp [actionsOf]

/-- Elements that hold further steps. -/
def branchNames : List Name := ["IF", "THEN", "ELSE"].map Name.plain

/-- Elements that hold no further element. -/
def leafNames : List Name := ["EVAL", "EXECUTE", "COMMENT"].map Name.plain

mutual

/-- Whether all elements of a tree are steps. -/
def Node.isStepTree : Node → Bool
  | .element name _ _ children =>
    if name ∈ branchNames then areStepTrees children
    else name ∈ leafNames && children.all fun n => !n.isElement
  | _ => true

def areStepTrees : List Node → Bool
  | [] => true
  | n :: ns => n.isStepTree && areStepTrees ns

end

@[simp] theorem areStepTrees_nil : areStepTrees [] = true := by simp [areStepTrees]

@[simp] theorem areStepTrees_cons (n : Node) (ns : List Node) :
    areStepTrees (n :: ns) = (n.isStepTree && areStepTrees ns) := by simp [areStepTrees]

@[simp] theorem areStepTrees_append (ns ms : List Node) :
    areStepTrees (ns ++ ms) = (areStepTrees ns && areStepTrees ms) := by
  induction ns with
  | nil => simp
  | cons n ns ih => simp [ih, Bool.and_assoc]

/-- Comments and instructions do nothing. -/
theorem actionsOf_eq_nil {ns : List Node} (h : ns.all (fun n => !n.isElement) = true) :
    actionsOf ns = [] := by
  induction ns with
  | nil => simp
  | cons n ns ih =>
    rw [List.all_cons, Bool.and_eq_true] at h
    cases n with
    | element name attributes text children => simp [Node.isElement] at h
    | comment text => simp [Node.labels, ih h.2]
    | instruction => simp [Node.labels, ih h.2]

end Markup

namespace Chart

theorem repaired_eq_self {ns : List Node} (h : ns.all (fun n => !n.isElement) = true) :
    repaired ns = ns := by
  fun_induction repaired ns with
  | case1 => rfl
  | case2 => simp [Node.isElement] at h
  | case3 => simp [Node.isElement] at h
  | case4 => simp [Node.isElement] at h
  | case5 text rest ih => rw [ih (by simpa [Node.isElement] using h)]
  | case6 rest ih => rw [ih (by simpa [Node.isElement] using h)]

/-- The children of a step are steps again once they are repaired. -/
theorem isStepTree_element {name : Name} {attributes : List (Name × String)} {text : Option String}
    {children : List Node}
    (ih : areStepTrees children = true → areStepTrees (repaired children) = true)
    (h : (Node.element name attributes text children).isStepTree = true) :
    (Node.element name attributes text (repaired children)).isStepTree = true := by
  unfold Node.isStepTree at h ⊢
  by_cases hname : name ∈ branchNames
  · rw [if_pos hname] at h ⊢
    exact ih h
  · rw [if_neg hname] at h ⊢
    rwa [repaired_eq_self (Bool.and_eq_true_iff.mp h).2]

theorem areStepTrees_repaired {ns : List Node} (h : areStepTrees ns = true) :
    areStepTrees (repaired ns) = true := by
  fun_induction repaired ns with
  | case1 => rfl
  | case2 name attributes text children alternative rest hjoin ih₁ ih₂ =>
    rw [Bool.and_eq_true, decide_eq_true_eq] at hjoin
    obtain ⟨rfl, -⟩ := hjoin
    have hif : Name.plain "IF" ∈ branchNames := by decide
    simp only [areStepTrees_cons, Node.isStepTree, hif, if_true, Bool.and_eq_true] at h ⊢
    exact ⟨ih₁ (by simp [h.1, h.2.1]), ih₂ h.2.2⟩
  | case3 name attributes text children alternative rest hjoin ih₁ ih₂ =>
    rw [areStepTrees_cons, Bool.and_eq_true] at h ⊢
    exact ⟨isStepTree_element ih₁ h.1, ih₂ h.2⟩
  | case4 name attributes text children rest hrest ih₁ ih₂ =>
    rw [areStepTrees_cons, Bool.and_eq_true] at h ⊢
    exact ⟨isStepTree_element ih₁ h.1, ih₂ h.2⟩
  | case5 text rest ih =>
    rw [areStepTrees_cons, Bool.and_eq_true] at h ⊢
    exact ⟨h.1, ih h.2⟩
  | case6 rest ih =>
    rw [areStepTrees_cons, Bool.and_eq_true] at h ⊢
    exact ⟨h.1, ih h.2⟩

end Chart

/-- The action of a line, with the text that it is written as. -/
def Line.action? (l : Line) : Option (Purpose × String) :=
  if l.purpose = .assignment ∨ l.purpose = .call then some (l.purpose, l.content) else none

/-- The actions among the lines of outlines. -/
def Outline.written (s : PageStyle) (level : Int) (os : List Outline) : List (Purpose × String) :=
  (allLines s level os).filterMap Line.action?

@[simp] theorem Outline.written_append (s : PageStyle) (level : Int) (os os' : List Outline) :
    written s level (os ++ os') = written s level os ++ written s level os' := by
  simp [written]

/-- Around the actions of a block there are no others, unless its head is one. -/
theorem Outline.written_block (s : PageStyle) (level : Int) {purpose : Purpose} (head : String)
    (os : List Outline) (h : purpose ≠ .assignment) (h' : purpose ≠ .call) :
    written s level [.block purpose head os] = written s (level + 1) os := by
  have hclosing : (closingLines s level).filterMap Line.action? = [] :=
    List.filterMap_eq_nil_iff.2 fun l hl => by simp [Line.action?, (mem_closingLines hl).2]
  simp [written, lines, Line.action?, h, h', hclosing]

namespace CodeSettings

/-- An action as it is written. -/
def action (v : CodeSettings) : Action → Except Fault (Purpose × String)
  | .eval source => do .ok (.assignment, ← v.assignment source)
  | .execute method => .ok (.call, v.call method)

/-- Outlines that are written to their end write the given actions and no others, at every level. -/
def Writes (v : CodeSettings) (s : PageStyle) (actions : List Action) (os : List Outline) : Prop :=
  firstFault os = none → ∀ level, actions.mapM v.action = .ok (written s level os)

variable {v : CodeSettings} {s : PageStyle}

theorem Writes.nil : v.Writes s [] [] := fun _ _ => rfl

theorem Writes.append {as bs : List Action} {os ps : List Outline} (ho : v.Writes s as os)
    (hp : v.Writes s bs ps) : v.Writes s (as ++ bs) (os ++ ps) := by
  intro hok level
  rw [firstFault_append, Option.or_eq_none_iff] at hok
  rw [List.mapM_append, ho hok.1 level, hp hok.2 level, written_append]
  rfl

theorem Writes.eval (comment source : Option String) :
    v.Writes s [.eval source] (v.step (.eval comment source)) := by
  intro hok level
  unfold step at hok ⊢
  cases hassign : v.assignment source with
  | error fault => simp [hassign, given, fault?] at hok
  | ok text =>
    simp [given, written, lines, Line.action?, action, hassign]
    rfl

theorem Writes.execute (comment method : Option String) :
    v.Writes s [.execute method] (v.step (.execute comment method)) := by
  intro _ level
  rw [step]
  rfl

theorem Writes.condition {as : List Action} {body : List Step} (h : v.Writes s as (v.body body))
    (comment source : Option String) : v.Writes s as (v.step (.condition comment source body)) := by
  intro hok level
  unfold step at hok ⊢
  cases hvalue : v.value source with
  | error fault => simp [hvalue, given, fault?] at hok
  | ok condition =>
    rw [hvalue] at hok
    simp only [given] at hok ⊢
    rw [written_block s level _ _ (by decide) (by decide)]
    exact h (by simpa [fault?] using hok) (level + 1)

theorem Writes.consequent {as : List Action} {body : List Step} (h : v.Writes s as (v.body body))
    (comment : Option String) : v.Writes s as (v.step (.consequent comment body)) := by
  intro hok level
  unfold step at hok ⊢
  split at hok
  · rename_i filler hfiller
    by_cases hempty : body.isEmpty
    · -- Only the filler is written, which is no action, and the empty body has none either.
      have hbody : v.body body = [] := by
        rw [List.isEmpty_iff] at hempty
        simp [hempty, CodeSettings.body]
      rw [hbody] at h
      simpa [hempty, written, lines, Line.action?] using h (by simp) level
    · rw [if_neg hempty] at hok ⊢
      exact h hok level
  · exact h hok level

theorem Writes.alternative {as : List Action} {body : List Step} (h : v.Writes s as (v.body body))
    (comment : Option String) : v.Writes s as (v.step (.alternative comment body)) := by
  intro hok level
  unfold step at hok ⊢
  by_cases hempty : body.isEmpty
  · have hbody : v.body body = [] := by
      rw [List.isEmpty_iff] at hempty
      simp [hempty, CodeSettings.body]
    rw [hbody] at h
    simpa [hempty] using h (by simp) level
  · rw [if_neg hempty] at hok ⊢
    have hwritten := h (by simpa [fault?] using hok) level
    simpa [written, lines, Line.action?] using hwritten

theorem body_append (v : CodeSettings) (ss ss' : List Step) :
    v.body (ss ++ ss') = v.body ss ++ v.body ss' := by
  induction ss with
  | nil => simp [body]
  | cons s ss ih => simp [body, ih]

mutual

/-- The step of a node writes the actions of the node and of all that is below it. -/
theorem writes_node (v : CodeSettings) (s : PageStyle) (comment : Option String) :
    ∀ n : Node, n.isStepTree = true →
      v.Writes s (actionsOf [n]) (v.body (Step.ofNode? comment n).toList)
  | .comment text, _ => by
    simpa [Step.ofNode?, body, Node.labels, List.filterMap_cons] using Writes.nil
  | .instruction, _ => by
    simpa [Step.ofNode?, body, Node.labels, List.filterMap_cons] using Writes.nil
  | .element name attributes text children, h => by
    unfold Node.isStepTree at h
    by_cases hname : name ∈ branchNames
    · rw [if_pos hname] at h
      have hbody := writes_nodes v s none children h
      simp only [branchNames, List.map_cons, List.map_nil, List.mem_cons, List.not_mem_nil,
        or_false] at hname
      rcases hname with rfl | rfl | rfl
      · have hstep := hbody.condition comment (attributes.lookup (Name.plain "expr"))
        simpa [Step.ofNode?, body, Node.labels, Label.action?, Name.plain, actionsOf] using hstep
      · have hstep := hbody.consequent comment
        simpa [Step.ofNode?, body, Node.labels, Label.action?, Name.plain, actionsOf] using hstep
      · have hstep := hbody.alternative comment
        simpa [Step.ofNode?, body, Node.labels, Label.action?, Name.plain, actionsOf] using hstep
    · rw [if_neg hname, Bool.and_eq_true, decide_eq_true_eq] at h
      have hinner : (labelsOf children).filterMap Label.action? = [] := actionsOf_eq_nil h.2
      have hleaf := h.1
      simp only [leafNames, List.map_cons, List.map_nil, List.mem_cons, List.not_mem_nil,
        or_false] at hleaf
      rcases hleaf with rfl | rfl | rfl
      · have hstep := Writes.eval (v := v) (s := s) comment (attributes.lookup (Name.plain "exec"))
        simpa [Step.ofNode?, body, Node.labels, Label.action?, Name.plain, hinner] using hstep
      · have hstep :=
          Writes.execute (v := v) (s := s) comment (attributes.lookup (Name.plain "method"))
        simpa [Step.ofNode?, body, Node.labels, Label.action?, Name.plain, hinner] using hstep
      · simpa [Step.ofNode?, body, step, Node.labels, Label.action?, Name.plain, hinner] using
          Writes.nil

/-- The steps of siblings write the actions of the siblings. -/
theorem writes_nodes (v : CodeSettings) (s : PageStyle) (comment : Option String) :
    ∀ ns : List Node, areStepTrees ns = true →
      v.Writes s (actionsOf ns) (v.body (stepsOf comment ns))
  | [], _ => by simpa [stepsOf, body] using Writes.nil
  | n :: ns, h => by
    rw [areStepTrees_cons, Bool.and_eq_true] at h
    have hfirst := writes_node v s comment n h.1
    have hrest := writes_nodes v s (commentText (some n)) ns h.2
    simpa [stepsOf, body_append] using hfirst.append hrest

end

end CodeSettings

/-- The target languages. -/
def Target.languages : List Target := [.php, .python, .java, .javascript, .golang]

namespace CodeSettings

variable {v : CodeSettings} {s : PageStyle}

/-- A method in a target language. -/
def methodIn (v : CodeSettings) (visibility : String) (m : Method) : Target → List Outline
  | .php => v.phpMethod visibility m
  | .python => v.pythonMethod m
  | .java => v.javaMethod visibility m
  | .javascript => v.javascriptMethod m
  | .golang => v.golangMethod m
  | _ => []

/-- What stands around the body of a method: comments and empty lines. -/
def Surrounds (os : List Outline) : Prop :=
  ∀ o ∈ os, ∃ purpose text, o = .line purpose text ∧ purpose ≠ .assignment ∧ purpose ≠ .call

theorem surrounds_blank : Surrounds [.blank] := by
  intro o ho
  rw [List.mem_singleton] at ho
  exact ⟨.plain, "", ho, by decide, by decide⟩

theorem surrounds_methodComment (v : CodeSettings) (text : Option String) :
    Surrounds (v.methodComment text) := by
  have hcomment : ∀ text simple, Surrounds (v.comment text simple) := by
    intro text simple o ho
    have hline : ∃ content, o = .line .comment content := by
      unfold comment at ho
      cases simple <;> simp at ho <;> grind
    obtain ⟨content, rfl⟩ := hline
    exact ⟨.comment, content, rfl, by decide, by decide⟩
  cases text with
  | none => intro o ho; simp [methodComment] at ho
  | some text =>
    unfold methodComment
    by_cases hempty : text.isEmpty
    · intro o ho
      simp [hempty] at ho
    · simpa [hempty] using hcomment text false

theorem Surrounds.append {os ps : List Outline} (ho : Surrounds os) (hp : Surrounds ps) :
    Surrounds (os ++ ps) := by
  intro o hmem
  rcases List.mem_append.mp hmem with h | h
  · exact ho o h
  · exact hp o h

theorem Surrounds.written {os : List Outline} (h : Surrounds os) (level : Int) :
    Outline.written s level os = [] := by
  induction os with
  | nil => simp [Outline.written]
  | cons o os ih =>
    obtain ⟨purpose, text, rfl, hassign, hcall⟩ := h o (List.mem_cons_self ..)
    have hrest := ih fun o ho => h o (List.mem_cons_of_mem _ ho)
    simpa [Outline.written, lines, Line.action?, hassign, hcall] using hrest

/-- In every language a method is a block around its steps. -/
theorem methodIn_eq (v : CodeSettings) (visibility : String) (m : Method) {t : Target}
    (ht : t ∈ Target.languages) : ∃ front head inner,
      v.methodIn visibility m t = front ++
        [Outline.block (.method m.name) head (inner ++ v.body m.body)] ∧
        Surrounds front ∧ Surrounds inner := by
  have hcomment := surrounds_methodComment v m.comment
  have hfront := surrounds_blank.append hcomment
  have hnone : Surrounds [] := by intro o ho; simp at ho
  simp only [Target.languages, List.mem_cons, List.not_mem_nil, or_false] at ht
  rcases ht with rfl | rfl | rfl | rfl | rfl
  · exact ⟨_, _, [], rfl, hfront, hnone⟩
  · exact ⟨_, _, _, rfl, surrounds_blank, hcomment⟩
  · exact ⟨_, _, [], rfl, hfront, hnone⟩
  · exact ⟨_, _, [], rfl, hfront, hnone⟩
  · exact ⟨_, _, [], rfl, hfront, hnone⟩

end CodeSettings

namespace Chart

/-- The elements of the methods of a document, the main one first. -/
def methodElements (root : Node) : List Node :=
  (elementsAt root ["METHODS", "MAIN"]).take 1 ++ elementsAt root ["METHODS", "METHOD"]

/-- All methods of a chart, the main one first. -/
def allMethods (c : Chart) : List Method := c.main :: c.methods

theorem methodOf_bodies (entries : List (Option String × Node)) :
    (entries.map methodOf).map Method.body =
      (entries.map Prod.snd).map fun n => stepsOf none n.children := by
  simp [Function.comp_def, methodOf]

/-- The steps of the methods are those below their elements. -/
theorem allMethods_bodies {root : Node} {c : Chart} (h : ofNode root = .ok c) :
    c.allMethods.map Method.body =
      (methodElements root).map fun n => stepsOf none (repaired n.children) := by
  have hbodies : ∀ path, "IF" ∉ path → "ELSE" ∉ path →
      ((below (repairTree root) path).map methodOf).map Method.body =
        (elementsAt root path).map fun n => stepsOf none (repaired n.children) := by
    intro path hif helse
    have helements := elementsAt_repairTree path hif helse root
    unfold elementsAt at helements
    rw [methodOf_bodies, helements, List.map_map]
    simp [elementsAt, Function.comp_def, repairTree_children]
  have hmain := hbodies ["METHODS", "MAIN"] (by decide) (by decide)
  have hmethods := hbodies ["METHODS", "METHOD"] (by decide) (by decide)
  unfold ofNode at h
  simp only at h
  split at h
  · cases h
  · rename_i main mains hbelow
    cases h
    rw [hbelow] at hmain
    rw [methodElements, List.map_append, List.map_take, ← hmain, ← hmethods]
    rfl

end Chart

namespace CodeSettings

variable {v : CodeSettings} {s : PageStyle}

/-- A page has room for a method wherever it is. -/
theorem methodIn_fit (v : CodeSettings) (visibility : String) (m : Method) {t : Target}
    (ht : t ∈ Target.languages) {level : Int} (hl : 0 ≤ level) :
    Fit level (v.methodIn visibility m t) := by
  obtain ⟨front, head, inner, heq, hfront, -⟩ := v.methodIn_eq visibility m ht
  refine .inr ⟨hl, fun o ho => ?_⟩
  rw [heq, List.mem_append, List.mem_singleton] at ho
  rcases ho with ho | rfl
  · obtain ⟨purpose, text, rfl, -⟩ := hfront o ho
    rfl
  · rfl

/-- A method writes what its steps write. -/
theorem Writes.method {as : List Action} {m : Method} (h : v.Writes s as (v.body m.body))
    (visibility : String) {t : Target} (ht : t ∈ Target.languages) :
    v.Writes s as (v.methodIn visibility m t) := by
  obtain ⟨front, head, inner, heq, hfront, hinner⟩ := v.methodIn_eq visibility m ht
  intro hok level
  rw [heq] at hok ⊢
  have hbody : firstFault (v.body m.body) = none := by
    simp only [firstFault_append, firstFault_cons, firstFault_nil, fault?,
      Option.or_eq_none_iff] at hok
    exact hok.2.1.2
  rw [written_append, hfront.written, written_block s level _ _ (by simp) (by simp), written_append,
    hinner.written]
  exact h hbody (level + 1)

end CodeSettings

/-- Every element of a method in a document has its method in the chart, and the assignments and
calls of the method are, in every language, those of the elements below that element, in document
order. What is written onto the page are the lines of the method. -/
theorem method_actions_in_document_order {root : Node} {c : Chart} (hc : Chart.ofNode root = .ok c)
    {i : Nat} {n : Node} (hn : (methodElements root)[i]? = some n)
    (hsteps : areStepTrees n.children = true) :
    ∃ m, c.allMethods[i]? = some m ∧
      ∀ t ∈ Target.languages, ∀ (v : CodeSettings) (visibility : String) (p : Page), 0 ≤ p.level →
        (p.putAll (v.methodIn visibility m t)).2 = none →
        (p.putAll (v.methodIn visibility m t)).1 =
            p.appended
              (Line.textOf p.style (allLines p.style p.level (v.methodIn visibility m t))) ∧
          (actionsOf n.children).mapM v.action =
            .ok ((allLines p.style p.level (v.methodIn visibility m t)).filterMap
              Line.action?) := by
  have hbodies := congrArg (·[i]?) (allMethods_bodies hc)
  simp only [List.getElem?_map, hn, Option.map_some, Option.map_eq_some_iff] at hbodies
  obtain ⟨m, hm, hbody⟩ := hbodies
  refine ⟨m, hm, ?_⟩
  intro t ht v visibility p hp hok
  have hactions : actionsOf (repaired n.children) = actionsOf n.children := by
    simp only [actionsOf, labelsOf_repaired]
  have hwrites := v.writes_nodes p.style none (repaired n.children) (areStepTrees_repaired hsteps)
  rw [← hbody, hactions] at hwrites
  rw [Page.putAll_fault] at hok
  refine ⟨?_, hwrites.method visibility ht hok p.level⟩
  rw [Page.putAll_lines p _ (v.methodIn_fit visibility m ht hp) hok]

/-- A document whose main method has an alternative behind its condition. -/
def strayAlternative : Node :=
  let step (name key value : String) (children : List Node) :=
    Node.element (Name.plain name) [(Name.plain key, value)] none children
  let plain (name : String) (children : List Node) :=
    Node.element (Name.plain name) [] none children
  plain "PAP" [plain "METHODS" [plain "MAIN"
    [step "IF" "expr" "A > 0" [plain "THEN" [step "EVAL" "exec" "B = A" []]], .comment "otherwise",
      step "IF" "expr" "B == 1" [plain "THEN" []], plain "ELSE" [step "EXECUTE" "method" "M" []]]]]

/-- The main method of `strayAlternative`. -/
def strayAlternativeMain : Method :=
  { comment := none
    name := some "MAIN"
    body :=
      [.condition none (some "A > 0") [.consequent none [.eval none (some "B = A")]],
        .condition (some "otherwise") (some "B == 1")
          [.consequent none [], .alternative none [.execute none (some "M")]]] }

theorem strayAlternative_main :
    ∃ c, Chart.ofNode strayAlternative = .ok c ∧ c.allMethods = [strayAlternativeMain] := by
  have hmain : (Chart.ofNode strayAlternative).map allMethods = .ok [strayAlternativeMain] := by
    simp [ofNode, strayAlternative, repairTree, repaired, below, atPath, named,
      Node.isNamed, Name.plain, withComments, Node.children, Except.map, allMethods, methodOf,
      stepsOf, Step.ofNode?, commentText,
      strayAlternativeMain]
  cases h : Chart.ofNode strayAlternative with
  | error fault => simp [h, Except.map] at hmain
  | ok c => exact ⟨c, rfl, by simpa [h, Except.map] using hmain⟩

theorem strayAlternative_actions :
    let v : CodeSettings := ⟨.python, .python, ⟨some "Tax", [], []⟩⟩
    let p : Page := { style := Target.python.pageStyle none, level := 1 }
    (p.putAll (v.methodIn "" strayAlternativeMain .python)).2 = none ∧
      (allLines p.style p.level (v.methodIn "" strayAlternativeMain .python)).filterMap
        Line.action? =
        [(.assignment, "self.B = self.A"), (.call, "self.M()")] := by
  intro v p
  obtain ⟨c, hc, hall⟩ := strayAlternative_main
  obtain ⟨m, hm, hactions⟩ := method_actions_in_document_order hc (i := 0) rfl (by decide)
  have hmain : m = strayAlternativeMain := by simpa [hall] using hm.symm
  subst hmain
  have hok : (p.putAll (v.methodIn "" strayAlternativeMain .python)).2 = none := by decide +kernel
  have hwritten := (hactions .python (by decide) v "" p (by decide) hok).2
  have hvalue := congrArg Except.toOption hwritten
  refine ⟨hok, Option.some.inj (hvalue.symm.trans ?_)⟩
  decide +kernel

end TaxFlow

import TaxFlow.Proofs.Rows
import TaxFlow.Proofs.StatementOrder

/-!
# The interface of a file

The definitions of a file are the rows behind which a block begins, apart from conditions and
alternatives. In every target language these are the class with its constructor, and then one setter
for every input, one getter for every output and one method for every method element of the
document.
-/
namespace TaxFlow

open Markup Chart Outline

/-- Whether a block is that of a condition or an alternative. -/
def Purpose.isConditional : Purpose → Bool
  | branch => true
  | otherwise => true
  | _ => false

/-- Whether a definition begins with a row. -/
def Row.isDefinition (r : Row) : Bool := r.opens && !r.purpose.isConditional

/-- The heads of the definitions among rows, with their levels. -/
def definitions (rows : List Row) : List (Int × String) :=
  (rows.filter Row.isDefinition).map fun r => (r.level, r.content)

@[simp] theorem definitions_nil : definitions [] = [] := rfl

@[simp] theorem definitions_append (rows rows' : List Row) :
    definitions (rows ++ rows') = definitions rows ++ definitions rows' := by
  simp [definitions]

theorem definitions_cons (r : Row) (rows : List Row) :
    definitions (r :: rows) = (if r.isDefinition then [(r.level, r.content)] else []) ++
      definitions rows := by
  rw [definitions, List.filter_cons]
  split <;> rfl

/-- Rows that open nothing define nothing. -/
theorem definitions_of_closed {rows : List Row} (h : ∀ r ∈ rows, r.opens = false) :
    definitions rows = [] := by
  rw [definitions, List.map_eq_nil_iff, List.filter_eq_nil_iff]
  intro r hr
  simp [Row.isDefinition, h r hr]

namespace Outline

theorem definitions_of_flat {os : List Outline} (h : os.all isFlat = true) (s : PageStyle)
    (level : Int) :
    definitions (allRows s level os) = [] :=
  definitions_of_closed fun _ hr => (mem_allRows_of_flat h hr).2

@[simp] theorem definitions_line (s : PageStyle) (level : Int) (purpose : Purpose) (text : String) :
    definitions (rows s level (.line purpose text)) = [] := by
  simp [rows, definitions, Row.isDefinition]

@[simp] theorem definitions_halt (s : PageStyle) (level : Int) (fault : Fault) :
    definitions (rows s level (.halt fault)) = [] := by
  simp [rows]

/-- A block defines its head and what is defined within it. -/
@[simp] theorem definitions_block (s : PageStyle) (level : Int) (purpose : Purpose) (head : String)
    (body : List Outline) :
    definitions (rows s level (.block purpose head body)) =
      (if purpose.isConditional then [] else [(level, head ++ s.opening)]) ++
        definitions (allRows s (level + 1) body) := by
  have hclosing : definitions ((closingLines s level).map Line.row) = [] :=
    definitions_of_closed (by simp [Line.row])
  rw [rows, definitions_append, definitions_cons, hclosing, List.append_nil]
  cases h : purpose.isConditional <;> simp [Row.isDefinition, h]

@[simp] theorem definitions_blank (s : PageStyle) (level : Int) :
    definitions (rows s level .blank) = [] :=
  definitions_line ..

@[simp] theorem definitions_text (s : PageStyle) (level : Int) (text : String) :
    definitions (rows s level (.text text)) = [] :=
  definitions_line ..

@[simp] theorem definitions_given_eq_nil {α : Type} (x : Except Fault α) (f : α → List Outline)
    (s : PageStyle) (level : Int) :
    definitions (allRows s level (given x f)) = [] ↔ ∀ a, x = .ok a →
      definitions (allRows s level (f a)) = [] := by
  cases x <;> simp [given]

@[simp] theorem definitions_flatMap {α : Type} (f : α → List Outline) (as : List α) (s : PageStyle)
    (level : Int) :
    definitions (allRows s level (as.flatMap f)) = as.flatMap fun a =>
      definitions (allRows s level (f a)) := by
  induction as with
  | nil => simp
  | cons a as ih => simp [ih]

/-- Outlines that define exactly one head, if there is no fault in them. -/
def Defines (os : List Outline) (head : Except Fault String) : Prop :=
  firstFault os = none →
    ∃ text, head = .ok text ∧ ∀ s level,
    definitions (allRows s level os) = [(level, text ++ s.opening)]

/-- The definitions for the members of a list are in the order of the list. -/
theorem Defines.flatMap {α : Type} {f : α → List Outline} {head : α → Except Fault String}
    (h : ∀ a, Defines (f a) (head a)) {as : List α} (hok : firstFault (as.flatMap f) = none) :
    ∃ heads, as.mapM head = .ok heads ∧
      ∀ s level, definitions (allRows s level (as.flatMap f)) = heads.map fun text =>
        (level, text ++ s.opening) := by
  induction as with
  | nil => exact ⟨[], rfl, by simp⟩
  | cons a as ih =>
    rw [List.flatMap_cons, firstFault_append, Option.or_eq_none_iff] at hok
    obtain ⟨text, htext, hfirst⟩ := h a hok.1
    obtain ⟨heads, hheads, hrest⟩ := ih hok.2
    refine ⟨text :: heads,
      by simp [List.mapM_cons, htext, hheads, bind, Except.bind, pure, Except.pure], ?_⟩
    intro s level
    simp [hfirst, hrest]

/-- An empty line and a block around a single line, with a head that depends on a word. -/
theorem Defines.accessor {x : Except Fault String} {purpose : Purpose}
    (hp : purpose.isConditional = false) (head text : String → String) :
    Defines (.blank :: given x fun word => [.block purpose (head word) [.text (text word)]])
      (x >>= fun word => .ok (head word)) := by
  intro hok
  simp only [firstFault_cons, Option.or_eq_none_iff, firstFault_given] at hok
  obtain ⟨-, word, rfl, -⟩ := hok
  exact ⟨head word, rfl, by simp [given, blank, Outline.text, hp]⟩

end Outline

/-- Setters and getters in the order of a language. -/
def Target.accessors {α : Type} (t : Target) (setters getters : List α) : List α :=
  if t = .php then getters ++ setters else setters ++ getters

namespace CodeSettings

mutual

/-- Steps define nothing. -/
theorem step_definitions (v : CodeSettings) (s : PageStyle) (level : Int) :
    ∀ step : Step, definitions (allRows s level (v.step step)) = []
  | .note _ => by simp [step]
  | .method .. => by simp [step]
  | .eval .. => by simp [step]
  | .execute .. => by simp [step]
  | .condition _ _ body => by
    simp [step, Purpose.isConditional, body_definitions v s (level + 1) body]
  | .consequent _ body => by
    have hbody := body_definitions v s level body
    rw [step]
    split
    · split
      · simp
      · exact hbody
    · exact hbody
  | .alternative _ body => by
    have hbody := body_definitions v s level body
    rw [step]
    split
    · simp
    · simpa [rows, definitions, Row.isDefinition, Purpose.isConditional] using hbody

theorem body_definitions (v : CodeSettings) (s : PageStyle) (level : Int) :
    ∀ steps : List Step, definitions (allRows s level (v.body steps)) = []
  | [] => by simp [body]
  | step :: steps => by
    simp [body, step_definitions v s level step, body_definitions v s level steps]

end

variable (v : CodeSettings)

/-- A method defines its head, whatever its comment and its steps are. -/
theorem method_definitions {front inner : List Outline} (hfront : front.all isFlat = true)
    (hinner : inner.all isFlat = true) (name : Option String) (head : String) (steps : List Step)
    (s : PageStyle) (level : Int) :
    definitions
      (allRows s level (front ++ [Outline.block (.method name) head (inner ++ v.body steps)])) =
      [(level, head ++ s.opening)] := by
  simp [definitions_of_flat hfront, definitions_of_flat hinner, body_definitions,
    Purpose.isConditional]

/-! ### Parts of files that define nothing -/

@[simp] theorem comment_definitions (text : String) (simple : Bool) (s : PageStyle) (level : Int) :
    definitions (allRows s level (v.comment text simple)) = [] :=
  definitions_of_flat (v.comment_flat text simple) s level

@[simp] theorem declarationComment_definitions (text : Option String) (simple : Bool)
    (s : PageStyle) (level : Int) :
    definitions (allRows s level (v.declarationComment text simple)) = [] :=
  definitions_of_flat (v.declarationComment_flat text simple) s level

@[simp] theorem phpVariables_definitions (heading : String) (xs : Except Fault (List Variable))
    (s : PageStyle)
    (level : Int) : definitions (allRows s level (v.phpVariables heading xs)) = [] := by
  simp [phpVariables, phpVariable]

@[simp] theorem phpInitializer_definitions (c : Chart) (s : PageStyle) (level : Int) :
    definitions (allRows s level (v.phpInitializer c)) = [] := by
  simp [phpInitializer, phpInitials, phpInitial]

@[simp] theorem pythonConstant_definitions (k : Constant) (s : PageStyle) (level : Int) :
    definitions (allRows s level (v.pythonConstant k)) = [] :=
  definitions_of_flat (v.pythonConstant_flat k) s level

@[simp] theorem pythonConstructor_definitions (c : Chart) (s : PageStyle) (level : Int) :
    definitions (allRows s level (v.pythonConstructor c)) = [] := by
  simp [pythonConstructor, pythonVariables, pythonVariable, Purpose.isConditional]

@[simp] theorem javaConstant_definitions (k : Constant) (s : PageStyle) (level : Int) :
    definitions (allRows s level (v.javaConstant k)) = [] := by
  simp [javaConstant]

@[simp] theorem javaVariables_definitions (heading : String) (xs : List Variable) (s : PageStyle)
    (level : Int) :
    definitions (allRows s level (v.javaVariables heading xs)) = [] := by
  simp [javaVariables, javaVariable]

@[simp] theorem javascriptConstant_definitions (k : Constant) (s : PageStyle) (level : Int) :
    definitions (allRows s level (v.javascriptConstant k)) = [] := by
  simp [javascriptConstant]

@[simp] theorem javascriptVariables_definitions (heading : String) (isInput : Bool)
    (xs : List Variable) (s : PageStyle) (level : Int) :
    definitions (allRows s level (v.javascriptVariables heading isInput xs)) = [] := by
  cases isInput <;> simp [javascriptVariables, javascriptVariable, Purpose.isConditional]

@[simp] theorem golangStruct_definitions (c : Chart) (s : PageStyle) (level : Int) :
    definitions (allRows s level (v.golangStruct c)) = [] := by
  simp [golangStruct, golangFields, golangField]

@[simp] theorem golangInitials_definitions (c : Chart) (s : PageStyle) (level : Int) :
    definitions (allRows s level (v.golangInitials c)) = [] := by
  have hdefault : ∀ x, definitions (allRows s level (v.golangDefault x)) = [] := by
    intro x
    unfold golangDefault
    split <;> simp [golangInitial]
  simp [golangInitials, golangInitial, hdefault]

/-! ### Members -/

/-- A setter in a target language. -/
def setterIn (x : Variable) : Target → List Outline
  | .php => phpSetter x
  | .python => pythonSetter x
  | .java => javaSetter x
  | .javascript => v.javascriptSetter x
  | .golang => v.golangSetter x
  | _ => []

/-- A getter in a target language. -/
def getterIn (x : Variable) : Target → List Outline
  | .php => phpGetter x
  | .python => pythonGetter x
  | .java => javaGetter x
  | .javascript => v.javascriptGetter x
  | .golang => v.golangGetter x
  | _ => []

/-- The setters, getters and methods of a file. -/
def membersIn (c : Chart) (t : Target) : List Outline :=
  t.accessors (given c.inputs fun xs => xs.flatMap (v.setterIn · t))
      (given c.outputs fun xs => xs.flatMap (v.getterIn · t)) ++
    v.methodIn "public" c.main t ++ c.methods.flatMap (v.methodIn "protected" · t)

theorem membersIn_fault_iff (c : Chart) (t : Target) :
    firstFault (v.membersIn c t) = none ↔
      firstFault (given c.inputs fun xs => xs.flatMap (v.setterIn · t)) = none ∧
        firstFault (given c.outputs fun xs => xs.flatMap (v.getterIn · t)) = none ∧
        firstFault (v.methodIn "public" c.main t) = none ∧
        firstFault (c.methods.flatMap (v.methodIn "protected" · t)) = none := by
  unfold membersIn Target.accessors
  split
  · simp only [firstFault_append, Option.or_eq_none_iff, and_assoc, and_left_comm]
  · simp only [firstFault_append, Option.or_eq_none_iff, and_assoc]

end CodeSettings

/-- How deep the setters, getters and methods of a language are: within a class or outside of all
blocks. -/
def Target.memberDepth : Target → Int
  | .javascript | .golang => 0
  | _ => 1

namespace Generator

variable (g : Generator)

/-- The head of a function of the prototype. -/
def prototypeHead (name parameters : String) : String :=
  shown g.className ++ ".prototype." ++ name ++ " = function(" ++ parameters ++ ")"

/-- The head of a function with a receiver. -/
def receiverHead (signature : String) : String :=
  "func (" ++ shown g.owner ++ " *" ++ shown g.className ++ ") " ++ signature

/-- The head of the setter for a name and a type. -/
def setterHead (name type : Option String) : Except Fault String := do
  let word ← CodeSettings.capitalized name
  match g.target with
  | .php => .ok ("public function set" ++ word ++ "($value)")
  | .python => .ok ("def set" ++ word ++ "(self, value)")
  | .java => .ok ("public void set" ++ word ++ "(" ++ shown type ++ " value)")
  | .javascript => .ok (g.prototypeHead ("set" ++ word) "value")
  | .golang => do
    let type ← CodeSettings.golangType type
    .ok (g.receiverHead ("Set" ++ word ++ "(value " ++ type ++ ")"))
  | _ => .error .abstractTarget

/-- The head of the getter for a name and a type. -/
def getterHead (name type : Option String) : Except Fault String := do
  let word ← CodeSettings.capitalized name
  match g.target with
  | .php => .ok ("public function get" ++ word ++ "()")
  | .python => .ok ("def get" ++ word ++ "(self)")
  | .java => .ok ("public " ++ shown type ++ " get" ++ word ++ "()")
  | .javascript => .ok (g.prototypeHead ("get" ++ word) "")
  | .golang => do
    let type ← CodeSettings.golangType type
    .ok (g.receiverHead ("Get" ++ word ++ "() " ++ type))
  | _ => .error .abstractTarget

/-- The head of the method of a name. -/
def methodHead (visibility : String) (name : Option String) : String :=
  match g.target with
  | .php => visibility ++ " function " ++ shown name ++ "()"
  | .python => "def " ++ shown name ++ "(self)"
  | .java => visibility ++ " void " ++ shown name ++ "()"
  | .javascript => g.prototypeHead (shown name) ""
  | .golang => g.receiverHead (shown name ++ "()")
  | _ => ""

/-- The heads of the class and its constructor, each with its depth. -/
def frame : List (Int × String) :=
  match g.target with
  | .php =>
    [(0, "class " ++ shown g.className), (1, "public function __construct()"),
      (1, "protected function initialize()")]
  | .python => [(0, "class " ++ shown g.className), (1, "def __init__(self, **kwargs)")]
  | .java => [(0, "public class " ++ shown g.className)]
  | .javascript => [(0, "function " ++ shown g.className ++ "(params)")]
  | .golang =>
    [(0, "type " ++ shown g.className ++ " struct"),
      (0, "func New" ++ shown g.className ++ "() *" ++ shown g.className),
      (1, "return &" ++ shown g.className)]
  | _ => []

/-- A head around a text that depends on two results. -/
theorem head_bind (x y : Except Fault String) (head : String → String)
    (f : String → String → String) :
    (x >>= fun a => y >>= fun b => .ok (head (f a b))) =
      (x >>= fun a => y >>= fun b => .ok (f a b)) >>= fun text => .ok (head text) := by
  cases x <;> cases y <;> rfl

theorem setterIn_defines (ht : g.target ∈ Target.languages) (c : Chart) (x : Variable) :
    Defines ((g.codeSettings c).setterIn x g.target) (g.setterHead x.name x.type) := by
  simp only [Target.languages, List.mem_cons, List.not_mem_nil, or_false] at ht
  unfold setterHead
  rcases ht with h | h | h | h | h <;> rw [h]
  · exact Defines.accessor rfl _ _
  · exact Defines.accessor rfl _ _
  · exact Defines.accessor rfl _ _
  · exact Defines.accessor rfl _ _
  · rw [head_bind _ _ g.receiverHead fun word type => "Set" ++ word ++ "(value " ++ type ++ ")"]
    exact Defines.accessor rfl _ _

theorem getterIn_defines (ht : g.target ∈ Target.languages) (c : Chart) (x : Variable) :
    Defines ((g.codeSettings c).getterIn x g.target) (g.getterHead x.name x.type) := by
  simp only [Target.languages, List.mem_cons, List.not_mem_nil, or_false] at ht
  unfold getterHead
  rcases ht with h | h | h | h | h <;> rw [h]
  · exact Defines.accessor rfl _ _
  · exact Defines.accessor rfl _ _
  · exact Defines.accessor rfl _ _
  · exact Defines.accessor rfl _ _
  · rw [head_bind _ _ g.receiverHead fun word type => "Get" ++ word ++ "() " ++ type]
    exact Defines.accessor rfl _ _

theorem methodIn_definitions (ht : g.target ∈ Target.languages) (c : Chart)
    (visibility : String) (m : Method) (s : PageStyle) (level : Int) :
    definitions (allRows s level ((g.codeSettings c).methodIn visibility m g.target)) =
      [(level, g.methodHead visibility m.name ++ s.opening)] := by
  have hblank : [Outline.blank].all isFlat = true := rfl
  have hnone : ([] : List Outline).all isFlat = true := rfl
  have hcomment := (g.codeSettings c).methodComment_flat m.comment
  have hfront : (.blank :: (g.codeSettings c).methodComment m.comment).all isFlat = true := hcomment
  simp only [Target.languages, List.mem_cons, List.not_mem_nil, or_false] at ht
  unfold methodHead
  rcases ht with h | h | h | h | h <;> rw [h]
  · exact CodeSettings.method_definitions _ hfront hnone ..
  · exact CodeSettings.method_definitions _ hblank hcomment ..
  · exact CodeSettings.method_definitions _ hfront hnone ..
  · exact CodeSettings.method_definitions _ hfront hnone ..
  · exact CodeSettings.method_definitions _ hfront hnone ..

/-- A file defines its frame and its members. -/
theorem file_definitions (ht : g.target ∈ Target.languages) (c : Chart) (s : PageStyle)
    (level : Int) :
    definitions (allRows s level (g.file c)) =
      (g.frame.map fun (depth, head) => (level + depth, head ++ s.opening)) ++
        definitions
          (allRows s (level + g.target.memberDepth) ((g.codeSettings c).membersIn c g.target)) := by
  have hplain : Purpose.plain.isConditional = false := rfl
  have hname : (g.codeSettings c).className = shown g.className := rfl
  have hconstants : ∀ f : Constant → List (Int × String), (∀ k, f k = []) →
      c.constants.flatMap f = [] :=
    fun f hf => List.flatMap_eq_nil_iff.2 fun k _ => hf k
  have hplace : ∀ place text : String,
      definitions (allRows s level (if place = "" then [] else [.text text, .blank])) = [] := by
    intro place text
    split <;> simp
  simp only [Target.languages, List.mem_cons, List.not_mem_nil, or_false] at ht
  unfold file frame
  -- Headings, constants, variables and the bodies of constructors define nothing.
  rcases ht with h | h | h | h | h <;> rw [h] <;>
    simp only [CodeSettings.membersIn, Target.accessors, CodeSettings.setterIn,
      CodeSettings.getterIn, CodeSettings.methodIn, Target.memberDepth]
  · simp [CodeSettings.phpFile, hplain, hname, hplace]
  · simp [CodeSettings.pythonFile, hplain, hname, hconstants]
  · simp [CodeSettings.javaFile, hplain, hname, hconstants, hplace]
  · simp [CodeSettings.javascriptFile, hplain, hname, hconstants]
  · simp [CodeSettings.golangFile, hplain, hname]

/-- A file without a fault has none in its members. -/
theorem membersIn_fault (ht : g.target ∈ Target.languages) {c : Chart}
    (hok : firstFault (g.file c) = none) :
    firstFault ((g.codeSettings c).membersIn c g.target) = none := by
  simp only [Target.languages, List.mem_cons, List.not_mem_nil, or_false] at ht
  unfold file at hok
  rw [CodeSettings.membersIn_fault_iff]
  -- In every language the members are the last parts of the class or of the file.
  rcases ht with h | h | h | h | h <;> rw [h] at hok ⊢
  · simp only [CodeSettings.phpFile, firstFault_append, firstFault_cons, Option.or_eq_none_iff,
      fault?] at hok
    obtain ⟨-, -, -, -, ⟨⟨⟨⟨-, hgetters⟩, hsetters⟩, hmain⟩, hmethods⟩, -⟩ := hok
    exact ⟨hsetters, hgetters, hmain, hmethods⟩
  · simp only [CodeSettings.pythonFile, firstFault_append, firstFault_cons, Option.or_eq_none_iff,
      fault?] at hok
    obtain ⟨-, -, -, -, ⟨⟨⟨⟨-, hsetters⟩, hgetters⟩, hmain⟩, hmethods⟩, -⟩ := hok
    exact ⟨hsetters, hgetters, hmain, hmethods⟩
  · simp only [CodeSettings.javaFile, firstFault_append, firstFault_cons, Option.or_eq_none_iff,
      fault?] at hok
    obtain ⟨-, -, -, ⟨⟨⟨⟨-, hsetters⟩, hgetters⟩, hmain⟩, hmethods⟩, -⟩ := hok
    exact ⟨hsetters, hgetters, hmain, hmethods⟩
  · simp only [CodeSettings.javascriptFile, firstFault_append, firstFault_cons,
      Option.or_eq_none_iff, fault?] at hok
    obtain ⟨⟨⟨⟨⟨-, hsetters⟩, hgetters⟩, hmain⟩, hmethods⟩, -⟩ := hok
    exact ⟨hsetters, hgetters, hmain, hmethods⟩
  · simp only [CodeSettings.golangFile, firstFault_append, firstFault_cons, Option.or_eq_none_iff,
      fault?] at hok
    obtain ⟨⟨⟨⟨⟨-, hsetters⟩, hgetters⟩, hmain⟩, hmethods⟩, -⟩ := hok
    exact ⟨hsetters, hgetters, hmain, hmethods⟩

/-- The members define one setter for every input, one getter for every output and one head for
every method. -/
theorem membersIn_definitions (ht : g.target ∈ Target.languages) {c : Chart}
    (hok : firstFault ((g.codeSettings c).membersIn c g.target) = none) :
    ∃ inputs outputs setters getters, c.inputs = .ok inputs ∧ c.outputs = .ok outputs ∧
      (inputs.mapM fun x => g.setterHead x.name x.type) = .ok setters ∧
      (outputs.mapM fun x => g.getterHead x.name x.type) = .ok getters ∧
      ∀ s level, definitions (allRows s level ((g.codeSettings c).membersIn c g.target)) =
        (g.target.accessors setters getters ++
          g.methodHead "public" c.main.name :: c.methods.map fun m =>
            g.methodHead "protected" m.name).map
            fun head => (level, head ++ s.opening) := by
  obtain ⟨hsetters, hgetters, -, -⟩ := (CodeSettings.membersIn_fault_iff ..).1 hok
  rw [firstFault_given] at hsetters hgetters
  obtain ⟨inputs, hinputs, hsetters⟩ := hsetters
  obtain ⟨outputs, houtputs, hgetters⟩ := hgetters
  obtain ⟨setters, hsetterHeads, hsetters⟩ := Defines.flatMap (g.setterIn_defines ht c) hsetters
  obtain ⟨getters, hgetterHeads, hgetters⟩ := Defines.flatMap (g.getterIn_defines ht c) hgetters
  refine ⟨inputs, outputs, setters, getters, hinputs, houtputs, hsetterHeads, hgetterHeads,
    fun s level => ?_⟩
  have hmain := g.methodIn_definitions ht c "public" c.main s level
  have hmethods : definitions (allRows s level (c.methods.flatMap
      ((g.codeSettings c).methodIn "protected" · g.target))) =
        c.methods.map fun m => (level, g.methodHead "protected" m.name ++ s.opening) := by
    simp only [definitions_flatMap, g.methodIn_definitions ht c, List.map_eq_flatMap]
  rw [CodeSettings.membersIn, allRows_append, allRows_append, definitions_append,
    definitions_append, hmain, hmethods]
  unfold Target.accessors
  split
  · rw [hinputs, houtputs, given, given, allRows_append, definitions_append, hsetters, hgetters]
    simp
  · rw [hinputs, houtputs, given, given, allRows_append, definitions_append, hsetters, hgetters]
    simp

end Generator

namespace Chart

theorem repairTree_attribute? (n : Node) (base : String) :
    (repairTree n).attribute? base = n.attribute? base := by
  cases n <;> rfl

theorem variableOf_attributes {entry : Option String × Node} {x : Variable}
    (h : variableOf entry = .ok x) :
    (x.name, x.type) = (entry.2.attribute? "name", entry.2.attribute? "type") := by
  obtain ⟨default, -, hx⟩ := bind_eq_ok h
  cases hx
  rfl

/-- Variables have the names and types of their elements. -/
theorem variables_attributes {entries : List (Option String × Node)} {xs : List Variable}
    (h : entries.mapM variableOf = .ok xs) :
    xs.map (fun x => (x.name, x.type)) =
      entries.map fun entry => (entry.2.attribute? "name", entry.2.attribute? "type") := by
  induction entries generalizing xs with
  | nil =>
    cases h
    rfl
  | cons entry entries ih =>
    rw [List.mapM_cons] at h
    obtain ⟨x, hfirst, h⟩ := bind_eq_ok h
    obtain ⟨ys, hrest, h⟩ := bind_eq_ok h
    cases h
    rw [List.map_cons, List.map_cons, ih hrest, variableOf_attributes hfirst]

/-- The same for the elements of a document, before alternatives are repaired. -/
theorem variablesAt_attributes {root : Node} {group kind : String} {xs : List Variable}
    (hif : "IF" ∉ ["VARIABLES", group, kind]) (helse : "ELSE" ∉ ["VARIABLES", group, kind])
    (h : variablesAt (repairTree root) group kind = .ok xs) :
    xs.map (fun x => (x.name, x.type)) = (elementsAt root ["VARIABLES", group, kind]).map fun n =>
      (n.attribute? "name", n.attribute? "type") := by
  have helements := elementsAt_repairTree _ hif helse root
  rw [variables_attributes h]
  calc (below (repairTree root) ["VARIABLES", group, kind]).map
        (fun entry => (entry.2.attribute? "name", entry.2.attribute? "type"))
      = (elementsAt (repairTree root) ["VARIABLES", group, kind]).map
          (fun n => (n.attribute? "name", n.attribute? "type")) := by
            simp [elementsAt, Function.comp_def]
    _ = (elementsAt root ["VARIABLES", group, kind]).map
          (fun n => (n.attribute? "name", n.attribute? "type")) := by
        simp [helements, Function.comp_def, repairTree_attribute?]

/-- The heads for variables are those for their elements. -/
theorem mapM_variablesAt {root : Node} {group kind : String} {xs : List Variable}
    (hif : "IF" ∉ ["VARIABLES", group, kind]) (helse : "ELSE" ∉ ["VARIABLES", group, kind])
    (h : variablesAt (repairTree root) group kind = .ok xs)
    (head : Option String → Option String → Except Fault String) :
    (xs.mapM fun x => head x.name x.type) =
      (elementsAt root ["VARIABLES", group, kind]).mapM fun n =>
        head (n.attribute? "name") (n.attribute? "type") := by
  have hattributes :=
    congrArg (List.mapM fun view => head view.1 view.2) (variablesAt_attributes hif helse h)
  rwa [List.mapM_map, List.mapM_map] at hattributes

theorem methodOf_names (root : Node) :
    ((below (repairTree root) ["METHODS", "METHOD"]).map methodOf).map Method.name =
      (elementsAt root ["METHODS", "METHOD"]).map (·.attribute? "name") := by
  have helements := elementsAt_repairTree ["METHODS", "METHOD"] (by decide) (by decide) root
  calc ((below (repairTree root) ["METHODS", "METHOD"]).map methodOf).map Method.name
      = (elementsAt (repairTree root) ["METHODS", "METHOD"]).map (·.attribute? "name") := by
        simp [elementsAt, Function.comp_def, methodOf]
    _ = (elementsAt root ["METHODS", "METHOD"]).map (·.attribute? "name") := by
        simp [helements, Function.comp_def, repairTree_attribute?]

/-- The parts of a document that make up the interface of its chart. -/
theorem ofNode_interface {root : Node} {c : Chart} (h : ofNode root = .ok c) :
    c.inputs = variablesAt (repairTree root) "INPUTS" "INPUT" ∧
      c.outputs = variablesAt (repairTree root) "OUTPUTS" "OUTPUT" ∧ c.main.name = some "MAIN" ∧
      c.methods.map Method.name =
        (elementsAt root ["METHODS", "METHOD"]).map (·.attribute? "name") := by
  unfold ofNode at h
  simp only at h
  split at h
  · cases h
  · cases h
    exact ⟨rfl, rfl, rfl, methodOf_names root⟩

end Chart

namespace Generator

/-- The head of the setter for an element. -/
def setterOf (g : Generator) (n : Node) : Except Fault String :=
  g.setterHead (n.attribute? "name") (n.attribute? "type")

/-- The head of the getter for an element. -/
def getterOf (g : Generator) (n : Node) : Except Fault String :=
  g.getterHead (n.attribute? "name") (n.attribute? "type")

/-! What is learned about types changes no head. -/

section Informed

variable (g : Generator) (c : Chart)

@[simp] theorem informed_target : (g.informed c).target = g.target := by
  unfold informed
  split <;> rfl

@[simp] theorem informed_frame : (g.informed c).frame = g.frame := by
  unfold informed
  split <;> rfl

@[simp] theorem informed_setterHead : (g.informed c).setterHead = g.setterHead := by
  unfold informed
  split <;> rfl

@[simp] theorem informed_getterHead : (g.informed c).getterHead = g.getterHead := by
  unfold informed
  split <;> rfl

@[simp] theorem informed_methodHead : (g.informed c).methodHead = g.methodHead := by
  unfold informed
  split <;> rfl

end Informed

end Generator

/-- A file that is written to its end is the text of its rows. What these define is the frame of the
file, one setter for every input and one getter for every output of the document, each in the order
of the document, then the main method, and then one method for every further method of the document
in its order; and nothing else. -/
theorem interface_in_document_order {root : Node} {c : Chart} (hc : Chart.ofNode root = .ok c)
    {g : Generator}
    (ht : g.target ∈ Target.languages) (hlevel : 0 ≤ g.page.level) (hok : (g.generate c).2 = none) :
    (g.generate c).1.page = g.page.appended (Line.textOf g.page.style ((g.rows c).map Row.toLine)) ∧
      ∃ setters getters,
        (elementsAt root ["VARIABLES", "INPUTS", "INPUT"]).mapM g.setterOf = .ok setters ∧
        (elementsAt root ["VARIABLES", "OUTPUTS", "OUTPUT"]).mapM g.getterOf = .ok getters ∧
        definitions (g.rows c) =
          (g.frame ++ (g.target.accessors setters getters ++ g.methodHead "public" (some "MAIN") ::
            (elementsAt root ["METHODS", "METHOD"]).map fun n =>
              g.methodHead "protected" (n.attribute? "name")).map
              fun head => (g.target.memberDepth, head)).map
                fun (depth, head) => (g.page.level + depth, head ++ g.page.style.opening) := by
  refine ⟨g.generate_rows hlevel hok, ?_⟩
  obtain ⟨hinputs, houtputs, hmain, hmethods⟩ := ofNode_interface hc
  have ht' : (g.informed c).target ∈ Target.languages := by rwa [g.informed_target c]
  rw [g.generate_fault c] at hok
  obtain ⟨inputs, outputs, setters, getters, hinputs', houtputs', hsetters, hgetters, hmembers⟩ :=
    (g.informed c).membersIn_definitions ht' ((g.informed c).membersIn_fault ht' hok)
  rw [g.informed_setterHead c] at hsetters
  rw [g.informed_getterHead c] at hgetters
  refine ⟨setters, getters, ?_, ?_, ?_⟩
  · rw [← hsetters]
    exact (mapM_variablesAt (by decide) (by decide) (hinputs.symm.trans hinputs') g.setterHead).symm
  · rw [← hgetters]
    exact (mapM_variablesAt (by decide) (by decide) (houtputs.symm.trans houtputs')
      g.getterHead).symm
  · have hheads : (c.methods.map fun m => g.methodHead "protected" m.name) =
        (elementsAt root ["METHODS", "METHOD"]).map fun n =>
          g.methodHead "protected" (n.attribute? "name") := by
      simpa [Function.comp_def] using congrArg (List.map (g.methodHead "protected")) hmethods
    rw [Generator.rows, (g.informed c).file_definitions ht', hmembers, hmain, g.informed_target c,
      g.informed_frame c, g.informed_methodHead c, hheads]
    simp [Function.comp_def]

/-- A document with two inputs, an output and two methods besides the main one. -/
def twoInputs : Node :=
  let plain (name : String) (children : List Node) :=
    Node.element (Name.plain name) [] none children
  let entry (name id type : String) :=
    Node.element (Name.plain name) [(Name.plain "name", id), (Name.plain "type", type)] none []
  let method (id : String) (children : List Node) :=
    Node.element (Name.plain "METHOD") [(Name.plain "name", id)] none children
  .element (Name.plain "PAP") [(Name.plain "name", "Tax")] none
    [plain "VARIABLES"
        [plain "INPUTS" [entry "INPUT" "RE4" "BigDecimal", entry "INPUT" "af" "int"],
          plain "OUTPUTS" [entry "OUTPUT" "LSTLZZ" "int"]],
      plain "METHODS"
        [method "MLST" [plain "ELSE"
            [.element (Name.plain "EVAL") [(Name.plain "exec", "LSTLZZ = af")] none []]],
          plain "MAIN" [], method "MPARA" []]]

/-- The chart of `twoInputs`. -/
def twoInputsChart : Chart :=
  { name := some "Tax"
    main := { comment := none, name := some "MAIN", body := [] }
    methods :=
      [{ comment := none, name := some "MLST",
         body := [.alternative none [.eval none (some "LSTLZZ = af")]] },
        { comment := none, name := some "MPARA", body := [] }]
    inputs :=
      .ok [⟨some "RE4", some "BigDecimal", some "new BigDecimal(0)", none⟩,
        ⟨some "af", some "int", some "0", none⟩]
    outputs := .ok [⟨some "LSTLZZ", some "int", some "0", none⟩]
    internals := .ok []
    constants := [] }

theorem twoInputs_chart : Chart.ofNode twoInputs = .ok twoInputsChart := by
  have hrepair : repairTree twoInputs = twoInputs := by
    simp [twoInputs, repairTree, repaired, Node.isNamed, Name.plain]
  rw [ofNode, hrepair]
  rfl

/-- In PHP the getters of `twoInputs` come first, and the alternative in its first method defines
nothing. -/
theorem twoInputs_interface :
    let g := Generator.new .php {} twoInputsChart
    (g.generate twoInputsChart).2 = none ∧
      definitions (g.rows twoInputsChart) =
        [(0, "class Tax \x7b"), (1, "public function __construct() \x7b"),
          (1, "protected function initialize() \x7b"), (1, "public function getLstlzz() \x7b"),
          (1, "public function setRe4($value) \x7b"),
          (1, "public function setAf($value) \x7b"), (1, "public function MAIN() \x7b"),
          (1, "protected function MLST() \x7b"), (1, "protected function MPARA() \x7b")] := by
  intro g
  have hok : (g.generate twoInputsChart).2 = none := by decide +kernel
  obtain ⟨-, setters, getters, hsetters, hgetters, hdefinitions⟩ :=
    interface_in_document_order twoInputs_chart (g := g) (by decide) (by decide) hok
  have hsetters' : setters = ["public function setRe4($value)", "public function setAf($value)"] :=
    Except.ok.inj (hsetters.symm.trans rfl)
  have hgetters' : getters = ["public function getLstlzz()"] :=
    Except.ok.inj (hgetters.symm.trans rfl)
  refine ⟨hok, hdefinitions.trans ?_⟩
  rw [hsetters', hgetters']
  decide +kernel

end TaxFlow

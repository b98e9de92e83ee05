import Mathlib.Data.List.TakeWhile
import TaxFlow.Proofs.Interface

/-!
# Setters by name

The constructors of Python and JavaScript take inputs by name and hand each of them to a setter,
which is found by its name in the file. Of several definitions of a name the last one counts. It is
the setter of the input itself exactly if no later input has the same capitalised name and no method
is called like the setter.
-/
namespace TaxFlow

open Chart Outline

/-- The name of the setter for a variable. -/
def setterName (name : String) : String := "set" ++ Text.capitalize name

/-- The definitions among rows, each with its head and the lines of its block. -/
def blocksOf : List Row → List (String × List String)
  | [] => []
  | r :: rows =>
    if r.isDefinition then
      (r.content, (rows.takeWhile fun q => r.level < q.level).map (·.content)) :: blocksOf rows
    else blocksOf rows

theorem blocksOf_heads (rows : List Row) :
    (blocksOf rows).map Prod.fst = (definitions rows).map Prod.snd := by
  induction rows with
  | nil => rfl
  | cons r rows ih =>
    rw [blocksOf, definitions_cons]
    split <;> simp [ih]

theorem blocksOf_of_definitions {rows : List Row} (h : definitions rows = []) :
    blocksOf rows = [] := by
  have hheads := blocksOf_heads rows
  rw [h] at hheads
  simpa using hheads

theorem takeWhile_append_stop {α : Type} {p : α → Bool} (as : List α) {bs : List α}
    (h : ∀ b ∈ bs.head?, p b = false) :
    (as ++ bs).takeWhile p = as.takeWhile p := by
  induction as with
  | nil =>
    cases bs with
    | nil => rfl
    | cons b bs => simp [h b rfl]
  | cons a as ih => simp only [List.cons_append, List.takeWhile_cons, ih]

/-- Blocks do not reach beyond a row that stands further out. -/
theorem blocksOf_append {rows rows' : List Row} {level : Int} (hrows : ∀ r ∈ rows, level ≤ r.level)
    (hnext : ∀ q ∈ rows'.head?, q.level ≤ level) :
    blocksOf (rows ++ rows') = blocksOf rows ++ blocksOf rows' := by
  induction rows with
  | nil => rfl
  | cons r rows ih =>
    obtain ⟨hr, hrows⟩ := List.forall_mem_cons.1 hrows
    have hstop : ∀ q ∈ rows'.head?, decide (r.level < q.level) = false := fun q hq => by
      have hq' := hnext q hq
      simp only [decide_eq_false_iff_not]
      omega
    rw [List.cons_append, blocksOf, blocksOf, takeWhile_append_stop rows hstop, ih hrows]
    split <;> rfl

namespace Outline

variable {s : PageStyle} {level : Int} {os os' : List Outline}

mutual

theorem level_le_of_mem_rows (s : PageStyle) (level : Int) (r : Row) :
    ∀ o : Outline, r ∈ o.rows s level →
    level - 1 ≤ r.level ∧ (o.isOutdented = false → level ≤ r.level)
  | .line .., hr => by
    simp only [rows, List.mem_singleton] at hr
    subst hr
    exact ⟨Int.sub_le_self level (by decide), fun _ => Int.le_refl level⟩
  | .outdented .., hr => by
    simp only [rows, List.mem_singleton] at hr
    subst hr
    exact ⟨Int.le_refl _, fun h => by cases h⟩
  | .halt _, hr => by simp [rows] at hr
  | .block purpose head body, hr => by
    have hlevel : level ≤ r.level := by
      simp only [rows, List.cons_append, List.mem_cons, List.mem_append] at hr
      rcases hr with rfl | hr | hr
      · exact Int.le_refl level
      · have hbody := level_le_of_mem_allRows s (level + 1) r body hr
        omega
      · obtain ⟨l, hl, rfl⟩ := List.mem_map.1 hr
        exact Int.le_of_eq (mem_closingLines hl).1.symm
    exact ⟨by omega, fun _ => hlevel⟩

theorem level_le_of_mem_allRows (s : PageStyle) (level : Int) (r : Row) : ∀ os : List Outline,
    r ∈ allRows s level os → level - 1 ≤ r.level
  | [], hr => by simp at hr
  | o :: os, hr => by
    rw [allRows_cons, List.mem_append] at hr
    rcases hr with hr | hr
    · exact (level_le_of_mem_rows s level r o hr).1
    · exact level_le_of_mem_allRows s level r os hr

end

theorem Flush.level_le (h : Flush os) : ∀ r ∈ allRows s level os, level ≤ r.level := by
  induction os with
  | nil => simp
  | cons o os ih =>
    intro r hr
    rw [allRows_cons, List.mem_append] at hr
    rcases hr with hr | hr
    · exact (level_le_of_mem_rows s level r o hr).2 (h o List.mem_cons_self)
    · exact ih (fun o' ho' => h o' (List.mem_cons_of_mem o ho')) r hr

theorem level_of_mem_head? (s : PageStyle) (level : Int) (os : List Outline) :
    ∀ q ∈ (allRows s level os).head?, q.level ≤ level := by
  induction os with
  | nil => simp
  | cons o os ih =>
    cases o with
    | line purpose text => simp [rows]
    | outdented purpose text =>
      simp only [allRows_cons, rows, List.cons_append, List.head?_cons, Option.mem_def,
        Option.some.injEq, forall_eq']
      exact Int.sub_le_self level (by decide)
    | block purpose head body => simp [rows]
    | halt fault => simpa [rows] using ih

theorem Flush.blocksOf_append (h : Flush os) :
    blocksOf (allRows s level (os ++ os')) =
      blocksOf (allRows s level os) ++ blocksOf (allRows s level os') := by
  rw [allRows_append]
  exact TaxFlow.blocksOf_append h.level_le (level_of_mem_head? s level os')

/-- A block that defines something, and what is defined within it. -/
theorem blocksOf_block {purpose : Purpose} (hp : purpose.isConditional = false) (head : String)
    (os : List Outline) :
    blocksOf (allRows s level [.block purpose head os]) =
      (head ++ s.opening,
        ((allRows s (level + 1) os).takeWhile fun q => level < q.level).map (·.content)) ::
        blocksOf (allRows s (level + 1) os) := by
  have hinner : ∀ r ∈ allRows s (level + 1) os, level ≤ r.level := fun r hr => by
    have hlevel := level_le_of_mem_allRows s (level + 1) r os hr
    omega
  have hclosing : ∀ q ∈ (closingLines s level).map Line.row, q.level = level ∧ q.opens = false := by
    intro q hq
    obtain ⟨l, hl, rfl⟩ := List.mem_map.1 hq
    exact ⟨(mem_closingLines hl).1, rfl⟩
  have hstop : ∀ q ∈ ((closingLines s level).map Line.row).head?, q.level = level := fun q hq =>
    (hclosing q (List.mem_of_mem_head? hq)).1
  have hnone := blocksOf_of_definitions (definitions_of_closed fun q hq => (hclosing q hq).2)
  rw [allRows_cons, allRows_nil, List.append_nil, rows, List.cons_append, blocksOf,
    if_pos (by simp [Row.isDefinition, hp]), takeWhile_append_stop _ fun q hq => by
      simp [hstop q hq],
    TaxFlow.blocksOf_append hinner fun q hq => Int.le_of_eq (hstop q hq), hnone, List.append_nil]

/-- The contents of the rows of outlines. -/
def contents (s : PageStyle) (level : Int) (os : List Outline) : List String :=
  (allRows s level os).map (·.content)

theorem Flush.blocksOf_block (h : Flush os) {purpose : Purpose} (hp : purpose.isConditional = false)
    (head : String) :
    blocksOf (allRows s level [.block purpose head os]) =
      (head ++ s.opening, contents s (level + 1) os) :: blocksOf (allRows s (level + 1) os) := by
  rw [Outline.blocksOf_block hp, List.takeWhile_eq_self_iff.2 fun r hr => by
    simpa using Int.lt_of_add_one_le (h.level_le r hr)]
  rfl

theorem flush_of_flat (h : os.all isFlat = true) : Flush os := by
  intro o ho
  have hflat := List.all_eq_true.1 h o ho
  cases o with
  | line | halt => rfl
  | outdented | block => cases hflat

theorem contents_append (s : PageStyle) (level : Int) (os os' : List Outline) :
    contents s level (os ++ os') = contents s level os ++ contents s level os' := by
  simp [contents]

theorem contents_mono (h : os <:+: os') : contents s level os <:+: contents s level os' := by
  obtain ⟨before, after, rfl⟩ := h
  rw [contents_append, contents_append]
  exact List.infix_append ..

theorem infix_flatMap {α : Type} (f : α → List Outline) {a : α} {as : List α} (ha : a ∈ as) :
    f a <:+: as.flatMap f := by
  rw [List.flatMap_def]
  exact List.infix_of_mem_flatten (List.mem_map_of_mem ha)

/-- An empty line and a block around a single line. -/
theorem blocksOf_accessor {purpose : Purpose} (hp : purpose.isConditional = false)
    (head text : String) :
    blocksOf (allRows s level [.blank, .block purpose head [.text text]]) =
      [(head ++ s.opening, [text])] := by
  have hblank : Flush [.blank] := .of_all rfl
  have htext : Flush [.text text] := .of_all rfl
  have hsplit : [.blank, .block purpose head [.text text]] =
      [Outline.blank] ++ [Outline.block purpose head [.text text]] := rfl
  rw [hsplit, hblank.blocksOf_append, htext.blocksOf_block hp, blocksOf_of_definitions (by simp),
    blocksOf_of_definitions (by simp)]
  simp [contents, Outline.text, rows]

theorem blocksOf_flatMap {α : Type} {f : α → List Outline}
    {block : α → String × List String} {as : List α}
    (hflush : ∀ a, Flush (f a)) (h : ∀ a ∈ as, blocksOf (allRows s level (f a)) = [block a]) :
    blocksOf (allRows s level (as.flatMap f)) = as.map block := by
  induction as with
  | nil => simp [blocksOf]
  | cons a as ih =>
    obtain ⟨ha, has⟩ := List.forall_mem_cons.1 h
    rw [List.flatMap_cons, (hflush a).blocksOf_append, ha, ih has]
    rfl

end Outline

namespace CodeSettings

variable (v : CodeSettings) {s : PageStyle} {level : Int} {x : Variable}

theorem pythonVariable_flush (isInput : Bool) (x : Variable) :
    Flush (v.pythonVariable isInput x) := by
  refine (v.declarationComment_flush x.comment true).append (.given (fun _ => .cons rfl ?_) _)
  cases isInput <;> exact .of_all rfl

theorem pythonConstructor_flush (c : Chart) : Flush (v.pythonConstructor c) := by
  have hkind : ∀ heading isInput xs, Flush (v.pythonVariables heading isInput xs) :=
    fun _ isInput xs =>
    .cons rfl (.append (.flatMap (v.pythonVariable_flush isInput) xs) (.of_all rfl))
  exact .given (fun _ => .append (.append (hkind _ _ _) (hkind _ _ _)) (hkind _ _ _)) _

theorem javascriptVariable_flush (isInput : Bool) (x : Variable) :
    Flush (v.javascriptVariable isInput x) := by
  refine (v.declarationComment_flush x.comment false).append (.given (fun _ => .cons rfl ?_) _)
  cases isInput <;> exact .of_all rfl

theorem javascriptVariables_flush (heading : String) (isInput : Bool) (xs : List Variable) :
    Flush (v.javascriptVariables heading isInput xs) :=
  .cons rfl (.cons rfl (.flatMap (v.javascriptVariable_flush isInput) xs))

theorem javascriptConstant_flush (k : Constant) : Flush (v.javascriptConstant k) :=
  (v.declarationComment_flush k.comment false).append (.given (fun _ => .of_all rfl) _)

/-- An input that is given by name is handed to the setter of its name. -/
theorem pythonVariable_call (s : PageStyle) (level : Int)
    (hok : firstFault (v.pythonVariable true x) = none) :
    ["if \"" ++ shown x.name ++ "\" in kwargs" ++ s.opening,
      "self." ++ setterName (shown x.name) ++ "(kwargs[\"" ++ shown x.name ++ "\"])"] <:+:
        contents s level (v.pythonVariable true x) := by
  simp only [pythonVariable, firstFault_append, Option.or_eq_none_iff, firstFault_given] at hok
  obtain ⟨-, default, hdefault, hok⟩ := hok
  cases hname : x.name with
  | none => simp [hname, capitalized, given, fault?, Outline.text] at hok
  | some name =>
    refine ⟨contents s level (v.declarationComment x.comment true) ++
      ["self." ++ name ++ " = " ++ default], ((closingLines s level).map Line.row).map (·.content),
      ?_⟩
    simp [pythonVariable, contents, hdefault, hname, capitalized, given, Outline.text, rows,
      setterName, shown, ← String.append_assoc]

theorem javascriptVariable_call (s : PageStyle) (level : Int)
    (hok : firstFault (v.javascriptVariable true x) = none) :
    ["if (params[\"" ++ shown x.name ++ "\"] !== undefined)" ++ s.opening,
      "this." ++ setterName (shown x.name) ++ "(params[\"" ++ shown x.name ++ "\"]);"] <:+:
        contents s level (v.javascriptVariable true x) := by
  simp only [javascriptVariable, firstFault_append, Option.or_eq_none_iff, firstFault_given] at hok
  obtain ⟨-, default, hdefault, hok⟩ := hok
  cases hname : x.name with
  | none => simp [hname, capitalized, given, fault?, Outline.text] at hok
  | some name =>
    refine ⟨contents s level (v.declarationComment x.comment false) ++
      ["this." ++ name ++ " = " ++ default ++ ";"],
      ((closingLines s level).map Line.row).map (·.content), ?_⟩
    simp [javascriptVariable, contents, hdefault, hname, capitalized, given, Outline.text, rows,
      setterName, shown, ← String.append_assoc]

/-- The constructor of a chart in Python or JavaScript. -/
def constructorIn (v : CodeSettings) (c : Chart) (t : Target) : List Outline :=
  if t = .python then v.pythonConstructor c
  else given c.allVariables fun (inputs, outputs, internals) =>
    v.javascriptVariables "Input variables" true inputs ++
    v.javascriptVariables "Output variables" false outputs ++
    v.javascriptVariables "Internal variables" false internals

theorem constructorIn_flush (c : Chart) (t : Target) : Flush (v.constructorIn c t) := by
  unfold constructorIn
  split
  · exact v.pythonConstructor_flush c
  · exact .given (fun _ =>
      .append (.append (v.javascriptVariables_flush _ _ _) (v.javascriptVariables_flush _ _ _))
      (v.javascriptVariables_flush _ _ _)) _

theorem constructorIn_definitions (c : Chart) (t : Target) :
    definitions (allRows s level (v.constructorIn c t)) = [] := by
  unfold constructorIn
  split <;> simp

/-- The getters and the methods of a file. -/
def furtherIn (v : CodeSettings) (c : Chart) (t : Target) : List Outline :=
  given c.outputs (fun xs => xs.flatMap (v.getterIn · t)) ++ v.methodIn "public" c.main t ++
    c.methods.flatMap (v.methodIn "protected" · t)

end CodeSettings

section Endings

/-- Texts with endings of which none is a part of another are equal only if both parts are. -/
theorem append_inj_of_endings {endings : List String}
    (hfree : ∀ p ∈ endings, ∀ q ∈ endings, p.toList <:+ q.toList → p = q) {a b p q : String}
    (hp : p ∈ endings) (hq : q ∈ endings) (h : a ++ p = b ++ q) : a = b ∧ p = q := by
  have hlists : a.toList ++ p.toList = b.toList ++ q.toList := by
    rw [← String.toList_append, ← String.toList_append, h]
  have hp' : p.toList <:+ b.toList ++ q.toList := hlists ▸ List.suffix_append _ _
  have hsame : p = q := by
    rcases List.suffix_or_suffix_of_suffix hp' (List.suffix_append _ _) with hpq | hqp
    · exact hfree p hp q hq hpq
    · exact (hfree q hq p hp hqp).symm
  subst hsame
  exact ⟨String.toList_inj.1 (List.append_cancel_right hlists), rfl⟩

/-- The last element of a kind is a certain one exactly if nothing of the kind comes behind it. -/
theorem getLast?_filter_eq_iff {α : Type} {p : α → Bool} {a : α} (front : List α) {back : List α}
    (ha : p a = true) (hback : ∀ b ∈ back, p b = true → b ≠ a) :
    ((front ++ a :: back).filter p).getLast? = some a ↔ ∀ b ∈ back, p b = false := by
  have hsplit : (front ++ a :: back).filter p = front.filter p ++ a :: back.filter p := by simp [ha]
  rw [hsplit, List.getLast?_append, List.getLast?_cons]
  cases hrest : (back.filter p).getLast? with
  | none =>
    have hnone := List.filter_eq_nil_iff.1 (List.getLast?_eq_none_iff.1 hrest)
    exact iff_of_true (by simp) fun b hb => by simpa using hnone b hb
  | some b =>
    obtain ⟨hb, hpb⟩ := List.mem_filter.1 (List.mem_of_getLast? hrest)
    constructor
    · intro h
      exact absurd (by simpa [hrest] using h) (hback b hb hpb)
    · intro h
      simp [h b hb] at hpb

end Endings

namespace Generator

/-- What stands in front of a name that is defined in Python or JavaScript. -/
def definitionFront (g : Generator) : String :=
  if g.target = .python then "def " else shown g.className ++ ".prototype."

/-- What stands behind the name of a setter. -/
def setterTail (g : Generator) : String :=
  if g.target = .python then "(self, value)" else " = function(value)"

/-- What stands behind the name of a getter or a method. -/
def plainTail (g : Generator) : String :=
  if g.target = .python then "(self)" else " = function()"

/-- What stands behind a name that is defined. -/
def definitionTails (g : Generator) : List String :=
  if g.target = .python then [g.setterTail, g.plainTail, "(self, **kwargs)"]
    else [g.setterTail, g.plainTail]

/-- Whether a line is the head of a definition of a name. -/
def definesName (g : Generator) (name line : String) : Bool :=
  g.definitionTails.any fun tail =>
    line == g.definitionFront ++ name ++ tail ++ g.page.style.opening

/-- The last definition of a name in a file, as its head and the lines of its block. -/
def lastDefinition (g : Generator) (c : Chart) (name : String) : Option (String × List String) :=
  ((blocksOf (g.rows c)).filter fun block => g.definesName name block.1).getLast?

def constructorHead (g : Generator) : String :=
  if g.target = .python then "def __init__(self, **kwargs)" else "function " ++
    shown g.className ++ "(params)"

/-- The line that asks whether an input has been given. -/
def guardLine (g : Generator) (name : String) : String :=
  if g.target = .python then "if \"" ++ name ++ "\" in kwargs" ++ g.page.style.opening
  else "if (params[\"" ++ name ++ "\"] !== undefined)" ++ g.page.style.opening

/-- The line that hands an input to a setter. -/
def callLine (g : Generator) (setter name : String) : String :=
  if g.target = .python then "self." ++ setter ++ "(kwargs[\"" ++ name ++ "\"])"
  else "this." ++ setter ++ "(params[\"" ++ name ++ "\"]);"

/-- What is assigned to a variable that is set. -/
def assignedValue (g : Generator) (x : Variable) : String :=
  if g.target = .python then if x.type = some "BigDecimal" then " = BigDecimal(value)"
    else " = value" else " = value;"

/-- The line that sets a variable. -/
def assignmentLine (g : Generator) (x : Variable) : String :=
  (if g.target = .python then "self." else "this.") ++ shown x.name ++ g.assignedValue x

/-- The setter of a variable, as its head and the lines of its block. -/
def setterBlock (g : Generator) (x : Variable) : String × List String :=
  (g.definitionFront ++ setterName (shown x.name) ++ g.setterTail ++ g.page.style.opening,
    [g.assignmentLine x])

variable {g : Generator} {c : Chart}

/-- The head of a definition tells its name and what stands behind it. -/
theorem definition_inj {name name' tail tail' : String} (htail : tail ∈ g.definitionTails)
    (htail' : tail' ∈ g.definitionTails)
    (h : g.definitionFront ++ name ++ tail ++ g.page.style.opening =
      g.definitionFront ++ name' ++ tail' ++ g.page.style.opening) : name = name' ∧
      tail = tail' := by
  have hfree : ∀ p ∈ g.definitionTails, ∀ q ∈ g.definitionTails, p.toList <:+ q.toList → p = q := by
    unfold definitionTails setterTail plainTail
    split <;> decide
  obtain ⟨hfront, htails⟩ :=
    append_inj_of_endings hfree htail htail' ((String.append_left_inj _).1 h)
  exact ⟨(String.append_right_inj _).1 hfront, htails⟩

theorem definesName_iff {tail name other : String} (htail : tail ∈ g.definitionTails) :
    g.definesName name (g.definitionFront ++ other ++ tail ++ g.page.style.opening) = true ↔
      other = name := by
  simp only [definesName, List.any_eq_true, beq_iff_eq]
  constructor
  · rintro ⟨tail', htail', h⟩
    exact (definition_inj htail htail' h).1
  · rintro rfl
    exact ⟨tail, htail, rfl⟩

theorem setterTail_mem (g : Generator) : g.setterTail ∈ g.definitionTails := by
  unfold definitionTails
  split <;> simp

theorem plainTail_mem (g : Generator) : g.plainTail ∈ g.definitionTails := by
  unfold definitionTails
  split <;> simp

theorem assignmentLine_inj {x y : Variable} (h : g.assignmentLine x = g.assignmentLine y) :
    shown x.name = shown y.name := by
  have hfree : ∀ p ∈ [" = BigDecimal(value)", " = value", " = value;"],
      ∀ q ∈ [" = BigDecimal(value)", " = value", " = value;"], p.toList <:+ q.toList →
      p = q := by decide
  have hvalue : ∀ z, g.assignedValue z ∈ [" = BigDecimal(value)", " = value", " = value;"] := by
    intro z
    unfold assignedValue
    split
    · split <;> simp
    · simp
  have hfront := (append_inj_of_endings hfree (hvalue x) (hvalue y) h).1
  exact String.append_right_inj _ |>.1 hfront

/-! ### The members of a file -/

/-- The constructor as it stands in a file. -/
def constructorBlock (g : Generator) (c : Chart) : Outline :=
  .block .plain g.constructorHead ((g.codeSettings c).constructorIn c g.target)

/-- The constructor and the setters of inputs, among what stands in front of them and behind. -/
def parts (g : Generator) (c : Chart) (front between : List Outline) (inputs : List Variable)
    (rest : List Outline) :
    List Outline :=
  front ++ [g.constructorBlock c] ++ between ++ inputs.flatMap
    ((g.codeSettings c).setterIn · g.target) ++ rest

theorem file_of_python (h : g.target = .python) {inputs : List Variable}
    (hinputs : c.inputs = .ok inputs) :
    g.file c = [Outline.text "# coding: utf-8", .blank, .text Support.python, .blank] ++
      [.block .plain ("class " ++ (g.codeSettings c).className)
        (g.parts c (c.constants.flatMap (g.codeSettings c).pythonConstant ++ [.blank]) [] inputs
          ((g.codeSettings c).furtherIn c g.target))] := by
  simp [file, h, parts, constructorBlock, CodeSettings.pythonFile, CodeSettings.furtherIn,
    CodeSettings.setterIn, CodeSettings.getterIn, CodeSettings.methodIn, constructorHead,
    CodeSettings.constructorIn, hinputs, given]

theorem file_of_javascript (h : g.target = .javascript) {inputs : List Variable}
    (hinputs : c.inputs = .ok inputs) :
    ∃ top, top.all isFlat = true ∧
      g.file c = g.parts c top
        ([Outline.blank, .text "/* Constants */"] ++ c.constants.flatMap
          (g.codeSettings c).javascriptConstant) inputs
        ((g.codeSettings c).furtherIn c g.target ++
          [.text ("module.exports = " ++ (g.codeSettings c).className ++ ";")]) := by
  refine ⟨((g.codeSettings c).javascriptFile c).take 3, rfl, ?_⟩
  simp [file, h, parts, constructorBlock, CodeSettings.javascriptFile, CodeSettings.furtherIn,
    CodeSettings.setterIn, CodeSettings.getterIn, CodeSettings.methodIn, constructorHead,
    CodeSettings.constructorIn, hinputs, given, CodeSettings.className, codeSettings]

section Members

variable (ht : g.target = .python ∨ g.target = .javascript)

include ht

theorem methodHead_eq (visibility : String) (name : Option String) :
    g.methodHead visibility name = g.definitionFront ++ shown name ++ g.plainTail := by
  rcases ht with h | h
  · simp [methodHead, definitionFront, plainTail, h]
  · simp [methodHead, definitionFront, plainTail, prototypeHead, h, String.append_assoc]

theorem getterHead_eq {name type : Option String} {text : String}
    (h : g.getterHead name type = .ok text) :
    ∃ word, text = g.definitionFront ++ ("get" ++ word) ++ g.plainTail := by
  obtain ⟨word, -, h⟩ := bind_eq_ok h
  refine ⟨word, ?_⟩
  rcases ht with h' | h'
  · rw [h'] at h
    cases h
    simp [definitionFront, plainTail, h', ← String.append_assoc]
  · rw [h'] at h
    cases h
    simp [definitionFront, plainTail, prototypeHead, h', String.append_assoc]

theorem setterIn_blocks {x : Variable} (level : Int)
    (hok : firstFault ((g.codeSettings c).setterIn x g.target) = none) :
    (∃ name, x.name = some name) ∧
      blocksOf (allRows g.page.style level ((g.codeSettings c).setterIn x g.target)) =
        [g.setterBlock x] := by
  cases hname : x.name with
  | none =>
    rcases ht with h | h <;> rw [h] at hok <;>
      simp [CodeSettings.setterIn, CodeSettings.pythonSetter, CodeSettings.javascriptSetter,
        CodeSettings.capitalized, hname, given, fault?, blank]
        at hok
  | some name =>
    refine ⟨⟨name, rfl⟩, ?_⟩
    rcases ht with h | h
    · have hsetter : (g.codeSettings c).setterIn x g.target = [.blank, .block (.setter x.name)
          ("def set" ++ Text.capitalize name ++ "(self, value)") [.text (g.assignmentLine x)]] := by
        simp only [h, CodeSettings.setterIn, CodeSettings.pythonSetter, CodeSettings.capitalized,
          hname, given, assignmentLine, assignedValue, if_true]
        split <;> simp [String.append_assoc]
      rw [hsetter, blocksOf_accessor rfl]
      simp [setterBlock, definitionFront, setterTail, setterName, hname, shown, h,
        ← String.append_assoc]
    · have hsetter : (g.codeSettings c).setterIn x g.target = [.blank, .block (.setter x.name)
          (g.prototypeHead ("set" ++ Text.capitalize name) "value")
            [.text (g.assignmentLine x)]] := by
        simp [h, CodeSettings.setterIn, CodeSettings.javascriptSetter, CodeSettings.capitalized,
          hname, given, assignmentLine, assignedValue, CodeSettings.prototypeBlock, prototypeHead,
          CodeSettings.className, codeSettings, String.append_assoc]
      rw [hsetter, blocksOf_accessor rfl]
      simp [setterBlock, definitionFront, setterTail, setterName, prototypeHead, hname, shown, h,
        String.append_assoc]

/-- The constructor hands every input to the setter of its name. -/
theorem constructor_calls (level : Int)
    (hok : firstFault ((g.codeSettings c).constructorIn c g.target) = none)
    {inputs : List Variable} (hinputs : c.inputs = .ok inputs) {x : Variable} (hx : x ∈ inputs) :
    [g.guardLine (shown x.name), g.callLine (setterName (shown x.name)) (shown x.name)] <:+:
      contents g.page.style level ((g.codeSettings c).constructorIn c g.target) := by
  have hall : ∀ {a}, c.allVariables = .ok a → a.1 = inputs := by
    intro a ha
    obtain ⟨xs, hxs, ha⟩ := bind_eq_ok ha
    obtain ⟨outputs, -, ha⟩ := bind_eq_ok ha
    obtain ⟨internals, -, ha⟩ := bind_eq_ok ha
    cases ha
    exact Except.ok.inj (hxs.symm.trans hinputs)
  have hx' : ∀ f : Variable → List Outline, f x <:+: inputs.flatMap f := fun f => infix_flatMap f hx
  -- The part for the input is found within its kind, which comes first.
  rcases ht with h | h
  · simp only [CodeSettings.constructorIn, h, if_true, CodeSettings.pythonConstructor,
      firstFault_given] at hok ⊢
    obtain ⟨⟨xs, ys, zs⟩, hvariables, hok⟩ := hok
    obtain rfl : xs = inputs := hall hvariables
    simp only [CodeSettings.pythonVariables, firstFault_append, firstFault_cons,
      Option.or_eq_none_iff, firstFault_flatMap] at hok
    have hcall := (g.codeSettings c).pythonVariable_call g.page.style level (hok.1.1.1.2 x hx)
    have hpart : (g.codeSettings c).pythonVariable true x <:+: (g.codeSettings c).pythonVariables
      "input variables" true xs :=
      (hx' _).trans ⟨[.text ("# " ++ "input variables")], [.blank], rfl⟩
    rw [hvariables, given, List.append_assoc]
    simp only [guardLine, callLine, h, if_true]
    exact hcall.trans (contents_mono (hpart.trans (List.prefix_append _ _).isInfix))
  · simp only [CodeSettings.constructorIn, h, reduceCtorEq, if_false, firstFault_given] at hok ⊢
    obtain ⟨⟨xs, ys, zs⟩, hvariables, hok⟩ := hok
    obtain rfl : xs = inputs := hall hvariables
    simp only [CodeSettings.javascriptVariables, firstFault_append, firstFault_cons,
      Option.or_eq_none_iff, firstFault_flatMap] at hok
    have hcall := (g.codeSettings c).javascriptVariable_call g.page.style level (hok.1.1.2.2 x hx)
    have hpart : (g.codeSettings c).javascriptVariable true x <:+:
      (g.codeSettings c).javascriptVariables "Input variables" true xs :=
      (hx' _).trans ⟨[.blank, .text ("/* " ++ "Input variables" ++ " */")], [],
        by simp [CodeSettings.javascriptVariables]⟩
    rw [hvariables, given, List.append_assoc]
    simp only [guardLine, callLine, h, reduceCtorEq, if_false]
    exact hcall.trans (contents_mono (hpart.trans (List.prefix_append _ _).isInfix))

theorem setterIn_flush (x : Variable) : Flush ((g.codeSettings c).setterIn x g.target) := by
  rcases ht with h | h <;> rw [h] <;> exact .cons rfl (.given (fun _ => .of_all rfl) _)

theorem setters_blocks {inputs : List Variable} (level : Int)
    (hok : firstFault (inputs.flatMap ((g.codeSettings c).setterIn · g.target)) = none) :
    blocksOf
      (allRows g.page.style level (inputs.flatMap ((g.codeSettings c).setterIn · g.target))) =
      inputs.map g.setterBlock := by
  rw [firstFault_flatMap] at hok
  exact blocksOf_flatMap (setterIn_flush ht) fun x hx => (setterIn_blocks ht level (hok x hx)).2

/-- The constructor and the setters among other parts, of which those in front define nothing. -/
theorem parts_blocks {front between : List Outline} {inputs : List Variable} {level : Int}
    (hfront : Flush front)
    (hfront' : definitions (allRows g.page.style level front) = []) (hbetween : Flush between)
    (hbetween' : definitions (allRows g.page.style level between) = [])
    (hok : firstFault (inputs.flatMap ((g.codeSettings c).setterIn · g.target)) = none)
    (rest : List Outline) :
    blocksOf (allRows g.page.style level (g.parts c front between inputs rest)) =
      [(g.constructorHead ++ g.page.style.opening,
          contents g.page.style (level + 1) ((g.codeSettings c).constructorIn c g.target))] ++
        inputs.map g.setterBlock ++ blocksOf (allRows g.page.style level rest) := by
  have hconstructor : Flush [g.constructorBlock c] := .of_all rfl
  have hinner := (g.codeSettings c).constructorIn_flush c g.target
  have hsetters : Flush (inputs.flatMap ((g.codeSettings c).setterIn · g.target)) :=
    .flatMap (setterIn_flush ht) inputs
  rw [parts, (((hfront.append hconstructor).append hbetween).append hsetters).blocksOf_append,
    ((hfront.append hconstructor).append hbetween).blocksOf_append,
    (hfront.append hconstructor).blocksOf_append,
    hfront.blocksOf_append, constructorBlock, hinner.blocksOf_block rfl,
    setters_blocks ht level hok,
    blocksOf_of_definitions hfront', blocksOf_of_definitions hbetween',
    blocksOf_of_definitions ((g.codeSettings c).constructorIn_definitions c g.target)]
  simp

/-- The blocks of a file: the constructor is among the first, then come the setters, and then the
other members. -/
theorem file_blocks (hok : firstFault (g.file c) = none) {inputs : List Variable}
    (hinputs : c.inputs = .ok inputs) :
    ∃ front rest,
      blocksOf (allRows g.page.style g.page.level (g.file c)) = front ++
        inputs.map g.setterBlock ++ rest ∧
        (g.constructorHead ++ g.page.style.opening,
          contents g.page.style (g.page.level + g.target.memberDepth + 1)
          ((g.codeSettings c).constructorIn c g.target)) ∈ front ∧
        rest.map Prod.fst = (definitions (allRows g.page.style (g.page.level + g.target.memberDepth)
          ((g.codeSettings c).furtherIn c g.target))).map Prod.snd := by
  have hmembers := g.membersIn_fault (by rcases ht with h | h <;> rw [h] <;> decide) hok
  obtain ⟨hsetters, -⟩ := (CodeSettings.membersIn_fault_iff ..).1 hmembers
  rw [hinputs, given] at hsetters
  rcases id ht with h | h
  · -- All members stand in the class, whose own block comes in front of theirs.
    have hdepth : g.target.memberDepth = 1 := by rw [h, Target.memberDepth] <;> simp
    have htop : Flush [.text "# coding: utf-8", .blank, .text Support.python, .blank] := .of_all rfl
    have hconstants :
    Flush (c.constants.flatMap (g.codeSettings c).pythonConstant ++ [Outline.blank]) :=
      (flush_of_flat ((g.codeSettings c).pythonConstants_flat c.constants)).append (.of_all rfl)
    rw [file_of_python h hinputs, htop.blocksOf_append, blocksOf_of_definitions (by simp),
      List.nil_append, blocksOf_block rfl,
      parts_blocks ht hconstants (by simp) (.of_all rfl) (by simp) hsetters, hdepth]
    exact ⟨_ :: [_], _, rfl, List.mem_cons_of_mem _ (List.mem_singleton_self _), blocksOf_heads _⟩
  · have hdepth : g.page.level + g.target.memberDepth = g.page.level := by
      simp [h, Target.memberDepth]
    have hconstants : Flush ([Outline.blank, .text "/* Constants */"] ++
        c.constants.flatMap (g.codeSettings c).javascriptConstant) :=
      .append (.of_all rfl) (.flatMap (g.codeSettings c).javascriptConstant_flush _)
    obtain ⟨top, hflat, hfile⟩ := file_of_javascript h hinputs
    rw [hfile, parts_blocks ht (flush_of_flat hflat) (definitions_of_flat hflat _ g.page.level)
      hconstants (by simp)
      hsetters, hdepth]
    refine ⟨[_], _, rfl, List.mem_singleton_self _, ?_⟩
    rw [blocksOf_heads]
    simp

/-- Behind the setters come the heads of getters and those of methods, of the latter all. -/
theorem further_heads {level : Int}
    (hok : firstFault ((g.codeSettings c).furtherIn c g.target) = none) :
    (∀ line ∈
      (definitions (allRows g.page.style level ((g.codeSettings c).furtherIn c g.target))).map
        Prod.snd,
        (∃ word,
          line = g.definitionFront ++ ("get" ++ word) ++ g.plainTail ++ g.page.style.opening) ∨
          ∃ m ∈ c.main :: c.methods,
          line = g.definitionFront ++ shown m.name ++ g.plainTail ++ g.page.style.opening) ∧
      ∀ m ∈ c.main :: c.methods,
      g.definitionFront ++ shown m.name ++ g.plainTail ++ g.page.style.opening ∈
        (definitions (allRows g.page.style level ((g.codeSettings c).furtherIn c g.target))).map
          Prod.snd := by
  have ht' : g.target ∈ Target.languages := by rcases ht with h | h <;> rw [h] <;> decide
  simp only [CodeSettings.furtherIn, firstFault_append, Option.or_eq_none_iff, firstFault_given,
    firstFault_flatMap] at hok
  obtain ⟨⟨⟨outputs, houtputs, hgetters⟩, -⟩, -⟩ := hok
  have hmethods : ∀ visibility m, definitions (allRows g.page.style level
      ((g.codeSettings c).methodIn visibility m g.target)) =
        [(level, g.definitionFront ++ shown m.name ++ g.plainTail ++ g.page.style.opening)] :=
          fun visibility m => by
    rw [g.methodIn_definitions ht' c, methodHead_eq ht]
  rw [CodeSettings.furtherIn, houtputs, given, allRows_append, allRows_append, definitions_append,
    definitions_append, definitions_flatMap, definitions_flatMap, hmethods]
  simp only [hmethods]
  constructor
  · intro line hline
    simp only [List.map_append, List.mem_append, List.mem_map, List.mem_flatMap,
      List.mem_singleton] at hline
    rcases hline with (⟨d, ⟨y, hy, hd⟩, rfl⟩ | ⟨d, rfl, rfl⟩) | ⟨d, ⟨m, hm, rfl⟩, rfl⟩
    · obtain ⟨text, htext, hdefinitions⟩ := g.getterIn_defines ht' c y (hgetters y hy)
      obtain ⟨word, rfl⟩ := getterHead_eq ht htext
      rw [hdefinitions, List.mem_singleton] at hd
      exact .inl ⟨word, by rw [hd]⟩
    · exact .inr ⟨c.main, List.mem_cons_self, rfl⟩
    · exact .inr ⟨m, List.mem_cons_of_mem _ hm, rfl⟩
  · intro m hm
    simp only [List.map_append, List.mem_append, List.mem_map, List.mem_flatMap, List.mem_singleton]
    rcases List.mem_cons.1 hm with rfl | hm
    · exact .inl (.inr ⟨_, rfl, rfl⟩)
    · exact .inr ⟨_, ⟨m, hm, rfl⟩, rfl⟩

theorem constructorIn_fault (hok : firstFault (g.file c) = none) :
    firstFault ((g.codeSettings c).constructorIn c g.target) = none := by
  unfold file at hok
  rcases ht with h | h <;> rw [h] at hok ⊢
  · simp only [CodeSettings.pythonFile, firstFault_append, firstFault_cons, Option.or_eq_none_iff,
      fault?] at hok
    obtain ⟨-, -, -, -, ⟨⟨⟨⟨⟨-, -, hconstructor, -⟩, -⟩, -⟩, -⟩, -⟩, -⟩ := hok
    exact hconstructor
  · simp only [CodeSettings.javascriptFile, firstFault_append, firstFault_cons,
      Option.or_eq_none_iff, fault?] at hok
    obtain ⟨⟨⟨⟨⟨⟨⟨-, -, -, hconstructor, -⟩, -⟩, -⟩, -⟩, -⟩, -⟩, -⟩ := hok
    exact hconstructor

theorem furtherIn_fault (hok : firstFault (g.file c) = none) :
    firstFault ((g.codeSettings c).furtherIn c g.target) = none := by
  have ht' : g.target ∈ Target.languages := by rcases ht with h | h <;> rw [h] <;> decide
  obtain ⟨-, hgetters, hmain, hmethods⟩ :=
    (CodeSettings.membersIn_fault_iff ..).1 (g.membersIn_fault ht' hok)
  rw [CodeSettings.furtherIn, firstFault_append, firstFault_append, hgetters, hmain, hmethods]
  rfl

end Members

theorem setterName_inj {a b : String} :
    setterName a = setterName b ↔ Text.capitalize a = Text.capitalize b :=
  String.append_right_inj _

theorem setterName_ne_get (name word : String) : "get" ++ word ≠ setterName name := by
  intro h
  have hhead := congrArg (fun s => s.toList.head?) h
  simp [setterName] at hhead

theorem definesName_setterBlock {x : Variable} {name : String} :
    g.definesName (setterName name) (g.setterBlock x).1 = true ↔
      Text.capitalize (shown x.name) = Text.capitalize name := by
  rw [setterBlock, definesName_iff g.setterTail_mem, setterName_inj]

/-- The setter of an input is the last definition of its name exactly if none comes behind it: no
setter of an input that is capitalised alike, and no method. -/
theorem lastDefinition_eq_setterBlock_iff (ht : g.target = .python ∨ g.target = .javascript)
    (hok : firstFault (g.file c) = none)
    (hrows : g.rows c = allRows g.page.style g.page.level (g.file c))
    {before after : List Variable} {x : Variable} (hinputs : c.inputs = .ok (before ++ x :: after))
    (hdistinct : ∀ y ∈ after, shown y.name ≠ shown x.name) :
    g.lastDefinition c (setterName (shown x.name)) = some (g.setterBlock x) ↔
      (∀ y ∈ after, Text.capitalize (shown y.name) ≠ Text.capitalize (shown x.name)) ∧
        ∀ m ∈ c.main :: c.methods, shown m.name ≠ setterName (shown x.name) := by
  obtain ⟨front, rest, hblocks, -, hheads⟩ := file_blocks ht hok hinputs
  obtain ⟨hforms, hmethods⟩ := further_heads ht (furtherIn_fault ht hok)
  rw [← hheads] at hforms hmethods
  have hsplit : blocksOf (g.rows c) = (front ++ before.map g.setterBlock) ++
      g.setterBlock x :: (after.map g.setterBlock ++ rest) := by
    rw [hrows, hblocks]
    simp
  have hrest : ∀ b ∈ rest, g.definesName (setterName (shown x.name)) b.1 = true →
      ∃ m ∈ c.main :: c.methods, shown m.name = setterName (shown x.name) ∧
        b.1 = g.definitionFront ++ shown m.name ++ g.plainTail ++ g.page.style.opening := by
    intro b hb hname
    rcases hforms b.1 (List.mem_map_of_mem hb) with ⟨word, hform⟩ | ⟨m, hm, hform⟩
    · rw [hform, definesName_iff g.plainTail_mem] at hname
      exact absurd hname (setterName_ne_get _ _)
    · rw [hform, definesName_iff g.plainTail_mem] at hname
      exact ⟨m, hm, hname, hform⟩
  have hback : ∀ b ∈ after.map g.setterBlock ++ rest,
      g.definesName (setterName (shown x.name)) b.1 = true → b ≠ g.setterBlock x := by
    rintro b hb hname rfl
    rcases List.mem_append.1 hb with hb | hb
    · obtain ⟨y, hy, hsame⟩ := List.mem_map.1 hb
      have hline : [g.assignmentLine y] = [g.assignmentLine x] := congrArg Prod.snd hsame
      exact hdistinct y hy (assignmentLine_inj (List.cons.inj hline).1)
    · obtain ⟨m, -, -, hform⟩ := hrest _ hb hname
      have htails := (definition_inj g.setterTail_mem g.plainTail_mem hform).2
      have hne : g.setterTail ≠ g.plainTail := by
        unfold setterTail plainTail
        split <;> decide
      exact hne htails
  have hself : g.definesName (setterName (shown x.name)) (g.setterBlock x).1 = true :=
    definesName_setterBlock.2 rfl
  rw [lastDefinition, hsplit,
    getLast?_filter_eq_iff (p := fun b : String × List String => g.definesName _ b.1) _ hself hback]
  constructor
  · intro h
    refine ⟨fun y hy hsame => ?_, fun m hm hsame => ?_⟩
    · have hfalse := h _ (List.mem_append_left _ (List.mem_map_of_mem hy))
      rw [definesName_setterBlock.2 hsame] at hfalse
      cases hfalse
    · obtain ⟨b, hb, hform⟩ := List.mem_map.1 (hmethods m hm)
      have hfalse := h b (List.mem_append_right _ hb)
      rw [hform, (definesName_iff g.plainTail_mem).2 hsame] at hfalse
      cases hfalse
  · rintro ⟨hsetters, hmethods'⟩ b hb
    rw [← Bool.not_eq_true]
    intro hname
    rcases List.mem_append.1 hb with hb | hb
    · obtain ⟨y, hy, rfl⟩ := List.mem_map.1 hb
      exact hsetters y hy (definesName_setterBlock.1 hname)
    · obtain ⟨m, hm, hsame, -⟩ := hrest b hb hname
      exact hmethods' m hm hsame

end Generator

namespace Text

theorem lowerAfter_of_ascii {cs : List Char} (h : ∀ c ∈ cs, isAscii c = true) (before : List Char) :
    lowerAfter before cs = cs.map Char.toLower := by
  induction cs generalizing before with
  | nil => rfl
  | cons c cs ih =>
    obtain ⟨hc, hcs⟩ := List.forall_mem_cons.1 h
    have hsigma : c ≠ 'Σ' := by
      rintro rfl
      exact absurd hc (by decide)
    simp [lowerAfter, hsigma, lowerChar, hc, ih hcs]

/-- The upper case of a character of the basic alphabet tells as much as its lower case. -/
theorem toUpper_eq_iff {c d : Char} (hc : isAscii c = true) (hd : isAscii d = true) :
    c.toUpper = d.toUpper ↔ c.toLower = d.toLower := by
  have hcases : ∀ n < 128, (Char.ofNat n).toUpper.toLower = (Char.ofNat n).toLower ∧
      (Char.ofNat n).toLower.toUpper = (Char.ofNat n).toUpper := by decide
  have hchar : ∀ k : Char, isAscii k = true → k.toUpper.toLower = k.toLower ∧
      k.toLower.toUpper = k.toUpper := by
    intro k hk
    have hsame := hcases k.toNat (by simpa [isAscii] using hk)
    rwa [Char.ofNat_toNat] at hsame
  constructor
  · intro h
    rw [← (hchar c hc).1, h, (hchar d hd).1]
  · intro h
    rw [← (hchar c hc).2, h, (hchar d hd).2]

/-- Names in the basic alphabet are capitalised alike exactly if they differ in case only. -/
theorem capitalize_eq_iff {a b : String} (ha : ∀ c ∈ a.toList, isAscii c = true)
    (hb : ∀ c ∈ b.toList, isAscii c = true) :
    capitalize a = capitalize b ↔ a.toList.map Char.toLower = b.toList.map Char.toLower := by
  have hword : ∀ {s : String} {c cs}, s.toList = c :: cs → (∀ k ∈ s.toList, isAscii k = true) →
      capitalize s = String.ofList (c.toUpper :: cs.map Char.toLower) := by
    intro s c cs hs hascii
    rw [hs] at hascii
    obtain ⟨hc, hcs⟩ := List.forall_mem_cons.1 hascii
    simp [capitalize, hs, titleChar, hc, lowerAfter_of_ascii hcs]
  have hempty : ∀ {s : String}, s.toList = [] → capitalize s = "" := by
    intro s hs
    simp [capitalize, hs]
  cases hs : a.toList with
  | nil =>
    cases hs' : b.toList with
    | nil => simp [hempty hs, hempty hs']
    | cons d ds => simp [hempty hs, hword hs' hb, ← String.toList_inj]
  | cons c cs =>
    cases hs' : b.toList with
    | nil => simp [hword hs ha, hempty hs', ← String.toList_inj]
    | cons d ds =>
      have hc : isAscii c = true := ha c (by simp [hs])
      have hd : isAscii d = true := hb d (by simp [hs'])
      simp [hword hs ha, hword hs' hb, ← String.toList_inj, toUpper_eq_iff hc hd]

end Text

/-- A file in Python or JavaScript that is written to its end is the text of its rows. Its
constructor hands an input that is given by name to the setter of its name. The last definition of
that name is the setter of this input, with the line that sets its variable, exactly if no later
input is capitalised alike and no method has the name; for names in the basic alphabet, to be
capitalised alike is to differ in case only. -/
theorem setter_sets_own_variable_iff {g : Generator}
    (ht : g.target = .python ∨ g.target = .javascript)
    (hlevel : 0 ≤ g.page.level) {c : Chart} (hok : (g.generate c).2 = none)
    {before after : List Variable} {x : Variable} (hinputs : c.inputs = .ok (before ++ x :: after))
    (hdistinct : ((before ++ x :: after).map Variable.name).Nodup) :
    (g.generate c).1.page = g.page.appended (Line.textOf g.page.style ((g.rows c).map Row.toLine)) ∧
      ∃ name, x.name = some name ∧
        (∃ lines, (g.constructorHead ++ g.page.style.opening, lines) ∈ blocksOf (g.rows c) ∧
          [g.guardLine name, g.callLine (setterName name) name] <:+: lines) ∧
        (g.lastDefinition c (setterName name) = some (g.setterBlock x) ↔
          (∀ y ∈ after, Text.capitalize (shown y.name) ≠ Text.capitalize name) ∧
            ∀ m ∈ c.main :: c.methods, shown m.name ≠ setterName name) ∧
        ((∀ y ∈ x :: after, ∀ k ∈ (shown y.name).toList, Text.isAscii k = true) →
          ∀ y ∈ after, (Text.capitalize (shown y.name) = Text.capitalize name ↔
            (shown y.name).toList.map Char.toLower = name.toList.map Char.toLower)) := by
  have hinformed : g.informed c = g := by
    have hgo : g.target ≠ .golang := by rcases ht with h | h <;> simp [h]
    simp [Generator.informed, hgo]
  have hfile : firstFault (g.file c) = none := by rwa [g.generate_fault c, hinformed] at hok
  have hrows : g.rows c = allRows g.page.style g.page.level (g.file c) := by
    rw [Generator.rows, hinformed]
  have hsetters : ∀ y ∈ before ++ x :: after, ∃ name, y.name = some name := by
    have ht' : g.target ∈ Target.languages := by rcases ht with h | h <;> rw [h] <;> decide
    have hfault := ((CodeSettings.membersIn_fault_iff ..).1 (g.membersIn_fault ht' hfile)).1
    rw [hinputs, given, firstFault_flatMap] at hfault
    exact fun y hy => (Generator.setterIn_blocks ht 0 (hfault y hy)).1
  obtain ⟨name, hname⟩ := hsetters x (by simp)
  have hshown : shown x.name = name := by rw [hname, shown]
  have hothers : ∀ y ∈ after, shown y.name ≠ shown x.name := by
    intro y hy hsame
    obtain ⟨other, hother⟩ := hsetters y (by simp [hy])
    rw [List.map_append, List.map_cons, List.nodup_append] at hdistinct
    refine (List.nodup_cons.1 hdistinct.2.1).1 (List.mem_map.2 ⟨y, hy, ?_⟩)
    rw [hother, hname] at hsame ⊢
    exact congrArg some hsame
  refine ⟨g.generate_rows hlevel hok, name, hname, ?_, ?_, fun hascii y hy => ?_⟩
  · obtain ⟨front, rest, hblocks, hconstructor, -⟩ := Generator.file_blocks ht hfile hinputs
    have hcalls := Generator.constructor_calls ht (g.page.level + g.target.memberDepth + 1)
      (Generator.constructorIn_fault ht hfile) hinputs (x := x) (by simp)
    rw [hshown] at hcalls
    refine ⟨_, ?_, hcalls⟩
    rw [hrows, hblocks]
    exact List.mem_append_left _ (List.mem_append_left _ hconstructor)
  · rw [← hshown]
    exact Generator.lastDefinition_eq_setterBlock_iff ht hfile hrows hinputs hothers
  · have hx := hascii x List.mem_cons_self
    rw [hshown] at hx
    exact Text.capitalize_eq_iff (hascii y (List.mem_cons_of_mem x hy)) hx

/-- Two inputs whose names differ in case only. -/
def casedInputs : Chart :=
  { name := some "Tax"
    main := ⟨none, some "MAIN", []⟩
    methods := []
    inputs := .ok [⟨some "AB", some "int", some "0", none⟩, ⟨some "Ab", some "int", some "0", none⟩]
    outputs := .ok []
    internals := .ok []
    constants := [] }

/-- The constructor hands the first of the inputs to a setter that, at its last definition, sets the
second one. -/
theorem casedInputs_setter_replaced :
    let g := Generator.new .python {} casedInputs
    (g.generate casedInputs).2 = none ∧
      (∃ lines, ("def __init__(self, **kwargs):", lines) ∈ blocksOf (g.rows casedInputs) ∧
        ["if \"AB\" in kwargs:", "self.setAb(kwargs[\"AB\"])"] <:+: lines) ∧
      g.lastDefinition casedInputs "setAb" =
        some ("def setAb(self, value):", ["self.Ab = value"]) := by
  intro g
  have hok : (g.generate casedInputs).2 = none := by decide +kernel
  have ht : g.target = .python ∨ g.target = .javascript := .inl rfl
  have hfirst : casedInputs.inputs = .ok ([] ++ ⟨some "AB", some "int", some "0", none⟩ ::
    [⟨some "Ab", some "int", some "0", none⟩]) := rfl
  have hsecond : casedInputs.inputs = .ok ([⟨some "AB", some "int", some "0", none⟩] ++
    ⟨some "Ab", some "int", some "0", none⟩ :: []) := rfl
  obtain ⟨-, name, hname, hcall, -⟩ :=
    setter_sets_own_variable_iff ht (by decide) hok hfirst (by decide)
  cases hname
  obtain ⟨-, name, hname, -, hlast, -⟩ :=
    setter_sets_own_variable_iff ht (by decide) hok hsecond (by decide)
  cases hname
  exact ⟨hok, hcall, hlast.2 ⟨by simp, by decide⟩⟩

end TaxFlow

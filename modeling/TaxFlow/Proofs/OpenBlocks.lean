import TaxFlow.Proofs.Independence

/-!
# Open blocks

Outlines are written in single strokes, up to the first fault. All along the level of the page is
the one at which it began, raised by one for each block that was entered and not yet left. A line
that begins an alternative steps out of its block and back in again; it does so only inside of a
block, where there is a level to step out of.
-/
namespace TaxFlow

open Outline

/-- A single movement in which outlines are written. -/
inductive Stroke where
  | line (purpose : Purpose) (text : String)
  /-- A line one level further out. -/
  | outdented (purpose : Purpose) (text : String)
  | enter (purpose : Purpose) (head : String)
  | leave
  deriving DecidableEq, Repr

namespace Stroke

/-- By how many blocks more are open behind a stroke than in front of it. -/
def rise : Stroke → Int
  | enter .. => 1
  | leave => -1
  | _ => 0

/-- Whether the level is lowered in a stroke. -/
def lowers : Stroke → Bool
  | outdented .. => true
  | leave => true
  | _ => false

/-- Whether a stroke writes the line that begins an alternative. -/
def isElse : Stroke → Bool
  | line purpose _ => purpose = .otherwise
  | outdented purpose _ => purpose = .otherwise
  | enter purpose _ => purpose = .otherwise
  | leave => false

/-- Whether a stroke writes a line further out than its block. -/
def isOutdented : Stroke → Bool
  | outdented .. => true
  | _ => false

/-- The lines that a stroke has to write at a level. The head of a block stands outside of it, and
so does its closing line. -/
def lines (s : PageStyle) (level : Int) : Stroke → List Line
  | line purpose text => [⟨level, purpose, text⟩]
  | outdented purpose text => [⟨level - 1, purpose, text⟩]
  | enter purpose head => [⟨level, purpose, head ++ s.opening⟩]
  | leave => closingLines s (level - 1)

end Stroke

/-- The number of blocks that were entered and not yet left. -/
def openBlocks : List Stroke → Int
  | [] => 0
  | stroke :: strokes => stroke.rise + openBlocks strokes

@[simp] theorem openBlocks_nil : openBlocks [] = 0 := rfl

@[simp] theorem openBlocks_cons (stroke : Stroke) (strokes : List Stroke) :
    openBlocks (stroke :: strokes) = stroke.rise + openBlocks strokes := rfl

@[simp] theorem openBlocks_append (strokes strokes' : List Stroke) :
    openBlocks (strokes ++ strokes') = openBlocks strokes + openBlocks strokes' := by
  induction strokes with
  | nil => simp
  | cons stroke strokes ih => simp [ih, Int.add_assoc]

/-- Whether strokes, made from a level on, lower it only where there is one left. -/
def Steady (level : Int) : List Stroke → Prop
  | [] => True
  | stroke :: strokes => (stroke.lowers = true → 0 < level) ∧ Steady (level + stroke.rise) strokes

theorem steady_append {level : Int} {strokes strokes' : List Stroke} :
    Steady level (strokes ++ strokes') ↔
      Steady level strokes ∧ Steady (level + openBlocks strokes) strokes' := by
  induction strokes generalizing level with
  | nil => simp [Steady]
  | cons stroke strokes ih => simp [Steady, ih, and_assoc, Int.add_assoc]

/-- Steady strokes never lead below the margin. -/
theorem Steady.nonneg {level : Int} {strokes : List Stroke} (h : Steady level strokes)
    (hlevel : 0 ≤ level) : 0 ≤ level + openBlocks strokes := by
  induction strokes generalizing level with
  | nil => simpa using hlevel
  | cons stroke strokes ih =>
    obtain ⟨hstroke, hrest⟩ := h
    have hstep : 0 ≤ level + stroke.rise := by
      cases stroke with
      | leave =>
        have hpos : 0 < level := hstroke rfl
        simp only [Stroke.rise]
        omega
      | _ => simp only [Stroke.rise]; omega
    have := ih hrest hstep
    rw [openBlocks_cons]
    omega

namespace Page

/-- Makes a stroke. -/
def stroke (p : Page) : Stroke → Page
  | .line _ text => p.line text
  | .outdented _ text => (p.lower.line text).raise
  | .enter _ head => p.enter head
  | .leave => p.leave

/-- Makes strokes one after the other. -/
def strokeAll (p : Page) (strokes : List Stroke) : Page := strokes.foldl stroke p

@[simp] theorem strokeAll_nil (p : Page) : p.strokeAll [] = p := rfl

@[simp] theorem strokeAll_cons (p : Page) (stroke : Stroke) (strokes : List Stroke) :
    p.strokeAll (stroke :: strokes) = (p.stroke stroke).strokeAll strokes := rfl

theorem strokeAll_append (p : Page) (strokes strokes' : List Stroke) :
    p.strokeAll (strokes ++ strokes') = (p.strokeAll strokes).strokeAll strokes' :=
  List.foldl_append ..

/-- The page with further text, so many levels further in. -/
def advanced (p : Page) (rise : Int) (s : String) : Page :=
  { p with level := p.level + rise, text := p.text ++ s }

@[simp] theorem advanced_style (p : Page) (rise : Int) (s : String) :
    (p.advanced rise s).style = p.style := rfl

@[simp] theorem advanced_level (p : Page) (rise : Int) (s : String) :
    (p.advanced rise s).level = p.level + rise := rfl

theorem advanced_advanced (p : Page) (rise rise' : Int) (s t : String) :
    (p.advanced rise s).advanced rise' t = p.advanced (rise + rise') (s ++ t) := by
  simp [advanced, Int.add_assoc, String.append_assoc]

/-- What a single stroke does: it writes its lines and counts the block that it enters or leaves. -/
theorem stroke_eq {p : Page} {stroke : Stroke} (h : stroke.lowers = true → 0 < p.level) :
    p.stroke stroke =
      p.advanced stroke.rise (Line.textOf p.style (stroke.lines p.style p.level)) := by
  cases stroke with
  | line purpose text =>
    simp [Page.stroke, line_eq p purpose, advanced, appended, Stroke.rise,
      Stroke.lines, Line.textOf]
  | outdented purpose text =>
    have hput := put_outdented (h rfl) purpose text
    rw [put, Prod.mk.injEq] at hput
    simp [Page.stroke, hput.1, advanced, appended, Stroke.rise, Stroke.lines, Line.textOf]
  | enter purpose head =>
    simp [Page.stroke, enter_eq p purpose, advanced, appended, raise, Stroke.rise,
      Stroke.lines, Line.textOf]
  | leave =>
    -- Seen from the level outside of the block, leaving it writes the closing line there.
    let q : Page := { p with level := p.level - 1 }
    have hraise : q.raise = p := by simp [q, raise]
    have hpos : 0 < p.level := h rfl
    have hleave : q.raise.leave = _ := leave_raise (show 0 ≤ p.level - 1 by omega)
    rw [hraise] at hleave
    rw [Page.stroke, hleave]
    simp [advanced, appended, Stroke.rise, Stroke.lines, q]
    omega

/-- The lines of strokes that are made from a level on. -/
def strokeLines (s : PageStyle) (level : Int) : List Stroke → List Line
  | [] => []
  | stroke :: strokes => stroke.lines s level ++ strokeLines s (level + stroke.rise) strokes

/-- A run of steady strokes writes the lines of each at the level of the open blocks. -/
theorem strokeAll_eq {p : Page} {strokes : List Stroke} (h : Steady p.level strokes) :
    p.strokeAll strokes =
      p.advanced (openBlocks strokes)
        (Line.textOf p.style (strokeLines p.style p.level strokes)) := by
  induction strokes generalizing p with
  | nil => simp [advanced, strokeLines, Line.textOf]
  | cons stroke strokes ih =>
    obtain ⟨hstroke, hrest⟩ := h
    rw [strokeAll_cons, stroke_eq hstroke, ih hrest, advanced_advanced]
    simp [strokeLines, Line.textOf]

end Page

/-- The text of lines is empty or ends where a line ends. -/
theorem Line.textOf_ends (s : PageStyle) (ls : List Line) :
    Line.textOf s ls = "" ∨ ∃ front, Line.textOf s ls = front ++ "\n" := by
  rcases List.eq_nil_or_concat ls with rfl | ⟨before, l, rfl⟩
  · exact .inl rfl
  · refine .inr ⟨Line.textOf s before ++
      (if l.content.isEmpty then "" else repeated s.indent l.level ++ l.content), ?_⟩
    simp [Line.textOf, Line.text, String.append_assoc]

namespace Outline

mutual

/-- The strokes in which an outline is written, up to its fault. -/
def strokes : Outline → List Stroke
  | line purpose text => [.line purpose text]
  | outdented purpose text => [.outdented purpose text]
  | block purpose head body =>
    .enter purpose head :: allStrokes body ++ if (firstFault body).isNone then [.leave] else []
  | halt _ => []

/-- The strokes in which outlines are written one after the other, up to their first fault. -/
def allStrokes : List Outline → List Stroke
  | [] => []
  | o :: os => o.strokes ++ if o.fault?.isNone then allStrokes os else []

end

mutual

theorem put_strokes (p : Page) : ∀ o : Outline, (p.put o).1 = p.strokeAll o.strokes
  | .line .. => by simp [Page.put, strokes, Page.stroke]
  | .outdented .. => by simp [Page.put, strokes, Page.stroke]
  | .halt _ => by simp [Page.put, strokes]
  | .block purpose head body => by
    have hfault := Page.putAll_fault (p.enter head) body
    have hbody := putAll_strokes (p.enter head) body
    rw [Page.put, strokes]
    split
    · rename_i q fault heq
      rw [heq] at hfault hbody
      simp only at hfault hbody
      simp [← hfault, ← hbody, Page.stroke]
    · rename_i q heq
      rw [heq] at hfault hbody
      simp only at hfault hbody
      simp [← hfault, ← hbody, Page.stroke, Page.strokeAll_append]

/-- Writing outlines is making their strokes. -/
theorem putAll_strokes (p : Page) :
    ∀ os : List Outline, (p.putAll os).1 = p.strokeAll (allStrokes os)
  | [] => by simp [Page.putAll, allStrokes]
  | o :: os => by
    have hfault := Page.put_fault p o
    have hfirst := put_strokes p o
    rw [Page.putAll, allStrokes]
    split
    · rename_i q fault heq
      rw [heq] at hfault hfirst
      simp only at hfault hfirst
      simp [← hfault, ← hfirst]
    · rename_i q heq
      rw [heq] at hfault hfirst
      simp only at hfault hfirst
      simp [← hfault, ← hfirst, putAll_strokes q os, Page.strokeAll_append]

end

mutual

/-- Every block of an outline without a fault is left again. -/
theorem openBlocks_strokes : ∀ o : Outline, o.fault? = none → openBlocks o.strokes = 0
  | .line .., _ => by simp [strokes, Stroke.rise]
  | .outdented .., _ => by simp [strokes, Stroke.rise]
  | .halt _, h => by simp [fault?] at h
  | .block _ _ body, h => by
    rw [fault?] at h
    simp [strokes, openBlocks_allStrokes body h, h, Stroke.rise]

theorem openBlocks_allStrokes : ∀ os : List Outline, firstFault os = none →
    openBlocks (allStrokes os) = 0
  | [], _ => by simp [allStrokes]
  | o :: os, h => by
    rw [firstFault_cons, Option.or_eq_none_iff] at h
    simp [allStrokes, openBlocks_strokes o h.1, openBlocks_allStrokes os h.2, h.1]

end

mutual

theorem steady_strokes {level : Int} : ∀ o : Outline, Fit level [o] → Steady level o.strokes
  | .line .., _ => by simp [strokes, Steady, Stroke.lowers]
  | .halt _, _ => by simp [strokes, Steady]
  | .outdented .., h => by
    rcases h with h | ⟨-, h⟩
    · simp [strokes, Steady, h]
    · simp [isOutdented] at h
  | .block _ _ body, h => by
    have hbody := steady_allStrokes body (Fit.inside h.nonneg body)
    have hlevel := h.nonneg
    rw [strokes, List.cons_append, Steady, steady_append]
    refine ⟨by simp [Stroke.lowers], hbody, ?_⟩
    split
    · rename_i hnone
      rw [Option.isNone_iff_eq_none] at hnone
      rw [openBlocks_allStrokes body hnone]
      simp only [Steady, Stroke.rise, and_true]
      omega
    · trivial

/-- Outlines that fit are written steadily. -/
theorem steady_allStrokes {level : Int} :
    ∀ os : List Outline, Fit level os → Steady level (allStrokes os)
  | [], _ => by simp [allStrokes, Steady]
  | o :: os, h => by
    rw [allStrokes, steady_append]
    refine ⟨steady_strokes o h.head, ?_⟩
    split
    · rename_i hnone
      rw [Option.isNone_iff_eq_none] at hnone
      rw [openBlocks_strokes o hnone, Int.add_zero]
      exact steady_allStrokes os h.tail
    · trivial

end

mutual

/-- Whether the lines that begin alternatives, and only these, are outdented. -/
def isRegular : Outline → Bool
  | line purpose _ => purpose ≠ .otherwise
  | outdented purpose _ => purpose = .otherwise
  | block purpose _ body => purpose ≠ .otherwise && areRegular body
  | halt _ => true

def areRegular : List Outline → Bool
  | [] => true
  | o :: os => o.isRegular && areRegular os

end

@[simp] theorem areRegular_nil : areRegular [] = true := by simp [areRegular]

@[simp] theorem areRegular_cons (o : Outline) (os : List Outline) :
    areRegular (o :: os) = (o.isRegular && areRegular os) := by simp [areRegular]

theorem areRegular_iff (os : List Outline) :
    areRegular os = true ↔ ∀ o ∈ os, o.isRegular = true := by
  induction os with
  | nil => simp
  | cons o os ih => simp [ih]

@[simp] theorem areRegular_append (os ps : List Outline) :
    areRegular (os ++ ps) = (areRegular os && areRegular ps) := by
  induction os with
  | nil => simp
  | cons o os ih => simp [ih, Bool.and_assoc]

@[simp] theorem areRegular_flatMap {α : Type} (f : α → List Outline) (as : List α) :
    areRegular (as.flatMap f) = true ↔ ∀ a ∈ as, areRegular (f a) = true := by
  induction as with
  | nil => simp
  | cons a as ih => simp [ih]

@[simp] theorem areRegular_given {α : Type} (x : Except Fault α) (f : α → List Outline) :
    areRegular (given x f) = true ↔ ∀ a, x = .ok a → areRegular (f a) = true := by
  cases x <;> simp [given, isRegular]

@[simp] theorem areRegular_ite (p : Prop) [Decidable p] (os ps : List Outline) :
    areRegular (if p then os else ps) = if p then areRegular os else areRegular ps :=
  apply_ite ..

@[simp] theorem isRegular_text (s : String) : (text s).isRegular = true := by simp [text, isRegular]

@[simp] theorem isRegular_blank : blank.isRegular = true := by simp [blank, isRegular]

mutual

theorem strokes_regular : ∀ o : Outline, o.isRegular = true →
    ∀ stroke ∈ o.strokes, stroke.isOutdented = stroke.isElse
  | .line purpose _, h, stroke, hmem => by
    simp only [strokes, List.mem_singleton] at hmem
    simp_all [isRegular, Stroke.isOutdented, Stroke.isElse]
  | .outdented purpose _, h, stroke, hmem => by
    simp only [strokes, List.mem_singleton] at hmem
    simp_all [isRegular, Stroke.isOutdented, Stroke.isElse]
  | .halt _, _, stroke, hmem => by simp [strokes] at hmem
  | .block purpose head body, h, stroke, hmem => by
    rw [isRegular, Bool.and_eq_true] at h
    rw [strokes, List.cons_append, List.mem_cons, List.mem_append] at hmem
    rcases hmem with rfl | hmem | hmem
    · simpa [Stroke.isOutdented, Stroke.isElse] using h.1
    · exact allStrokes_regular body h.2 stroke hmem
    · have hleave : stroke = .leave := by
        split at hmem
        · simpa using hmem
        · simp at hmem
      simp [hleave, Stroke.isOutdented, Stroke.isElse]

theorem allStrokes_regular : ∀ os : List Outline, areRegular os = true →
    ∀ stroke ∈ allStrokes os, stroke.isOutdented = stroke.isElse
  | [], _, stroke, hmem => by simp [allStrokes] at hmem
  | o :: os, h, stroke, hmem => by
    rw [areRegular_cons, Bool.and_eq_true] at h
    rw [allStrokes, List.mem_append] at hmem
    rcases hmem with hmem | hmem
    · exact strokes_regular o h.1 stroke hmem
    · split at hmem
      · exact allStrokes_regular os h.2 stroke hmem
      · simp at hmem

end

end Outline

namespace CodeSettings

open TaxFlow.Chart

@[simp] theorem comment_regular (v : CodeSettings) (text : String) (simple : Bool) :
    areRegular (v.comment text simple) = true := by
  rw [areRegular_iff]
  intro o ho
  unfold comment at ho
  cases simple <;> simp at ho <;> grind [isRegular]

@[simp] theorem declarationComment_regular (v : CodeSettings) (text : Option String)
    (simple : Bool) :
    areRegular (v.declarationComment text simple) = true := by
  cases text <;> simp [declarationComment]

@[simp] theorem methodComment_regular (v : CodeSettings) (text : Option String) :
    areRegular (v.methodComment text) = true := by
  cases text <;> simp [methodComment]

mutual

theorem step_regular (v : CodeSettings) : ∀ s : Step, areRegular (v.step s) = true
  | .note _ => by simp [step]
  | .method .. => by simp [step]
  | .eval _ source => by simp [step, isRegular]
  | .execute _ method => by simp [step, isRegular]
  | .condition _ source body => by simp [step, isRegular, body_regular v body]
  | .consequent _ body => by
    have hbody := body_regular v body
    rw [step]
    split <;> simp [isRegular, hbody]
  | .alternative _ body => by simp [step, isRegular, body_regular v body]

@[simp] theorem body_regular (v : CodeSettings) : ∀ ss : List Step, areRegular (v.body ss) = true
  | [] => by simp [body]
  | s :: ss => by simp [body, step_regular v s, body_regular v ss]

end

theorem phpFile_regular (v : CodeSettings) (space : Option String) (c : Chart) :
    areRegular (v.phpFile space c) = true := by
  simp [phpFile, phpVariables, phpVariable, phpInitializer, phpInitials, phpInitial,
    phpGetter, phpSetter, phpMethod, isRegular]

theorem pythonFile_regular (v : CodeSettings) (c : Chart) : areRegular (v.pythonFile c) = true := by
  have hconstant : ∀ k, areRegular (v.pythonConstant k) = true := by
    intro k
    cases hcomment : k.comment <;> simp [pythonConstant, hcomment]
  simp [pythonFile, hconstant, pythonConstructor, pythonVariables, pythonVariable,
    pythonSetter, pythonGetter, pythonMethod, isRegular]

theorem javaFile_regular (v : CodeSettings) (package : Option String) (c : Chart) :
    areRegular (v.javaFile package c) = true := by
  simp [javaFile, javaConstant, javaVariables, javaVariable, javaSetter, javaGetter,
    javaMethod, isRegular]

theorem javascriptFile_regular (v : CodeSettings) (c : Chart) :
    areRegular (v.javascriptFile c) = true := by
  simp [javascriptFile, javascriptConstant, javascriptVariables, javascriptVariable,
    javascriptSetter, javascriptGetter, javascriptMethod, prototypeBlock, isRegular]

theorem golangFile_regular (v : CodeSettings) (package : Option String) (c : Chart) :
    areRegular (v.golangFile package c) = true := by
  have hdefault : ∀ x, areRegular (v.golangDefault x) = true := by
    intro x
    cases hvalue : x.default <;> simp [golangDefault, golangInitial, hvalue]
  simp [golangFile, golangStruct, golangFields, golangField, golangInitials, golangInitial,
    hdefault, golangSetter, golangGetter, golangMethod, isRegular]

end CodeSettings

namespace Generator

/-- In every file the lines that begin alternatives, and only these, are outdented. -/
theorem file_regular (g : Generator) (c : Chart) : areRegular (g.file c) = true := by
  unfold file
  cases g.target with
  | php => exact CodeSettings.phpFile_regular ..
  | python => exact CodeSettings.pythonFile_regular ..
  | java => exact CodeSettings.javaFile_regular ..
  | javascript => exact CodeSettings.javascriptFile_regular ..
  | golang => exact CodeSettings.golangFile_regular ..
  | bare => rfl
  | braced => rfl
  | unfinished => rfl

/-- A file is written in its strokes. -/
theorem generate_page (g : Generator) (c : Chart) :
    (g.generate c).1.page = g.page.strokeAll (allStrokes ((g.informed c).file c)) := by
  rw [← putAll_strokes, ← informed_page g c]
  rfl

theorem generate_fault (g : Generator) (c : Chart) :
    (g.generate c).2 = firstFault ((g.informed c).file c) :=
  Page.putAll_fault ..

end Generator

/-- A file is written in strokes. Each writes its lines at the level at which the page began, raised
by the number of blocks that were entered and not yet left; the lines that begin alternatives, and
only these, stand one level further out. At every point of the run the level counts the open blocks
and no line is left unfinished; a run that is not ended by a fault leaves every block that it
entered. -/
theorem level_counts_open_blocks (g : Generator) (hlevel : 0 ≤ g.page.level) (c : Chart) :
    let strokes := allStrokes ((g.informed c).file c)
    (g.generate c).1.page = g.page.strokeAll strokes ∧
      (∀ before stroke after, strokes = before ++ stroke :: after →
        g.page.strokeAll (before ++ [stroke]) =
            { style := g.page.style
              level := g.page.level + openBlocks (before ++ [stroke])
              text := (g.page.strokeAll before).text ++
                Line.textOf g.page.style
                  (stroke.lines g.page.style (g.page.level + openBlocks before)) } ∧
          stroke.isOutdented = stroke.isElse) ∧
      (∀ before after, strokes = before ++ after →
        0 ≤ openBlocks before ∧
          (g.page.strokeAll before).level = g.page.level + openBlocks before ∧
          ∃ written, (g.page.strokeAll before).text = g.page.text ++ written ∧
            (written = "" ∨ ∃ front, written = front ++ "\n")) ∧
      ((g.generate c).2 = none → (g.generate c).1.page.level = g.page.level) := by
  intro strokes
  have hflush := Generator.file_flush (g.informed c) c
  have hsteady : Steady g.page.level strokes := steady_allStrokes _ (.inr ⟨hlevel, hflush⟩)
  have hmargin : Steady 0 strokes := steady_allStrokes _ (.inr ⟨Int.le_refl 0, hflush⟩)
  have hregular := allStrokes_regular _ (Generator.file_regular (g.informed c) c)
  refine ⟨g.generate_page c, ?_, ?_, ?_⟩
  · intro before stroke after hsplit
    rw [hsplit, steady_append] at hsteady
    obtain ⟨hbefore, hstroke, -⟩ := hsteady
    have hmem : stroke ∈ strokes := by simp [hsplit]
    refine ⟨?_, hregular stroke hmem⟩
    rw [Page.strokeAll_append, Page.strokeAll_cons, Page.strokeAll_nil, Page.stroke_eq]
    · simp [Page.strokeAll_eq hbefore, Page.advanced, Int.add_assoc]
    · simpa [Page.strokeAll_eq hbefore] using hstroke
  · intro before after hsplit
    rw [hsplit, steady_append] at hsteady hmargin
    have hnonneg := hmargin.1.nonneg (Int.le_refl 0)
    rw [Page.strokeAll_eq hsteady.1]
    exact ⟨by omega, rfl, _, rfl, Line.textOf_ends ..⟩
  · intro hok
    rw [g.generate_fault c] at hok
    rw [g.generate_page c, Page.strokeAll_eq hsteady, Page.advanced_level,
      openBlocks_allStrokes _ hok, Int.add_zero]

/-- A chart whose main method cannot be written behind the beginning of an alternative. -/
def brokenAlternative : Chart :=
  { name := some "Tax"
    main :=
      { comment := none
        name := some "MAIN"
        body :=
          [.condition none (some "A > 0")
            [.consequent none [.eval none (some "A = 1")],
              .alternative none [.execute none (some "M"), .eval none (some "A = ")]]] }
    methods := []
    inputs := .ok []
    outputs := .ok []
    internals := .ok []
    constants := [] }

/-- Class, method and condition are still open when the run of `brokenAlternative` ends, five levels
in. -/
theorem brokenAlternative_level :
    let g := Generator.new .python {} brokenAlternative
    let g := { g with page := { g.page with level := 2 } }
    (g.generate brokenAlternative).2 ≠ none ∧ (g.generate brokenAlternative).1.page.level = 5 := by
  intro g₀ g
  obtain ⟨hpage, -, hpoint, -⟩ := level_counts_open_blocks g (by decide) brokenAlternative
  obtain ⟨-, hlevel, -⟩ := hpoint _ [] (List.append_nil _).symm
  have hopen :
      openBlocks (allStrokes ((g.informed brokenAlternative).file brokenAlternative)) = 3 := by
    decide +kernel
  refine ⟨by decide +kernel, ?_⟩
  rw [hpage, hlevel, hopen]
  rfl

end TaxFlow

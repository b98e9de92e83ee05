import TaxFlow.Page.Draft
import TaxFlow.Proofs.Lines

/-!
# Layouts

A layout says which lines and blocks are to stand on a page. Its text is defined by recursion on the
blocks, with the level as an argument. A draft has no such argument, only a level that is raised and
lowered again; still it writes this text, and it is left as it was found but for the text.
-/
namespace TaxFlow

/-- Lines and nested blocks. The parts of a block are indented further by any number of levels. -/
inductive Layout where
  | line (content : Option String)
  | block (head : Option String) (step : Nat) (parts : List Layout)

namespace Layout

/-- The characters of a line at a level. -/
def lineAt (s : PageStyle) (level : Nat) (content : String) : String :=
  if content.isEmpty then "\n" else String.join (List.replicate level s.indent) ++ content ++ "\n"

/-- The characters behind the parts of a block whose head stands at a level. -/
def closingAt (s : PageStyle) (level : Nat) : String :=
  match s.closing with
  | some closing => if closing.isEmpty then "" else lineAt s level closing
  | none => ""

mutual

/-- The characters of a layout at a level. -/
def text (s : PageStyle) (level : Nat) : Layout → String
  | line content => lineAt s level (content.getD "")
  | block head step parts =>
    lineAt s level (shown head ++ s.opening) ++ textOf s (level + step) parts ++ closingAt s level

/-- The characters of layouts below each other. -/
def textOf (s : PageStyle) (level : Nat) : List Layout → String
  | [] => ""
  | l :: ls => l.text s level ++ textOf s level ls

end

mutual

/-- What is to be done on a draft for a layout. -/
def actions : Layout → List PageAction
  | line content => [.line content true]
  | block head step parts => .enter head step :: (actionsOf parts ++ [.leave])

def actionsOf : List Layout → List PageAction
  | [] => []
  | l :: ls => l.actions ++ actionsOf ls

end

attribute [simp] text textOf actions actionsOf

end Layout

/-- Whether an action is carried out on every draft. -/
def PageAction.isSafe : PageAction → Bool
  | .generate | .abandon _ => false
  | _ => true

namespace Page

/-- The page with a text in front of its own. -/
def behindText (p : Page) (s : String) : Page := { p with text := s ++ p.text }

theorem write_behindText (p : Page) (s content : String) (indented : Bool) :
    (p.behindText s).write content indented = (p.write content indented).behindText s := by
  unfold write
  split
  · rfl
  · split <;> simp [behindText, margin, String.append_assoc]

theorem feed_behindText (p : Page) (s : String) (count : Int) (indented : Bool) :
    (p.behindText s).feed count indented = (p.feed count indented).behindText s :=
  write_behindText ..

theorem line_behindText (p : Page) (s content : String) (indented : Bool) :
    (p.behindText s).line content indented = (p.line content indented).behindText s := by
  rw [line, write_behindText, feed_behindText]
  rfl

theorem lower_behindText (p : Page) (s : String) (step : Int) :
    (p.behindText s).lower step = (p.lower step).behindText s := by
  by_cases h : 0 < p.level <;> simp [lower, behindText, h]

theorem enter_behindText (p : Page) (s head : String) (step : Int) :
    (p.behindText s).enter head step = (p.enter head step).behindText s := by
  have hstyle : (p.behindText s).style = p.style := rfl
  rw [enter, line_behindText, hstyle]
  rfl

theorem leave_behindText (p : Page) (s : String) (step : Int) :
    (p.behindText s).leave step = (p.leave step).behindText s := by
  have hstyle : ((p.lower step).behindText s).style = (p.lower step).style := rfl
  simp only [leave, lower_behindText, hstyle]
  split
  · split
    · rfl
    · exact line_behindText ..
  · rfl

/-- A line at a level that is not negative. -/
theorem line_lineAt (s : PageStyle) (level : Nat) (t content : String) :
    (⟨s, level, t⟩ : Page).line content = ⟨s, level, t ++ Layout.lineAt s level content⟩ := by
  rw [line_eq _ .plain]
  by_cases h : content.isEmpty <;> simp [appended, Line.text, Layout.lineAt, repeated, h]

theorem enter_lineAt (s : PageStyle) (level step : Nat) (t head : String) :
    (⟨s, level, t⟩ : Page).enter head step =
      ⟨s, (level + step : Nat), t ++ Layout.lineAt s level (head ++ s.opening)⟩ := by
  rw [enter, line_lineAt]
  simp [raise]

/-- The level of a block is lowered as far as it was raised, also where there is nothing to
lower. -/
theorem lower_step (s : PageStyle) (level step : Nat) (t : String) :
    (⟨s, (level + step : Nat), t⟩ : Page).lower step = ⟨s, level, t⟩ := by
  by_cases h : 0 < level + step
  · have hlevel : (0 : Int) < (level + step : Nat) := by omega
    simp only [lower, if_pos hlevel]
    congr
    omega
  · obtain ⟨rfl, rfl⟩ : level = 0 ∧ step = 0 := by omega
    simp [lower]

theorem leave_closingAt (s : PageStyle) (level step : Nat) (t : String) :
    (⟨s, (level + step : Nat), t⟩ : Page).leave step =
      ⟨s, level, t ++ Layout.closingAt s level⟩ := by
  rw [leave, lower_step]
  cases hclosing : s.closing with
  | none => simp [Layout.closingAt, hclosing]
  | some closing =>
    by_cases hempty : closing.isEmpty
    · simp [Layout.closingAt, hclosing, hempty]
    · simp [Layout.closingAt, hclosing, hempty, line_lineAt]

end Page

namespace Draft

/-- The draft behind actions. -/
def after (d : Draft) (as : List PageAction) : Draft := as.foldl (fun d a => (d.act a).1) d

/-- All that actions write. -/
def written (d : Draft) (as : List PageAction) : String := String.join ((d.run as).map Prod.fst)

@[simp] theorem after_nil (d : Draft) : d.after [] = d := rfl

@[simp] theorem after_cons (d : Draft) (a : PageAction) (as : List PageAction) :
    d.after (a :: as) = (d.act a).1.after as := rfl

theorem after_append (d : Draft) (as bs : List PageAction) :
    d.after (as ++ bs) = (d.after as).after bs :=
  List.foldl_append

/-- The draft with a text in front of its own. -/
def behindText (d : Draft) (s : String) : Draft := { d with page := d.page.behindText s }

def cleared (d : Draft) : Draft := { d with page := d.page.cleared }

theorem cleared_behindText (d : Draft) : d.cleared.behindText d.page.text = d := by
  simp [cleared, behindText, Page.cleared, Page.behindText]

/-- What an action does does not depend on the text that is already there. -/
theorem act_behindText (d : Draft) (s : String) (a : PageAction) :
    ((d.behindText s).act a).1 = (d.act a).1.behindText s := by
  cases a with
  | write content indented => exact congrArg (Draft.mk · _) (Page.write_behindText ..)
  | line content indented => exact congrArg (Draft.mk · _) (Page.line_behindText ..)
  | feed count indented => exact congrArg (Draft.mk · _) (Page.feed_behindText ..)
  | raise step => rfl
  | lower step => exact congrArg (Draft.mk · _) (Page.lower_behindText ..)
  | generate => rfl
  | enter head step => exact congrArg (Draft.mk · _) (Page.enter_behindText ..)
  | leave =>
    obtain ⟨page, blocks⟩ := d
    cases blocks with
    | nil => rfl
    | cons step blocks => exact congrArg (Draft.mk · _) (Page.leave_behindText ..)
  | abandon reason => rfl

/-- The texts that are told one by one make up the text of the page. -/
theorem text_after (d : Draft) (as : List PageAction) :
    (d.after as).page.text = d.page.text ++ d.cleared.written as := by
  induction as generalizing d with
  | nil => simp [written, run]
  | cons a as ih =>
    have hact : (d.act a).1 = (d.cleared.act a).1.behindText d.page.text := by
      rw [← act_behindText, cleared_behindText]
    have hwritten : d.cleared.written (a :: as) =
        (d.cleared.act a).1.page.text ++ (d.cleared.act a).1.cleared.written as := by
      simp [written, run, cleared]
    rw [after_cons, ih, hwritten, hact, ← String.append_assoc]
    rfl

/-- Only actions that are not safe have a fault. -/
theorem act_fault {a : PageAction} (ha : a.isSafe = true) (d : Draft) : (d.act a).2 = none := by
  cases a with
  | generate | abandon => cases ha
  | leave =>
    obtain ⟨page, blocks⟩ := d
    cases blocks <;> rfl
  | _ => rfl

theorem run_fault {as : List PageAction} (has : ∀ a ∈ as, a.isSafe = true) (d : Draft) :
    ∀ told ∈ d.run as, told.2.2 = none := by
  induction as generalizing d with
  | nil => simp [run]
  | cons a as ih =>
    obtain ⟨ha, has⟩ := List.forall_mem_cons.1 has
    rw [run]
    exact List.forall_mem_cons.2 ⟨act_fault ha d, ih has _⟩

end Draft

namespace Layout

mutual

theorem actions_isSafe : ∀ l : Layout, ∀ a ∈ l.actions, a.isSafe = true
  | line _ => by simp [PageAction.isSafe]
  | block _ _ parts => by
    have ih := actionsOf_isSafe parts
    simpa [PageAction.isSafe, or_imp, forall_and] using ih

theorem actionsOf_isSafe : ∀ ls : List Layout, ∀ a ∈ actionsOf ls, a.isSafe = true
  | [] => by simp
  | l :: ls => by
    intro a ha
    rcases List.mem_append.1 (by simpa using ha) with ha | ha
    · exact actions_isSafe l a ha
    · exact actionsOf_isSafe ls a ha

end

variable (s : PageStyle)

mutual

/-- The step of the recursion: a block ends with the level and the open blocks with which it
began. -/
theorem after_actions (level : Nat) (t : String) (blocks : List Int) : ∀ l : Layout,
    (⟨⟨s, level, t⟩, blocks⟩ : Draft).after l.actions = ⟨⟨s, level, t ++ l.text s level⟩, blocks⟩
  | line content => by simp [Draft.act, Page.line_lineAt]
  | block head step parts => by
    have ih :=
      after_actionsOf (level + step) (t ++ lineAt s level (shown head ++ s.opening))
        (step :: blocks) parts
    rw [actions, Draft.after_cons, Draft.act, Page.enter_lineAt, Draft.after_append, ih]
    show (⟨Page.leave _ step, blocks⟩ : Draft) = _
    rw [Page.leave_closingAt]
    simp [String.append_assoc]

theorem after_actionsOf (level : Nat) (t : String) (blocks : List Int) : ∀ ls : List Layout,
    (⟨⟨s, level, t⟩, blocks⟩ : Draft).after
    (actionsOf ls) = ⟨⟨s, level, t ++ textOf s level ls⟩, blocks⟩
  | [] => by simp
  | l :: ls => by
    rw [actionsOf, Draft.after_append, after_actions level t blocks l,
      after_actionsOf level _ blocks ls]
    simp [String.append_assoc]

end

/-- A draft that carries out layouts has their text appended and the level and the open blocks that
it had; nothing fails, and what it tells of each action adds up to this text. -/
theorem draft_writes_layouts (level : Nat) (t : String) (blocks : List Int) (ls : List Layout) :
    (⟨⟨s, level, t⟩, blocks⟩ : Draft).after (actionsOf ls) =
        ⟨⟨s, level, t ++ textOf s level ls⟩, blocks⟩ ∧
      (⟨⟨s, level, ""⟩, blocks⟩ : Draft).written (actionsOf ls) = textOf s level ls ∧
      ∀ told ∈ (⟨⟨s, level, t⟩, blocks⟩ : Draft).run (actionsOf ls), told.2.2 = none := by
  refine ⟨after_actionsOf s level t blocks ls, ?_, Draft.run_fault (actionsOf_isSafe ls) _⟩
  have htext := Draft.text_after ⟨⟨s, level, ""⟩, blocks⟩ (actionsOf ls)
  rw [after_actionsOf] at htext
  simpa [Draft.cleared, Page.cleared] using htext.symm

end Layout
end TaxFlow

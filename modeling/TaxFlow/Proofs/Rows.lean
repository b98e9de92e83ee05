import TaxFlow.Proofs.OpenBlocks

/-!
# Rows of a file

The lines of a file together with whether a block begins behind them. A file that is written to its
end has exactly the text of its rows.
-/
namespace TaxFlow

open Chart Outline

/-- A line, and whether a block begins behind it. -/
structure Row extends Line where
  opens : Bool
  deriving DecidableEq, Repr

/-- A line behind which no block begins. -/
def Line.row (l : Line) : Row := ⟨l, false⟩

namespace Outline

mutual

/-- The rows of an outline that begins at a level. -/
def rows (s : PageStyle) (level : Int) : Outline → List Row
  | line purpose text => [⟨⟨level, purpose, text⟩, false⟩]
  | outdented purpose text => [⟨⟨level - 1, purpose, text⟩, true⟩]
  | block purpose head body =>
    ⟨⟨level, purpose, head ++ s.opening⟩, true⟩ :: allRows s (level + 1) body ++
      (closingLines s level).map Line.row
  | halt _ => []

/-- The rows of outlines that begin at a level. -/
def allRows (s : PageStyle) (level : Int) : List Outline → List Row
  | [] => []
  | o :: os => o.rows s level ++ allRows s level os

end

@[simp] theorem allRows_nil (s : PageStyle) (level : Int) : allRows s level [] = [] := by
  simp [allRows]

@[simp] theorem allRows_cons (s : PageStyle) (level : Int) (o : Outline) (os : List Outline) :
    allRows s level (o :: os) = o.rows s level ++ allRows s level os := by simp [allRows]

@[simp] theorem allRows_append (s : PageStyle) (level : Int) (os ps : List Outline) :
    allRows s level (os ++ ps) = allRows s level os ++ allRows s level ps := by
  induction os with
  | nil => simp
  | cons o os ih => simp [ih]

mutual

theorem rows_lines (s : PageStyle) (level : Int) :
    ∀ o : Outline, (o.rows s level).map Row.toLine = o.lines s level
  | .line .. => by simp [rows, lines]
  | .outdented .. => by simp [rows, lines]
  | .halt _ => by simp [rows, lines]
  | .block purpose head body => by
    have hbody := allRows_lines s (level + 1) body
    have hclosing : ((closingLines s level).map Line.row).map Row.toLine =
        closingLines s level := by
      rw [List.map_map]
      exact List.map_id _
    simp [rows, lines, hbody, hclosing]

theorem allRows_lines (s : PageStyle) (level : Int) :
    ∀ os : List Outline, (allRows s level os).map Row.toLine = allLines s level os
  | [] => by simp
  | o :: os => by simp [rows_lines s level o, allRows_lines s level os]

end

/-- Whether an outline is a line at its own level, as far as it is anything. -/
def isFlat : Outline → Bool
  | line .. => true
  | halt _ => true
  | _ => false

/-- Lines at their own level open nothing. -/
theorem mem_allRows_of_flat {os : List Outline} (h : os.all isFlat = true) {s : PageStyle}
    {level : Int} {r : Row} (hr : r ∈ allRows s level os) : r.level = level ∧ r.opens = false := by
  induction os with
  | nil => simp at hr
  | cons o os ih =>
    rw [List.all_cons, Bool.and_eq_true] at h
    rw [allRows_cons, List.mem_append] at hr
    rcases hr with hr | hr
    · cases o with
      | line purpose text => simp_all [rows]
      | halt fault => simp [rows] at hr
      | _ => simp [isFlat] at h
    · exact ih h.2 hr

@[simp] theorem all_isFlat_given {α : Type} (x : Except Fault α) (f : α → List Outline) :
    (given x f).all isFlat = true ↔ ∀ a, x = .ok a → (f a).all isFlat = true := by
  cases x <;> simp [given, isFlat]

@[simp] theorem firstFault_given {α : Type} (x : Except Fault α) (f : α → List Outline) :
    firstFault (given x f) = none ↔ ∃ a, x = .ok a ∧ firstFault (f a) = none := by
  cases x <;> simp [given, fault?]

@[simp] theorem firstFault_flatMap {α : Type} (f : α → List Outline) (as : List α) :
    firstFault (as.flatMap f) = none ↔ ∀ a ∈ as, firstFault (f a) = none := by
  induction as with
  | nil => simp
  | cons a as ih => simp [Option.or_eq_none_iff, ih]

end Outline

namespace CodeSettings

theorem comment_flat (v : CodeSettings) (text : String) (simple : Bool) :
    (v.comment text simple).all isFlat = true := by
  unfold comment
  cases simple <;> simp [isFlat]

theorem declarationComment_flat (v : CodeSettings) (text : Option String) (simple : Bool) :
    (v.declarationComment text simple).all isFlat = true := by
  cases text with
  | none => rfl
  | some text => simpa [declarationComment, blank, isFlat] using v.comment_flat text simple

theorem methodComment_flat (v : CodeSettings) (text : Option String) :
    (v.methodComment text).all isFlat = true := by
  unfold methodComment
  split
  · split
    · rfl
    · exact v.comment_flat _ false
  · rfl

theorem pythonConstant_flat (v : CodeSettings) (k : Constant) :
    (v.pythonConstant k).all isFlat = true := by
  unfold pythonConstant
  rw [all_isFlat_given]
  intro value _
  cases k.comment with
  | none => simp [Outline.text, isFlat]
  | some text => simpa [Outline.text, blank, isFlat] using v.comment_flat text false

theorem pythonConstants_flat (v : CodeSettings) (ks : List Constant) :
    (ks.flatMap v.pythonConstant).all isFlat = true := by
  simp [List.all_flatMap, pythonConstant_flat]

end CodeSettings

namespace Generator

/-- The rows of the file for a chart. -/
def rows (g : Generator) (c : Chart) : List Row :=
  allRows g.page.style g.page.level ((g.informed c).file c)

/-- A file that is written to its end has the text of its rows. -/
theorem generate_rows {g : Generator} (hlevel : 0 ≤ g.page.level) {c : Chart}
    (hok : (g.generate c).2 = none) :
    (g.generate c).1.page =
      g.page.appended (Line.textOf g.page.style ((g.rows c).map Row.toLine)) := by
  rw [g.generate_fault c] at hok
  have hpage := Page.putAll_lines g.page _ (.inr ⟨hlevel, file_flush (g.informed c) c⟩) hok
  rw [rows, allRows_lines, g.generate_page c, ← putAll_strokes, hpage]

end Generator
end TaxFlow

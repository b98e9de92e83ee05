import TaxFlow.Page.Outline

/-!
# Lines of a page

What a page writes for outlines, line by line: every line has a level, a purpose and a content.
Outlines that run into no fault are written completely, and the page is left at the level at which
they began.
-/
namespace TaxFlow

/-- A line as it is handed to a page. -/
structure Line where
  level : Int
  purpose : Purpose
  content : String
  deriving DecidableEq, Repr

/-- The characters of a line; an empty line is not indented. -/
def Line.text (s : PageStyle) (l : Line) : String :=
  (if l.content.isEmpty then "" else repeated s.indent l.level ++ l.content) ++ "\n"

/-- The characters of lines in order. -/
def Line.textOf (s : PageStyle) (ls : List Line) : String := String.join (ls.map (Line.text s))

namespace Outline

def isOutdented : Outline → Bool
  | outdented .. => true
  | _ => false

mutual

/-- The fault in which an outline ends. -/
def fault? : Outline → Option Fault
  | line .. => none
  | outdented .. => none
  | block _ _ body => firstFault body
  | halt fault => some fault

/-- The first fault of outlines. -/
def firstFault : List Outline → Option Fault
  | [] => none
  | o :: os => o.fault?.or (firstFault os)

end

@[simp] theorem firstFault_nil : firstFault [] = none := by simp [firstFault]

@[simp] theorem firstFault_cons (o : Outline) (os : List Outline) :
    firstFault (o :: os) = o.fault?.or (firstFault os) := by simp [firstFault]

@[simp] theorem firstFault_append (os os' : List Outline) :
    firstFault (os ++ os') = (firstFault os).or (firstFault os') := by
  induction os with
  | nil => simp
  | cons o os ih => simp [ih, Option.or_assoc]

/-- The closing line of a block, if the style has one. -/
def closingLines (s : PageStyle) (level : Int) : List Line :=
  match s.closing with
  | some closing => if closing.isEmpty then [] else [⟨level, .plain, closing⟩]
  | none => []

theorem mem_closingLines {s : PageStyle} {level : Int} {l : Line} (h : l ∈ closingLines s level) :
    l.level = level ∧ l.purpose = .plain := by
  unfold closingLines at h
  split at h
  · split at h
    · cases h
    · obtain rfl := List.mem_singleton.1 h
      exact ⟨rfl, rfl⟩
  · cases h

mutual

/-- The lines of an outline that begins at a level. -/
def lines (s : PageStyle) (level : Int) : Outline → List Line
  | line purpose text => [⟨level, purpose, text⟩]
  | outdented purpose text => [⟨level - 1, purpose, text⟩]
  | block purpose head body =>
    ⟨level, purpose, head ++ s.opening⟩ :: allLines s (level + 1) body ++ closingLines s level
  | halt _ => []

/-- The lines of outlines that begin at a level. -/
def allLines (s : PageStyle) (level : Int) : List Outline → List Line
  | [] => []
  | o :: os => o.lines s level ++ allLines s level os

end

@[simp] theorem allLines_nil (s : PageStyle) (level : Int) : allLines s level [] = [] := by
  simp [allLines]

@[simp] theorem allLines_cons (s : PageStyle) (level : Int) (o : Outline) (os : List Outline) :
    allLines s level (o :: os) = o.lines s level ++ allLines s level os := by simp [allLines]

@[simp] theorem allLines_append (s : PageStyle) (level : Int) (os os' : List Outline) :
    allLines s level (os ++ os') = allLines s level os ++ allLines s level os' := by
  induction os with
  | nil => simp
  | cons o os ih => simp [ih]

/-- Whether a page at a level has room for outlines: none of them is moved beyond its margin. -/
def Fit (level : Int) (os : List Outline) : Prop :=
  0 < level ∨ 0 ≤ level ∧ ∀ o ∈ os, o.isOutdented = false

theorem Fit.head {level : Int} {o : Outline} {os : List Outline} (h : Fit level (o :: os)) :
    Fit level [o] := by
  rcases h with h | ⟨h, hos⟩
  · exact .inl h
  · exact .inr ⟨h, by simpa using hos o (List.mem_cons_self ..)⟩

theorem Fit.tail {level : Int} {o : Outline} {os : List Outline} (h : Fit level (o :: os)) :
    Fit level os := by
  rcases h with h | ⟨h, hos⟩
  · exact .inl h
  · exact .inr ⟨h, fun o' ho' => hos o' (List.mem_cons_of_mem _ ho')⟩

theorem Fit.nonneg {level : Int} {os : List Outline} (h : Fit level os) : 0 ≤ level := by
  rcases h with h | ⟨h, _⟩
  · exact Int.le_of_lt h
  · exact h

/-- The body of a block always fits. -/
theorem Fit.inside {level : Int} (h : 0 ≤ level) (os : List Outline) : Fit (level + 1) os :=
  .inl (by omega)

end Outline

namespace Page

open Outline

/-- The page with further text. -/
def appended (p : Page) (s : String) : Page := { p with text := p.text ++ s }

@[simp] theorem appended_style (p : Page) (s : String) : (p.appended s).style = p.style := rfl

@[simp] theorem appended_level (p : Page) (s : String) : (p.appended s).level = p.level := rfl

@[simp] theorem appended_appended (p : Page) (s t : String) :
    (p.appended s).appended t = p.appended (s ++ t) := by
  simp [appended, String.append_assoc]

@[simp] theorem appended_empty (p : Page) : p.appended "" = p := by simp [appended]

theorem line_eq (p : Page) (purpose : Purpose) (content : String) :
    p.line content = p.appended (Line.text p.style ⟨p.level, purpose, content⟩) := by
  have hfeed : ∀ q : Page, q.feed = q.appended "\n" := by
    intro q
    simp [feed, write, repeated, appended]
  unfold Page.line
  rw [hfeed]
  by_cases h : content.isEmpty
  · simp [write, Line.text, h]
  · simp [write, Line.text, h, margin, appended, String.append_assoc]

theorem enter_eq (p : Page) (purpose : Purpose) (head : String) :
    p.enter head =
      (p.appended (Line.text p.style ⟨p.level, purpose, head ++ p.style.opening⟩)).raise := by
  rw [enter, line_eq p purpose]

theorem lower_raise {p : Page} (h : 0 ≤ p.level) : p.raise.lower = p := by
  have h' : 0 < p.level + 1 := by omega
  simp [raise, lower, h']

theorem raise_appended (p : Page) (s : String) : p.raise.appended s = (p.appended s).raise := rfl

/-- Behind a block its closing line is written, at the level of its head. -/
theorem leave_raise {p : Page} (h : 0 ≤ p.level) :
    p.raise.leave = p.appended (Line.textOf p.style (closingLines p.style p.level)) := by
  unfold leave
  rw [lower_raise h]
  unfold closingLines
  cases hc : p.style.closing with
  | none => simp [hc, Line.textOf]
  | some closing =>
    by_cases he : closing.isEmpty
    · simp_all [Line.textOf]
    · simp_all [Line.textOf, line_eq p .plain]

/-- An outdented line stands one level further out and leaves the level as it was. -/
theorem put_outdented {p : Page} (h : 0 < p.level) (purpose : Purpose) (text : String) :
    p.put (.outdented purpose text) =
      (p.appended (Line.text p.style ⟨p.level - 1, purpose, text⟩), none) := by
  have hlower : p.lower = { p with level := p.level - 1 } := by simp [lower, h]
  rw [put, line_eq _ purpose, hlower]
  simp [raise, appended]

mutual

/-- Whether an outline is written to its end does not depend on the page. -/
theorem put_fault (p : Page) : ∀ o : Outline, (p.put o).2 = o.fault?
  | .line .. => by simp [put, fault?]
  | .outdented .. => by simp [put, fault?]
  | .halt _ => by simp [put, fault?]
  | .block purpose head body => by
    have ih := putAll_fault (p.enter head) body
    rw [put, fault?, ← ih]
    split
    · rename_i h
      rw [h]
    · rename_i h
      rw [h]

theorem putAll_fault (p : Page) : ∀ os : List Outline, (p.putAll os).2 = firstFault os
  | [] => by simp [putAll]
  | o :: os => by
    have ho := put_fault p o
    rw [putAll, firstFault_cons, ← ho]
    split
    · rename_i h
      simp [h]
    · rename_i q h
      simp [h, putAll_fault q os]

end

mutual

theorem put_lines (p : Page) : ∀ o : Outline, Fit p.level [o] → o.fault? = none →
    p.put o = (p.appended (Line.textOf p.style (o.lines p.style p.level)), none)
  | .line purpose text, _, _ => by
    simp [put, lines, Line.textOf, line_eq p purpose]
  | .outdented purpose text, hfit, _ => by
    rcases hfit with h | ⟨_, h⟩
    · simp [put_outdented h, lines, Line.textOf]
    · simp [isOutdented] at h
  | .halt _, _, h => by simp [fault?] at h
  | .block purpose head body, hfit, h => by
    -- Inside of the block the page is one level higher, behind it at its old level again.
    let q := p.appended (Line.text p.style ⟨p.level, purpose, head ++ p.style.opening⟩)
    have hbody :=
      putAll_lines q.raise body (Fit.inside hfit.nonneg body) (by simpa [fault?] using h)
    have henter : p.enter head = q.raise := enter_eq p purpose head
    rw [put, henter, hbody, raise_appended]
    simp only
    rw [leave_raise (by simpa [q] using hfit.nonneg)]
    simp [lines, Line.textOf, q, raise, String.append_assoc]

/-- Outlines without a fault are written as their lines, and the level is kept. -/
theorem putAll_lines (p : Page) : ∀ os : List Outline, Fit p.level os → firstFault os = none →
    p.putAll os = (p.appended (Line.textOf p.style (allLines p.style p.level os)), none)
  | [], _, _ => by simp [putAll, Line.textOf]
  | o :: os, hfit, h => by
    rw [firstFault_cons, Option.or_eq_none_iff] at h
    rw [putAll, put_lines p o hfit.head h.1]
    simp only
    rw [putAll_lines (p.appended _) os hfit.tail h.2]
    simp [Line.textOf]

end

end Page
end TaxFlow

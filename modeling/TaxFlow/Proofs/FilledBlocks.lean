import TaxFlow.Proofs.ControlFlow
import TaxFlow.Proofs.Rows

/-!
# Filled blocks

Where blocks are told by their indentation alone, a block has to hold something: the first line
behind its head that is neither empty nor a comment has to be indented more. Which blocks of a
Python file are filled is decided by the chart: the class, the setters and the getters always are,
the constructor is if there is a variable, and a method or a branch is if a statement of its own
comes first in it.
-/
namespace TaxFlow

open Chart Outline

/-- Whether a row is empty or holds only a comment. -/
def Row.isIdle (r : Row) : Bool :=
  match r.content.toList.dropWhile Text.isBlank with
  | [] => true
  | c :: _ => c == '#'

/-- The first character of a row decides whether it is idle. -/
theorem Row.isIdle_eq {r : Row} {c : Char} (h : r.content.toList.head? = some c)
    (hc : Text.isBlank c = false) :
    r.isIdle = (c == '#') := by
  cases hcs : r.content.toList with
  | nil => simp [hcs] at h
  | cons a cs =>
    obtain rfl : a = c := by simpa [hcs] using h
    simp [isIdle, hcs, hc]

@[simp] theorem Row.isIdle_blank (level : Int) :
    Row.isIdle ⟨⟨level, .plain, ""⟩, false⟩ = true := by
  simp [isIdle]

/-- Whether no block is empty: every row that opens a block is followed by a row that is not idle
and stands deeper, and between the two there is no row that is not idle and does not stand
deeper. -/
def NoEmptyBlock (rows : List Row) : Prop :=
  ∀ (front : List Row) (r : Row) (rest : List Row), rows = front ++ r :: rest → r.opens = true →
    ∃ (between : List Row) (next : Row) (more : List Row), rest = between ++ next :: more ∧
    next.isIdle = false ∧
      r.level < next.level ∧ ∀ row ∈ between, row.isIdle = true ∨ r.level < row.level

/-- Whether the first row that is not idle stands deeper than a level. -/
def leadsIn (level : Int) : List Row → Bool
  | [] => false
  | r :: rows => if r.isIdle then leadsIn level rows else level < r.level

/-- Whether rows that are followed by a rest fill their blocks. -/
def blocksFilled (rest : List Row) : List Row → Bool
  | [] => true
  | r :: rows => (!r.opens || leadsIn r.level (rows ++ rest)) && blocksFilled rest rows

theorem leadsIn_iff {level : Int} {rows : List Row} :
    leadsIn level rows = true ↔
      ∃ (between : List Row) (next : Row) (more : List Row), rows = between ++ next :: more ∧
      next.isIdle = false ∧
        level < next.level ∧ ∀ row ∈ between, row.isIdle = true ∨ level < row.level := by
  constructor
  · intro h
    induction rows with
    | nil => simp [leadsIn] at h
    | cons r rows ih =>
      cases hidle : r.isIdle with
      | true =>
        obtain ⟨between, next, more, rfl, hnext, hlevel, hbetween⟩ :=
          ih (by simpa [leadsIn, hidle] using h)
        exact ⟨r :: between, next, more, rfl, hnext, hlevel, by simpa [hidle] using hbetween⟩
      | false => exact ⟨[], r, rows, rfl, hidle, by simpa [leadsIn, hidle] using h, by simp⟩
  · rintro ⟨between, next, more, rfl, hnext, hlevel, hbetween⟩
    induction between with
    | nil => simp [leadsIn, hnext, hlevel]
    | cons r between ih =>
      have hrest := ih fun row hrow => hbetween row (List.mem_cons_of_mem _ hrow)
      rcases hbetween r (List.mem_cons_self ..) with hidle | hdeeper
      · simpa [leadsIn, hidle] using hrest
      · simp only [List.cons_append, leadsIn]
        split
        · exact hrest
        · simpa using hdeeper

theorem blocksFilled_iff {rows : List Row} : blocksFilled [] rows = true ↔ NoEmptyBlock rows := by
  unfold NoEmptyBlock
  simp only [← leadsIn_iff]
  induction rows with
  | nil => simp [blocksFilled]
  | cons r rows ih =>
    simp only [blocksFilled, List.append_nil, Bool.and_eq_true, Bool.or_eq_true,
      Bool.not_eq_true', ih]
    constructor
    · rintro ⟨hr, hrows⟩ front r' rest hsplit hopens
      rcases front with _ | ⟨first, front⟩
      · obtain ⟨rfl, rfl⟩ := List.cons.inj hsplit
        simpa [hopens] using hr
      · obtain ⟨-, rfl⟩ := List.cons.inj hsplit
        exact hrows front r' rest rfl hopens
    · intro h
      refine ⟨?_, fun front r' rest hsplit => h (r :: front) r' rest (by rw [hsplit]; rfl)⟩
      cases hopens : r.opens with
      | false => exact .inl rfl
      | true => exact .inr (h [] r rows rfl hopens)

theorem leadsIn_cons {r : Row} (h : r.isIdle = false) (level : Int) (rows : List Row) :
    leadsIn level (r :: rows) = decide (level < r.level) := by simp [leadsIn, h]

theorem leadsIn_cons_of_lt {r : Row} (h : r.isIdle = false) {level : Int} (hlevel : level < r.level)
    (rows : List Row) :
    leadsIn level (r :: rows) = true := by
  rw [leadsIn_cons h]
  exact decide_eq_true hlevel

theorem leadsIn_cons_idle {r : Row} (h : r.isIdle = true) (level : Int) (rows : List Row) :
    leadsIn level (r :: rows) = leadsIn level rows := by simp [leadsIn, h]

/-- What does not lead deeper than a level does not lead deeper than any beyond it. -/
theorem leadsIn_mono {level level' : Int} (hle : level ≤ level') {rows : List Row}
    (h : leadsIn level rows = false) : leadsIn level' rows = false := by
  induction rows with
  | nil => rfl
  | cons r rows ih =>
    cases hidle : r.isIdle with
    | true =>
      rw [leadsIn_cons_idle hidle] at h ⊢
      exact ih h
    | false =>
      simp only [leadsIn_cons hidle, decide_eq_false_iff_not] at h ⊢
      omega

/-- Rows that stand deeper than a level lead in if what follows them does. -/
theorem leadsIn_append {level : Int} {rows rest : List Row} (hrows : ∀ r ∈ rows, level < r.level)
    (hrest : leadsIn level rest = true) : leadsIn level (rows ++ rest) = true := by
  induction rows with
  | nil => exact hrest
  | cons r rows ih =>
    rw [List.cons_append, leadsIn]
    split
    · exact ih fun r' hr' => hrows r' (List.mem_cons_of_mem _ hr')
    · simpa using hrows r (List.mem_cons_self ..)

theorem blocksFilled_append (rest rows rows' : List Row) :
    blocksFilled rest (rows ++ rows') =
      (blocksFilled (rows' ++ rest) rows && blocksFilled rest rows') := by
  induction rows with
  | nil => simp [blocksFilled]
  | cons r rows ih => simp [blocksFilled, ih, Bool.and_assoc]

/-- Rows that open nothing leave nothing to be filled. -/
theorem blocksFilled_of_closed {rows : List Row} (h : ∀ r ∈ rows, r.opens = false)
    (rest : List Row) :
    blocksFilled rest rows = true := by
  induction rows with
  | nil => rfl
  | cons r rows ih =>
    have hrows := ih fun row hrow => h row (List.mem_cons_of_mem _ hrow)
    simp [blocksFilled, h r (List.mem_cons_self ..), hrows]

namespace Chart.Step

/-- The kinds of line with which steps can begin. -/
inductive Lead where
  | statement
  | otherwise
  deriving DecidableEq, Repr

/-- Whether the leading line of a block of a level stands deeper than another level. -/
def Lead.isBeyond (k level : Int) : Lead → Bool
  | statement => k < level
  | otherwise => k < level - 1

mutual

/-- With which line a step begins, if it writes any. An empty consequent is filled, an empty
alternative left out. -/
def lead? : Step → Option Lead
  | note _ => none
  | method .. => none
  | eval .. => some .statement
  | execute .. => some .statement
  | condition .. => some .statement
  | consequent _ body => if body.isEmpty then some .statement else leadOf body
  | alternative _ body => if body.isEmpty then none else some .otherwise

/-- With which line steps begin, if they write any. -/
def leadOf : List Step → Option Lead
  | [] => none
  | s :: ss => s.lead?.or (leadOf ss)

end

mutual

/-- Whether all branches below a step hold a statement, given what comes next in the same block. -/
def isFilled (next : Option Lead) : Step → Bool
  | condition _ _ body => leadOf body = some .statement && areFilled none body
  | consequent _ body => areFilled next body
  | alternative _ body =>
    body.isEmpty || ((leadOf body).or next = some .statement && areFilled next body)
  | _ => true

/-- The same for steps in a row. -/
def areFilled (next : Option Lead) : List Step → Bool
  | [] => true
  | s :: ss => s.isFilled ((leadOf ss).or next) && areFilled next ss

end

end Chart.Step

open Chart.Step

/-- Whether a method holds a comment or begins with a statement, and all branches within it hold a
statement. -/
def Method.isFilled (m : Method) : Bool :=
  ((m.comment.any fun text => !text.isEmpty) || leadOf m.body = some .statement) &&
    areFilled none m.body

/-- Whether a chart has a variable. -/
def Chart.declaresVariable (c : Chart) : Bool :=
  match c.allVariables with
  | .ok (inputs, outputs, internals) => !inputs.isEmpty || !outputs.isEmpty || !internals.isEmpty
  | .error _ => false

/-- What is known of the rows that come behind a block of a level: none of them leads deeper, and
they lead on in the block exactly if a statement comes next. -/
structure Trails (level : Int) (next : Option Lead) (rest : List Row) : Prop where
  goesOn : leadsIn (level - 1) rest = decide (next = some .statement)
  ends : leadsIn level rest = false

/-- Behind the head of a block, what follows it ends the block. -/
theorem Trails.inner {level : Int} {next : Option Lead} {rest : List Row}
    (h : Trails level next rest) :
    Trails (level + 1) none rest :=
  ⟨by simpa using h.ends, leadsIn_mono (by omega) h.ends⟩

namespace CodeSettings

/-- Settings and a page style in which blocks are told by their indentation. -/
structure IsOffside (v : CodeSettings) (s : PageStyle) : Prop where
  statementSettings : v.statementSettings = .python
  opening : s.opening = ":"
  closing : s.closing = none

variable {v : CodeSettings} {s : PageStyle}

theorem IsOffside.closingLines (h : v.IsOffside s) (level : Int) : closingLines s level = [] := by
  simp [Outline.closingLines, h.closing]

/-- A row that begins with a member of the object is not idle. -/
theorem isIdle_self (level : Int) (purpose : Purpose) (rest : String) (opens : Bool) :
    Row.isIdle ⟨⟨level, purpose, "self." ++ rest⟩, opens⟩ = false :=
  Row.isIdle_eq (c := 's') (by simp) (by decide)

theorem IsOffside.assignment_isIdle (h : v.IsOffside s) {source : Option String} {text : String}
    (htext : v.assignment source = .ok text) (level : Int) :
    Row.isIdle ⟨⟨level, .assignment, text⟩, false⟩ = false := by
  obtain ⟨place, rest, hplace, rfl⟩ := assignment_place htext
  rw [h.statementSettings] at hplace
  cases hplace
  exact isIdle_self ..

theorem IsOffside.call_isIdle (h : v.IsOffside s) (method : Option String) (level : Int) :
    Row.isIdle ⟨⟨level, .call, v.call method⟩, false⟩ = false := by
  simp only [call, h.statementSettings, StatementSettings.python, String.append_assoc]
  exact isIdle_self ..

theorem IsOffside.branch_isIdle (h : v.IsOffside s) (condition : String) (level : Int) :
    Row.isIdle ⟨⟨level, .branch,
      v.statementSettings.beforeCondition ++ condition ++ v.statementSettings.afterCondition ++
        s.opening⟩, true⟩ = false := by
  exact Row.isIdle_eq (c := 'i')
    (by simp [h.statementSettings, StatementSettings.python]) (by decide)

theorem IsOffside.otherwise_isIdle (h : v.IsOffside s) (level : Int) :
    Row.isIdle ⟨⟨level, .otherwise, v.statementSettings.otherwise⟩, true⟩ = false := by
  exact Row.isIdle_eq (c := 'e')
    (by simp [h.statementSettings, StatementSettings.python]) (by decide)

mutual

/-- The rows of a step lead where its first line stands, and otherwise on to the rest. -/
theorem step_leadsIn (h : v.IsOffside s) (k level : Int) (rest : List Row) :
    ∀ step : Step, firstFault (v.step step) = none →
      leadsIn k (allRows s level (v.step step) ++ rest) =
        step.lead?.elim (leadsIn k rest) (Lead.isBeyond k level)
  | .note _, _ => by simp [step, lead?]
  | .method .., _ => by simp [step, lead?]
  | .eval _ source, hok => by
    cases htext : v.assignment source with
    | error fault => simp [step, htext, given, fault?] at hok
    | ok text =>
      have hrow := leadsIn_cons (h.assignment_isIdle htext level) k rest
      simpa [step, htext, given, rows, lead?, Lead.isBeyond] using hrow
  | .execute _ name, _ => by
    have hrow := leadsIn_cons (h.call_isIdle name level) k rest
    simpa [step, rows, lead?, Lead.isBeyond] using hrow
  | .condition _ source body, hok => by
    cases hcondition : v.value source with
    | error fault => simp [step, hcondition, given, fault?] at hok
    | ok condition =>
      have hrow :=
        leadsIn_cons (h.branch_isIdle condition level) k
          (allRows s (level + 1) (v.body body) ++ rest)
      simpa [step, hcondition, given, rows, h.closingLines, lead?, Lead.isBeyond] using hrow
  | .consequent _ body, hok => by
    have hfiller : v.statementSettings.filler = some "pass" := by rw [h.statementSettings]; rfl
    cases body with
    | nil =>
      have hidle : Row.isIdle ⟨⟨level, .filler, "pass"⟩, false⟩ = false :=
        Row.isIdle_eq (c := 'p') (by simp) (by decide)
      simpa [step, hfiller, rows, lead?, Lead.isBeyond] using leadsIn_cons hidle k rest
    | cons first steps =>
      have hbody : firstFault (v.body (first :: steps)) = none := by simpa [step, hfiller] using hok
      simpa [step, hfiller, lead?] using body_leadsIn h k level rest (first :: steps) hbody
  | .alternative _ body, _ => by
    cases body with
    | nil => simp [step, lead?]
    | cons first steps =>
      have hrow :=
        leadsIn_cons (h.otherwise_isIdle (level - 1)) k
          (allRows s level (v.body (first :: steps)) ++ rest)
      simpa [step, rows, lead?, Lead.isBeyond] using hrow

theorem body_leadsIn (h : v.IsOffside s) (k level : Int) (rest : List Row) :
    ∀ steps : List Step, firstFault (v.body steps) = none →
      leadsIn k (allRows s level (v.body steps) ++ rest) =
        (leadOf steps).elim (leadsIn k rest) (Lead.isBeyond k level)
  | [], _ => by simp [body, leadOf]
  | step :: steps, hok => by
    have hok' : firstFault (v.step step) = none ∧ firstFault (v.body steps) = none := by
      simpa [body] using hok
    have hfirst := step_leadsIn h k level (allRows s level (v.body steps) ++ rest) step hok'.1
    have hrest := body_leadsIn h k level rest steps hok'.2
    rw [body, allRows_append, List.append_assoc, hfirst, leadOf]
    cases step.lead? with
    | none => simpa using hrest
    | some lead => simp

end

/-- Steps in front of what trails a block trail it, too. -/
theorem Trails.body (h : v.IsOffside s) {level : Int} {next : Option Lead} {rest : List Row}
    (hrest : Trails level next rest) {steps : List Step} (hok : firstFault (v.body steps) = none) :
    Trails level ((leadOf steps).or next) (allRows s level (v.body steps) ++ rest) := by
  constructor
  · rw [body_leadsIn h _ _ _ steps hok]
    rcases leadOf steps with _ | _ | _
    · exact hrest.goesOn
    · have hlevel : level - 1 < level := Int.sub_lt_self level Int.one_pos
      exact (decide_eq_true hlevel).trans rfl
    · simp [Lead.isBeyond]
  · rw [body_leadsIn h _ _ _ steps hok]
    rcases leadOf steps with _ | _ | _
    · exact hrest.ends
    · simp [Lead.isBeyond]
    · simp only [Option.elim, Lead.isBeyond, decide_eq_false_iff_not]
      omega

mutual

/-- The blocks of a step are filled exactly if its branches hold statements. -/
theorem step_blocksFilled (h : v.IsOffside s) {level : Int} {next : Option Lead} {rest : List Row}
    (hrest : Trails level next rest) : ∀ step : Step, firstFault (v.step step) = none →
      blocksFilled rest (allRows s level (v.step step)) = step.isFilled next
  | .note _, _ => by simp [step, blocksFilled, Step.isFilled]
  | .method .., _ => by simp [step, blocksFilled, Step.isFilled]
  | .eval _ source, hok => by
    cases htext : v.assignment source with
    | error fault => simp [step, htext, given, fault?] at hok
    | ok text => simp [step, htext, given, rows, blocksFilled, Step.isFilled]
  | .execute _ name, _ => by simp [step, rows, blocksFilled, Step.isFilled]
  | .condition _ source body, hok => by
    cases hcondition : v.value source with
    | error fault => simp [step, hcondition, given, fault?] at hok
    | ok condition =>
      have hbody : firstFault (v.body body) = none := by
        simpa [step, hcondition, given, fault?] using hok
      have hlead := (Trails.body h hrest.inner hbody).goesOn
      have hinner := body_blocksFilled h hrest.inner body hbody
      rw [Int.add_sub_cancel, Option.or_none] at hlead
      simp [step, hcondition, given, rows, h.closingLines, blocksFilled, hlead, hinner,
        Step.isFilled]
  | .consequent _ body, hok => by
    have hfiller : v.statementSettings.filler = some "pass" := by rw [h.statementSettings]; rfl
    cases body with
    | nil => simp [step, hfiller, rows, blocksFilled, Step.isFilled, areFilled]
    | cons first steps =>
      have hbody : firstFault (v.body (first :: steps)) = none := by simpa [step, hfiller] using hok
      simpa [step, hfiller, Step.isFilled] using body_blocksFilled h hrest (first :: steps) hbody
  | .alternative _ body, hok => by
    cases body with
    | nil => simp [step, blocksFilled, Step.isFilled]
    | cons first steps =>
      have hbody : firstFault (v.body (first :: steps)) = none := by simpa [step, fault?] using hok
      -- The block of an alternative goes on behind it, so what comes next may fill it as well.
      have hlead := (Trails.body h hrest hbody).goesOn
      have hinner := body_blocksFilled h hrest (first :: steps) hbody
      simp [step, rows, blocksFilled, hlead, hinner, Step.isFilled]

theorem body_blocksFilled (h : v.IsOffside s) {level : Int} {next : Option Lead} {rest : List Row}
    (hrest : Trails level next rest) : ∀ steps : List Step, firstFault (v.body steps) = none →
      blocksFilled rest (allRows s level (v.body steps)) = areFilled next steps
  | [], _ => by simp [body, blocksFilled, areFilled]
  | step :: steps, hok => by
    have hok' : firstFault (v.step step) = none ∧ firstFault (v.body steps) = none := by
      simpa [body] using hok
    have hfirst := step_blocksFilled h (Trails.body h hrest hok'.2) step hok'.1
    have hothers := body_blocksFilled h hrest steps hok'.2
    rw [body, allRows_append, blocksFilled_append, hfirst, hothers, areFilled]

end

end CodeSettings

/-- Rows of members at a level: whatever follows them at this level or further out, they do not lead
deeper, and their blocks are filled or not. -/
def Settled (level : Int) (filled : Bool) (rows : List Row) : Prop :=
  ∀ rest, leadsIn level rest = false →
    leadsIn level (rows ++ rest) = false ∧ blocksFilled rest rows = filled

namespace Settled

variable {level : Int} {a b : Bool} {rows rows' : List Row}

theorem nil : Settled level true [] := fun _ hrest => ⟨hrest, rfl⟩

theorem append (h : Settled level a rows) (h' : Settled level b rows') :
    Settled level (a && b) (rows ++ rows') := by
  intro rest hrest
  obtain ⟨hlead', hfilled'⟩ := h' rest hrest
  obtain ⟨hlead, hfilled⟩ := h (rows' ++ rest) hlead'
  refine ⟨by rwa [List.append_assoc], ?_⟩
  rw [blocksFilled_append, hfilled, hfilled']

theorem flatMap {α : Type} {f : α → List Outline} {filled : α → Bool} {s : PageStyle} {as : List α}
    (h : ∀ x ∈ as, Settled level (filled x) (allRows s level (f x))) :
    Settled level (as.all filled) (allRows s level (as.flatMap f)) := by
  induction as with
  | nil => simpa using nil
  | cons x as ih =>
    have hrest := ih fun y hy => h y (List.mem_cons_of_mem _ hy)
    simpa using (h x (List.mem_cons_self ..)).append hrest

/-- Lines at the level itself. -/
theorem of_flat {os : List Outline} (h : os.all isFlat = true) (s : PageStyle) (level : Int) :
    Settled level true (allRows s level os) := by
  intro rest hrest
  have hrows : ∀ r ∈ allRows s level os, r.level = level ∧ r.opens = false := fun r =>
    mem_allRows_of_flat h
  refine ⟨?_, blocksFilled_of_closed (fun r hr => (hrows r hr).2) rest⟩
  generalize allRows s level os = rows at hrows
  induction rows with
  | nil => exact hrest
  | cons r rows ih =>
    have hlead := ih fun r' hr' => hrows r' (List.mem_cons_of_mem _ hr')
    rw [List.cons_append, leadsIn]
    split
    · exact hlead
    · simp [(hrows r (List.mem_cons_self ..)).1]

/-- An empty line and a block, which is filled if its body leads into it and fills its own
blocks. -/
theorem member {s : PageStyle} (hs : s.closing = none) {purpose : Purpose} {head : String}
    {body : List Outline} (hidle : Row.isIdle ⟨⟨level, purpose, head ++ s.opening⟩, true⟩ = false)
    (hbody : ∀ rest, leadsIn level rest = false →
      (leadsIn level (allRows s (level + 1) body ++ rest) && blocksFilled rest
        (allRows s (level + 1) body)) = a) :
    Settled level a (allRows s level [.blank, .block purpose head body]) := by
  intro rest hrest
  have hclosing : closingLines s level = [] := by simp [closingLines, hs]
  constructor
  · simp [rows, blank, hclosing, leadsIn_cons_idle (Row.isIdle_blank level), leadsIn_cons hidle]
  · simp [rows, blank, hclosing, blocksFilled, hbody rest hrest]

end Settled

/-- Rows within a block behind its head: they lead into it or leave that to what follows, and their
own blocks are filled. -/
def Fills (level : Int) (leads : Bool) (rows : List Row) : Prop :=
  ∀ rest, leadsIn level (rows ++ rest) = (leads || leadsIn level rest) ∧
    blocksFilled rest rows = true

namespace Fills

variable {level : Int} {a b : Bool} {rows rows' : List Row}

theorem nil : Fills level false [] := fun rest => by simp [blocksFilled]

theorem append (h : Fills level a rows) (h' : Fills level b rows') :
    Fills level (a || b) (rows ++ rows') := by
  intro rest
  rw [List.append_assoc, (h _).1, (h' rest).1, blocksFilled_append, (h _).2, (h' rest).2,
    Bool.or_assoc]
  exact ⟨rfl, rfl⟩

theorem flatMap {α : Type} {f : α → List Outline} {s : PageStyle} {k : Int} {as : List α}
    (h : ∀ x ∈ as, Fills level true (allRows s k (f x))) :
    Fills level (!as.isEmpty) (allRows s k (as.flatMap f)) := by
  induction as with
  | nil => simpa using nil
  | cons x as ih =>
    have hrest := ih fun y hy => h y (List.mem_cons_of_mem _ hy)
    simpa using (h x (List.mem_cons_self ..)).append hrest

theorem of_idle (h : ∀ r ∈ rows, r.isIdle = true ∧ r.opens = false) : Fills level false rows := by
  intro rest
  refine ⟨?_, blocksFilled_of_closed (fun r hr => (h r hr).2) rest⟩
  induction rows with
  | nil => rfl
  | cons r rows ih =>
    rw [List.cons_append, leadsIn_cons_idle (h r (List.mem_cons_self ..)).1]
    exact ih fun r' hr' => h r' (List.mem_cons_of_mem _ hr')

theorem of_line {r : Row} (hidle : r.isIdle = false) (hopens : r.opens = false)
    (hlevel : level < r.level) :
    Fills level true [r] := by
  intro rest
  simp [leadsIn_cons hidle, blocksFilled, hopens, hlevel]

/-- A block that holds a line. -/
theorem of_block {r : Row} (hidle : r.isIdle = false) (hlevel : level < r.level)
    (hrows : Fills r.level true rows) : Fills level true (r :: rows) := by
  intro rest
  simp [leadsIn_cons hidle, blocksFilled, (hrows rest).1, (hrows rest).2, hlevel]

end Fills

/-- A setter or getter is filled by its single line. -/
theorem Settled.accessor {s : PageStyle} (hs : s.closing = none) {level : Int} {purpose : Purpose}
    {head text : String} (hhead : Row.isIdle ⟨⟨level, purpose, head ++ s.opening⟩, true⟩ = false)
    (htext : Row.isIdle ⟨⟨level + 1, .plain, text⟩, false⟩ = false) :
    Settled level true (allRows s level [.blank, .block purpose head [.text text]]) := by
  have hline := Fills.of_line htext rfl (Int.lt_succ level)
  refine Settled.member hs hhead fun rest _ => ?_
  simpa [rows, Outline.text] using hline rest

namespace CodeSettings

variable {v : CodeSettings} {s : PageStyle}

/-- Comments of variables are idle. -/
theorem IsOffside.declarationComment_fills (h : v.IsOffside s) (text : Option String)
    (level k : Int) :
    Fills level false (allRows s k (v.declarationComment text true)) := by
  refine Fills.of_idle fun r hr => ?_
  refine ⟨?_, (mem_allRows_of_flat (v.declarationComment_flat text true) hr).2⟩
  cases text with
  | none => simp [declarationComment] at hr
  | some text =>
    have hline : r.content = "" ∨ ∃ rest, r.content = "# " ++ rest := by
      have hlines : ∀ ls : List String,
          r ∈ allRows s k (ls.map fun l => .line .comment ("# " ++ Text.trim l)) →
          ∃ rest, r.content = "# " ++ rest := by
        intro ls hmem
        induction ls with
        | nil => simp at hmem
        | cons l ls ih =>
          simp only [List.map_cons, allRows_cons, rows, List.singleton_append,
            List.mem_cons] at hmem
          rcases hmem with rfl | hmem
          · exact ⟨_, rfl⟩
          · exact ih hmem
      simp only [declarationComment, comment, h.statementSettings, StatementSettings.python,
        hashComments, allRows_cons, rows, blank, List.singleton_append, List.mem_cons] at hr
      rcases hr with rfl | hr
      · exact .inl rfl
      · exact .inr (hlines _ hr)
    rcases hline with hline | ⟨rest, hline⟩
    · simp [Row.isIdle, hline]
    · exact Row.isIdle_eq (c := '#') (by simp [hline]) (by decide)

/-- A variable is given a value within the constructor. -/
theorem IsOffside.variable_fills (h : v.IsOffside s) {isInput : Bool} {x : Variable}
    (hok : firstFault (v.pythonVariable isInput x) = none) {level k : Int} (hk : level < k) :
    Fills level true (allRows s k (v.pythonVariable isInput x)) := by
  simp only [pythonVariable, firstFault_append, Option.or_eq_none_iff, firstFault_given] at hok
  obtain ⟨-, value, hvalue, hinput⟩ := hok
  have hcomment := h.declarationComment_fills x.comment level k
  have hline : ∀ rest,
      Fills level true [(⟨⟨k, .plain, "self." ++ rest⟩, false⟩ : Row)] := fun rest =>
    Fills.of_line (isIdle_self ..) rfl hk
  cases isInput with
  | false =>
    have hall := hcomment.append (hline (shown x.name ++ " = " ++ value))
    simpa [pythonVariable, hvalue, given, rows, Outline.text, String.append_assoc] using hall
  | true =>
    obtain ⟨name, hname⟩ : ∃ name, capitalized x.name = .ok name := by
      simp only [firstFault_cons, Option.or_eq_none_iff, if_true, fault?,
        firstFault_given] at hinput
      obtain ⟨-, ⟨name, hname, -⟩, -⟩ := hinput
      exact ⟨name, hname⟩
    have hset : Fills k true
        [(⟨⟨k + 1, .plain, "self.set" ++ name ++ "(kwargs[\"" ++ shown x.name ++ "\"])"⟩,
          false⟩ : Row)] :=
      Fills.of_line (Row.isIdle_eq (c := 's') (by simp) (by decide)) rfl (Int.lt_succ k)
    have hidle : Row.isIdle ⟨⟨k, .branch, "if \"" ++ shown x.name ++ "\" in kwargs" ++ s.opening⟩,
        true⟩ = false :=
      Row.isIdle_eq (c := 'i') (by simp) (by decide)
    have hall :=
      hcomment.append
        ((hline (shown x.name ++ " = " ++ value)).append (Fills.of_block hidle hk hset))
    simpa [pythonVariable, hvalue, given, hname, rows, Outline.text, h.closingLines,
      String.append_assoc] using hall

theorem IsOffside.variables_fill (h : v.IsOffside s) {heading : String} {isInput : Bool}
    {xs : List Variable}
    (hok : firstFault (v.pythonVariables heading isInput xs) = none) {level k : Int}
    (hk : level < k) :
    Fills level (!xs.isEmpty) (allRows s k (v.pythonVariables heading isInput xs)) := by
  simp only [pythonVariables, firstFault_append, firstFault_cons, Option.or_eq_none_iff,
    firstFault_flatMap] at hok
  have hidle : Row.isIdle ⟨⟨k, .plain, "# " ++ heading⟩, false⟩ = true :=
    Row.isIdle_eq (c := '#') (by simp) (by decide)
  have hheading : Fills level false [(⟨⟨k, .plain, "# " ++ heading⟩, false⟩ : Row)] :=
    Fills.of_idle (by simp [hidle])
  have hblank : Fills level false [(⟨⟨k, .plain, ""⟩, false⟩ : Row)] := Fills.of_idle (by simp)
  have hvariables := Fills.flatMap fun x hx => h.variable_fills (hok.1.2 x hx) hk
  simpa [pythonVariables, rows, Outline.text, blank] using hheading.append
    (hvariables.append hblank)

/-- The constructor is filled if there is a variable. -/
theorem IsOffside.constructor_settled (h : v.IsOffside s) {c : Chart}
    (hok : firstFault (v.pythonConstructor c) = none) (level : Int) :
    Settled level c.declaresVariable
      (allRows s level [.blank,
        .block .plain "def __init__(self, **kwargs)" (v.pythonConstructor c)]) := by
  simp only [pythonConstructor, firstFault_given] at hok
  obtain ⟨⟨inputs, outputs, internals⟩, hvariables, hok⟩ := hok
  simp only [firstFault_append, Option.or_eq_none_iff] at hok
  obtain ⟨⟨hinputs, houtputs⟩, hinternals⟩ := hok
  have hk : level < level + 1 := Int.lt_succ level
  have hfills := ((h.variables_fill hinputs hk).append (h.variables_fill houtputs hk)).append
    (h.variables_fill hinternals hk)
  refine Settled.member h.closing (Row.isIdle_eq (c := 'd') (by simp) (by decide))
    fun rest hrest => ?_
  simp only [pythonConstructor, hvariables, given, Chart.declaresVariable, allRows_append]
  rw [(hfills rest).1, (hfills rest).2, hrest, Bool.or_false, Bool.and_true]

theorem setter_settled (hs : s.closing = none) {x : Variable}
    (hok : firstFault (pythonSetter x) = none)
    (level : Int) : Settled level true (allRows s level (pythonSetter x)) := by
  simp only [pythonSetter, firstFault_cons, Option.or_eq_none_iff, firstFault_given] at hok
  obtain ⟨-, name, hname, -⟩ := hok
  simp only [pythonSetter, hname, given]
  refine Settled.accessor hs (Row.isIdle_eq (c := 'd') (by simp) (by decide)) ?_
  exact Row.isIdle_eq (c := 's') (by simp) (by decide)

theorem getter_settled (hs : s.closing = none) {x : Variable}
    (hok : firstFault (pythonGetter x) = none)
    (level : Int) : Settled level true (allRows s level (pythonGetter x)) := by
  simp only [pythonGetter, firstFault_cons, Option.or_eq_none_iff, firstFault_given] at hok
  obtain ⟨-, name, hname, -⟩ := hok
  simp only [pythonGetter, hname, given]
  refine Settled.accessor hs (Row.isIdle_eq (c := 'd') (by simp) (by decide)) ?_
  exact Row.isIdle_eq (c := 'r') (by simp) (by decide)

/-- A method is filled as its steps and its comment say. -/
theorem IsOffside.method_settled (h : v.IsOffside s) {m : Method}
    (hok : firstFault (v.pythonMethod m) = none)
    (level : Int) : Settled level m.isFilled (allRows s level (v.pythonMethod m)) := by
  simp only [pythonMethod, firstFault_append, firstFault_cons, Option.or_eq_none_iff, fault?] at hok
  obtain ⟨-, ⟨-, hok⟩, -⟩ := hok
  refine Settled.member h.closing (Row.isIdle_eq (c := 'd') (by simp) (by decide))
    fun rest hrest => ?_
  have htrails : Trails (level + 1) none rest :=
    ⟨by simpa using hrest, leadsIn_mono (by omega) hrest⟩
  have hlead := (Trails.body h htrails hok).goesOn
  rw [Int.add_sub_cancel, Option.or_none] at hlead
  have hbody := body_blocksFilled h htrails m.body hok
  have hclosed : ∀ r ∈ allRows s (level + 1) (v.methodComment m.comment),
      r.opens = false := fun r hr =>
    (mem_allRows_of_flat (v.methodComment_flat m.comment) hr).2
  have hcomment := blocksFilled_of_closed hclosed (allRows s (level + 1) (v.body m.body) ++ rest)
  rw [allRows_append, blocksFilled_append, hcomment, hbody, List.append_assoc, Method.isFilled,
    Bool.true_and]
  congr 1
  -- The quotes around a comment come first, if there is one.
  cases hm : m.comment with
  | none => simpa [methodComment] using hlead
  | some text =>
    cases hempty : text.isEmpty with
    | true => simpa [methodComment, hempty] using hlead
    | false =>
      have hidle : Row.isIdle ⟨⟨level + 1, .comment, v.statementSettings.comments.opening⟩,
          false⟩ = false :=
        Row.isIdle_eq (c := '"')
          (by simp [h.statementSettings, StatementSettings.python, hashComments]) (by decide)
      simp [methodComment, hempty, comment, rows, leadsIn_cons_of_lt hidle (Int.lt_succ level)]

/-- The members of the class behind its constants. -/
def pythonMembers (v : CodeSettings) (c : Chart) : List Outline :=
  [Outline.blank, .block .plain "def __init__(self, **kwargs)" (v.pythonConstructor c)] ++
  given c.inputs (fun xs => xs.flatMap pythonSetter) ++
  given c.outputs (fun xs => xs.flatMap pythonGetter) ++
  v.pythonMethod c.main ++ c.methods.flatMap v.pythonMethod

theorem pythonFile_eq (v : CodeSettings) (c : Chart) :
    v.pythonFile c =
      [.text "# coding: utf-8", .blank, .text Support.python, .blank,
        .block .plain ("class " ++ v.className)
          (c.constants.flatMap v.pythonConstant ++ v.pythonMembers c)] := by
  simp [pythonFile, pythonMembers]

/-- Whether the members are filled is left to the variables and the methods. -/
theorem IsOffside.members_settled (h : v.IsOffside s) {c : Chart}
    (hok : firstFault (v.pythonMembers c) = none) (level : Int) :
    Settled level (c.declaresVariable && c.allMethods.all Method.isFilled)
      (allRows s level (v.pythonMembers c)) := by
  simp only [pythonMembers, firstFault_append, firstFault_cons, Option.or_eq_none_iff,
    firstFault_given, firstFault_flatMap, fault?] at hok
  obtain ⟨⟨⟨⟨⟨-, hconstructor, -⟩, inputs, hinputs, hsetters⟩, outputs, houtputs, hgetters⟩, hmain⟩,
    hmethods⟩ := hok
  have hsettersSettled : Settled level true (allRows s level (inputs.flatMap pythonSetter)) := by
    have hall := Settled.flatMap fun x hx => setter_settled h.closing (hsetters x hx) level
    rwa [List.all_eq_true.2 fun _ _ => rfl] at hall
  have hgettersSettled : Settled level true (allRows s level (outputs.flatMap pythonGetter)) := by
    have hall := Settled.flatMap fun x hx => getter_settled h.closing (hgetters x hx) level
    rwa [List.all_eq_true.2 fun _ _ => rfl] at hall
  have hmethodsSettled := Settled.flatMap fun m hm => h.method_settled (hmethods m hm) level
  have hall :=
    ((((h.constructor_settled hconstructor level).append hsettersSettled).append
      hgettersSettled).append
    (h.method_settled hmain level)).append hmethodsSettled
  simpa only [pythonMembers, hinputs, houtputs, given, allRows_append, Bool.and_true,
    Bool.and_assoc, Chart.allMethods, List.all_cons] using hall

/-- The constructor leads into the class, whatever the constants look like. -/
theorem class_leadsIn (v : CodeSettings) (c : Chart) (s : PageStyle) (level : Int) :
    leadsIn level
      (allRows s (level + 1)
        (c.constants.flatMap v.pythonConstant ++ v.pythonMembers c)) = true := by
  have hhead : Row.isIdle ⟨⟨level + 1, .plain, "def __init__(self, **kwargs)" ++ s.opening⟩,
      true⟩ = false :=
    Row.isIdle_eq (c := 'd') (by simp) (by decide)
  rw [allRows_append]
  refine leadsIn_append (fun r hr => ?_) ?_
  · rw [(mem_allRows_of_flat (v.pythonConstants_flat c.constants) hr).1]
    exact Int.lt_succ level
  · simp [pythonMembers, rows, blank, leadsIn_cons_idle (Row.isIdle_blank _),
      leadsIn_cons_of_lt hhead (Int.lt_succ level)]

/-- The blocks of a file are filled if there is a variable and the methods are. -/
theorem IsOffside.file_blocksFilled (h : v.IsOffside s) {c : Chart}
    (hok : firstFault (v.pythonFile c) = none) (level : Int) :
    blocksFilled [] (allRows s level (v.pythonFile c)) =
      (c.declaresVariable && c.allMethods.all Method.isFilled) := by
  have hconstants := v.pythonConstants_flat c.constants
  rw [pythonFile_eq] at hok ⊢
  simp only [firstFault_cons, firstFault_append, Option.or_eq_none_iff, fault?] at hok
  obtain ⟨-, -, -, -, ⟨-, hmembers⟩, -⟩ := hok
  obtain ⟨-, hfilled⟩ :=
    (Settled.of_flat hconstants s (level + 1)).append (h.members_settled hmembers (level + 1))
    [] rfl
  rw [← allRows_append, Bool.true_and] at hfilled
  have hclass := class_leadsIn v c s level
  simp only [allRows_cons, allRows_nil, rows, Outline.text, blank, h.closingLines,
    blocksFilled, List.map_nil, List.append_nil, List.singleton_append, Bool.not_false,
    Bool.not_true, Bool.true_or, Bool.false_or,
    Bool.true_and, hclass, hfilled]

end CodeSettings

/-- A row that is given as a text, with its blanks in front. -/
def textRow (text : String) : Row :=
  { level := (text.toList.takeWhile (· == ' ')).length
    purpose := .plain
    content := text
    opens := text.endsWith ":" }

/-- The support for decimals, which is put in front of the class, has no empty block. -/
theorem support_noEmptyBlock : NoEmptyBlock (Support.pythonLines.map textRow) := by
  rw [← blocksFilled_iff]
  decide +kernel

/-- A Python file is the text of its rows. Its class, setters, getters and the conditions of its
constructor always hold something, so there is no empty block exactly if there is a variable for the
constructor, and every method and every branch begins with a statement of its own. -/
theorem python_noEmptyBlock_iff {g : Generator} (htarget : g.target = .python)
    {indent : Option String}
    (hstyle : g.page.style = Target.python.pageStyle indent) (hlevel : 0 ≤ g.page.level) {c : Chart}
    (hok : (g.generate c).2 = none) :
    (g.generate c).1.page = g.page.appended (Line.textOf g.page.style ((g.rows c).map Row.toLine)) ∧
      (NoEmptyBlock (g.rows c) ↔ c.declaresVariable = true ∧ ∀ m ∈ c.allMethods,
        m.isFilled = true) ∧
      NoEmptyBlock (Support.pythonLines.map textRow) := by
  refine ⟨g.generate_rows hlevel hok, ?_, support_noEmptyBlock⟩
  have hoffside : (g.codeSettings c).IsOffside g.page.style :=
    ⟨by simp [Generator.codeSettings, htarget, Target.statementSettings], by rw [hstyle]; rfl,
      by rw [hstyle]; rfl⟩
  have hfile : (g.informed c).file c = (g.codeSettings c).pythonFile c := by
    simp [Generator.informed, Generator.file, htarget]
  rw [g.generate_fault c, hfile] at hok
  rw [Generator.rows, hfile, ← blocksFilled_iff, hoffside.file_blocksFilled hok, Bool.and_eq_true,
    List.all_eq_true]

/-- A chart with a condition whose consequent holds only a note. -/
def notedConsequent : Chart :=
  { name := some "Tax"
    main :=
      { comment := none
        name := some "MAIN"
        body := [.condition none (some "A > 0") [.consequent none [.note none]]] }
    methods := []
    inputs := .ok [⟨some "A", some "int", some "0", none⟩]
    outputs := .ok []
    internals := .ok []
    constants := [] }

/-- The file for `notedConsequent` is written to its end, and nothing stands behind its
condition. -/
theorem notedConsequent_emptyBlock :
    let g := Generator.new .python {} notedConsequent
    (g.generate notedConsequent).2 = none ∧ ¬ NoEmptyBlock (g.rows notedConsequent) := by
  intro g
  have hok : (g.generate notedConsequent).2 = none := by decide +kernel
  have hstyle : g.page.style = Target.python.pageStyle none := rfl
  obtain ⟨-, hiff, -⟩ := python_noEmptyBlock_iff (g := g) rfl hstyle (by decide) hok
  refine ⟨hok, fun hfilled => ?_⟩
  have hmain := (hiff.1 hfilled).2 notedConsequent.main (List.mem_cons_self ..)
  exact absurd hmain (by decide)

end TaxFlow

import Mathlib.Data.List.Forall2
import TaxFlow.Proofs.StatementOrder

/-!
# Shapes of statements

What has to be written for the steps of a chart, entry by entry and each at its level, before any
language words it. All languages write the same entries: those with closing marks pass over empty
consequents, the others pass over the closings and fill an empty consequent instead.
-/
namespace TaxFlow

open Chart Outline

/-- What a line of a body is written for. -/
inductive BodyEntry where
  | assignment (source : Option String)
  | call (method : Option String)
  | branch (source : Option String)
  | otherwise
  | closing
  /-- A consequent without steps. -/
  | vacancy
  deriving DecidableEq, Repr

namespace BodyEntry

/-- The kind of line that is written for an entry. -/
def purpose : BodyEntry → Purpose
  | assignment _ => .assignment
  | call _ => .call
  | branch _ => .branch
  | otherwise => .otherwise
  | closing => .plain
  | vacancy => .filler

/-- The entries that a language writes: closings if its blocks are closed, vacancies if it fills
them. -/
def isShown (closes fills : Bool) : BodyEntry → Bool
  | closing => closes
  | vacancy => fills
  | _ => true

end BodyEntry

namespace Chart.Step

mutual

/-- The entries of a step that begins at a level. The mark of an alternative stands one level
further out, whatever is around it. -/
def entries (level : Int) : Step → List (Int × BodyEntry)
  | note _ => []
  | method .. => []
  | eval _ source => [(level, .assignment source)]
  | execute _ name => [(level, .call name)]
  | condition _ source body =>
    (level, .branch source) :: entriesOf (level + 1) body ++ [(level, .closing)]
  | consequent _ body => if body.isEmpty then [(level, .vacancy)] else entriesOf level body
  | alternative _ body =>
    if body.isEmpty then [] else (level - 1, .otherwise) :: entriesOf level body

/-- The entries of steps, one after the other. -/
def entriesOf (level : Int) : List Step → List (Int × BodyEntry)
  | [] => []
  | s :: ss => s.entries level ++ entriesOf level ss

end

end Chart.Step

namespace CodeSettings

/-- Whether a line is an entry in the words of a language. -/
inductive Wording (v : CodeSettings) (s : PageStyle) : Int × BodyEntry → Line → Prop
  | assignment {level : Int} {source : Option String} {text : String} :
    v.assignment source = .ok text →
      Wording v s (level, .assignment source) ⟨level, .assignment, text⟩
  | call {level : Int} {method : Option String} :
    Wording v s (level, .call method) ⟨level, .call, v.call method⟩
  | branch {level : Int} {source : Option String} {condition : String} :
    v.value source = .ok condition → Wording v s (level, .branch source)
      ⟨level, .branch, v.statementSettings.beforeCondition ++ condition ++
        v.statementSettings.afterCondition ++ s.opening⟩
  | otherwise {level : Int} :
      Wording v s (level, .otherwise) ⟨level, .otherwise, v.statementSettings.otherwise⟩
  | closing {level : Int} {text : String} :
    s.closing = some text → Wording v s (level, .closing) ⟨level, .plain, text⟩
  | vacancy {level : Int} {text : String} :
    v.statementSettings.filler = some text → Wording v s (level, .vacancy) ⟨level, .filler, text⟩

/-- Whether lines are, one for one, the entries that a language shows. -/
def Worded (v : CodeSettings) (s : PageStyle) (es : List (Int × BodyEntry)) (ls : List Line) :
    Prop :=
  List.Forall₂ (v.Wording s) (es.filter fun e =>
    e.2.isShown s.closing.isSome v.statementSettings.filler.isSome) ls

variable {v : CodeSettings} {s : PageStyle}

theorem Worded.nil : v.Worded s [] [] := List.Forall₂.nil

theorem Worded.append {es es' : List (Int × BodyEntry)} {ls ls' : List Line} (h : v.Worded s es ls)
    (h' : v.Worded s es' ls') : v.Worded s (es ++ es') (ls ++ ls') := by
  unfold Worded
  rw [List.filter_append]
  exact List.rel_append h h'

theorem Worded.single {e : Int × BodyEntry} {l : Line}
    (he : e.2.isShown s.closing.isSome v.statementSettings.filler.isSome = true)
    (h : v.Wording s e l) :
    v.Worded s [e] [l] := by
  simpa [Worded, he] using h

/-- The closing of a block, if the language has it. -/
theorem worded_closing (hs : s.closing ≠ some "") (level : Int) :
    v.Worded s [(level, .closing)] (closingLines s level) := by
  unfold closingLines
  cases hc : s.closing with
  | none => simp [Worded, BodyEntry.isShown, hc]
  | some text =>
    have hne : text.isEmpty = false := by
      rw [String.isEmpty_eq_false_iff]
      rintro rfl
      exact hs hc
    simpa [hne] using Worded.single (by simp [BodyEntry.isShown, hc]) (Wording.closing hc)

mutual

/-- A step that is written to its end is worded entry by entry. -/
theorem step_worded (v : CodeSettings) (hs : s.closing ≠ some "") (level : Int) :
    ∀ step : Step, firstFault (v.step step) = none →
      v.Worded s (step.entries level) (allLines s level (v.step step))
  | .note _, _ => by simpa [Step.entries, step] using Worded.nil
  | .method .., _ => by simpa [Step.entries, step] using Worded.nil
  | .eval _ source, hok => by
    cases htext : v.assignment source with
    | error fault => simp [step, htext, given, fault?] at hok
    | ok text =>
      simpa [Step.entries, step, htext, given, lines] using Worded.single rfl (.assignment htext)
  | .execute _ method, _ => by simpa [Step.entries, step, lines] using Worded.single rfl .call
  | .condition _ source body, hok => by
    cases hcondition : v.value source with
    | error fault => simp [step, hcondition, given, fault?] at hok
    | ok condition =>
      have hbody : firstFault (v.body body) = none := by
        simpa [step, hcondition, given, fault?] using hok
      have hhead : v.Worded s [(level, .branch source)] _ := Worded.single rfl (.branch hcondition)
      have hall :=
        hhead.append ((body_worded v hs (level + 1) body hbody).append (worded_closing hs level))
      simpa [Step.entries, step, hcondition, given, lines] using hall
  | .consequent _ body, hok => by
    cases hfiller : v.statementSettings.filler with
    | none =>
      have hbody : firstFault (v.body body) = none := by simpa [step, hfiller] using hok
      cases body with
      | nil => simp [Step.entries, step, hfiller, body, Worded, BodyEntry.isShown]
      | cons first rest =>
        simpa [Step.entries, step, hfiller] using body_worded v hs level (first :: rest) hbody
    | some filler =>
      cases body with
      | nil =>
        have hshown :
            BodyEntry.vacancy.isShown s.closing.isSome
              v.statementSettings.filler.isSome = true := by
          simp [BodyEntry.isShown, hfiller]
        simpa [Step.entries, step, hfiller, lines] using Worded.single hshown (.vacancy hfiller)
      | cons first rest =>
        have hbody : firstFault (v.body (first :: rest)) = none := by
          simpa [step, hfiller] using hok
        simpa [Step.entries, step, hfiller] using body_worded v hs level (first :: rest) hbody
  | .alternative _ body, hok => by
    cases body with
    | nil => simpa [Step.entries, step] using Worded.nil
    | cons first rest =>
      have hbody : firstFault (v.body (first :: rest)) = none := by simpa [step, fault?] using hok
      have hhead : v.Worded s [(level - 1, .otherwise)] _ := Worded.single rfl .otherwise
      simpa [Step.entries, step, lines]
        using hhead.append (body_worded v hs level (first :: rest) hbody)

/-- Steps in a row are worded one after the other. -/
theorem body_worded (v : CodeSettings) (hs : s.closing ≠ some "") (level : Int) :
    ∀ steps : List Step, firstFault (v.body steps) = none →
      v.Worded s (Step.entriesOf level steps) (allLines s level (v.body steps))
  | [], _ => by simpa [Step.entriesOf, body] using Worded.nil
  | step :: steps, hok => by
    have hok' : firstFault (v.step step) = none ∧ firstFault (v.body steps) = none := by
      simpa [body] using hok
    simpa [Step.entriesOf, body] using
      (step_worded v hs level step hok'.1).append (body_worded v hs level steps hok'.2)

end

/-- A line is at the level of its entry and of its kind. -/
theorem Wording.shape {e : Int × BodyEntry} {l : Line} (h : v.Wording s e l) :
    (l.level, l.purpose) = (e.1, e.2.purpose) := by
  cases h <;> rfl

theorem shapes_eq {es : List (Int × BodyEntry)} {ls : List Line}
    (h : List.Forall₂ (v.Wording s) es ls) :
    (ls.map fun l => (l.level, l.purpose)) = es.map fun e => (e.1, e.2.purpose) := by
  induction h with
  | nil => rfl
  | cons hhead _ ih => rw [List.map_cons, List.map_cons, hhead.shape, ih]

/-- Steps that are written to their end from some level on are written as their entries. -/
theorem exists_worded (hs : s.closing ≠ some "") {p : Page} (hstyle : p.style = s)
    (hlevel : 1 ≤ p.level) {steps : List Step} (hok : (p.putAll (v.body steps)).2 = none) :
    ∃ ls, (p.putAll (v.body steps)).1 = p.appended (Line.textOf s ls) ∧
      v.Worded s (Step.entriesOf p.level steps) ls := by
  rw [Page.putAll_fault] at hok
  refine ⟨allLines s p.level (v.body steps), ?_, body_worded v hs p.level steps hok⟩
  rw [Page.putAll_lines p _ (.inl (by omega)) hok, hstyle]

/-- Languages with closing marks and without fillers pass over the vacancies. -/
theorem Worded.of_braces {es : List (Int × BodyEntry)} {ls : List Line} (h : v.Worded s es ls)
    (hclosing : s.closing.isSome = true) (hfiller : v.statementSettings.filler = none) :
    List.Forall₂ (v.Wording s) (es.filter (·.2 ≠ .vacancy)) ls := by
  have hshown : ∀ e : Int × BodyEntry, e.2.isShown true false = decide (e.2 ≠ .vacancy) := by
    rintro ⟨level, _ | _⟩ <;> rfl
  simpa only [Worded, hclosing, hfiller, Option.isSome_none, hshown] using h

/-- Languages without closing marks and with a filler pass over the closings. -/
theorem Worded.of_filler {es : List (Int × BodyEntry)} {ls : List Line} (h : v.Worded s es ls)
    (hclosing : s.closing = none) (hfiller : v.statementSettings.filler.isSome = true) :
    List.Forall₂ (v.Wording s) (es.filter (·.2 ≠ .closing)) ls := by
  have hshown : ∀ e : Int × BodyEntry, e.2.isShown false true = decide (e.2 ≠ .closing) := by
    rintro ⟨level, _ | _⟩ <;> rfl
  simpa only [Worded, hclosing, hfiller, Option.isSome_none, hshown] using h

end CodeSettings

/-- PHP and the languages that name their object in front of a point write the same kinds of lines
at the same levels, and Python writes the same entries without the closings and with a filler for
every empty consequent. -/
theorem statement_writers_agree {php pointed python : CodeSettings}
    (hphp : php.statementSettings = .php) {owner : Option String}
    {ending : String} (hpointed : pointed.statementSettings = .pointed owner ending)
    (hpython : python.statementSettings = .python)
    {p q r : Page} {i j k : Option String} (hp : p.style = Target.php.pageStyle i)
    (hq : q.style = Target.java.pageStyle j) (hr : r.style = Target.python.pageStyle k)
    (hlevel : 1 ≤ p.level)
    (hqlevel : q.level = p.level) (hrlevel : r.level = p.level) {steps : List Step}
    (hpok : (p.putAll (php.body steps)).2 = none) (hqok : (q.putAll (pointed.body steps)).2 = none)
    (hrok : (r.putAll (python.body steps)).2 = none) :
    ∃ ps qs rs : List Line,
      (p.putAll (php.body steps)).1 = p.appended (Line.textOf p.style ps) ∧
        (q.putAll (pointed.body steps)).1 = q.appended (Line.textOf q.style qs) ∧
        (r.putAll (python.body steps)).1 = r.appended (Line.textOf r.style rs) ∧
        (ps.map fun l => (l.level, l.purpose)) = qs.map (fun l => (l.level, l.purpose)) ∧
        List.Forall₂ (php.Wording p.style)
          ((Step.entriesOf p.level steps).filter (·.2 ≠ .vacancy)) ps ∧
        List.Forall₂ (pointed.Wording q.style)
          ((Step.entriesOf p.level steps).filter (·.2 ≠ .vacancy)) qs ∧
        List.Forall₂ (python.Wording r.style)
          ((Step.entriesOf p.level steps).filter (·.2 ≠ .closing)) rs := by
  obtain ⟨ps, hptext, hps⟩ := CodeSettings.exists_worded (by simp [Target.pageStyle]) hp hlevel hpok
  obtain ⟨qs, hqtext, hqs⟩ :=
    CodeSettings.exists_worded (by simp [Target.pageStyle]) hq (hqlevel ▸ hlevel) hqok
  obtain ⟨rs, hrtext, hrs⟩ :=
    CodeSettings.exists_worded (by simp [Target.pageStyle]) hr (hrlevel ▸ hlevel) hrok
  have hps' := hps.of_braces rfl (by rw [hphp]; rfl)
  have hqs' := hqs.of_braces rfl (by rw [hpointed]; rfl)
  have hrs' := hrs.of_filler rfl (by rw [hpython]; rfl)
  rw [hqlevel] at hqs'
  rw [hrlevel] at hrs'
  have hshapes := (CodeSettings.shapes_eq hps').trans (CodeSettings.shapes_eq hqs').symm
  rw [hp, hq, hr]
  exact ⟨ps, qs, rs, hptext, hqtext, hrtext, hshapes, hps', hqs', hrs'⟩

/-- An alternative outside of all conditions, an empty consequent behind another step, a nested
method. -/
def misplacedSteps : List Step :=
  [.alternative none [.execute none (some "M")],
    .condition none (some "A > 0") [.note "first", .eval none (some "B = A"), .consequent none [],
      .alternative none [.consequent none [.eval none (some "A = 2")]]],
    .method none (some "N") [.execute none (some "M")]]

theorem misplacedSteps_agree :
    let php : CodeSettings := ⟨.php, .php, ⟨some "Tax", [], []⟩⟩
    let java : CodeSettings := ⟨.java, .pointed (some "this") ";", ⟨some "Tax", [], []⟩⟩
    let python : CodeSettings := ⟨.python, .python, ⟨some "Tax", [], []⟩⟩
    let p : Page := { style := Target.php.pageStyle none, level := 1 }
    let q : Page := { style := Target.java.pageStyle (some "\t"), level := 1 }
    let r : Page := { style := Target.python.pageStyle none, level := 1 }
    (p.putAll (php.body misplacedSteps)).2 = none ∧ (q.putAll (java.body misplacedSteps)).2 = none ∧
      (r.putAll (python.body misplacedSteps)).2 = none ∧
      ∃ ps qs rs : List Line,
      (p.putAll (php.body misplacedSteps)).1 = p.appended (Line.textOf p.style ps) ∧
        (q.putAll (java.body misplacedSteps)).1 = q.appended (Line.textOf q.style qs) ∧
        (r.putAll (python.body misplacedSteps)).1 = r.appended (Line.textOf r.style rs) ∧
        (ps.map fun l => (l.level, l.purpose)) = qs.map (fun l => (l.level, l.purpose)) ∧
        (qs.map fun l => (l.level, l.purpose)) =
          [(0, .otherwise), (1, .call), (1, .branch), (2, .assignment), (1, .otherwise),
            (2, .assignment), (1, .plain)] ∧
        (rs.map fun l => (l.level, l.purpose)) =
          [(0, .otherwise), (1, .call), (1, .branch), (2, .assignment), (2, .filler),
            (1, .otherwise), (2, .assignment)] := by
  intro php java python p q r
  have hpok : (p.putAll (php.body misplacedSteps)).2 = none := by decide +kernel
  have hqok : (q.putAll (java.body misplacedSteps)).2 = none := by decide +kernel
  have hrok : (r.putAll (python.body misplacedSteps)).2 = none := by decide +kernel
  obtain ⟨ps, qs, rs, hptext, hqtext, hrtext, hshapes, -, hqs, hrs⟩ :=
    statement_writers_agree (p := p) (q := q) (r := r) (i := none) (j := some "\t") (k := none) rfl
      (show java.statementSettings = .pointed (some "this") ";" from rfl) rfl rfl rfl rfl
        (by decide) rfl rfl hpok hqok hrok
  refine ⟨hpok, hqok, hrok, ps, qs, rs, hptext, hqtext, hrtext, hshapes, ?_, ?_⟩
  · rw [CodeSettings.shapes_eq hqs]
    decide
  · rw [CodeSettings.shapes_eq hrs]
    decide

end TaxFlow

import TaxFlow.Proofs.BlockReader
import TaxFlow.Proofs.StatementOrder

/-!
# Control flow

The steps of a chart as a language writes them, without notes, nested methods and empty
alternatives, and with consequents spliced into their conditions. As long as alternatives end the
bodies of conditions, exactly this can be read back from the written lines.
-/
namespace TaxFlow

open Chart Outline

namespace Chart.Step

def isAlternative : Step → Bool
  | alternative .. => true
  | _ => false

mutual

/-- Whether every alternative below a step is the last entry of a condition. What is below a nested
method is not written. -/
def isOrderly : Step → Bool
  | condition _ _ body => areOrderly true body
  | consequent _ body => areOrderly false body
  | alternative _ body => areOrderly false body
  | _ => true

/-- The same for steps in a row, of which the last one may be an alternative if they belong to a
condition. -/
def areOrderly (inCondition : Bool) : List Step → Bool
  | [] => true
  | s :: ss =>
    (!s.isAlternative || inCondition && ss.isEmpty) && s.isOrderly && areOrderly inCondition ss

end

end Chart.Step

namespace CodeSettings

mutual

/-- What a step does. -/
def flows (v : CodeSettings) : Step → Except Fault (List Flow)
  | .note _ => .ok []
  | .method .. => .ok []
  | .eval _ source => do .ok [.simple (← v.assignment source)]
  | .execute _ method => .ok [.simple (v.call method)]
  | .condition _ source body => do
    let condition ← v.value source
    let p ← v.passage body
    .ok [.branch condition p.body p.alternative]
  | .consequent _ body => do
    let p ← v.passage body
    match v.statementSettings.filler with
    | some filler => .ok (if body.isEmpty then [.simple filler] else p.body)
    | none => .ok p.body
  | .alternative _ body => do .ok (← v.passage body).body

/-- What steps do one after the other; an alternative at their end is kept apart unless it is
empty. -/
def passage (v : CodeSettings) : List Step → Except Fault Passage
  | [] => .ok {}
  | s :: ss => do
    let fs ← v.flows s
    let p ← v.passage ss
    .ok (match s with
      | .alternative _ body => if body.isEmpty then p else { p with alternative := some fs }
      | _ => { p with body := fs ++ p.body })

end

theorem passage_nil (v : CodeSettings) : v.passage [] = .ok {} := by simp [passage]

theorem passage_cons {v : CodeSettings} {s : Step} {ss : List Step} {fs : List Flow} {p : Passage}
    (hs : s.isAlternative = false) (hfs : v.flows s = .ok fs) (hp : v.passage ss = .ok p) :
    v.passage (s :: ss) = .ok { p with body := fs ++ p.body } := by
  rw [passage, hfs, hp]
  cases s <;> simp_all [Step.isAlternative] <;> rfl

theorem passage_single_alternative {v : CodeSettings} {comment : Option String} {body : List Step}
    {p : Passage} (hp : v.passage body = .ok p) :
    v.passage [.alternative comment body] =
      .ok (if body.isEmpty then {} else { alternative := some p.body }) := by
  simp only [passage, flows, hp]
  rfl

/-- Only a condition has an alternative. -/
theorem passage_alternative {v : CodeSettings} {ss : List Step}
    (h : Step.areOrderly false ss = true)
    {p : Passage} (hp : v.passage ss = .ok p) : p.alternative = none := by
  induction ss generalizing p with
  | nil =>
    rw [passage_nil] at hp
    cases hp
    rfl
  | cons s ss ih =>
    simp only [Step.areOrderly, Bool.false_and, Bool.or_false, Bool.and_eq_true,
      Bool.not_eq_true'] at h
    cases hfs : v.flows s with
    | error fault => simp [passage, hfs, bind, Except.bind] at hp
    | ok fs =>
      cases hss : v.passage ss with
      | error fault => simp [passage, hfs, hss, bind, Except.bind] at hp
      | ok q =>
        rw [passage_cons h.1.1 hfs hss] at hp
        cases hp
        have hnone := ih h.2 hss
        exact hnone

end CodeSettings

/-- Whether the blocks of a language can be told apart by its marks. -/
structure StatementSettings.Legible (m : StatementSettings) (s : PageStyle) : Prop where
  opening : ∀ condition,
    m.mark s (m.beforeCondition ++ condition ++ m.afterCondition ++ s.opening) = .opening condition
  otherwise : m.mark s m.otherwise = .otherwise
  closing : ∀ text, s.closing = some text → text.isEmpty = false
  assignment : ∀ place rest, m.place = some place →
    m.mark s (place ++ rest) = .simple (place ++ rest)
  call : ∀ rest, m.mark s (m.receiver ++ rest) = .simple (m.receiver ++ rest)
  filler : ∀ text, m.filler = some text → m.mark s text = .simple text

namespace StatementSettings

variable {m : StatementSettings} {s : PageStyle}

/-- The lines of outlines with their marks. -/
def marked (m : StatementSettings) (s : PageStyle) (level : Int) (os : List Outline) :
    List (Int × Mark) :=
  (allLines s level os).map fun l => (l.level, m.mark s l.content)

@[simp] theorem marked_nil (level : Int) : m.marked s level [] = [] := by simp [marked]

@[simp] theorem marked_append (level : Int) (os os' : List Outline) :
    m.marked s level (os ++ os') = m.marked s level os ++ m.marked s level os' := by
  simp [marked]

theorem marked_line (level : Int) (purpose : Purpose) (text : String) :
    m.marked s level [.line purpose text] = [(level, m.mark s text)] := by
  simp [marked, lines]

theorem marked_outdented (level : Int) (purpose : Purpose) (text : String) (os : List Outline) :
    m.marked s level (.outdented purpose text :: os) =
      (level - 1, m.mark s text) :: m.marked s level os := by
  simp [marked, lines]

/-- The marks of a block: those of its head and of its body, and a closing one if the language has
it. -/
theorem Legible.marked_block (h : m.Legible s) (level : Int) (purpose : Purpose)
    (condition : String) (os : List Outline) :
    m.marked s level [.block purpose (m.beforeCondition ++ condition ++ m.afterCondition) os] =
      (level, .opening condition) :: m.marked s (level + 1) os ++
        if s.closing.isSome then [(level, .closing)] else [] := by
  have hclosing : (closingLines s level).map (fun l => (l.level, m.mark s l.content)) =
      if s.closing.isSome then [(level, .closing)] else [] := by
    unfold closingLines
    cases hc : s.closing with
    | none => simp
    | some text => simp [h.closing text hc, mark, hc]
  simp [marked, lines, h.opening, hclosing]

end StatementSettings

namespace CodeSettings

/-- Outlines that are written to their end have the marks of flows, at every level. -/
def Shows (v : CodeSettings) (s : PageStyle) (os : List Outline) (fs : List Flow) : Prop :=
  ∀ level, v.statementSettings.marked s level os = leveledOf s.closing.isSome level fs

/-- Outlines that are written to their end have the marks of a passage, at every level. -/
def ShowsPassage (v : CodeSettings) (s : PageStyle) (os : List Outline) (p : Passage) : Prop :=
  ∀ level, v.statementSettings.marked s level os = p.leveled s.closing.isSome level

theorem ShowsPassage.shows {v : CodeSettings} {s : PageStyle} {os : List Outline} {p : Passage}
    (h : v.ShowsPassage s os p) (hp : p.alternative = none) : v.Shows s os p.body := by
  intro level
  simpa [Passage.leveled, hp, leveledAlternative] using h level

/-- An assignment begins with the place of its variable. -/
theorem assignment_place {v : CodeSettings} {source : Option String} {text : String}
    (h : v.assignment source = .ok text) :
    ∃ place rest, v.statementSettings.place = some place ∧ text = place ++ rest := by
  unfold assignment at h
  cases hsource : v.source source with
  | error fault => simp [hsource, bind, Except.bind] at h
  | ok formula =>
    cases hread : Formula.assignment formula with
    | error fault => simp [hsource, hread, bind, Except.bind] at h
    | ok read =>
      cases hwords : v.dialect.toCode v.scope read.2 with
      | error fault => simp [hsource, hread, hwords, bind, Except.bind] at h
      | ok words =>
        cases hplace : v.statementSettings.place with
        | none => simp [hsource, hread, hwords, hplace, bind, Except.bind] at h
        | some place =>
          simp only [hsource, hread, hwords, hplace, bind, Except.bind, Except.ok.injEq] at h
          refine ⟨place, read.1 ++ " = " ++ String.join words ++ v.statementSettings.ending, rfl,
            ?_⟩
          simp [← h, String.append_assoc]

mutual

/-- A step that is no alternative has the marks of what it does. -/
theorem step_shows (v : CodeSettings) {s : PageStyle} (hm : v.statementSettings.Legible s) :
    ∀ step : Step, step.isAlternative = false → step.isOrderly = true →
      firstFault (v.step step) = none → ∃ fs, v.flows step = .ok fs ∧ v.Shows s (v.step step) fs
  | .note _, _, _, _ => ⟨[], by simp [flows], fun level => by simp [step]⟩
  | .method .., _, _, _ => ⟨[], by simp [flows], fun level => by simp [step]⟩
  | .eval comment source, _, _, hok => by
    cases htext : v.assignment source with
    | error fault => simp [step, htext, given, fault?] at hok
    | ok text =>
      obtain ⟨place, rest, hplace, rfl⟩ := assignment_place htext
      refine ⟨[.simple (place ++ rest)], by simp [flows, htext]; rfl, fun level => ?_⟩
      simp [step, htext, given, StatementSettings.marked_line, hm.assignment place rest hplace,
        leveledOf, Flow.leveled]
  | .execute comment method, _, _, _ => by
    refine ⟨[.simple (v.call method)], by simp [flows], fun level => ?_⟩
    have hcall := hm.call (shown method ++ "()" ++ v.statementSettings.ending)
    simp only [← String.append_assoc] at hcall
    simp [step, StatementSettings.marked_line, call, hcall, leveledOf, Flow.leveled]
  | .condition comment source body, _, horderly, hok => by
    cases hcondition : v.value source with
    | error fault => simp [step, hcondition, given, fault?] at hok
    | ok condition =>
      have hbody : firstFault (v.body body) = none := by
        simpa [step, hcondition, given, fault?] using hok
      obtain ⟨p, hp, hshows⟩ := body_shows v hm true body horderly hbody
      refine ⟨[.branch condition p.body p.alternative], ?_, fun level => ?_⟩
      · simp only [flows, hcondition, hp]
        rfl
      · simp only [step, hcondition, given]
        rw [hm.marked_block, hshows (level + 1)]
        simp [Passage.leveled, leveledOf, Flow.leveled]
  | .consequent comment body, _, horderly, hok => by
    cases hfiller : v.statementSettings.filler with
    | none =>
      have hbody : firstFault (v.body body) = none := by simpa [step, hfiller] using hok
      obtain ⟨p, hp, hshows⟩ := body_shows v hm false body horderly hbody
      refine ⟨p.body, ?_, fun level => ?_⟩
      · simp only [flows, hp, hfiller]
        rfl
      · simpa [step, hfiller] using hshows.shows (passage_alternative horderly hp) level
    | some filler =>
      by_cases hempty : body.isEmpty
      · rw [List.isEmpty_iff] at hempty
        subst hempty
        refine ⟨[.simple filler], ?_, fun level => ?_⟩
        · simp only [flows, passage_nil, hfiller]
          rfl
        · simp [step, hfiller, StatementSettings.marked_line, hm.filler filler hfiller,
            leveledOf, Flow.leveled]
      · have hbody : firstFault (v.body body) = none := by simpa [step, hfiller, hempty] using hok
        obtain ⟨p, hp, hshows⟩ := body_shows v hm false body horderly hbody
        refine ⟨p.body, ?_, fun level => ?_⟩
        · simp only [flows, hp, hfiller, hempty]
          rfl
        · simpa [step, hfiller, hempty] using hshows.shows (passage_alternative horderly hp) level
  | .alternative .., h, _, _ => by simp [Step.isAlternative] at h

/-- Steps in a row have the marks of their passage. -/
theorem body_shows (v : CodeSettings) {s : PageStyle} (hm : v.statementSettings.Legible s)
    (inCondition : Bool) :
    ∀ steps : List Step, Step.areOrderly inCondition steps = true →
      firstFault (v.body steps) = none →
      ∃ p, v.passage steps = .ok p ∧ v.ShowsPassage s (v.body steps) p
  | [], _, _ => by
    refine ⟨{}, v.passage_nil, fun level => ?_⟩
    simp [body, Passage.leveled, leveledAlternative]
  | step :: steps, horderly, hok => by
    simp only [Step.areOrderly, Bool.and_eq_true] at horderly
    obtain ⟨⟨hplace, hstep⟩, hsteps⟩ := horderly
    have hok' : firstFault (v.step step) = none ∧ firstFault (v.body steps) = none := by
      simpa [body] using hok
    cases halternative : step.isAlternative with
    | false =>
      obtain ⟨fs, hfs, hshows⟩ := step_shows v hm step halternative hstep hok'.1
      obtain ⟨p, hp, hrest⟩ := body_shows v hm inCondition steps hsteps hok'.2
      refine ⟨_, passage_cons halternative hfs hp, fun level => ?_⟩
      simp [body, hshows level, hrest level, Passage.leveled]
    | true =>
      -- An alternative is the last step, so nothing else follows it.
      have hlast : steps = [] := by
        simp [halternative] at hplace
        exact hplace.2
      subst hlast
      cases step with
      | alternative comment inner =>
        by_cases hempty : inner.isEmpty
        · rw [List.isEmpty_iff] at hempty
          subst hempty
          refine ⟨_, passage_single_alternative v.passage_nil, fun level => ?_⟩
          simp [body, CodeSettings.step, Passage.leveled, leveledAlternative]
        · have hinner : firstFault (v.body inner) = none := by
            simpa [CodeSettings.step, hempty, fault?] using hok'.1
          obtain ⟨p, hp, hshows⟩ := body_shows v hm false inner hstep hinner
          refine ⟨_, passage_single_alternative hp, fun level => ?_⟩
          have hmarks := hshows.shows (passage_alternative hstep hp) level
          simp [body, CodeSettings.step, hempty, StatementSettings.marked_outdented, hm.otherwise,
            hmarks, Passage.leveled, leveledAlternative]
      | _ => simp [Step.isAlternative] at halternative

end

end CodeSettings

namespace StatementSettings

variable {m : StatementSettings} {s : PageStyle}

/-- The characters with which the lines of block marks begin. -/
def markHeads (m : StatementSettings) (s : PageStyle) : List (Option Char) :=
  [(s.closing.getD m.otherwise).toList.head?, m.otherwise.toList.head?,
    m.beforeCondition.toList.head?]

theorem ne_of_head {s t : String} {c : Char} (hs : s.toList.head? = some c)
    (ht : t.toList.head? ≠ some c) :
    s ≠ t := by
  rintro rfl
  exact ht hs

theorem isPrefixOf_of_head {front cs : List Char} {a c : Char} (hfront : front.head? = some a)
    (hcs : cs.head? = some c) (hne : a ≠ c) : front.isPrefixOf cs = false := by
  cases front with
  | nil => simp at hfront
  | cons b front =>
    cases cs with
    | nil => simp at hcs
    | cons d cs => simp_all [List.isPrefixOf]

/-- A line that begins like no mark is simple. -/
theorem mark_simple {text : String} {a c : Char} (htext : text.toList.head? = some c)
    (hopen : m.beforeCondition.toList.head? = some a) (hheads : some c ∉ m.markHeads s) :
    m.mark s text = .simple text := by
  simp only [markHeads, List.mem_cons, List.not_mem_nil, or_false, not_or, hopen] at hheads
  obtain ⟨hclosing, hother, hbefore⟩ := hheads
  have hclose : s.closing ≠ some text := by
    intro h
    rw [h] at hclosing
    exact hclosing htext.symm
  have hprefix : m.beforeCondition.toList.isPrefixOf text.toList = false :=
    isPrefixOf_of_head hopen htext fun h => hbefore (by rw [h])
  rw [mark, if_neg hclose, if_neg (ne_of_head htext (Ne.symm hother)), enclosed?_eq_none hprefix]

/-- Blocks can be told apart if the marks begin differently from each other and from all
statements. -/
theorem legible_of_heads {a : Char} (hopen : m.beforeCondition.toList.head? = some a)
    (hmarks : some a ∉ (m.markHeads s).take 2)
    (hclosing : ∀ text, s.closing = some text → text.isEmpty = false ∧ text ≠ m.otherwise)
    (hplace : ∀ place, m.place = some place → ∃ c, place.toList.head? = some c ∧
      some c ∉ m.markHeads s)
    (hcall : ∃ c, m.receiver.toList.head? = some c ∧ some c ∉ m.markHeads s)
    (hfiller : ∀ text, m.filler = some text → ∃ c, text.toList.head? = some c ∧
      some c ∉ m.markHeads s) :
    m.Legible s := by
  have happend : ∀ {t : String} {c : Char} (rest : String), t.toList.head? = some c →
      (t ++ rest).toList.head? = some c := by
    intro t c rest h
    rw [String.toList_append, List.head?_append, h]
    rfl
  refine ⟨?_, ?_, fun text h => (hclosing text h).1, ?_, ?_, ?_⟩
  · intro condition
    simp only [markHeads, List.take_succ_cons, List.take_zero, List.mem_cons,
      List.not_mem_nil, or_false, not_or] at hmarks
    have hhead :
    (m.beforeCondition ++ condition ++ m.afterCondition ++ s.opening).toList.head? = some a := by
      simp only [String.append_assoc]
      exact happend _ hopen
    have hclose :
    s.closing ≠ some (m.beforeCondition ++ condition ++ m.afterCondition ++ s.opening) := by
      intro h
      rw [h] at hmarks
      exact hmarks.1 hhead.symm
    have hinner := enclosed?_append m.beforeCondition.toList condition.toList
      (m.afterCondition ++ s.opening).toList
    rw [mark, if_neg hclose, if_neg (ne_of_head hhead (Ne.symm hmarks.2))]
    simp only [String.toList_append, List.append_assoc] at hinner ⊢
    simp [hinner]
  · rw [mark, if_neg fun h => (hclosing _ h).2 rfl, if_pos rfl]
  · intro place rest hp
    obtain ⟨c, hc, hheads⟩ := hplace place hp
    exact mark_simple (happend rest hc) hopen hheads
  · intro rest
    obtain ⟨c, hc, hheads⟩ := hcall
    exact mark_simple (happend rest hc) hopen hheads
  · intro text ht
    obtain ⟨c, hc, hheads⟩ := hfiller text ht
    exact mark_simple hc hopen hheads

/-- Languages with braces: all statements begin with a character that begins no mark. -/
theorem braced_legible {m : StatementSettings} {indent : String} {c : Char}
    (hopen : m.beforeCondition = "if (")
    (hother : m.otherwise = "\x7d else \x7b") (hfiller : m.filler = none)
    (hplace : ∀ place, m.place = some place → place.toList.head? = some c)
    (hcall : m.receiver.toList.head? = some c) (hbrace : c ≠ '\x7d') (hif : c ≠ 'i') :
    m.Legible { indent } := by
  have hheads : m.markHeads { indent } = [some '\x7d', some '\x7d', some 'i'] := by
    simp [markHeads, hopen, hother]
  have hstatement : some c ∉ m.markHeads { indent } := by simp [hheads, hbrace, hif]
  refine legible_of_heads (a := 'i') (by simp [hopen]) (by simp [hheads]) ?_ ?_ ⟨c, hcall,
    hstatement⟩ ?_
  · intro text h
    cases h
    exact ⟨by decide, by rw [hother]; decide⟩
  · intro place hp
    exact ⟨c, hplace place hp, hstatement⟩
  · intro text h
    simp [hfiller] at h

theorem python_legible (indent : String) :
    python.Legible { indent, opening := ":", closing := none } := by
  have hheads : python.markHeads { indent, opening := ":", closing := none } =
      [some 'e', some 'e', some 'i'] := by
    simp [markHeads, python]
  refine legible_of_heads (a := 'i') rfl (by simp [hheads]) ?_ ?_ ⟨'s', rfl, by simp [hheads]⟩ ?_
  · intro text h
    cases h
  · intro place h
    cases h
    exact ⟨'s', rfl, by simp [hheads]⟩
  · intro text h
    cases h
    exact ⟨'p', rfl, by simp [hheads]⟩

end StatementSettings

/-- The blocks of every language can be told apart. -/
theorem Target.legible {t : Target} (ht : t ∈ Target.languages)
    (indent : Option String) :
    (t.statementSettings t.dialect.owner).Legible (t.pageStyle indent) := by
  have hpointed : ∀ {owner ending : String} {c : Char},
      (owner ++ ".").toList.head? = some c → c ≠ '\x7d' →
      c ≠ 'i' →
      (StatementSettings.pointed (some owner) ending).Legible { indent := indent.getD "    " } := by
    intro owner ending c hc hbrace hif
    refine StatementSettings.braced_legible rfl rfl rfl ?_ hc hbrace hif
    intro place h
    cases h
    exact hc
  simp only [Target.languages, List.mem_cons, List.not_mem_nil, or_false] at ht
  rcases ht with rfl | rfl | rfl | rfl | rfl
  · refine StatementSettings.braced_legible (c := '$') rfl rfl rfl ?_ rfl (by decide) (by decide)
    intro place h
    cases h
    rfl
  · exact StatementSettings.python_legible _
  · exact hpointed (c := 't') rfl (by decide) (by decide)
  · exact hpointed (c := 't') rfl (by decide) (by decide)
  · exact hpointed (c := 't') rfl (by decide) (by decide)

/-- The control flow of steps can be read back from their lines. -/
theorem control_flow_read_back {t : Target} (ht : t ∈ Target.languages)
    {v : CodeSettings} (hv : v.statementSettings = t.statementSettings t.dialect.owner)
    {steps : List Step}
    (horderly : Step.areOrderly true steps = true) {p : Page} {indent : Option String}
    (hstyle : p.style = t.pageStyle indent) (hlevel : 1 ≤ p.level)
    (hok : (p.putAll (v.body steps)).2 = none) :
    (p.putAll (v.body steps)).1 =
        p.appended (Line.textOf p.style (allLines p.style p.level (v.body steps))) ∧
      ∃ passage, v.passage steps = .ok passage ∧
        readLines v.statementSettings p.style p.level (allLines p.style p.level (v.body steps)) =
          some passage := by
  rw [Page.putAll_fault] at hok
  have hlegible : v.statementSettings.Legible p.style := by
    rw [hv, hstyle]
    exact Target.legible ht indent
  obtain ⟨passage, hpassage, hshows⟩ := v.body_shows hlegible true steps horderly hok
  refine ⟨?_, passage, hpassage, readLines_eq (hshows p.level)⟩
  rw [Page.putAll_lines p _ (.inl (by omega)) hok]

/-- A condition whose consequent is empty, in front of an alternative that branches again. -/
def branchingAlternative : List Step :=
  [.condition none (some "A > 0")
    [.consequent none [],
      .note "otherwise",
      .alternative none
        [.execute none (some "M"),
          .condition none (some "B == 1") [.consequent none [.eval none (some "B = A")],
            .alternative none []]]],
    .eval none (some "A = 2L")]

theorem branchingAlternative_read_back :
    let v : CodeSettings := ⟨.python, .python, ⟨some "Tax", [], []⟩⟩
    let p : Page := { style := Target.python.pageStyle none, level := 1 }
    Step.areOrderly true branchingAlternative = true ∧
    (p.putAll (v.body branchingAlternative)).2 = none ∧
      readLines v.statementSettings p.style p.level
        (allLines p.style p.level (v.body branchingAlternative)) =
        some
          { body :=
              [.branch "self.A > 0" [.simple "pass"]
                  (some [.simple "self.M()",
                    .branch "self.B == 1" [.simple "self.B = self.A"] none]),
                .simple "self.A = 2"] } := by
  intro v p
  have hok : (p.putAll (v.body branchingAlternative)).2 = none := by decide +kernel
  have hstyle : p.style = Target.python.pageStyle none := rfl
  obtain ⟨-, passage, hpassage, hread⟩ :=
    control_flow_read_back (t := .python) (by decide) rfl (by decide) hstyle (by decide) hok
  have hof : ∀ {x : Except Fault String} {text : String}, x.toOption = some text →
      x = .ok text := by
    rintro (_ | _) text h
    · cases h
    · exact congrArg Except.ok (Option.some.inj h)
  have houter : v.value (some "A > 0") = .ok "self.A > 0" := hof (by decide +kernel)
  have hinner : v.value (some "B == 1") = .ok "self.B == 1" := hof (by decide +kernel)
  have hcopy : v.assignment (some "B = A") = .ok "self.B = self.A" := hof (by decide +kernel)
  have hlast : v.assignment (some "A = 2L") = .ok "self.A = 2" := hof (by decide +kernel)
  simp only [branchingAlternative, CodeSettings.passage, CodeSettings.flows, houter, hinner,
    hcopy, hlast, bind, Except.bind] at hpassage
  cases hpassage
  exact ⟨by decide, hok, hread⟩

end TaxFlow

import TaxFlow.Proofs.Lines
import TaxFlow.Session

/-!
# Generators that share a chart

A generator may leave brackets around the list constants of a chart, and remembers the types it has
declared. Neither shows in what is written later: brackets replace whatever encloses a list, and
types are noted anew for every file. So a generator that has never run into a fault writes the same
in every session.
-/
namespace TaxFlow

namespace CodeSettings

open TaxFlow.Chart

theorem inner_bracketed (s : String) : inner ("[" ++ s ++ "]") = s := by
  simp [inner, String.toList_append]

end CodeSettings

namespace Chart

open CodeSettings

/-- The constant with brackets around its value if that is a list. -/
def Constant.bracketed (k : Constant) : Constant :=
  match constantFormula k with
  | .ok value => { k with value }
  | .error _ => k

namespace Constant

@[simp] theorem bracketed_name (k : Constant) : k.bracketed.name = k.name := by
  unfold bracketed
  split <;> rfl

@[simp] theorem bracketed_type (k : Constant) : k.bracketed.type = k.type := by
  unfold bracketed
  split <;> rfl

@[simp] theorem bracketed_comment (k : Constant) : k.bracketed.comment = k.comment := by
  unfold bracketed
  split <;> rfl

/-- Brackets replace what encloses a list, so they make no difference to its formula. -/
@[simp] theorem constantFormula_bracketed (k : Constant) :
    constantFormula k.bracketed = constantFormula k := by
  cases hlist : isListType k.type with
  | error fault => simp [bracketed, constantFormula, hlist, bind, Except.bind]
  | ok isList =>
    cases isList with
    | false => simp [bracketed, constantFormula, hlist, bind, Except.bind]
    | true =>
      cases hvalue : k.value with
      | none => simp [bracketed, constantFormula, hlist, hvalue, bind, Except.bind]
      | some value =>
        simp [bracketed, constantFormula, hlist, hvalue, inner_bracketed, bind, Except.bind]

theorem bracketed_eq_of_formula {k k' : Constant} (h : golangConstant k = .ok k') :
    k'.bracketed = k.bracketed := by
  have hk : k' = k.bracketed := by
    unfold golangConstant at h
    unfold bracketed
    cases hformula : constantFormula k with
    | error fault => simp [hformula, bind, Except.bind] at h
    | ok value => simpa [hformula, bind, Except.bind, eq_comm] using h
  subst hk
  rw [bracketed, constantFormula_bracketed]
  unfold bracketed
  cases constantFormula k <;> rfl

end Constant

/-- What is done with constants up to the first that cannot be declared only puts brackets around
lists. -/
theorem golangConstants_bracketed (ks : List Constant) :
    (golangConstants ks).map Constant.bracketed = ks.map Constant.bracketed := by
  induction ks with
  | nil => rfl
  | cons k ks ih =>
    unfold golangConstants
    cases hk : golangConstant k with
    | error fault => rfl
    | ok k' => cases golangType k.type <;> simp [Constant.bracketed_eq_of_formula hk, ih]

/-- The chart with brackets around its list constants. -/
def bracketed (c : Chart) : Chart := { c with constants := c.constants.map Constant.bracketed }

@[simp] theorem constantNames_bracketed (c : Chart) :
    c.bracketed.constantNames = c.constantNames := by
  simp [constantNames, bracketed, Function.comp_def]

end Chart

namespace CodeSettings

open TaxFlow.Chart

@[simp] theorem constantValue_bracketed (v : CodeSettings) (k : Constant) :
    v.constantValue k.bracketed = v.constantValue k := by
  simp [constantValue]

@[simp] theorem golangConstantType_bracketed (k : Constant) :
    golangConstantType k.bracketed = golangConstantType k := by
  unfold golangConstantType golangConstant
  rw [Constant.constantFormula_bracketed]
  cases constantFormula k <;> simp [bind, Except.bind]

theorem flatMap_bracketed {f : Constant → List Outline} (h : ∀ k, f k.bracketed = f k)
    (ks : List Constant) :
    (ks.map Constant.bracketed).flatMap f = ks.flatMap f := by
  rw [List.flatMap_map]
  exact congrArg (List.flatMap · ks) (funext h)

end CodeSettings

namespace Generator

open TaxFlow.Chart CodeSettings

@[simp] theorem codeSettings_bracketed (g : Generator) (c : Chart) :
    g.codeSettings c.bracketed = g.codeSettings c := by
  simp [codeSettings]

/-- No language makes a difference between the brackets and what else encloses a list. -/
theorem file_bracketed (g : Generator) (c : Chart) : g.file c.bracketed = g.file c := by
  unfold file
  rw [codeSettings_bracketed]
  cases g.target with
  | php =>
    have hconstants :=
      flatMap_bracketed (f := fun k =>
        phpInitial k.name ((g.codeSettings c).constantValue k)) (by simp)
      c.constants
    simp only [phpFile, phpInitializer, bracketed, allVariables, hconstants]
  | python =>
    have hconstants :=
      flatMap_bracketed (f := (g.codeSettings c).pythonConstant)
        (by simp [pythonConstant]) c.constants
    simp only [pythonFile, pythonConstructor, bracketed, allVariables, hconstants]
  | java =>
    have hconstants :=
      flatMap_bracketed (f := (g.codeSettings c).javaConstant)
        (by simp [javaConstant, javaConstantValue])
      c.constants
    simp only [javaFile, bracketed, allVariables, hconstants]
  | javascript =>
    have hconstants :=
      flatMap_bracketed (f := (g.codeSettings c).javascriptConstant) (by simp [javascriptConstant])
      c.constants
    simp only [javascriptFile, bracketed, allVariables, hconstants]
  | golang =>
    have hfields := flatMap_bracketed
      (f := fun k => (g.codeSettings c).golangField k.name k.comment (golangConstantType k))
        (by simp) c.constants
    have hinitials := flatMap_bracketed
      (f := fun k => (g.codeSettings c).golangInitial k.name k.comment
        ((g.codeSettings c).constantValue k)) (by simp) c.constants
    simp only [golangFile, golangStruct, golangInitials, bracketed, allVariables,
      hfields, hinitials]
  | _ => rfl

theorem informed_bracketed (g : Generator) (c : Chart) : g.informed c.bracketed = g.informed c := by
  have htypes : ∀ types, golangTypesOf types c.bracketed = golangTypesOf types c := by
    intro types
    simp [golangTypesOf, bracketed, allVariables, Function.comp_def]
  simp [informed, htypes]

theorem generate_bracketed (g : Generator) (c : Chart) : g.generate c.bracketed = g.generate c := by
  simp [generate, informed_bracketed, file_bracketed]

theorem leaves_bracketed (g : Generator) (c : Chart) : (g.leaves c).bracketed = c.bracketed := by
  unfold leaves
  split
  · simp [bracketed, golangConstants_bracketed]
  · rfl

end Generator

namespace TypeTable

/-- Notes types one after the other. -/
def noteAll (types : TypeTable) (entries : List (Option String × String)) : TypeTable :=
  entries.foldl (fun types entry => types.note entry.1 entry.2) types

/-- What is noted comes before the types that were known and are not noted again. -/
theorem noteAll_eq (types : TypeTable) (entries : List (Option String × String)) :
    types.noteAll entries = noteAll [] entries ++ types.filter fun entry =>
      entry.1 ∉ entries.map Prod.fst := by
  induction entries generalizing types with
  | nil => exact (List.filter_eq_self.2 (by simp)).symm
  | cons entry entries ih =>
    have hcons : ∀ types : TypeTable,
        types.noteAll (entry :: entries) =
          (types.note entry.1 entry.2).noteAll entries := fun _ => rfl
    have hagain : types.filter (fun e => e.1 ∉ (entry :: entries).map Prod.fst) =
        (types.filter fun e => e.1 ≠ entry.1).filter fun e => e.1 ∉ entries.map Prod.fst := by
      rw [List.filter_filter]
      refine List.filter_congr fun e _ => ?_
      by_cases he : e.1 = entry.1 <;> simp [he]
    rw [hcons, hcons, ih, ih (note [] entry.1 entry.2), hagain]
    simp only [note, List.filter_cons, List.filter_nil]
    split <;> simp

/-- Types that are noted a second time stay as they are. -/
theorem noteAll_noteAll (types : TypeTable) (entries : List (Option String × String)) :
    (types.noteAll entries).noteAll entries = types.noteAll entries := by
  have hnames : ∀ entry ∈ noteAll [] entries, entry.1 ∈ entries.map Prod.fst := by
    induction entries with
    | nil => simp [noteAll]
    | cons entry entries ih =>
      intro e he
      have hcons : noteAll [] (entry :: entries) = noteAll (note [] entry.1 entry.2) entries := rfl
      rw [hcons, noteAll_eq, List.mem_append, List.mem_filter] at he
      rcases he with he | ⟨he, -⟩
      · exact List.mem_cons_of_mem _ (ih e he)
      · simp only [note, List.filter_nil, List.mem_singleton] at he
        simp [he]
  have hnone : (noteAll [] entries).filter (fun e => e.1 ∉ entries.map Prod.fst) = [] := by
    refine List.filter_eq_nil_iff.2 fun e he => ?_
    simpa using hnames e he
  rw [noteAll_eq (types.noteAll entries), noteAll_eq types, List.filter_append, hnone,
    List.filter_filter]
  simp

end TypeTable

namespace CodeSettings

open TaxFlow.Chart

/-- Which types are noted does not depend on those that are known. -/
theorem noteTypes_eq (xs : List (Option String × Except Fault String)) :
    ∃ entries complete, ∀ types, noteTypes types xs = (types.noteAll entries, complete) := by
  induction xs with
  | nil => exact ⟨[], true, fun _ => rfl⟩
  | cons x xs ih =>
    obtain ⟨name, type⟩ := x
    obtain ⟨entries, complete, h⟩ := ih
    cases type with
    | error fault => exact ⟨[], false, fun _ => rfl⟩
    | ok type => exact ⟨(name, type) :: entries, complete, fun types => by rw [noteTypes, h]; rfl⟩

theorem golangTypesOf_eq (c : Chart) :
    ∃ entries, ∀ types, golangTypesOf types c = types.noteAll entries := by
  obtain ⟨constants, complete, hconstants⟩ :=
    noteTypes_eq (c.constants.map fun k => (k.name, golangConstantType k))
  cases complete with
  | false => exact ⟨constants, fun types => by simp [golangTypesOf, hconstants]⟩
  | true =>
    cases hall : c.allVariables with
    | error fault => exact ⟨constants, fun types => by simp [golangTypesOf, hconstants, hall]⟩
    | ok declared =>
      obtain ⟨inputs, outputs, internals⟩ := declared
      obtain ⟨entries, _, hentries⟩ :=
        noteTypes_eq ((inputs ++ outputs ++ internals).map fun x => (x.name, golangType x.type))
      refine ⟨constants ++ entries, fun types => ?_⟩
      simp only [golangTypesOf, hconstants, hall, hentries]
      exact List.foldl_append.symm

end CodeSettings

/-- A generator learns nothing from the same chart a second time. -/
theorem Generator.informed_informed (g : Generator) (c : Chart) :
    (g.informed c).informed c = g.informed c := by
  obtain ⟨entries, hentries⟩ := CodeSettings.golangTypesOf_eq c
  by_cases htarget : g.target = .golang
  · simp [informed, htarget, hentries, TypeTable.noteAll_noteAll]
  · simp [informed, htarget]

namespace Outline

/-- Whether none of the outlines is outdented. -/
def Flush (os : List Outline) : Prop := ∀ o ∈ os, o.isOutdented = false

namespace Flush

variable {os ps : List Outline}

theorem append (ho : Flush os) (hp : Flush ps) : Flush (os ++ ps) := by
  intro o hmem
  rcases List.mem_append.1 hmem with h | h
  · exact ho o h
  · exact hp o h

theorem of_all (h : os.all (fun o => !o.isOutdented) = true) : Flush os := by
  simpa [Flush] using h

theorem cons {o : Outline} (ho : o.isOutdented = false) (hp : Flush ps) : Flush (o :: ps) := by
  intro o' hmem
  rcases List.mem_cons.1 hmem with rfl | h
  · exact ho
  · exact hp o' h

theorem flatMap {α : Type} {f : α → List Outline} (h : ∀ a, Flush (f a)) (as : List α) :
    Flush (as.flatMap f) := by
  intro o hmem
  obtain ⟨a, -, ha⟩ := List.mem_flatMap.1 hmem
  exact h a o ha

theorem given {α : Type} {f : α → List Outline} (h : ∀ a, Flush (f a)) (x : Except Fault α) :
    Flush (Outline.given x f) := by
  cases x with
  | error fault => exact of_all rfl
  | ok a => exact h a

end Flush

end Outline

namespace CodeSettings

open TaxFlow.Chart Outline

theorem comment_flush (v : CodeSettings) (text : String) (simple : Bool) :
    Flush (v.comment text simple) ∧ firstFault (v.comment text simple) = none := by
  have hlines : ∀ (mark : String) (ls : List String),
      Flush (ls.map fun line => Outline.line .comment (mark ++ Text.trim line)) ∧
        firstFault (ls.map fun line => Outline.line .comment (mark ++ Text.trim line)) = none := by
    intro mark ls
    induction ls with
    | nil => exact ⟨.of_all rfl, rfl⟩
    | cons l ls ih => exact ⟨.cons rfl ih.1, by simpa [fault?] using ih.2⟩
  cases simple with
  | true => exact hlines _ _
  | false =>
    have hall := hlines v.statementSettings.comments.blockMark (Text.lines text)
    refine ⟨.cons rfl (.append hall.1 (.of_all rfl)), ?_⟩
    simpa [comment, fault?] using hall.2

theorem declarationComment_flush (v : CodeSettings) (text : Option String) (simple : Bool) :
    Flush (v.declarationComment text simple) := by
  cases text with
  | none => exact .of_all rfl
  | some text => exact .cons rfl (v.comment_flush text simple).1

theorem methodComment_flush (v : CodeSettings) (text : Option String) :
    Flush (v.methodComment text) := by
  unfold methodComment
  split
  · split
    · exact .of_all rfl
    · exact (v.comment_flush _ false).1
  · exact .of_all rfl

end CodeSettings

namespace Generator

open TaxFlow.Chart Outline CodeSettings

/-- No line of a file is moved beyond its margin. -/
theorem file_flush (g : Generator) (c : Chart) : Flush (g.file c) := by
  have hgiven : ∀ {xs : Except Fault (List Variable)} {f : Variable → List Outline},
      (∀ x, Flush (f x)) →
      Flush (Outline.given xs fun xs => xs.flatMap f) := fun h => .given (fun _ => .flatMap h _) _
  have hblock : ∀ {α : Type} (x : Except Fault α) (f : α → Outline),
      (∀ a, (f a).isOutdented = false) →
      Flush (.blank :: Outline.given x fun a => [f a]) := by
    intro α x f hf
    exact .cons rfl (.given (fun a => .of_all (by simp [hf])) x)
  have hmethod : ∀ (v : CodeSettings) (m : Method) (o : Outline), o.isOutdented = false →
      Flush (.blank :: v.methodComment m.comment ++ [o]) := by
    intro v m o ho
    exact .append (.cons rfl (v.methodComment_flush m.comment)) (.of_all (by simp [ho]))
  unfold file
  cases g.target with
  | php => exact .append (.append (.of_all rfl) (by split <;> exact .of_all rfl)) (.of_all rfl)
  | python => exact .of_all rfl
  | java => exact .append (by split <;> exact .of_all rfl) (.of_all rfl)
  | javascript =>
    have hconstant : ∀ k, Flush ((g.codeSettings c).javascriptConstant k) := fun k =>
      .append (declarationComment_flush _ _ _) (.given (fun _ => .of_all rfl) _)
    exact .append (.append (.append (.append (.append (.append (.of_all rfl) (.flatMap hconstant _))
      (hgiven fun _ => hblock _ _ fun _ => rfl)) (hgiven fun _ => hblock _ _ fun _ => rfl))
        (hmethod _ _ _ rfl))
      (.flatMap (fun _ => hmethod _ _ _ rfl) _)) (.of_all rfl)
  | golang =>
    exact .append
      (.append (.append (.append (.append (.append (comment_flush _ _ _).1 (.of_all rfl))
      (hgiven fun _ => hblock _ _ fun _ => rfl)) (hgiven fun _ => hblock _ _ fun _ => rfl))
        (hmethod _ _ _ rfl))
      (.flatMap (fun _ => hmethod _ _ _ rfl) _)) (.of_all rfl)
  | bare => exact .of_all rfl
  | braced => exact .of_all rfl
  | unfinished => exact .of_all rfl

/-- A page at its margin is as before when outlines have been written without a fault and their text
has been taken. -/
theorem taken_put {g : Generator} {os : List Outline} (hlevel : g.page.level = 0)
    (htext : g.page.text = "")
    (hflush : Flush os) (hok : firstFault os = none) : (Session.taken (g.put os).1).2 = g := by
  have hpage := Page.putAll_lines g.page os (.inr ⟨hlevel ▸ Int.le_refl 0, hflush⟩) hok
  simp only [put, hpage, Session.taken, Page.cleared, Page.appended]
  rw [← htext]

theorem informed_page (g : Generator) (c : Chart) : (g.informed c).page = g.page := by
  unfold informed
  split <;> rfl

/-- After a file without a fault, a generator differs only in what it has learned about types. -/
theorem taken_generate {g : Generator} {c : Chart} (hlevel : g.page.level = 0)
    (htext : g.page.text = "")
    (hok : (g.generate c).2 = none) : (Session.taken (g.generate c).1).2 = g.informed c := by
  have hpage := informed_page g c
  refine taken_put (by rw [hpage, hlevel]) (by rw [hpage, htext]) (file_flush _ c) ?_
  rw [← Page.putAll_fault (g.informed c).page]
  exact hok

/-- A comment changes nothing but the text of a page. -/
theorem taken_comment {g : Generator} (hlevel : g.page.level = 0)
    (htext : g.page.text = "") (c : Chart)
    (text : Option String) (simple : Bool) :
    (Session.taken (g.put (g.comment c text simple)).1).2 = g := by
  have hhalt : ∀ fault, (Session.taken (g.put [.halt fault]).1).2 = g := by
    intro fault
    simp only [put, Page.putAll, Page.put, Session.taken, Page.cleared]
    rw [← htext]
  unfold comment
  split
  · exact hhalt _
  · cases text with
    | none => exact hhalt _
    | some text =>
      obtain ⟨hflush, hok⟩ := (g.codeSettings c).comment_flush text simple
      exact taken_put hlevel htext hflush hok

end Generator

namespace Generator

theorem generate_congr (g : Generator) {c c' : Chart} (h : c'.bracketed = c.bracketed) :
    g.generate c' = g.generate c := by
  rw [← generate_bracketed, h, generate_bracketed]

theorem informed_congr (g : Generator) {c c' : Chart} (h : c'.bracketed = c.bracketed) :
    g.informed c' = g.informed c := by
  rw [← informed_bracketed, h, informed_bracketed]

/-- What a generator has learned from a chart before changes nothing about its file. -/
theorem generate_informed (g : Generator) (c : Chart) :
    (g.informed c).generate c = g.generate c := by
  simp [generate, informed_informed]

/-- A new generator, with the owner and the types it is given. -/
def made (target : Target) (settings : Settings) (owner : Option (Option String))
    (types : Option TypeTable) (c : Chart) : Generator :=
  let g := Generator.new target settings c
  { g with owner := owner.getD g.owner, types := types.getD g.types }

end Generator

namespace SessionStep

/-- Whether the step gives a variable another default. -/
def setsDefault : SessionStep → Bool
  | .setDefault .. => true
  | _ => false

/-- Whether the step makes a generator in a place. -/
def makes (slot : Nat) : SessionStep → Bool
  | .new slot' .. => slot' == slot
  | _ => false

end SessionStep

/-- The text of a file and the fault in which it ended, if the step has written one. -/
def SessionResult.file? : SessionResult → Option (String × Option Fault)
  | .written text _ fault _ => some (text, fault)
  | _ => none

namespace Session

/-- The session behind some steps. -/
def after (s : Session) (steps : List SessionStep) : Session :=
  steps.foldl (fun s step => (s.act step).1) s

theorem run_append (s : Session) (steps steps' : List SessionStep) :
    s.run (steps ++ steps') = s.run steps ++ (s.after steps).run steps' := by
  induction steps generalizing s with
  | nil => rfl
  | cons step steps ih => exact congrArg (_ :: ·) (ih (s.act step).1)

theorem after_append (s : Session) (steps steps' : List SessionStep) :
    s.after (steps ++ steps') = (s.after steps).after steps' := List.foldl_append

/-- The last result of a run is that of the last step. -/
theorem getLast?_run (s : Session) (steps : List SessionStep) (step : SessionStep) :
    (s.run (steps ++ [step])).getLast? = some ((s.after steps).act step).2 := by
  rw [run_append]
  exact List.getLast?_concat

theorem find?_keep_self (s : Session) (slot : Nat) (g : Generator) :
    (s.keep slot g).find? slot = some g := by
  simp [find?, keep]

theorem find?_keep_of_ne (s : Session) {slot slot' : Nat} (h : slot ≠ slot') (g : Generator) :
    (s.keep slot' g).find? slot = s.find? slot := by
  have hfilter : ∀ entries : List (Nat × Generator),
      (entries.filter fun entry => entry.1 ≠ slot').lookup slot = entries.lookup slot := by
    intro entries
    induction entries with
    | nil => rfl
    | cons entry entries ih =>
      obtain ⟨key, value⟩ := entry
      by_cases hkey : key = slot'
      · subst hkey
        rw [List.filter_cons_of_neg (by simp), List.lookup_cons, beq_eq_false_iff_ne.2 h, ih]
      · rw [List.filter_cons_of_pos (by simpa using hkey), List.lookup_cons, List.lookup_cons, ih]
  simp only [find?, keep, List.lookup_cons, beq_eq_false_iff_ne.2 h]
  exact hfilter s.generators

/-- What a step can do to a session: nothing, make a generator, or let one write a file or a
comment. -/
theorem act_cases (s : Session) {step : SessionStep} (h : step.setsDefault = false) :
    (s.act step).1 = s ∨
    (∃ slot target settings owner types, step = .new slot target settings owner types ∧
      (s.act step).1 = s.keep slot (.made target settings owner types s.chart)) ∨
    (∃ slot g, step = .generate slot ∧ s.find? slot = some g ∧
      (s.act step).1 =
        { s with chart := g.leaves s.chart }.keep slot (taken (g.generate s.chart).1).2) ∨
    ∃ slot g text simple, step = .comment slot text simple ∧ s.find? slot = some g ∧
      (s.act step).1 = s.keep slot (taken (g.put (g.comment s.chart text simple)).1).2 := by
  cases step with
  | new slot target settings owner types =>
    exact .inr (.inl ⟨slot, target, settings, owner, types, rfl, rfl⟩)
  | generate slot =>
    cases hfound : s.find? slot with
    | none => exact .inl (by simp [act, hfound])
    | some g => exact .inr (.inr (.inl ⟨slot, g, rfl, hfound, by simp [act, hfound]⟩))
  | convert slot usage source =>
    cases hfound : s.find? slot <;> exact .inl (by simp [act, hfound])
  | comment slot text simple =>
    cases hfound : s.find? slot with
    | none => exact .inl (by simp [act, hfound])
    | some g => exact .inr (.inr (.inr ⟨slot, g, text, simple, rfl, hfound, by simp [act, hfound]⟩))
  | constants => exact .inl rfl
  | setDefault => cases h

/-- Steps change no more about the chart than brackets around lists. -/
theorem act_chart (s : Session) {step : SessionStep} (h : step.setsDefault = false) :
    (s.act step).1.chart.bracketed = s.chart.bracketed := by
  rcases s.act_cases h with hact | ⟨_, _, _, _, _, -, hact⟩ | ⟨_, g, -, -, hact⟩ | ⟨_, _, _,
    _, -, -, hact⟩
  · rw [hact]
  · rw [hact]
    rfl
  · rw [hact]
    exact g.leaves_bracketed s.chart
  · rw [hact]
    rfl

theorem after_chart (s : Session) {steps : List SessionStep}
    (h : ∀ step ∈ steps, step.setsDefault = false) :
    (s.after steps).chart.bracketed = s.chart.bracketed := by
  induction steps generalizing s with
  | nil => rfl
  | cons step steps ih =>
    have hrest := ih (s.act step).1 fun step' hstep' => h step' (List.mem_cons_of_mem step hstep')
    exact hrest.trans (s.act_chart (h step List.mem_cons_self))

/-- Whether a place holds a generator as it was made for a chart, but for what it may have learned
about types. -/
structure Holds (s : Session) (c : Chart) (slot : Nat) (g : Generator) : Prop where
  chart : s.chart.bracketed = c.bracketed
  found : s.find? slot = some g ∨ s.find? slot = some (g.informed c)
  level : g.page.level = 0
  text : g.page.text = ""

namespace Holds

variable {s : Session} {c : Chart} {slot : Nat} {g : Generator}

/-- The generator of the place writes what it would have written at first. -/
theorem generate (h : s.Holds c slot g) :
    ∃ g', s.find? slot = some g' ∧ g'.generate s.chart = g.generate c ∧
    g'.informed s.chart = g.informed c ∧ g'.page = g.page := by
  rcases h.found with hfound | hfound
  · exact ⟨g, hfound, g.generate_congr h.chart, g.informed_congr h.chart, rfl⟩
  · refine ⟨g.informed c, hfound, ?_, ?_, Generator.informed_page g c⟩
    · rw [Generator.generate_congr _ h.chart, g.generate_informed]
    · rw [Generator.informed_congr _ h.chart, g.informed_informed]

/-- The file that is written next in the place. -/
theorem file (h : s.Holds c slot g) :
    (s.act (.generate slot)).2.file? = some ((g.generate c).1.page.text, (g.generate c).2) := by
  obtain ⟨g', hfound, hgenerate, -⟩ := h.generate
  simp [act, hfound, hgenerate, SessionResult.file?, taken]

/-- What the others do, and files without a fault, leave the place as it is. -/
theorem act (h : s.Holds c slot g) {step : SessionStep} (hdefault : step.setsDefault = false)
    (hmakes : step.makes slot = false)
    (hclean : step = .generate slot → ∃ text, (s.act step).2.file? = some (text, none)) :
    (s.act step).1.Holds c slot g := by
  refine ⟨(s.act_chart hdefault).trans h.chart, ?_, h.level, h.text⟩
  rcases s.act_cases hdefault with hact | ⟨slot', _, _, _, _, rfl, hact⟩ | ⟨slot', g', rfl,
    hfound', hact⟩ |
    ⟨slot', g', text, simple, rfl, hfound', hact⟩
  · rw [hact]
    exact h.found
  · have hne : slot ≠ slot' := by
      rintro rfl
      simp [SessionStep.makes] at hmakes
    rw [hact, find?_keep_of_ne _ hne]
    exact h.found
  · by_cases hslot : slot = slot'
    · subst hslot
      obtain ⟨text, hfile⟩ := hclean rfl
      rw [h.file] at hfile
      obtain ⟨g', hfound, hgenerate, hinformed, hpage⟩ := h.generate
      obtain rfl := Option.some.inj (hfound'.symm.trans hfound)
      have hok : (g'.generate s.chart).2 = none := by
        simpa [hgenerate] using congrArg (Option.map Prod.snd) hfile
      have htaken := Generator.taken_generate (hpage ▸ h.level) (hpage ▸ h.text) hok
      right
      rw [hact, find?_keep_self, htaken, hinformed]
    · rw [hact, find?_keep_of_ne _ hslot]
      exact h.found
  · by_cases hslot : slot = slot'
    · subst hslot
      obtain ⟨g', hfound, -, -, hpage⟩ := h.generate
      obtain rfl := Option.some.inj (hfound'.symm.trans hfound)
      have htaken := Generator.taken_comment (hpage ▸ h.level) (hpage ▸ h.text) s.chart text simple
      rw [hact, find?_keep_self, htaken, ← hfound]
      exact h.found
    · rw [hact, find?_keep_of_ne _ hslot]
      exact h.found

theorem after (h : s.Holds c slot g) {steps : List SessionStep}
    (hdefaults : ∀ step ∈ steps, step.setsDefault = false)
    (hmakes : ∀ step ∈ steps, step.makes slot = false)
    (hclean : ∀ entry ∈ steps.zip (s.run steps), entry.1 = .generate slot →
      ∃ text, entry.2.file? = some (text, none)) :
    (s.after steps).Holds c slot g := by
  induction steps generalizing s with
  | nil => exact h
  | cons step steps ih =>
    have hstep := h.act (hdefaults step List.mem_cons_self) (hmakes step List.mem_cons_self)
      (hclean (step, (s.act step).2) List.mem_cons_self)
    exact ih hstep (fun a ha => hdefaults a (List.mem_cons_of_mem step ha))
      (fun a ha => hmakes a (List.mem_cons_of_mem step ha)) fun a ha =>
        hclean a (List.mem_cons_of_mem _ ha)

end Holds

/-- A new generator is held as it was made. -/
theorem holds_new (s : Session) {c : Chart} (hchart : s.chart.bracketed = c.bracketed) (slot : Nat)
    (target : Target)
    (settings : Settings) (owner : Option (Option String)) (types : Option TypeTable) :
    (s.act (.new slot target settings owner types)).1.Holds c slot
      (.made target settings owner types c) := by
  have hname : s.chart.bracketed.name = c.bracketed.name := congrArg Chart.name hchart
  refine ⟨hchart, .inl ?_, rfl, rfl⟩
  have hmade : Generator.made target settings owner types s.chart =
      .made target settings owner types c := by
    simp only [Generator.made, Generator.new]
    rw [show s.chart.name = c.name from hname]
  rw [← hmade]
  exact find?_keep_self s slot _

end Session

/-- Generators that share a chart do not influence each other: whatever has been done before, a
generator that has run into no fault so far writes the same text, and ends in the same fault if any,
as if it were alone and this were its first file. -/
theorem generate_independent (chart : Chart) (before between : List SessionStep) (slot : Nat)
    (target : Target)
    (settings : Settings) (owner : Option (Option String)) (types : Option TypeTable)
    (hdefaults : ∀ step ∈ before ++ between, step.setsDefault = false)
    (hmakes : ∀ step ∈ between, step.makes slot = false)
    (hclean : ∀ entry ∈ between.zip
        ((Session.after { chart } (before ++ [.new slot target settings owner types])).run between),
      entry.1 = .generate slot → ∃ text, entry.2.file? = some (text, none)) :
    let make := SessionStep.new slot target settings owner types
    ∃ text fault,
      (Session.run { chart } (before ++ [make] ++ between ++ [.generate slot])).getLast?.bind
        SessionResult.file? =
        some (text, fault) ∧
      (Session.run { chart } [make, .generate slot]).getLast?.bind SessionResult.file? =
        some (text, fault) := by
  intro make
  have hbefore : (Session.after { chart } before).chart.bracketed = chart.bracketed :=
    Session.after_chart _ fun step hstep => hdefaults step (List.mem_append_left _ hstep)
  have hmade := Session.holds_new _ hbefore slot target settings owner types
  have hfirst := Session.holds_new { chart } rfl slot target settings owner types
  rw [Session.after_append] at hclean
  have hheld :=
    hmade.after (fun step hstep => hdefaults step (List.mem_append_right _ hstep)) hmakes hclean
  let g := Generator.made target settings owner types chart
  refine ⟨(g.generate chart).1.page.text, (g.generate chart).2, ?_, ?_⟩
  · rw [Session.getLast?_run, Session.after_append, Session.after_append]
    exact hheld.file
  · exact hfirst.file

/-- A chart with a list among its constants. -/
def listChart : Chart :=
  { name := some "Tax"
    main := ⟨none, some "MAIN", [.eval none (some "X = TAB[I]")]⟩
    methods := []
    inputs := .ok [⟨some "I", some "int", some "0", none⟩]
    outputs := .ok []
    internals := .ok []
    constants := [⟨some "TAB", some "BigDecimal[]", some "\x7bBigDecimal.ZERO\x7d", none⟩] }

/-- A second file is written as the first although another generator has put brackets around the
list. -/
theorem listChart_independent :
    let before : List SessionStep := [.new 0 .golang {} none none, .generate 0]
    let between : List SessionStep := [.generate 1, .generate 0, .convert 1 .value (some "I + 1")]
    let make : SessionStep := .new 1 .java {} none none
    (Session.after { chart := listChart } before).chart.constants ≠ listChart.constants ∧
    ∃ text fault,
      (Session.run { chart := listChart }
        (before ++ [make] ++ between ++ [.generate 1])).getLast?.bind
        SessionResult.file? = some (text, fault) ∧
      (Session.run { chart := listChart } [make, .generate 1]).getLast?.bind SessionResult.file? =
        some (text, fault) := by
  intro before between make
  refine ⟨by decide +kernel, ?_⟩
  refine generate_independent listChart before between 1 .java {} none none (by decide)
    (by decide) ?_
  have hfault :
      ((Session.after { chart := listChart } (before ++ [make])).act
        (.generate 1)).2.file?.map Prod.snd =
      some none := by decide +kernel
  generalize Session.after { chart := listChart } (before ++ [make]) = s at hfault ⊢
  intro entry hentry hstep
  simp only [between, Session.run, List.zip_cons_cons, List.zip_nil_left, List.mem_cons,
    List.not_mem_nil, or_false] at hentry
  rcases hentry with rfl | rfl | rfl
  · obtain ⟨⟨text, _⟩, hfile, rfl⟩ := Option.map_eq_some_iff.1 hfault
    exact ⟨text, hfile⟩
  · cases hstep
  · cases hstep

end TaxFlow

import TaxFlow.Proofs.Lines
import TaxFlow.Target.CodeSettings

/-!
# Reading blocks back

The marks by which the blocks of a written body can be told apart, and a reader that puts the
branches together again. Where a language closes its blocks, the marks stand in the lines; where it
does not, a block ends as soon as a line is indented less.
-/
namespace TaxFlow

/-- What a written body does: simple statements, and branches that may have an alternative. -/
inductive Flow where
  | simple (text : String)
  | branch (condition : String) (body : List Flow) (alternative : Option (List Flow))
  deriving Repr

/-- The body of a branch and its alternative, if it has one. -/
structure Passage where
  body : List Flow := []
  alternative : Option (List Flow) := none
  deriving Repr

/-- What a line tells about blocks. -/
inductive Mark where
  | simple (text : String)
  | opening (condition : String)
  | otherwise
  | closing
  deriving DecidableEq, Repr

/-- The text between a front and a back. -/
def enclosed? (front back cs : List Char) : Option (List Char) :=
  if front.isPrefixOf cs && back.isSuffixOf cs && front.length + back.length ≤ cs.length then
    some ((cs.drop front.length).take (cs.length - front.length - back.length))
  else none

theorem enclosed?_append (front inner back : List Char) :
    enclosed? front back (front ++ inner ++ back) = some inner := by
  have hprefix : front.isPrefixOf (front ++ inner ++ back) = true := by
    rw [List.isPrefixOf_iff_prefix, List.append_assoc]
    exact List.prefix_append _ _
  have hsuffix : back.isSuffixOf (front ++ inner ++ back) = true := by
    rw [List.isSuffixOf_iff_suffix]
    exact List.suffix_append _ _
  have hlength : front.length + back.length ≤ (front ++ inner ++ back).length := by simp
  have hinner : (front ++ inner ++ back).length - front.length - back.length = inner.length := by
    simp
  simp only [enclosed?, hprefix, hsuffix, hlength, hinner, decide_true, Bool.and_self, if_true]
  simp

theorem enclosed?_eq_none {front back cs : List Char} (h : front.isPrefixOf cs = false) :
    enclosed? front back cs = none := by
  simp [enclosed?, h]

/-- The mark of a line. -/
def StatementSettings.mark (m : StatementSettings) (s : PageStyle) (text : String) : Mark :=
  if s.closing = some text then .closing
  else if text = m.otherwise then .otherwise
  else match enclosed? m.beforeCondition.toList (m.afterCondition ++ s.opening).toList
    text.toList with
    | some condition => .opening (String.ofList condition)
    | none => .simple text

/-- The marks of lines with their levels. A block of the given level ends before the first line that
is indented less; a line that begins an alternative belongs to the block one level further in. -/
def offside (outermost : Int) : (level : Int) → List (Int × Mark) → List Mark
  | level, [] => List.replicate (level - outermost).toNat .closing
  | level, (k, .otherwise) :: ms =>
    List.replicate (level - (k + 1)).toNat .closing ++ .otherwise :: offside outermost (k + 1) ms
  | level, (k, .opening condition) :: ms =>
    List.replicate (level - k).toNat .closing ++ .opening condition :: offside outermost (k + 1) ms
  | level, (k, m) :: ms =>
    List.replicate (level - k).toNat .closing ++ m :: offside outermost k ms

mutual

/-- The marks of a flow, with a closing one behind every branch. -/
def Flow.marks : Flow → List Mark
  | .simple text => [.simple text]
  | .branch condition body alternative =>
    .opening condition :: marksOf body ++ alternativeMarks alternative ++ [.closing]

def marksOf : List Flow → List Mark
  | [] => []
  | f :: fs => f.marks ++ marksOf fs

def alternativeMarks : Option (List Flow) → List Mark
  | none => []
  | some fs => .otherwise :: marksOf fs

end

mutual

/-- The marks of a flow with their levels; the closing ones only if blocks are closed. -/
def Flow.leveled (closed : Bool) (level : Int) : Flow → List (Int × Mark)
  | .simple text => [(level, .simple text)]
  | .branch condition body alternative =>
    (level, .opening condition) :: leveledOf closed (level + 1) body ++
      leveledAlternative closed level alternative ++ if closed then [(level, .closing)] else []

def leveledOf (closed : Bool) (level : Int) : List Flow → List (Int × Mark)
  | [] => []
  | f :: fs => f.leveled closed level ++ leveledOf closed level fs

/-- An alternative is marked at the level of its branch. -/
def leveledAlternative (closed : Bool) (level : Int) : Option (List Flow) → List (Int × Mark)
  | none => []
  | some fs => (level, .otherwise) :: leveledOf closed (level + 1) fs

end

@[simp] theorem leveledOf_nil (closed : Bool) (level : Int) : leveledOf closed level [] = [] := by
  simp [leveledOf]

@[simp] theorem leveledOf_append (closed : Bool) (level : Int) (fs gs : List Flow) :
    leveledOf closed level (fs ++ gs) = leveledOf closed level fs ++ leveledOf closed level gs := by
  induction fs with
  | nil => simp
  | cons f fs ih => simp [leveledOf, ih]

mutual

theorem Flow.leveled_marks (level : Int) : ∀ f : Flow, (f.leveled true level).map Prod.snd = f.marks
  | .simple text => by simp [Flow.leveled, Flow.marks]
  | .branch condition body alternative => by
    have hbody := leveledOf_marks (level + 1) body
    have halternative := leveledAlternative_marks level alternative
    simp [Flow.leveled, Flow.marks, hbody, halternative]

theorem leveledOf_marks (level : Int) :
    ∀ fs : List Flow, (leveledOf true level fs).map Prod.snd = marksOf fs
  | [] => by simp [marksOf]
  | f :: fs => by simp [leveledOf, marksOf, f.leveled_marks level, leveledOf_marks level fs]

theorem leveledAlternative_marks (level : Int) : ∀ alternative : Option (List Flow),
    (leveledAlternative true level alternative).map Prod.snd = alternativeMarks alternative
  | none => by simp [leveledAlternative, alternativeMarks]
  | some fs => by simp [leveledAlternative, alternativeMarks, leveledOf_marks (level + 1) fs]

end

/-- Whether marks go on at the level of a block or end it. -/
def Below (level : Int) : List (Int × Mark) → Prop
  | [] => True
  | (k, .otherwise) :: _ => k + 1 ≤ level
  | (k, _) :: _ => k ≤ level

theorem Below.mono {level level' : Int} (hle : level ≤ level') {ms : List (Int × Mark)}
    (h : Below level ms) : Below level' ms := by
  unfold Below at h ⊢
  split <;> simp_all <;> omega

/-- Where marks go on further out, a block ends first. -/
theorem offside_dedent {outermost level : Int} (hle : outermost ≤ level) {ms : List (Int × Mark)}
    (h : Below level ms) :
    offside outermost (level + 1) ms = .closing :: offside outermost level ms := by
  have hsucc : ∀ k : Int, k ≤ level → (level + 1 - k).toNat = (level - k).toNat + 1 := by omega
  unfold Below at h
  split at h
  · simp [offside, hsucc outermost hle, List.replicate_succ]
  · rename_i k ms
    simp only [offside, hsucc (k + 1) h, List.replicate_succ, List.cons_append]
  · rename_i k m ms hm
    cases m <;> simp_all [offside, List.replicate_succ]

theorem below_leveledOf {level : Int} {ms : List (Int × Mark)} (h : Below level ms)
    (fs : List Flow) :
    Below level (leveledOf false level fs ++ ms) := by
  cases fs with
  | nil => simpa using h
  | cons f fs => cases f <;> simp [leveledOf, Flow.leveled, Below]

theorem below_leveledAlternative {level : Int} {ms : List (Int × Mark)} (h : Below level ms)
    (alternative : Option (List Flow)) :
    Below (level + 1) (leveledAlternative false level alternative ++ ms) := by
  cases alternative with
  | none => simpa [leveledAlternative] using h.mono (by omega)
  | some fs => simp [leveledAlternative, Below]

mutual

/-- The blocks of a flow can be told from the indentation alone. -/
theorem Flow.offside_leveled {outermost level : Int} (hle : outermost ≤ level)
    {ms : List (Int × Mark)} (h : Below level ms) : ∀ f : Flow,
      offside outermost level (f.leveled false level ++ ms) = f.marks ++ offside outermost level ms
  | .simple text => by simp [Flow.leveled, Flow.marks, offside]
  | .branch condition body alternative => by
    have hinner := below_leveledAlternative h alternative
    have hbody := offside_leveledOf (show outermost ≤ level + 1 by omega) hinner body
    have halternative := offside_leveledAlternative hle h alternative
    simp [Flow.leveled, Flow.marks, offside, hbody, halternative]

theorem offside_leveledOf {outermost level : Int} (hle : outermost ≤ level)
    {ms : List (Int × Mark)} (h : Below level ms) : ∀ fs : List Flow,
      offside outermost level (leveledOf false level fs ++ ms) =
        marksOf fs ++ offside outermost level ms
  | [] => by simp [marksOf]
  | f :: fs => by
    have hfirst := f.offside_leveled hle (below_leveledOf h fs)
    have hrest := offside_leveledOf hle h fs
    simp [leveledOf, marksOf, hfirst, hrest]

theorem offside_leveledAlternative {outermost level : Int} (hle : outermost ≤ level)
    {ms : List (Int × Mark)} (h : Below level ms) : ∀ alternative : Option (List Flow),
      offside outermost (level + 1) (leveledAlternative false level alternative ++ ms) =
        alternativeMarks alternative ++ .closing :: offside outermost level ms
  | none => by simp [leveledAlternative, alternativeMarks, offside_dedent hle h]
  | some fs => by
    have hbody := offside_leveledOf (show outermost ≤ level + 1 by omega)
      (h.mono (show level ≤ level + 1 by omega)) fs
    simp [leveledAlternative, alternativeMarks, offside, hbody, offside_dedent hle h]

end

namespace Passage

/-- The marks of a passage. -/
def marks (p : Passage) : List Mark := marksOf p.body ++ alternativeMarks p.alternative

/-- The marks of a passage at a level; its alternative is marked one level further out. -/
def leveled (closed : Bool) (level : Int) (p : Passage) : List (Int × Mark) :=
  leveledOf closed level p.body ++ leveledAlternative closed (level - 1) p.alternative

theorem leveled_marks (level : Int) (p : Passage) :
    (p.leveled true level).map Prod.snd = p.marks := by
  simp [leveled, marks, leveledOf_marks, leveledAlternative_marks]

theorem offside_leveled (level : Int) (p : Passage) :
    offside level level (p.leveled false level) = p.marks := by
  have hend : offside level level [] = [] := by simp [offside]
  unfold leveled marks
  cases h : p.alternative with
  | none =>
    have hbody := offside_leveledOf (Int.le_refl level) (show Below level [] from trivial) p.body
    simpa [leveledAlternative, alternativeMarks, hend] using hbody
  | some fs =>
    have hnext : Below level (leveledAlternative false (level - 1) (some fs)) := by
      simp [leveledAlternative, Below]
    have hbody := offside_leveledOf (Int.le_refl level) hnext p.body
    have hrest := offside_leveledOf (Int.le_refl level) (show Below level [] from trivial) fs
    rw [hbody]
    simpa [leveledAlternative, alternativeMarks, offside, hend] using hrest

/-- Adds something at the end. -/
def add (p : Passage) (f : Flow) : Passage :=
  match p.alternative with
  | some fs => { p with alternative := some (fs ++ [f]) }
  | none => { p with body := p.body ++ [f] }

/-- Adds all of a list at the end. -/
def addAll (p : Passage) (fs : List Flow) : Passage :=
  match p.alternative with
  | some gs => { p with alternative := some (gs ++ fs) }
  | none => { p with body := p.body ++ fs }

@[simp] theorem addAll_nil (p : Passage) : p.addAll [] = p := by
  cases p with
  | mk body alternative => cases alternative <;> simp [addAll]

theorem add_addAll (p : Passage) (f : Flow) (fs : List Flow) :
    (p.add f).addAll fs = p.addAll (f :: fs) := by
  cases p with
  | mk body alternative => cases alternative <;> simp [addAll, add]

end Passage

/-- A reader: the passage that it is in, and those around it with the conditions under which the
inner ones are entered, from the inside out. -/
structure BlockReader where
  current : Passage := {}
  outer : List (Passage × String) := []

namespace BlockReader

def step (r : BlockReader) : Mark → Option BlockReader
  | .simple text => some { r with current := r.current.add (.simple text) }
  | .opening condition => some ⟨{}, (r.current, condition) :: r.outer⟩
  | .otherwise =>
    match r.current.alternative with
    | some _ => none
    | none => some { r with current := { r.current with alternative := some [] } }
  | .closing =>
    match r.outer with
    | [] => none
    | (p, condition) :: outer =>
      some ⟨p.add (.branch condition r.current.body r.current.alternative), outer⟩

def run (r : BlockReader) : List Mark → Option BlockReader
  | [] => some r
  | m :: ms => (r.step m).bind fun r => r.run ms

theorem run_append (r : BlockReader) (ms ms' : List Mark) :
    r.run (ms ++ ms') = (r.run ms).bind fun r => r.run ms' := by
  induction ms generalizing r with
  | nil => rfl
  | cons m ms ih =>
    simp only [List.cons_append, run, Option.bind_assoc, ih]

mutual

/-- Behind the marks of a flow the reader has added it, and is where it was. -/
theorem run_marks (p : Passage) (outer : List (Passage × String)) :
    ∀ f : Flow, run ⟨p, outer⟩ f.marks = some ⟨p.add f, outer⟩
  | .simple text => by simp [Flow.marks, run, step]
  | .branch condition body alternative => by
    have hbody := run_marksOf {} ((p, condition) :: outer) body
    have halternative := run_alternativeMarks body ((p, condition) :: outer) alternative
    simp only [Flow.marks, List.cons_append, List.append_assoc, run, step,
      Option.bind_some, run_append]
    rw [hbody]
    simp only [Passage.addAll, List.nil_append, Option.bind_some]
    rw [halternative]
    rfl

theorem run_marksOf (p : Passage) (outer : List (Passage × String)) :
    ∀ fs : List Flow, run ⟨p, outer⟩ (marksOf fs) = some ⟨p.addAll fs, outer⟩
  | [] => by simp [marksOf, run]
  | f :: fs => by
    rw [marksOf, run_append, run_marks p outer f, Option.bind_some, run_marksOf (p.add f) outer fs,
      Passage.add_addAll]

theorem run_alternativeMarks (body : List Flow) (outer : List (Passage × String)) :
    ∀ alternative : Option (List Flow),
      run ⟨⟨body, none⟩, outer⟩ (alternativeMarks alternative) = some ⟨⟨body, alternative⟩, outer⟩
  | none => by simp [alternativeMarks, run]
  | some fs => by
    have hbody := run_marksOf ⟨body, some []⟩ outer fs
    simp only [alternativeMarks, run, step, Option.bind_some]
    rw [hbody]
    simp [Passage.addAll]

end

end BlockReader

/-- The passage of marks; every block has to be closed. -/
def readMarks (ms : List Mark) : Option Passage :=
  match BlockReader.run {} ms with
  | some ⟨p, []⟩ => some p
  | _ => none

theorem readMarks_marks (p : Passage) : readMarks p.marks = some p := by
  have hrun : BlockReader.run ⟨{}, []⟩ p.marks = some ⟨p, []⟩ := by
    unfold Passage.marks
    rw [BlockReader.run_append, BlockReader.run_marksOf]
    simp only [Passage.addAll, List.nil_append, Option.bind_some]
    exact BlockReader.run_alternativeMarks p.body [] p.alternative
  simp [readMarks, hrun]

/-- The passage of lines that begin at a level. -/
def readLines (m : StatementSettings) (s : PageStyle) (level : Int) (ls : List Line) :
    Option Passage :=
  let marked := ls.map fun l => (l.level, m.mark s l.content)
  readMarks (if s.closing.isSome then marked.map Prod.snd else offside level level marked)

/-- Lines with the marks of a passage are read as that passage. -/
theorem readLines_eq {m : StatementSettings} {s : PageStyle} {level : Int}
    {ls : List Line} {p : Passage}
    (h : (ls.map fun l => (l.level, m.mark s l.content)) = p.leveled s.closing.isSome level) :
    readLines m s level ls = some p := by
  unfold readLines
  rw [h]
  by_cases hclosed : s.closing.isSome
  · simp only [hclosed, if_true]
    rw [p.leveled_marks, readMarks_marks]
  · simp only [Bool.not_eq_true] at hclosed
    simp only [hclosed]
    rw [← readMarks_marks p, ← p.offside_leveled level]
    rfl

end TaxFlow

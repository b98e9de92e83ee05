import TaxFlow.Proofs.Correspondence

/-!
# Accepted formulas

Which formulas a language accepts depends on the text that is read alone, since what can be written
in one of the corresponding languages can be written in all of them. PHP and Python read a formula
without its size marks, Java and JavaScript with them; so a number with a size mark is accepted by
the former and refused by the latter.
-/
namespace TaxFlow

open Formula

namespace Formula

section SizedNumbers

variable {ds fs rest : List Char} {d mark : Char}

theorem isSizeMark_iff : isSizeMark mark = true ↔ mark = 'L' ∨ mark = 'D' := by simp [isSizeMark]

/-- A decimal number, perhaps with a fraction, that has a size mark directly behind it. -/
structure IsSized (ds fs : List Char) (mark : Char) : Prop where
  whole : ds ≠ [] ∧ ∀ d ∈ ds, d.isDigit = true
  fraction : fs = [] ∨ ∃ f more, fs = '.' :: f :: more ∧ ∀ d ∈ f :: more, d.isDigit = true
  mark : isSizeMark mark = true

/-- No number ends in front of a size mark. -/
theorem not_endsNumber (h : isSizeMark mark = true) : endsNumber (mark :: rest) = false := by
  rcases isSizeMark_iff.1 h with rfl | rfl <;> simp [endsNumber, isWordChar]

theorem exponentPart_mark (h : isSizeMark mark = true) :
    exponentPart (mark :: rest) = some (none, mark :: rest) := by
  rcases isSizeMark_iff.1 h with rfl | rfl <;> cases rest <;> simp [exponentPart, isExponentMark]

namespace IsSized

theorem decimalNumber_eq_none (h : IsSized ds fs mark) :
    decimalNumber (ds ++ (fs ++ mark :: rest)) = none := by
  have hmark : mark.isDigit = false ∧ mark ≠ '_' ∧ mark ≠ '.' ∧ mark ≠ 'j' ∧ mark ≠ 'J' := by
    rcases isSizeMark_iff.1 h.mark with rfl | rfl <;> decide
  have hfraction : ∃ fraction, fractionPart (fs ++ mark :: rest) =
      some (fraction, mark :: rest) := by
    rcases h.fraction with rfl | ⟨f, more, rfl, hdigits⟩
    · refine ⟨none, ?_⟩
      rw [List.nil_append, fractionPart]
      · exact fun _ _ hdot => absurd (List.cons.inj hdot).1 hmark.2.2.1
      · exact fun hdot => absurd (List.cons.inj hdot).1 hmark.2.2.1
    · refine ⟨some (f :: more), ?_⟩
      have hrun : digitRun Char.isDigit (f :: more ++ mark :: rest) =
        some (f :: more, mark :: rest) :=
        digitRun_append hdigits (by simpa using ⟨hmark.1, hmark.2.1⟩)
      simp only [List.cons_append] at hrun ⊢
      simp [fractionPart, hdigits f List.mem_cons_self, hrun]
  have hwhole : digitRun Char.isDigit (ds ++ (fs ++ mark :: rest)) =
      some (ds, fs ++ mark :: rest) := by
    rcases h.fraction with rfl | ⟨f, more, rfl, -⟩
    · exact digitRun_append h.whole.2 (by simpa using ⟨hmark.1, hmark.2.1⟩)
    · exact digitRun_append h.whole.2 (by simp)
  obtain ⟨fraction, hfraction⟩ := hfraction
  simp [decimalNumber, hwhole, hfraction, exponentPart_mark h.mark, hmark, not_endsNumber h.mark]

/-- Behind the first digit stands a digit, a point or the mark. -/
theorem second (h : IsSized (d :: ds) fs mark) {c : Char}
    (hc : c ∈ (ds ++ (fs ++ mark :: rest)).head?) :
    c.isDigit = true ∨ c = '.' ∨ c = mark := by
  cases ds with
  | cons e es =>
    rw [List.cons_append, List.head?_cons, Option.mem_some] at hc
    exact .inl (hc ▸ h.whole.2 e (by simp))
  | nil =>
    rcases h.fraction with rfl | ⟨f, more, rfl, -⟩
    · exact .inr (.inr (by simpa using hc.symm))
    · exact .inr (.inl (by simpa using hc.symm))

theorem numberLiteral_eq_none (h : IsSized ds fs mark) :
    numberLiteral (ds ++ (fs ++ mark :: rest)) = none := by
  rw [← @decimalNumber_eq_none ds fs rest mark h]
  obtain ⟨d, ds, rfl⟩ := List.exists_cons_of_ne_nil h.whole.1
  cases hcs : ds ++ (fs ++ mark :: rest) with
  | nil => simp at hcs
  | cons c cs =>
    have hbase : c ∉ ['x', 'X', 'o', 'O', 'b', 'B'] := by
      rcases h.second (by rw [hcs, List.head?_cons]; rfl) with hdigit | rfl | rfl
      · rintro hmem
        have hnone : ∀ k ∈ ['x', 'X', 'o', 'O', 'b', 'B'], (!k.isDigit) = true :=
          List.all_eq_true.1 (by decide)
        simpa [hdigit] using hnone c hmem
      · decide
      · rcases isSizeMark_iff.1 h.mark with hmark | hmark <;> simp [hmark]
    simp only [List.mem_cons, List.not_mem_nil, or_false, not_or] at hbase
    rw [List.cons_append, hcs]
    by_cases hd : d = '0'
    · subst hd
      simp [numberLiteral, hbase]
    · rw [numberLiteral]
      exact fun _ _ hzero => absurd (List.cons.inj hzero).1 hd

/-- Reading tokens ends in front of a number with a size mark. -/
theorem tokensFrom_eq_none (h : IsSized ds fs mark) (depth : Nat) (fresh : Bool) :
    tokensFrom depth fresh (ds ++ (fs ++ mark :: rest)) = none := by
  have hnone := @numberLiteral_eq_none ds fs rest mark h
  obtain ⟨d, ds, rfl⟩ := List.exists_cons_of_ne_nil h.whole.1
  rw [List.cons_append] at hnone ⊢
  rw [tokensFrom, if_neg (by simp), lexStep_digit (h.whole.2 d List.mem_cons_self), hnone]
  rfl

end IsSized

end SizedNumbers

/-- Where no tokens can be read there is no first statement. -/
theorem firstStatement_isOk {s : String} (h : tokens? (prepared s.toList) = none) :
    (firstStatement (some s)).isOk = false := by
  have hscript : script? (prepared s.toList) = none := by simp [script?, h]
  simp only [firstStatement_some, statementsOf, readerOf, hscript]
  split <;> rfl

end Formula

/-- Dialects that share one translation can write the same expressions. -/
theorem Uniform.isOk_eq {scope : Scope} {written : Dialect → Except Fault (List String)}
    (h : Uniform False scope written) {d d' : Dialect} (hd : d ∈ Dialect.corresponding)
    (hd' : d' ∈ Dialect.corresponding) : (written d).isOk = (written d').isOk := by
  obtain ⟨outcome, -, hall⟩ := h
  have hok : ∀ d ∈ Dialect.corresponding, (written d).isOk = outcome.isOk := by
    intro d hd
    rcases hall d hd with hagrees | ⟨hloose, -⟩
    · cases outcome with
      | error fault =>
        have hwritten : written d = .error fault := hagrees
        rw [hwritten]
        rfl
      | ok roles =>
        obtain ⟨ws, hws, -⟩ := hagrees
        rw [hws]
        rfl
    · exact hloose.elim
  rw [hok d hd, hok d' hd']

namespace Generator

/-- Whether a formula can be used in the language of a generator. -/
def accepts (g : Generator) (c : Chart) (usage : Usage) (source : Option String) : Bool :=
  (g.convert c usage source).isOk

/-- Whether a text that is read is the formula of something that can be written. -/
def isUsable (scope : Scope) (usage : Usage) (text : Option String) : Bool :=
  match usage with
  | .assignment =>
    (do Dialect.java.toCode scope (← Formula.assignment text).2 : Except Fault _).isOk
  | _ => (do Dialect.java.valueWords scope (← Formula.value text) : Except Fault _).isOk

end Generator

namespace Formula

theorem isUsable_of_unread {scope : Scope} {usage : Generator.Usage} {text : Option String}
    (h : (firstStatement text).isOk = false) : Generator.isUsable scope usage text = false := by
  cases hfirst : firstStatement text with
  | ok s => simp [hfirst, Except.isOk, Except.toBool] at h
  | error fault =>
    cases usage <;>
      simp [Generator.isUsable, assignment_eq, value_eq, hfirst, bind, Except.bind] <;> rfl

end Formula

namespace CodeSettings

variable {v : CodeSettings} {source text : Option String}

theorem assignment_isOk (hplace : v.statementSettings.place.isSome = true)
    (h : v.source source = .ok text) :
    (v.assignment source).isOk =
      (do v.dialect.toCode v.scope (← Formula.assignment text).2 : Except Fault _).isOk := by
  obtain ⟨place, hplace⟩ := Option.isSome_iff_exists.1 hplace
  simp only [assignment, h, hplace, bind, Except.bind]
  cases Formula.assignment text with
  | error fault => rfl
  | ok assigned => cases hwords : v.dialect.toCode v.scope assigned.2 <;> simp only [hwords] <;> rfl

theorem value_isOk (h : v.source source = .ok text) :
    (v.value source).isOk =
      (do v.dialect.valueWords v.scope (← Formula.value text) : Except Fault _).isOk := by
  simp only [value, h, Dialect.render, bind, Except.bind]
  cases Formula.value text with
  | error fault => rfl
  | ok e => cases hwords : v.dialect.valueWords v.scope e <;> simp only [hwords] <;> rfl

end CodeSettings

section Languages

variable {t : Target} {settings : Settings} {c : Chart} {usage : Generator.Usage}

/-- The languages accept what they read by one criterion. -/
theorem Generator.accepts_eq_isUsable (ht : t ∈ Target.corresponding) (husage : usage ≠ .words)
    {source text : Option String}
    (h : ((Generator.new t settings c).codeSettings c).source source = .ok text) :
    (Generator.new t settings c).accepts c usage source =
      isUsable ((Generator.new .java settings c).codeSettings c).scope usage text := by
  have hd := Target.dialect_mem_corresponding ht
  have hjava : Dialect.java ∈ Dialect.corresponding := by decide
  have hbase : baseName? (Generator.new t settings c).target = none ∧
      ((Generator.new t settings c).codeSettings c).statementSettings.place.isSome = true := by
    simp only [Target.corresponding, List.mem_cons, List.not_mem_nil, or_false] at ht
    rcases ht with rfl | rfl | rfl | rfl <;> exact ⟨rfl, rfl⟩
  have hsingle : ∀ x : Except Fault String,
      (do .ok [← x] : Except Fault (List String)).isOk = x.isOk := by
    rintro (fault | text) <;> rfl
  have hvalue :
      (do
        .ok [← ((Generator.new t settings c).codeSettings c).value source] : Except Fault _).isOk =
      (do
        Dialect.java.valueWords ((Generator.new .java settings c).codeSettings c).scope
          (← Formula.value text) :
        Except Fault _).isOk := by
    rw [hsingle, CodeSettings.value_isOk h]
    cases hread : Formula.value text with
    | error fault => rfl
    | ok e => exact (Dialect.valueWords_uniform _ e fun _ => value_filled hread).isOk_eq hd hjava
  cases usage with
  | words => exact absurd rfl husage
  | condition | value =>
    simp only [accepts, convert, hbase.1]
    exact hvalue
  | assignment =>
    simp only [accepts, convert, hbase.1, isUsable]
    rw [hsingle, CodeSettings.assignment_isOk hbase.2 h]
    cases hread : Formula.assignment text with
    | error fault => rfl
    | ok assigned =>
      exact (Dialect.toCode_uniform _ assigned.2 fun _ => assignment_filled hread).isOk_eq hd hjava

/-- A formula that is missing is accepted nowhere. -/
theorem Generator.accepts_none (ht : t ∈ Target.corresponding) :
    (Generator.new t settings c).accepts c usage none = false := by
  simp only [Target.corresponding, List.mem_cons, List.not_mem_nil, or_false] at ht
  rcases ht with rfl | rfl | rfl | rfl <;> cases usage <;> rfl

/-- A language accepts what Java accepts of the text that it reads. -/
theorem Generator.accepts_eq_java (ht : t ∈ Target.corresponding) (husage : usage ≠ .words)
    {source text : Option String}
    (h : ((Generator.new t settings c).codeSettings c).source source = .ok text) :
    (Generator.new t settings c).accepts c usage source =
      (Generator.new .java settings c).accepts c usage text := by
  have hjava : (Generator.new .java settings c).accepts c usage text = isUsable _ usage text :=
    accepts_eq_isUsable (by decide) husage rfl
  rw [accepts_eq_isUsable ht husage h, hjava]

theorem Generator.accepts_removeSizeLiterals (ht : t ∈ Target.corresponding)
    (husage : usage ≠ .words)
    (hsizes : (t.statementSettings t.dialect.owner).removesSizeLiterals = true)
    (source : Option String) :
    (Generator.new t settings c).accepts c usage source =
      (Generator.new .java settings c).accepts c usage (source.map Formula.removeSizeLiterals) := by
  cases source with
  | none => rw [accepts_none ht, Option.map_none, accepts_none (by decide)]
  | some s =>
    refine accepts_eq_java ht husage ?_
    rw [CodeSettings.source, if_pos]
    · rfl
    · exact hsizes

end Languages

/-- Each of the languages accepts what Java accepts of the text that is read, and PHP and Python
read a formula without its size marks. So all of them agree about a formula without a size mark
behind a digit; one with a number that has a size mark is refused by Java and JavaScript. -/
theorem accepts_as_read (settings : Settings) (c : Chart) (usage : Generator.Usage)
    (husage : usage ≠ .words) :
    let accepts := fun t : Target => (Generator.new t settings c).accepts c usage
    (∀ source : Option String,
      accepts .php source = accepts .java (source.map removeSizeLiterals) ∧
      accepts .python source = accepts .java (source.map removeSizeLiterals) ∧
      accepts .javascript source = accepts .java source) ∧
    (∀ s : String, (s.toList.IsChain fun a b => a.isDigit = true → isSizeMark b = false) →
      ∀ t ∈ Target.corresponding, accepts t (some s) = accepts .java (some s)) ∧
    ∀ (s : String) (cs ds fs rest : List Char) (mark : Char) (ts : List Token) (depth : Nat),
      Text.withLineFeeds (prepared s.toList) = cs ++ (ds ++ (fs ++ mark :: rest)) →
      Lexes 0 true cs ts depth (ds ++ (fs ++ mark :: rest)) → IsSized ds fs mark →
      accepts .java (some s) = false ∧ accepts .javascript (some s) = false := by
  intro accepts
  have hphp : ∀ source, accepts .php source = accepts .java (source.map removeSizeLiterals) :=
    Generator.accepts_removeSizeLiterals (by decide) husage rfl
  have hpython : ∀ source, accepts .python source = accepts .java (source.map removeSizeLiterals) :=
    Generator.accepts_removeSizeLiterals (by decide) husage rfl
  have hjavascript : ∀ source, accepts .javascript source = accepts .java source := fun source =>
    Generator.accepts_eq_java (by decide) husage rfl
  refine ⟨fun source => ⟨hphp source, hpython source, hjavascript source⟩, ?_, ?_⟩
  · intro s hsizes t ht
    have hsame : (some s).map removeSizeLiterals = some s := by
      rw [Option.map_some, removeSizeLiterals,
        (removeSizeLiteralsFrom_eq_self_iff false).2 ⟨by simp, hsizes⟩, String.ofList_toList]
    simp only [Target.corresponding, List.mem_cons, List.not_mem_nil, or_false] at ht
    rcases ht with rfl | rfl | rfl | rfl
    · rfl
    · exact hjavascript _
    · rw [hphp, hsame]
    · rw [hpython, hsame]
  · intro s cs ds fs rest mark ts depth htext hbefore hsized
    have hnone : tokens? (prepared s.toList) = none := by
      rw [tokens?, htext, hbefore, hsized.tokensFrom_eq_none, Option.map_none]
    have hjava : accepts .java (some s) = false :=
      (Generator.accepts_eq_isUsable (by decide) husage rfl).trans
        (isUsable_of_unread (firstStatement_isOk hnone))
    exact ⟨hjava, (hjavascript _).trans hjava⟩

/-- A number with a size mark is accepted by PHP and Python alone; a character escape with what
looks like a size mark at its end is accepted by Java and JavaScript alone. -/
theorem sizedNumber_accepted_in_part :
    let chart : Chart := ⟨some "Tax", ⟨none, some "MAIN", []⟩, [], .ok [], .ok [], .ok [], []⟩
    let accepts := fun (t : Target) (s : String) =>
      (Generator.new t {} chart).accepts chart .assignment (some s)
    Generator.Usage.assignment ≠ .words ∧
    Target.corresponding = [.java, .javascript, .php, .python] ∧
    Target.corresponding.map (accepts · "X = 1L") = [false, false, true, true] ∧
    Target.corresponding.map (accepts · "X = 1; \"\\x1D\"") = [true, true, false, false] := by
  intro chart accepts
  obtain ⟨hread, -, hrefused⟩ := accepts_as_read {} chart .assignment (by decide)
  have hsized : accepts .java "X = 1L" = false ∧ accepts .javascript "X = 1L" = false := by
    refine hrefused "X = 1L" "X = ".toList ['1'] [] [] 'L' [.name "X", .symbol .equals] 0 ?_ ?_ ?_
    · decide +kernel
    · rw [Lexes]
      decide +kernel
    · exact ⟨⟨by simp, List.all_eq_true.1 (by decide)⟩, .inl rfl, rfl⟩
  have hplain : (Generator.new .java {} chart).accepts chart .assignment
      ((some "X = 1L").map removeSizeLiterals) = true := by
    decide +kernel
  have hescape : accepts .java "X = 1; \"\\x1D\"" = true := by decide +kernel
  have hbroken : (Generator.new .java {} chart).accepts chart .assignment
      ((some "X = 1; \"\\x1D\"").map removeSizeLiterals) = false := by decide +kernel
  refine ⟨by decide, rfl, ?_, ?_⟩
  · simp only [Target.corresponding, List.map_cons, List.map_nil, hsized, accepts, (hread _).1,
      (hread _).2.1, hplain]
  · simp only [Target.corresponding, List.map_cons, List.map_nil, accepts, (hread _).1,
      (hread _).2.1, (hread _).2.2, hbroken]
    simp only [accepts] at hescape
    rw [hescape]

end TaxFlow

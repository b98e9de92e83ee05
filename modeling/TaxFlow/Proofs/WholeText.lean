import TaxFlow.Proofs.StatementWalk

/-!
# How much of a text counts

Of all statements of a formula only the first one is taken, and of an assignment only the first
target. Whether this is the whole text can be seen from the separators and the signs among its
tokens.
-/
namespace TaxFlow.Formula

/-- The tokens of a formula in chart notation. -/
def tokensOf (source : String) : Option (List Token) := tokens? (prepared source.toList)

/-- All statements of a formula in chart notation. -/
def scriptOf (source : String) : Option (List Statement) := script? (prepared source.toList)

variable {source : String} {s : Statement} {more : List Statement}

theorem exists_tokensOf {ss : List Statement} (h : scriptOf source = some ss) :
    ∃ ts, tokensOf source = some ts ∧ statements (depthFor ts) ts = some ss :=
  Option.bind_eq_some_iff.1 h

theorem statementsOf_eq_ok_iff {cs : List Char} {ss : List Statement} :
    statementsOf cs = .ok ss ↔ '\x00' ∉ cs ∧ script? cs = some ss := by
  unfold statementsOf readerOf
  cases script? cs <;> by_cases hnull : '\x00' ∈ cs <;> simp [hnull]

variable {reader : ScriptReader}

theorem firstStatementBy_eq_ok_iff : firstStatementBy reader (some source) = .ok s ↔
    ∃ more, reader (prepared source.toList) = .ok (s :: more) := by
  constructor
  · intro h
    obtain ⟨ss, hss, h⟩ := bind_eq_ok h
    cases ss with
    | nil => cases h
    | cons s more =>
      cases h
      exact ⟨more, hss⟩
  · rintro ⟨more, hread⟩
    simp only [firstStatementBy, hread]
    rfl

theorem Statement.assignment_eq_ok {id : String} {e : Expr} (h : s.assignment = .ok (id, e)) :
    ∃ targets, s = .assign (.name id) targets e := by
  have hplain : ∀ {target : Expr} {id : String}, plainTarget target = .ok id →
      target = .name id := by
    intro target id h
    cases target <;> cases h
    rfl
  cases s with
  | assign target targets value =>
    obtain ⟨x, hx, h⟩ := bind_eq_ok h
    cases h
    rw [hplain hx]
    exact ⟨targets, rfl⟩
  | delete target targets =>
    obtain ⟨x, -, h⟩ := bind_eq_ok h
    cases h
  | _ => cases h

theorem assignmentBy_eq_ok_iff {id : String} {e : Expr} :
    assignmentBy reader (some source) = .ok (id, e) ↔
    ∃ targets more, reader (prepared source.toList) =
      .ok (.assign (.name id) targets e :: more) := by
  constructor
  · intro h
    obtain ⟨s, hs, h⟩ := bind_eq_ok h
    obtain ⟨targets, rfl⟩ := Statement.assignment_eq_ok h
    obtain ⟨more, hread⟩ := firstStatementBy_eq_ok_iff.1 hs
    exact ⟨targets, more, hread⟩
  · rintro ⟨targets, more, hread⟩
    rw [assignmentBy, firstStatementBy_eq_ok_iff.2 ⟨more, hread⟩]
    rfl

theorem valueBy_eq_ok_iff {r : Option Expr} : valueBy reader (some source) = .ok r ↔
    ∃ s more, reader (prepared source.toList) = .ok (s :: more) ∧ s.value = .ok r := by
  constructor
  · intro h
    obtain ⟨s, hs, h⟩ := bind_eq_ok h
    obtain ⟨more, hread⟩ := firstStatementBy_eq_ok_iff.1 hs
    exact ⟨s, more, hread, h⟩
  · rintro ⟨s, more, hread, h⟩
    rw [valueBy, firstStatementBy_eq_ok_iff.2 ⟨more, hread⟩]
    exact h

theorem value_eq_ok_iff {r : Option Expr} : value (some source) = .ok r ↔
    '\x00' ∉ prepared source.toList ∧ ∃ s more, scriptOf source = some (s :: more) ∧
      s.value = .ok r := by
  rw [value, valueBy_eq_ok_iff]
  simp only [statementsOf_eq_ok_iff, scriptOf, and_assoc, exists_and_left]

/-- The first statement is all of the text, and what kind of statement it is. -/
theorem scriptOf_eq_single_iff (h : scriptOf source = some (s :: more)) (signs : List Token) :
    more = [] ∧ s.signs = signs ↔
      ∃ ts, tokensOf source = some ts ∧ isOneLine ts = true ∧ outerSigns ts = signs := by
  obtain ⟨ts, hts, hss⟩ := exists_tokensOf h
  constructor
  · rintro ⟨rfl, rfl⟩
    exact ⟨ts, hts, (statements_single_iff hss).1 rfl, outerSigns_of_single hss⟩
  · rintro ⟨us, hus, hline, hsigns⟩
    cases hts.symm.trans hus
    cases (statements_single_iff hss).2 hline
    exact ⟨rfl, (outerSigns_of_single hss).symm.trans hsigns⟩

theorem signs_eq_equals_iff {target value : Expr} {targets : List Expr} :
    (Statement.assign target targets value).signs = [.symbol .equals] ↔ targets = [] := by
  simp [Statement.signs]

/-- A statement with a value and without signs is a plain expression. -/
theorem signs_eq_nil_iff {r : Option Expr} (h : s.value = .ok r) :
    s.signs = [] ↔ ∃ e, r = some e ∧ s = .expression e := by
  cases s with
  | annotated target declared value => cases value <;> simp [Statement.signs]
  | expression e => cases h; simp [Statement.signs]
  | delete | plain => cases h
  | _ => simp [Statement.signs]

/-- Whatever reads the statements of a formula, it is taken as an assignment or as a value exactly
if its first statement is one, and the rest is dropped. Where the statements are those of the
grammar, this accounts for the whole text, a single assignment to a single name or a single
expression, exactly if behind the first separator there are only separators and outside of brackets
there is one equals sign, or no sign at all. -/
theorem whole_text_counts_iff (reader : ScriptReader) (source : String) :
    (∀ id e, assignmentBy reader (some source) = .ok (id, e) ↔
      ∃ targets more, reader (prepared source.toList) =
        .ok (.assign (.name id) targets e :: more)) ∧
    (∀ r, valueBy reader (some source) = .ok r ↔
      ∃ s more, reader (prepared source.toList) = .ok (s :: more) ∧ s.value = .ok r) ∧
    ∀ ss, scriptOf source = some ss → reader (prepared source.toList) = .ok ss →
      (∀ id e, assignmentBy reader (some source) = .ok (id, e) → (ss = [.assign (.name id) [] e] ↔
        ∃ ts, tokensOf source = some ts ∧ isOneLine ts = true ∧
        outerSigns ts = [.symbol .equals])) ∧
      ∀ r, valueBy reader (some source) = .ok r → ((∃ e, r = some e ∧ ss = [.expression e]) ↔
        ∃ ts, tokensOf source = some ts ∧ isOneLine ts = true ∧ outerSigns ts = []) := by
  refine ⟨fun id e => assignmentBy_eq_ok_iff, fun r => valueBy_eq_ok_iff,
    fun ss hscript hread => ⟨?_, ?_⟩⟩
  · intro id e h
    obtain ⟨targets, more, hbody⟩ := assignmentBy_eq_ok_iff.1 h
    obtain rfl := Except.ok.inj (hread.symm.trans hbody)
    rw [← scriptOf_eq_single_iff hscript, signs_eq_equals_iff]
    simp [and_comm]
  · intro r h
    obtain ⟨s, more, hbody, hs⟩ := valueBy_eq_ok_iff.1 h
    obtain rfl := Except.ok.inj (hread.symm.trans hbody)
    rw [← scriptOf_eq_single_iff hscript, signs_eq_nil_iff hs]
    simp [and_comm, and_left_comm]

/-- Of a chain of assignments with another one behind it the first name is taken, of an assignment
its value. -/
theorem chainedAssignment_counts_in_part :
    assignment (some "A = B = 1; C = 2") = .ok ("A", .constant (.int 1)) ∧
    scriptOf "A = B = 1; C = 2" ≠ some [.assign (.name "A") [] (.constant (.int 1))] ∧
    value (some "A = 1") = .ok (some (.constant (.int 1))) ∧
    ¬ ∃ e, some (.constant (.int 1)) = some e ∧ scriptOf "A = 1" = some [.expression e] := by
  have htokens : tokensOf "A = B = 1; C = 2" = some [.name "A", .symbol .equals, .name "B",
      .symbol .equals, .number (.int 1), .symbol .semicolon, .name "C", .symbol .equals,
      .number (.int 2)] := by decide +kernel
  have htokens' : tokensOf "A = 1" = some [.name "A", .symbol .equals, .number (.int 1)] := by
    decide +kernel
  have hscript : scriptOf "A = B = 1; C = 2" =
      some [.assign (.name "A") [.name "B"] (.constant (.int 1)),
        .assign (.name "C") [] (.constant (.int 2))] :=
          (congrArg (Option.bind · _) htokens).trans rfl
  have hscript' : scriptOf "A = 1" = some [.assign (.name "A") [] (.constant (.int 1))] :=
    (congrArg (Option.bind · _) htokens').trans rfl
  have hread := statementsOf_eq_ok_iff.2 ⟨by decide +kernel, hscript⟩
  have hread' := statementsOf_eq_ok_iff.2 ⟨by decide +kernel, hscript'⟩
  obtain ⟨hassign, -, hwhole⟩ := whole_text_counts_iff statementsOf "A = B = 1; C = 2"
  obtain ⟨-, hvalue, -⟩ := whole_text_counts_iff statementsOf "A = 1"
  have htaken := (hassign _ _).2 ⟨_, _, hread⟩
  have htaken' := (hvalue _).2 ⟨_, _, hread', rfl⟩
  refine ⟨htaken, ?_, htaken', ?_⟩
  · rw [hscript, ne_eq, Option.some.injEq, (hwhole _ hscript hread).1 _ _ htaken, htokens]
    rintro ⟨ts, hts, -, hsigns⟩
    cases hts
    exact absurd hsigns (by decide)
  · simp [hscript']

end TaxFlow.Formula

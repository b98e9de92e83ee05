import TaxFlow.Proofs.Encoding
import TaxFlow.Proofs.Layout
import TaxFlow.Proofs.OutputFile
import TaxFlow.Proofs.RoundedQuotient
import TaxFlow.Sample.Phrases
import TaxFlow.Sample.Rounds
import TaxFlow.Sample.Sizes
import TaxFlow.Sample.Survey

/-!
# Samples

What is known of the samples at any size: how much text the blocks make, that the balance never
leaves its limits, how the formulas are spelled, that the attributes are read as they were meant,
that a survey tells charts apart, and which text the command line leaves in a file.
-/
namespace TaxFlow.Sample

/-! ## Blocks -/

theorem block_appends (t : String) :
    (((⟨{}, 0, t⟩ : Page).enter "block").line "line").leave =
      ⟨{}, 0, t ++ "block \x7b\n    line\n\x7d\n"⟩ := by
  have henter := Page.enter_lineAt {} 0 1 t "block"
  rw [Nat.cast_zero, Nat.cast_one] at henter
  have hline := Page.line_lineAt {} 1 (t ++ Layout.lineAt {} 0 "block \x7b") "line"
  have hleave :=
    Page.leave_closingAt {} 0 1 (t ++ Layout.lineAt {} 0 "block \x7b" ++ Layout.lineAt {} 1 "line")
  rw [henter]
  refine (congrArg Page.leave hline).trans (hleave.trans ?_)
  simp only [String.append_assoc]
  rfl

theorem blocks_eq (n : ℕ) : blocks n = ⟨{}, 0, repeated "block \x7b\n    line\n\x7d\n" n⟩ := by
  induction n with
  | zero => rfl
  | succ n ih =>
    rw [blocks, ih, block_appends]
    simp [repeated, List.replicate_succ', String.join]

theorem pageSize_eq (n : ℕ) : pageSize n = 19 * n := by
  rw [pageSize, blocks_eq, repeated, ← String.length_toList, String.toList_join]
  simp [mul_comm]

/-! ## Balances -/

section Balances

open Decimal

/-- A number of units, or of hundredths of them, in cents. -/
inductive InCents : ℕ → ℤ → ℕ → Prop
  | units (c : ℕ) : InCents c 0 (100 * c)
  | hundredths (c : ℕ) : InCents c (-2) c

namespace InCents

variable {c cents : ℕ} {e : ℤ}

theorem value (h : InCents c e cents) : (c : ℚ) * 10 ^ e * 10 ^ 2 = cents := by
  cases h with
  | units =>
    push_cast
    ring
  | hundredths =>
    norm_num
    ring

theorem le (h : InCents c e cents) : c ≤ cents := by
  cases h <;> omega

theorem exponent (h : InCents c e cents) : e = 0 ∨ e = -2 := by
  cases h
  · exact .inl rfl
  · exact .inr rfl

end InCents

theorem fitted_of_lt_pow {digits : ℕ} (h : digits < 10 ^ 9) {e : ℤ} (he : e = 0 ∨ e = -2) :
    fitted false digits e = .ok (.finite false digits e) := by
  by_cases hzero : digits = 0
  · subst hzero
    rcases he with rfl | rfl <;> decide
  · have hcount : digitCount digits ≤ 9 :=
      (digitCount_le_iff digits 9).2 ⟨by decide, by simpa using h⟩
    have hpos := digitCount_pos digits
    apply fitted_of_le hzero
    · simp only [precision]
      omega
    · simp only [minExponent, adjusted]
      omega
    · simp only [maxExponent, adjusted]
      omega

theorem productWith_three {c : ℕ} {e : ℤ} (he : e = 0 ∨ e = -2) (hc : c ≤ 10 ^ 8) :
    productWith (.finite false c e) (.integer 3) = .ok (.finite false (c * 3) e) := by
  have hfitted := fitted_of_lt_pow (show c * 3 < 10 ^ 9 by omega) he
  have hproduct : multiply (.finite false c e) (.finite false 3 0) = fitted false (c * 3) (e + 0) :=
    rfl
  rw [add_zero, hfitted] at hproduct
  exact congrArg attempt hproduct

theorem ceil_half (k : ℕ) : ⌈((k : ℕ) : ℚ) / (2 : ℕ)⌉₊ = (k + 1) / 2 := by
  apply eq_of_forall_ge_iff
  intro t
  rw [Nat.ceil_le, div_le_iff₀ (by norm_num)]
  norm_cast
  omega

theorem ofDecimal_eq_ok {x : Except DecimalFault Decimal} {z : Decimal}
    (h : Operation.ofDecimal x = .ok (.decimal z)) : x = .ok z := by
  cases x with
  | error fault => cases h
  | ok y =>
    cases h
    rfl

/-- A half, rounded up to cents. -/
theorem quotientWith_two {c cents : ℕ} {e : ℤ} (hcents : (c : ℚ) * 10 ^ e * 10 ^ 2 = cents)
    (hlimit : cents ≤ 10 ^ 9) :
    quotientWith (.finite false c e) (.integer 2) (.integer 2) (.text "ROUND_UP") =
      .ok (.finite false ((cents + 1) / 2) (-2)) := by
  have hvalue : (cents : ℚ) / (200 : ℕ) = c * 10 ^ e / ((2 : ℕ) * 10 ^ (0 : ℤ)) := by
    rw [← hcents]
    push_cast
    ring
  have hplaces : (cents : ℚ) / (200 : ℕ) * 10 ^ 2 = cents / (2 : ℕ) := by
    push_cast
    ring
  obtain ⟨hlow, hhigh⟩ :=
    moderate_quotient (show cents < 10 ^ 27 by omega) (b := 200) (by decide) (by decide)
  obtain ⟨q, k, hdivide, hnear⟩ :=
    divide_near false false c (d := 2) (by decide) e 0 hvalue hlow hhigh
  have hscaled :=
    setScale_of_near hnear false .up (n := 2) (by decide) (by decide)
      (show cents < 10 ^ 27 by omega)
    hplaces
  rw [apply_setScale _ (by decide), hplaces] at hscaled
  have hrounded := ofDecimal_eq_ok hscaled
  rw [Direction.magnitude, ceil_half] at hrounded
  exact (quotientWith_eq (o := .integer 2) rfl hdivide (by decide) .up).trans hrounded

/-- The order of cents and the limit is that of the cents and so many. -/
theorem compareFinite_limit {cents : ℕ} (hcents : cents < 10 ^ 9) :
    compareFinite false cents (-2) false 1000000 0 = compare cents (10 ^ 8) := by
  by_cases hzero : cents = 0
  · subst hzero
    decide
  have hadjusted : adjusted 1000000 0 = 6 := by simp [adjusted, digitCount]
  have hfew : digitCount cents ≤ 9 := (digitCount_le_iff cents 9).2 ⟨by decide, hcents⟩
  have hpositive : compareFinite false cents (-2) false 1000000 0 =
      comparePositive cents (-2) 1000000 0 := by
    simp [compareFinite, hzero]
  rw [hpositive, comparePositive, hadjusted]
  rcases Nat.lt_or_eq_of_le hfew with hless | hsame
  · have hless' : cents < 10 ^ 8 := ((digitCount_le_iff cents 8).1 (by omega)).2
    rw [compare_lt_iff_lt.2 (show adjusted cents (-2) < 6 by rw [adjusted]; omega),
      compare_lt_iff_lt.2 hless']
  · rw [compare_eq_iff_eq.2 (show adjusted cents (-2) = 6 by rw [adjusted]; omega)]
    simp

/-- One round: the cents grow by half, and are lost once they are too many. -/
theorem grown_eq {c cents : ℕ} {e : ℤ} (h : InCents c e cents) (hlimit : cents ≤ 10 ^ 8) :
    grown (.finite false c e) =
      .ok (if 10 ^ 8 < (3 * cents + 1) / 2 then .ofInt 0
        else .finite false ((3 * cents + 1) / 2) (-2)) := by
  have htripled : ((c * 3 : ℕ) : ℚ) * 10 ^ e * 10 ^ 2 = (3 * cents : ℕ) := by
    push_cast
    rw [← h.value]
    ring
  have horder : orderWith (.finite false ((3 * cents + 1) / 2) (-2)) (.decimal limit) =
      .ok (ofOrdering (compare ((3 * cents + 1) / 2) (10 ^ 8))) := by
    rw [← compareFinite_limit (by omega)]
    rfl
  rw [grown, productWith_three h.exponent (h.le.trans hlimit)]
  simp only [bind, Except.bind, quotientWith_two htripled (by omega), horder]
  rcases lt_trichotomy ((3 * cents + 1) / 2) (10 ^ 8) with hless | hsame | hmore
  · rw [compare_lt_iff_lt.2 hless, if_neg (not_lt.2 hless.le)]
    rfl
  · rw [compare_eq_iff_eq.2 hsame, if_neg (not_lt.2 hsame.le)]
    rfl
  · rw [compare_gt_iff_gt.2 hmore, if_pos hmore]
    rfl

/-- Balances of whole cents within the limit. -/
def IsKept (d : Decimal) : Prop := ∃ c e cents, d = .finite false c e ∧ InCents c e cents ∧
    cents ≤ 10 ^ 8

theorem IsKept.grown {d : Decimal} (h : IsKept d) : ∃ d', Sample.grown d = .ok d' ∧ IsKept d' := by
  obtain ⟨c, e, cents, rfl, hcents, hlimit⟩ := h
  refine ⟨_, grown_eq hcents hlimit, ?_⟩
  split
  · exact ⟨0, 0, 0, rfl, .units 0, by decide⟩
  next hmore => exact ⟨_, -2, _, rfl, .hundredths _, not_lt.1 hmore⟩

/-- A balance is within the limit after any number of rounds. -/
theorem balance_isKept (n : ℕ) : ∃ d, balance n = .ok d ∧ IsKept d := by
  induction n with
  | zero => exact ⟨.ofInt 1, rfl, 1, 0, 100, rfl, .units 1, by decide⟩
  | succ n ih =>
    obtain ⟨d, hd, hkept⟩ := ih
    obtain ⟨d', hd', hkept'⟩ := hkept.grown
    refine ⟨d', ?_, hkept'⟩
    rw [balance, hd]
    exact hd'

/-- The whole part of a balance is never negative and never beyond the limit. -/
theorem wholeBalance_bounds (n : ℕ) : ∃ k : ℕ, wholeBalance n = .ok k ∧ k ≤ 1000000 := by
  obtain ⟨d, hd, c, e, cents, rfl, hcents, hlimit⟩ := balance_isKept n
  have hcount : digitCount c ≤ 9 := (digitCount_le_iff c 9).2 ⟨by decide, by
    have := hcents.le
    simp only [Nat.pow_eq]
    omega⟩
  have hshort : ¬(c ≠ 0 ∧ (Formula.maxIntegerDigits : ℤ) ≤ adjusted c e) := by
    have := hcents.exponent
    simp only [Formula.maxIntegerDigits, adjusted]
    omega
  have hwhole : wholeBalance n = wholePart (.finite false c e) := by
    rw [wholeBalance, hd]
    rfl
  rw [hwhole]
  cases hcents with
  | units =>
    refine ⟨c, ?_, by omega⟩
    simp only [wholePart]
    rw [if_neg hshort]
    simp +contextual [signed]
  | hundredths =>
    have hcut : Rounding.down.cut false c 2 = c / 100 := by
      simp only [Rounding.cut, Rounding.raises, (cut_divisor c 2).1, Bool.false_eq_true, if_false]
      rfl
    refine ⟨c / 100, ?_, by omega⟩
    simp only [wholePart]
    rw [if_neg hshort]
    exact congrArg (fun n : ℕ => Except.ok (n : ℤ)) hcut

end Balances

/-! ## Phrases -/

/-- The formulas in the common spelling. -/
def spelled : List String :=
  ["self.A + self.B - self.C * self.D / self.E", "self.A.b.c", "self.foo(self.A, self.B, self.C)",
    "Bench.TAB1[self.K]", "[1, 2, 3]", "-self.A", "self.A == self.B", "self.A != self.B",
    "self.A < self.B",
    "self.A <= self.B", "self.A > self.B", "self.A >= self.B", "self.A && self.B || self.C",
    "BigDecimal",
    "new BigDecimal", "Bench.ZAHL1"]

theorem phrase_formula (i : ℕ) :
    phrase (formulas.getD (i % formulas.length) "") =
      .ok (spelled.getD (i % spelled.length) "") := by
  have hall : ∀ k < spelled.length, (phrase (formulas.getD k "")).toOption =
      some (spelled.getD k "") := by
    decide +kernel
  exact eq_ok_of_toOption (hall _ (Nat.mod_lt _ (by decide)))

/-- However many formulas there are, all of them have a spelling but the last one. -/
theorem phrases_eq (count : ℕ) :
    phrases count = .ok ((List.range count).map (fun i => spelled.getD (i % spelled.length) "") ++
      ["unknown-node"]) := by
  have hlast : ["A if B else C"].mapM phrase = .ok ["unknown-node"] :=
    eq_ok_of_toOption (by decide +kernel)
  have hfront (is : List ℕ) : (is.map fun i => formulas.getD (i % formulas.length) "").mapM phrase =
      .ok (is.map fun i => spelled.getD (i % spelled.length) "") := by
    induction is with
    | nil => rfl
    | cons i is ih =>
      rw [List.map_cons, List.mapM_cons, phrase_formula, ih]
      rfl
  rw [phrases, List.mapM_append, hfront, hlast]
  rfl

/-! ## Attributes -/

section Attributes

open Markup

theorem attributeLiteral_cons {c : Char} (h : c ≠ '<') (cs : List Char) :
    attributeLiteral (c :: cs) =
      (attributeLiteral cs).map ((if isSpace c then ' ' else c) :: ·) := by
  unfold attributeLiteral
  by_cases hcs : cs.contains '<' = true
  · simp_all
  · simp_all [Ne.symm h]

theorem ampersandPieces_cons {c : Char} (h : c ≠ '&') {cs p : List Char} {ps : List (List Char)}
    (hcs : ampersandPieces cs = p :: ps) : ampersandPieces (c :: cs) = (c :: p) :: ps := by
  rw [ampersandPieces, if_neg h, hcs]

theorem ampersandPieces_ne_nil (cs : List Char) : ∃ p ps, ampersandPieces cs = p :: ps := by
  fun_cases ampersandPieces cs <;> simp

variable {literal : List Char → Option (List Char)} {c d : Char}

/-- A character in front of the first reference. -/
theorem resolved_cons (hliteral : ∀ cs, literal (c :: cs) = (literal cs).map (d :: ·))
    (hmark : c ≠ '&')
    (cs : List Char) : resolved literal (c :: cs) = (resolved literal cs).map (d :: ·) := by
  obtain ⟨p, ps, hpieces⟩ := ampersandPieces_ne_nil cs
  simp only [resolved, ampersandPieces_cons hmark hpieces, hpieces, hliteral]
  cases literal p with
  | none => rfl
  | some first => simp

theorem ampersandPieces_append {name : List Char} (hname : '&' ∉ name) {cs p : List Char}
    {ps : List (List Char)}
    (hcs : ampersandPieces cs = p :: ps) : ampersandPieces (name ++ cs) = (name ++ p) :: ps := by
  induction name with
  | nil => exact hcs
  | cons c name ih =>
    simp only [List.mem_cons, not_or] at hname
    exact ampersandPieces_cons (Ne.symm hname.1) (ih hname.2)

/-- A reference at the beginning. -/
theorem resolved_reference (hliteral : literal [] = some []) (name : List Char) (hmark : '&' ∉ name)
    (hend : ';' ∉ name) (hname : referenced? name = some c) (cs : List Char) :
    resolved literal ('&' :: (name ++ ';' :: cs)) = (resolved literal cs).map (c :: ·) := by
  obtain ⟨p, ps, hpieces⟩ := ampersandPieces_ne_nil cs
  have hafter := ampersandPieces_append hmark (ampersandPieces_cons (c := ';') (by decide) hpieces)
  have hspan : (name ++ ';' :: p).span (· != ';') = (name, ';' :: p) := by
    have hall : ∀ x ∈ name, (x != ';') = true := by
      intro x hx
      rw [bne_iff_ne]
      rintro rfl
      exact hend hx
    rw [List.span_eq_takeWhile_dropWhile, List.takeWhile_append_of_pos hall,
      List.dropWhile_append_of_pos hall]
    simp
  simp only [resolved, ampersandPieces, if_true, hafter, hpieces, hliteral, List.mapM_cons, hspan,
    hname]
  cases literal p with
  | none => rfl
  | some first => simp [Option.bind_assoc]

/-- An escaped character is read as itself. -/
theorem resolved_escaped (c : Char) (cs : List Char) :
    resolved attributeLiteral ((escaped c).toList ++ cs) =
      (resolved attributeLiteral cs).map ((if isSpace c then ' ' else c) :: ·) := by
  have hempty : attributeLiteral [] = some [] := rfl
  unfold escaped
  split
  · exact resolved_reference hempty "amp".toList (by decide) (by decide) rfl cs
  · exact resolved_reference hempty "lt".toList (by decide) (by decide) rfl cs
  · exact resolved_reference hempty "gt".toList (by decide) (by decide) rfl cs
  next hmark hopen _ =>
    rw [Char.toString, String.toList_singleton]
    exact resolved_cons (attributeLiteral_cons hopen) hmark cs

/-- The attributes of the sample are read as the texts that were written, but for their kind of
blanks. -/
theorem resolved_attributeText (s : String) :
    resolved attributeLiteral (attributeText s).toList =
      some (s.toList.map fun c => if isSpace c then ' ' else c) := by
  rw [attributeText, String.toList_join, List.flatMap_map]
  induction s.toList with
  | nil => rfl
  | cons c cs ih => rw [List.flatMap_cons, resolved_escaped, ih, Option.map_some, List.map_cons]

end Attributes

/-! ## Surveys -/

theorem surveyOf_eq_ok {c : Chart} {findings : List Finding} (h : surveyOf c = .ok findings) :
    ∃ inputs outputs internals, c.inputs = .ok inputs ∧ c.outputs = .ok outputs ∧
      c.internals = .ok internals ∧
      findings = [.text c.name, .count inputs.length, .count outputs.length,
        .count internals.length,
          .count c.constants.length, .count c.sortedConstantNames.length, .count c.methods.length,
          .text c.main.name] ++
        (inputs ++ outputs ++ internals).map Finding.declared ++ c.constants.map Finding.fixed := by
  unfold surveyOf at h
  obtain ⟨inputs, hinputs, h⟩ := bind_eq_ok h
  obtain ⟨outputs, houtputs, h⟩ := bind_eq_ok h
  obtain ⟨internals, hinternals, h⟩ := bind_eq_ok h
  exact ⟨inputs, outputs, internals, hinputs, houtputs, hinternals, (Except.ok.inj h).symm⟩

/-- The survey of a chart determines its declarations, since it says how many there are of each
kind. -/
theorem declarations_eq_of_surveyOf {c c' : Chart} {findings : List Finding}
    (h : surveyOf c = .ok findings) (h' : surveyOf c' = .ok findings) :
    c.name = c'.name ∧ c.inputs = c'.inputs ∧ c.outputs = c'.outputs ∧ c.internals = c'.internals ∧
      c.constants = c'.constants := by
  obtain ⟨inputs, outputs, internals, hinputs, houtputs, hinternals, rfl⟩ := surveyOf_eq_ok h
  obtain ⟨inputs', outputs', internals', hinputs', houtputs', hinternals', hsame⟩ :=
    surveyOf_eq_ok h'
  simp only [List.cons_append, List.nil_append, List.cons.injEq, Finding.text.injEq,
    Finding.count.injEq] at hsame
  obtain ⟨hname, hin, hout, hint, hcon, -, -, -, hlists⟩ := hsame
  have hdeclared : Function.Injective Finding.declared := fun _ _ => Finding.declared.inj
  have hfixed : Function.Injective Finding.fixed := fun _ _ => Finding.fixed.inj
  obtain ⟨hvariables, hconstants⟩ := List.append_inj hlists (by simp [hin, hout, hint])
  obtain ⟨hfront, rfl⟩ := List.append_inj (hdeclared.list_map hvariables) (by simp [hin, hout])
  obtain ⟨rfl, rfl⟩ := List.append_inj hfront hin
  exact ⟨hname, hinputs.trans hinputs'.symm, houtputs.trans houtputs'.symm,
    hinternals.trans hinternals'.symm, hfixed.list_map hconstants⟩

/-- The refusals are the names that no release has, each of them twice. -/
theorem refusals_eq (names : List String) :
    refusals names =
      (names.filter fun name => name ∉ Release.all.map Release.name).flatMap fun name =>
        List.replicate 2 (.text (some name)) := by
  induction names with
  | nil => rfl
  | cons name names ih =>
    rw [refusals, List.flatMap_cons, ← refusals, ih]
    by_cases hname : name ∈ Release.all.map Release.name
    · obtain ⟨r, hr⟩ := CommandLine.named_of_mem hname
      rw [hr, List.filter_cons_of_neg (by simpa using hname)]
      rfl
    · have hfind : Release.find? (some name) = none := by
        simpa [Release.find?] using hname
      rw [Release.named, hfind, List.filter_cons_of_pos (by simpa using hname)]
      rfl

/-! ## Files -/

open CommandLine

/-- What the arguments choose. -/
def chosen (language : String) : Choices :=
  { language := some language, document := some "sample.xml", outfile := some "sample.out",
    className := some "Bench", javaPackage := some "de.example", goPackage :=
      some "tax", phpNamespace := some "Lohn" }

theorem read_arguments {language : String} {t : Target} (h : (language, t) ∈ languageNames) :
    CommandLine.read (arguments language) = .ok (.choices (chosen language)) := by
  simp only [languageNames, List.mem_cons, Prod.mk.injEq, List.not_mem_nil, or_false] at h
  rcases h with ⟨rfl, -⟩ | ⟨rfl, -⟩ | ⟨rfl, -⟩ | ⟨rfl, -⟩ | ⟨rfl, -⟩ <;>
    exact eq_ok_of_toOption (by decide +kernel)

/-- The sample as it is read from its file. -/
def sampleSource (n : ℕ) : Markup.Source :=
  .text (String.ofList (Text.withLineFeeds (document n).toList))

theorem read?_sample (bytes : ByteArray) : Folder.read? [(["sample.xml"], bytes)] "sample.xml" =
    some bytes := rfl

theorem opened_sample (n : ℕ) : (surroundings n).opened "sample.out" = .ok ["sample.out"] := rfl

theorem read?_outfile (f : Folder) : f.read? "sample.out" = f.lookup ["sample.out"] := rfl

theorem targetOf_of_mem {language : String} {t : Target} (h : (language, t) ∈ languageNames) :
    targetOf language = t := by
  have hall : ∀ entry ∈ languageNames, targetOf entry.1 = entry.2 := by decide
  exact hall _ h

theorem supplied_iff {language : String} {n : ℕ} {source : Markup.Source} :
    Supplied (chosen language) (surroundings n) source ↔ source = sampleSource n := by
  constructor
  · rintro (⟨hpath, -, -, hbytes, -, hdecoded⟩ | ⟨hname, -⟩)
    · cases hpath
      cases (read?_sample _).symm.trans hbytes
      rw [← Except.ok.inj ((Text.decodeUtf8_toUTF8 _).symm.trans hdecoded), sampleSource]
    · cases hname
  · rintro rfl
    exact .file rfl (by decide) rfl (read?_sample _) rfl (Text.decodeUtf8_toUTF8 _)

theorem fileSize_eq_lookup (n : ℕ) (language : String) :
    fileSize n language =
      (((run (arguments language) (surroundings n)).folder.lookup ["sample.out"]).map
        ByteArray.size).getD 0 := by
  rw [← read?_outfile]
  dsimp only [fileSize]
  cases (run (arguments language) (surroundings n)).folder.read? "sample.out" <;> rfl

/-- The output file holds what a new generator with the chosen settings writes for the chart of the
sample, and there is none if the sample has no chart. -/
theorem fileSize_eq {language : String} {t : Target} (h : (language, t) ∈ languageNames) (n : ℕ)
    {settings : Settings} (hsettings : TakenFrom (chosen language) t settings) :
    fileSize n language = match Chart.read (sampleSource n) with
      | .ok chart => ((Generator.new t settings chart).generate chart).1.page.text.utf8ByteSize
      | .error _ => 0 := by
  have hread := read_arguments h
  rw [fileSize_eq_lookup]
  cases hchart : Chart.read (sampleSource n) with
  | error fault =>
    rw [(run_folder_or_builds _ _).resolve_right]
    · rfl
    · rintro ⟨c, language', chart, hbuilds⟩
      obtain ⟨source, hsupplied, hread'⟩ := hbuilds.source
      cases hread.symm.trans hbuilds.reads
      cases supplied_iff.1 hsupplied
      cases hchart.symm.trans hread'
  | ok chart =>
    have hbuilds : Builds (arguments language) (surroundings n) (chosen language) language chart :=
      ⟨hread, rfl, rfl, _, supplied_iff.2 rfl, hchart⟩
    obtain ⟨t', ht', hdelivers⟩ := hbuilds.delivers
    obtain rfl : t' = t := (targetOf_of_mem ht').symm.trans (targetOf_of_mem h)
    cases hdelivers settings hsettings with
    | printed hout => cases hout
    | refused hout _ hopened =>
      cases hout
      cases (opened_sample n).symm.trans hopened
    | written hout _ hopened hcontent =>
      cases hout
      cases (opened_sample n).symm.trans hopened
      rw [hcontent]
      rfl

/-- A run that generates without a fault leaves the same code as the generator on its own. -/
theorem fileSize_of_code {language : String} {t : Target}
    (h : (language, t) ∈ languageNames) {n : ℕ}
    {settings : Settings} (hsettings : TakenFrom (chosen language) t settings) {chart : Chart}
    {text : String}
    (hchart : Chart.read (sampleSource n) = .ok chart) (hcode : code t settings chart = .ok text) :
    fileSize n language = text.utf8ByteSize := by
  unfold code at hcode
  rw [fileSize_eq h n hsettings, hchart]
  split at hcode
  next g hgenerate =>
    cases hcode
    simp [hgenerate]
  · cases hcode

end TaxFlow.Sample

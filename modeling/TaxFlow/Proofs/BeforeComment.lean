import TaxFlow.Proofs.TextBorders

/-!
# What a comment says

What stands in front of a comment is read without regard to what the comment says.
-/
namespace TaxFlow.Formula

section Numbers

variable {cs more : List Char}

theorem digitRun_comment {isDigit : Char → Bool} (hmark : isDigit '#' = false) :
    digitRun isDigit (cs ++ '#' :: more) =
      (digitRun isDigit cs).map (Prod.map id (· ++ '#' :: more)) := by
  fun_induction digitRun isDigit cs with
  | case1 => simp [digitRun_cons, hmark]
  | case2 => simp [digitRun, hmark]
  | case3 c cs hc ih => simp [digitRun, hc, ih, Function.comp_def]
  | case4 c cs hc => simp [digitRun, hc]
  | case5 c cs hlast hunder hc ih =>
    simp [digitRun_cons (ne_underscore hlast hunder), hc, ih, Function.comp_def]
  | case6 c cs hlast hunder hc => simp [digitRun_cons (ne_underscore hlast hunder), hc]

theorem decimalRun_comment : digitRun Char.isDigit (cs ++ '#' :: more) =
    (digitRun Char.isDigit cs).map (Prod.map id (· ++ '#' :: more)) :=
  digitRun_comment (by decide)

theorem isPrefixOf_comment {p : List Char} (hp : '#' ∉ p) :
    p.isPrefixOf (cs ++ '#' :: more) = p.isPrefixOf cs :=
  isPrefixOf_extend fun c hc => by
    cases hc
    exact hp

theorem endsNumber_comment : endsNumber (cs ++ '#' :: more) = endsNumber cs := by
  cases cs with
  | nil => simp [endsNumber, isWordChar]
  | cons c cs =>
    rw [List.cons_append]
    simp only [endsNumber]
    congr 1
    split
    · exact isPrefixOf_comment (by decide)
    · exact isPrefixOf_comment (by decide)
    · exact isPrefixOf_comment (by decide)
    · simp only [List.any_cons, List.any_nil]
      rw [isPrefixOf_comment (by decide), isPrefixOf_comment (by decide),
        isPrefixOf_comment (by decide)]
    · exact isPrefixOf_comment (by decide)
    · exact isPrefixOf_comment (by decide)
    · rfl

theorem radixNumber_comment {base : Nat} {isDigit : Char → Bool} (hmark : isDigit '#' = false) :
    radixNumber base isDigit (cs ++ '#' :: more) =
      (radixNumber base isDigit cs).map (Prod.map id (· ++ '#' :: more)) := by
  simp only [radixNumber, digitRun_comment hmark, Option.bind_eq_bind]
  cases digitRun isDigit cs with
  | none => rfl
  | some p =>
    simp only [Option.map_some, Option.bind_some, Prod.map, id, endsNumber_comment]
    split <;> rfl

theorem fractionPart_comment : fractionPart (cs ++ '#' :: more) =
    (fractionPart cs).map (Prod.map id (· ++ '#' :: more)) := by
  by_cases hpoint : cs.head? = some '.'
  · obtain ⟨cs, rfl⟩ := List.head?_eq_some_iff.1 hpoint
    have hhead : (cs ++ '#' :: more).head?.any Char.isDigit = cs.head?.any Char.isDigit := by
      cases cs <;> rfl
    rw [List.cons_append, fractionPart_point, fractionPart_point, hhead, decimalRun_comment]
    split
    · simp [Function.comp_def]
    · rfl
  · rw [fractionPart_of_head fun c hc hne => hpoint (hne ▸ hc),
      fractionPart_of_head fun c hc hne => ?_]
    · rfl
    · cases cs with
      | nil =>
        cases hc
        cases hne
      | cons d cs => exact hpoint (hne ▸ hc)

theorem exponentPart_comment : exponentPart (cs ++ '#' :: more) =
    (exponentPart cs).map (Prod.map id (· ++ '#' :: more)) := by
  cases cs with
  | nil => cases more <;> simp [exponentPart, isExponentMark]
  | cons c cs =>
    cases cs with
    | nil => simp [exponentPart]
    | cons d cs =>
      rw [List.cons_append, List.cons_append]
      simp only [exponentPart]
      split
      · rw [← List.cons_append, decimalRun_comment]
        simp [Function.comp_def]
      split
      · cases cs with
        | nil => simp
        | cons e cs =>
          simp only [List.cons_append]
          split
          · rw [← List.cons_append, decimalRun_comment]
            simp [Function.comp_def]
          · rfl
      · rfl

theorem plainEnd_comment (cs : List Char) {x y : Constant} {isFloat isOctal isLong : Prop}
    [Decidable isFloat] [Decidable isOctal] [Decidable isLong] :
    (if (!endsNumber (cs ++ '#' :: more)) = true then none else if isFloat then some (x,
      cs ++ '#' :: more)
      else if isOctal then none else if isLong then none else some (y, cs ++ '#' :: more)) =
    (if (!endsNumber cs) = true then none else if isFloat then some (x, cs)
      else if isOctal then none
      else if isLong then none else some (y, cs)).map (Prod.map id (· ++ '#' :: more)) := by
  rw [endsNumber_comment]
  split_ifs <;> rfl

theorem decimalNumber_comment : decimalNumber (cs ++ '#' :: more) =
    (decimalNumber cs).map (Prod.map id (· ++ '#' :: more)) := by
  simp only [decimalNumber, decimalRun_comment, Option.bind_eq_bind]
  cases digitRun Char.isDigit cs with
  | none => rfl
  | some p =>
    simp only [Option.map_some, Option.bind_some, Prod.map, id, fractionPart_comment]
    cases fractionPart p.2 with
    | none => rfl
    | some q =>
      simp only [Option.map_some, Option.bind_some, Prod.map, id, exponentPart_comment]
      cases exponentPart q.2 with
      | none => rfl
      | some r =>
        obtain ⟨exponent, rest⟩ := r
        cases rest with
        | nil => exact plainEnd_comment []
        | cons c rest =>
          by_cases hc : (c == 'j' || c == 'J') = true
          · simp only [Option.map_some, Option.bind_some, Prod.map, id, List.cons_append, hc,
              if_true, endsNumber_comment]
            split <;> rfl
          · simp only [Option.map_some, Option.bind_some, Prod.map, id, List.cons_append, hc,
              Bool.false_eq_true, if_false]
            exact plainEnd_comment (c :: rest)

theorem numberLiteral_decimal
    (h : ∀ c rest, cs = '0' :: c :: rest → c ∉ ['x', 'X', 'o', 'O', 'b', 'B']) :
    numberLiteral cs = decimalNumber cs := by
  unfold numberLiteral
  split
  next c rest =>
    have hc := h c rest rfl
    simp only [List.mem_cons, List.not_mem_nil, or_false, not_or] at hc
    simp [hc]
  next => rfl

theorem numberLiteral_comment : numberLiteral (cs ++ '#' :: more) =
    (numberLiteral cs).map (Prod.map id (· ++ '#' :: more)) := by
  by_cases hbase : ∃ c rest, cs = '0' :: c :: rest
  · obtain ⟨c, cs, rfl⟩ := hbase
    rw [List.cons_append, List.cons_append, numberLiteral.eq_1, numberLiteral.eq_1]
    split_ifs
    · exact radixNumber_comment (by decide)
    · exact radixNumber_comment (by decide)
    · exact radixNumber_comment (by decide)
    · rw [← List.cons_append, ← List.cons_append, decimalNumber_comment]
  · rw [numberLiteral_decimal, numberLiteral_decimal, decimalNumber_comment]
    · exact fun c rest heq => absurd ⟨c, rest, heq⟩ hbase
    · intro c rest heq
      cases cs with
      | nil => cases heq
      | cons d cs =>
        cases cs with
        | nil =>
          cases heq
          decide
        | cons e cs =>
          cases heq
          exact absurd ⟨_, _, rfl⟩ hbase

end Numbers

section Steps

variable {depth : Nat} {fresh : Bool} {cs more rest note : List Char} {s : LexStep}

theorem span_comment {p : Char → Bool} (hp : p '#' = false) :
    (cs ++ '#' :: more).span p = Prod.map id (· ++ '#' :: more) (cs.span p) :=
  span_extend rfl fun _ c hc => by
    cases hc
    exact hp

theorem gapStep_comment : gapStep depth fresh (cs ++ '#' :: more) =
    (gapStep depth fresh cs).map (·.extend ('#' :: more)) := by
  simp only [gapStep, span_comment (show isGap '#' = false by decide), Prod.map, id]
  generalize (cs.span isGap).2 = rest
  cases rest with
  | nil => simp [LexStep.extend]
  | cons c rest =>
    simp only [List.cons_append]
    split <;> rfl

theorem symbolStep_comment : symbolStep depth (cs ++ '#' :: more) =
    (symbolStep depth cs).map (·.extend ('#' :: more)) := by
  have hmark : ∀ p ∈ symbols, '#' ∉ p.1 := by decide
  exact symbolStep_append fun p hp => isPrefixOf_comment (hmark p hp)

/-- What has been read, with another comment in the text behind it. -/
theorem retold (step : List Char → Option LexStep)
    (hstep : ∀ more, step (cs ++ '#' :: more) = (step cs).map (·.extend ('#' :: more)))
    (h : step (cs ++ '#' :: more) = some s) (hrest : s.rest = rest ++ '#' :: more) :
    step (cs ++ '#' :: note) = some { s with rest := rest ++ '#' :: note } := by
  rw [hstep, Option.map_eq_some_iff] at h
  obtain ⟨s, hs, rfl⟩ := h
  rw [hstep, hs, List.append_cancel_right hrest.symm]
  rfl

theorem textLiteral_comment {marks : TextMarks} {part : TextPart} {mark : Char}
    (hquote : isQuote mark = true)
    (h : textLiteral marks (mark :: cs ++ '#' :: more) = some (part, rest ++ '#' :: more)) :
    textLiteral marks (mark :: cs ++ '#' :: note) = some (part, rest ++ '#' :: note) := by
  obtain ⟨used, hused, hlocal⟩ := textLiteral_local hquote h
  have hboth : (used ++ mark :: rest) ++ '#' :: more = (mark :: cs) ++ '#' :: more := by
    rw [List.append_assoc]
    exact hused
  rw [← List.append_cancel_right hboth, List.append_assoc, List.cons_append]
  refine hlocal _ fun hhead => ?_
  cases rest with
  | nil => exact hhead
  | cons c rest => exact hhead

theorem wordStep_comment (h : wordStep depth (cs ++ '#' :: more) = some s)
    (hrest : s.rest = rest ++ '#' :: more) :
    wordStep depth (cs ++ '#' :: note) = some { s with rest := rest ++ '#' :: note } := by
  obtain ⟨w, behind, hspan⟩ : ∃ w behind, cs.span isWordChar = (w, behind) := ⟨_, _, rfl⟩
  obtain ⟨rfl, hw, hbehind⟩ := span_eq_append hspan
  by_cases hplain : (∀ c ∈ behind.head?, isQuote c = false) ∨ TextMarks.ofWord w = none
  · refine retold (wordStep depth) (fun more => ?_) h hrest
    rw [List.append_assoc, wordStep_plain hw hbehind hplain, wordStep_plain hw]
    · rw [Option.map_map]
      rfl
    · cases behind with
      | nil => simp [isWordChar]
      | cons c behind => exact hbehind
    · cases behind with
      | nil => exact .inl (by simp [isQuote])
      | cons c behind => exact hplain
  · simp only [not_or, not_forall, Bool.not_eq_false] at hplain
    obtain ⟨⟨c, hc, hquote⟩, hmarks⟩ := hplain
    obtain ⟨behind, rfl⟩ := List.head?_eq_some_iff.1 hc
    obtain ⟨marks, hmarks⟩ := Option.ne_none_iff_exists'.1 hmarks
    rw [List.append_assoc, List.cons_append, wordStep_text hw hquote hmarks] at h ⊢
    obtain ⟨⟨p, rest'⟩, htext, rfl⟩ := Option.map_eq_some_iff.1 h
    cases hrest
    rw [← List.cons_append] at htext ⊢
    rw [textLiteral_comment hquote htext]
    rfl

/-- A step that ends in front of a comment does not depend on what the comment says. -/
theorem lexStep_comment (h : lexStep depth fresh (cs ++ '#' :: more) = some s)
    (hrest : s.rest = rest ++ '#' :: more) :
    lexStep depth fresh (cs ++ '#' :: note) = some { s with rest := rest ++ '#' :: note } := by
  cases cs with
  | nil =>
    have hlength := congrArg List.length hrest
    cases h
    have hle : (more.dropWhile (· != '\n')).length ≤ more.length :=
      (List.dropWhile_suffix _).length_le
    simp at hlength
    omega
  | cons c cs =>
    have hkind : PieceKind.of c (cs ++ '#' :: more) = PieceKind.of c (cs ++ '#' :: note) :=
      PieceKind.of_congr (by cases cs <;> rfl)
    have hbegins := PieceKind.begins_of c (cs ++ '#' :: note)
    rw [List.cons_append, lexStep_eq] at h ⊢
    rw [hkind] at h
    generalize PieceKind.of c (cs ++ '#' :: note) = kind at h hbegins ⊢
    cases kind with
    | gap =>
      rw [PieceKind.step, ← List.cons_append] at h ⊢
      exact retold (gapStep depth fresh) (fun _ => gapStep_comment) h hrest
    | lineFeed =>
      simp only [PieceKind.step] at h ⊢
      split at h <;> cases h <;> rename_i hopen <;> simp only [hopen] <;>
        rw [List.append_cancel_right hrest] <;> rfl
    | note =>
      cases h
      dsimp only at hrest
      rw [PieceKind.step]
      by_cases hmem : '\n' ∈ cs
      · rw [dropWhile_append_of_mem hmem rfl] at hrest ⊢
        rw [List.append_cancel_right hrest]
      · have hlength := congrArg List.length hrest
        have hle : (more.dropWhile (· != '\n')).length ≤ more.length :=
          (List.dropWhile_suffix _).length_le
        rw [dropWhile_append_of_line hmem, List.dropWhile_cons_of_pos (by decide),
          List.length_append, List.length_cons] at hlength
        omega
    | joint =>
      cases cs with
      | nil => simp [PieceKind.step] at h
      | cons d cs =>
        by_cases hd : d = '\n'
        · subst hd
          cases cs with
          | nil =>
            cases h
            obtain rfl : rest = [] := by simpa using hrest
            rfl
          | cons e cs =>
            cases h
            obtain rfl : e :: cs = rest := List.append_cancel_right hrest
            rfl
        · simp [PieceKind.step, hd] at h
    | text =>
      obtain ⟨⟨p, rest'⟩, htext, rfl⟩ := Option.map_eq_some_iff.1 h
      cases hrest
      rw [← List.cons_append] at htext
      rw [PieceKind.step, ← List.cons_append, textLiteral_comment hbegins htext]
      rfl
    | number =>
      rw [PieceKind.step, ← List.cons_append, numberLiteral_comment, Option.map_map] at h ⊢
      obtain ⟨⟨k, rest'⟩, hread, rfl⟩ := Option.map_eq_some_iff.1 h
      cases List.append_cancel_right hrest
      rw [hread]
      rfl
    | word =>
      rw [PieceKind.step, ← List.cons_append] at h ⊢
      exact wordStep_comment h hrest
    | symbol =>
      rw [PieceKind.step, ← List.cons_append] at h ⊢
      exact retold (symbolStep depth) (fun _ => symbolStep_comment) h hrest

end Steps

end TaxFlow.Formula

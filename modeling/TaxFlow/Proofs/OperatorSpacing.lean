import TaxFlow.Proofs.OperatorTexts

/-!
# Blanks around boolean operators

With blanks around its sign, a boolean operator is a word that stands by itself. Without them it may
run together with a word or a number beside it. Then the source is in error or has another value,
and otherwise blanks make no difference.
-/
namespace TaxFlow.Formula

section Joined

variable {op : BoolOp} {d n : Nat} {f : Bool} {as cs q : List Char} {t : Token} {k : Constant}
    {before us : List Token}

theorem digitRun_append_of_nil {isDigit : Char → Bool} {ds more : List Char}
    (h : digitRun isDigit cs = some (ds, [])) :
    digitRun isDigit (cs ++ more) = (digitRun isDigit more).map fun (es, rest) =>
      (ds ++ es, rest) := by
  fun_induction digitRun isDigit cs generalizing ds with
  | case1 =>
    cases h
    simp
  | case2 | case4 => cases h
  | case3 c cs hc ih =>
    obtain ⟨⟨ds, rest⟩, hrun, hresult⟩ := Option.map_eq_some_iff.1 h
    cases hresult
    simp [digitRun, hc, ih hrun, Function.comp_def]
  | case5 c cs hlast hunder hc ih =>
    obtain ⟨⟨ds, rest⟩, hrun, hresult⟩ := Option.map_eq_some_iff.1 h
    cases hresult
    rw [List.cons_append, digitRun_cons (ne_underscore hlast hunder), if_pos hc, ih hrun,
      Option.map_map]
    rfl
  | case6 => cases h

/-- A hexadecimal number takes the first letter of `and`, a zero the first letter of `or` for the
mark of a base. -/
theorem numberLiteral_joins (h : numberLiteral q = some (k, []))
    (hjoins : joins op (.number k) q = true) :
    numberLiteral (q ++ (op.word ++ cs)) = none := by
  cases op with
  | and =>
    simp only [joins, isHexadecimal] at hjoins
    split at hjoins
    next x q =>
      have hletter : digitRun (fun d => (Text.hexValue? d).isSome) ('a' :: 'n' :: 'd' :: cs) =
          some (['a'], 'n' :: 'd' :: cs) := by
        rw [digitRun_cons (by decide), if_pos (by decide), digitRun_cons (by decide),
          if_neg (by decide)]
        rfl
      rw [numberLiteral, if_pos hjoins] at h
      simp only [radixNumber, Option.bind_eq_bind, Option.bind_eq_some_iff, Prod.exists] at h
      obtain ⟨ds, rest, hrun, h⟩ := h
      split at h <;> cases h
      rw [List.cons_append, List.cons_append, numberLiteral, if_pos hjoins, radixNumber,
        digitRun_append_of_nil hrun]
      simp [BoolOp.word, hletter, endsNumber, isWordChar]
    next => cases hjoins
  | or =>
    obtain rfl : q = ['0'] := by simpa [joins] using hjoins
    have hletter : digitRun (fun d => '0' ≤ d && d ≤ '7') ('r' :: cs) = some ([], 'r' :: cs) := by
      rw [digitRun_cons (by decide), if_neg (by decide)]
    simp [BoolOp.word, numberLiteral, radixNumber, hletter]

/-- Nothing is read from a number that is joined with an operator. -/
theorem Ending.joined_number (h : Ending 0 true as before q f ⟨some (.number k), [], 0, false⟩)
    (hjoins : joins op (.number k) q = true) :
    tokensFrom 0 true (as ++ (op.word ++ cs)) = none := by
  obtain ⟨d, hstep, hgoes⟩ := h.goes_on
  obtain ⟨hbegins, hread⟩ := (lexStep_kind hstep).number_eq
  have hnone : lexStep d f (q ++ (op.word ++ cs)) = none := by
    rw [lexStep_number (beginsNumber_append hbegins), numberLiteral_joins hread hjoins]
    rfl
  rw [hgoes _ head_isOperatorStart, tokensFrom_eq_none hnone (by simp [op.word_ne_nil]),
    Option.map_none]

theorem mem_keywords {w : List Char} {k : Keyword} (h : wordToken w = some (.keyword k)) :
    (String.ofList w, k) ∈ keywords := by
  unfold wordToken at h
  split at h
  next k hk =>
    cases h
    obtain ⟨l₁, l₂, hwords, -⟩ := List.lookup_eq_some_iff.1 hk
    simp [hwords]
  next => split at h <;> cases h

/-- A word that holds more than an operator is none itself. -/
theorem not_isConnective {w v : List Char} (hw : w ≠ [])
    (h : wordToken (w ++ (op.word ++ v)) = some t) :
    t.isConnective = false := by
  have hwords : ∀ p ∈ keywords, (Token.keyword p.2).isConnective = true →
      p.1.toList = ['a', 'n', 'd'] ∨ p.1.toList = ['o', 'r'] := by decide
  rw [← Bool.not_eq_true]
  intro ht
  rcases wordToken_isWord h with ⟨id, rfl⟩ | ⟨k, rfl⟩
  · cases ht
  · have hspelled := hwords _ (mem_keywords h) ht
    obtain ⟨c, w, rfl⟩ := List.exists_cons_of_ne_nil hw
    rw [String.toList_ofList] at hspelled
    have hlength := hspelled.imp (congrArg List.length) (congrArg List.length)
    cases w with
    | nil => cases op <;> simp [BoolOp.word] at hspelled
    | cons d w => cases op <;> simp [BoolOp.word] at hlength <;> omega

/-- A word that begins with an operator and goes on is a name. -/
theorem wordToken_goesOn {v : List Char} (hv : v ≠ []) (h : wordToken (op.word ++ v) = some t) :
    ∃ id, t = .name id := by
  have hwords : ∀ p ∈ keywords, op.word <+: p.1.toList → p.1.toList = op.word := by
    cases op <;> decide
  refine (wordToken_isWord h).resolve_right fun ⟨k, hk⟩ => ?_
  subst hk
  have hspelled := hwords _ (mem_keywords h) (by simp)
  exact hv (by simpa using hspelled)

/-- A word with an operator and another word behind it is one word. -/
theorem tokensFrom_operator_joined {w : List Char} (hw : ∀ c ∈ w, isWordChar c = true)
    (hdigit : ∀ c ∈ w.head?, c.isDigit = false)
    (h : tokensFrom d f (w ++ (op.word ++ cs)) = some us) :
    ∃ t vs, wordToken (w ++ (op.word ++ cs.takeWhile isWordChar)) = some t ∧ us = t :: vs ∧
      tokensFrom d false (cs.dropWhile isWordChar) = some vs := by
  obtain ⟨k, v, hop, hk, -⟩ := op.head_word
  have hword : ∀ c ∈ w ++ (op.word ++ cs.takeWhile isWordChar), isWordChar c = true := by
    intro c hc
    rcases List.mem_append.1 hc with hc | hc
    · exact hw c hc
    · exact (List.mem_append.1 hc).elim (op.isWordChar_of_mem c) List.mem_takeWhile_imp
  have hhead : ∀ c ∈ (w ++ (op.word ++ cs.takeWhile isWordChar)).head?, c.isDigit = false := by
    cases w with
    | nil => simpa [hop] using hk
    | cons c w => exact hdigit
  have hsub : op.word ⊆ w ++ (op.word ++ cs.takeWhile isWordChar) := by simp
  have hstep : lexStep d f (w ++ (op.word ++ cs)) =
      (wordToken (w ++ (op.word ++ cs.takeWhile isWordChar))).map fun t =>
        ⟨some t, cs.dropWhile isWordChar, d, false⟩ := by
    rw [← lexStep_operator hword hhead hsub of_mem_head?_dropWhile, List.append_assoc,
      List.append_assoc, List.takeWhile_append_dropWhile]
  cases ht : wordToken (w ++ (op.word ++ cs.takeWhile isWordChar)) with
  | none =>
    rw [ht] at hstep
    rw [tokensFrom_eq_none hstep (by simp [hop])] at h
    cases h
  | some t =>
    have hlength : (cs.dropWhile isWordChar).length ≤ cs.length :=
      (List.dropWhile_suffix _).length_le
    rw [ht] at hstep
    rw [tokensFrom_of_lexStep hstep (by simp [hop]; omega), Option.map_eq_some_iff] at h
    obtain ⟨vs, hvs, rfl⟩ := h
    exact ⟨t, vs, rfl, rfl, hvs⟩

/-- An operator in front of a word is a name together with it. -/
theorem tokensFrom_goesOn (hgoes : goesOn cs = true)
    (h : tokensFrom d false (op.word ++ cs) = some us) :
    ∃ id vs, us = .name id :: vs := by
  have htaken : cs.takeWhile isWordChar ≠ [] := by
    cases cs with
    | nil => cases hgoes
    | cons c cs =>
      cases hc : isWordChar c with
      | true => simp [hc]
      | false => simp [goesOn, hc] at hgoes
  obtain ⟨t, vs, ht, rfl, -⟩ := tokensFrom_operator_joined (w := []) (by simp) (by simp) h
  obtain ⟨id, rfl⟩ := wordToken_goesOn htaken ht
  exact ⟨id, vs, rfl⟩

/-- An operator behind a word, and the word behind the operator, belong to it. -/
theorem Ending.joined_word (h : Ending 0 true as before q f ⟨some t, [], 0, false⟩)
    (ht : (∃ id, t = .name id) ∨ ∃ k, t = .keyword k)
    (hus : tokensFrom 0 true (as ++ (op.word ++ cs)) = some us) :
    ∃ u vs, us = before ++ u :: vs ∧ u.isConnective = false ∧
      tokensFrom 0 false (cs.dropWhile isWordChar) = some vs := by
  obtain ⟨d, hstep, hgoes⟩ := h.goes_on
  obtain ⟨hq, hdigit, rfl⟩ := (lexStep_kind hstep).word_eq ht
  have hne : q ≠ [] := by
    rintro rfl
    cases hstep
  rw [hgoes _ head_isOperatorStart, Option.map_eq_some_iff] at hus
  obtain ⟨us, hus, rfl⟩ := hus
  obtain ⟨u, vs, hu, rfl, hvs⟩ := tokensFrom_operator_joined hq hdigit hus
  exact ⟨u, vs, rfl, not_isConnective hne hu, hvs⟩

/-- Whether a number at the beginning of a text is a whole word. -/
def numberIsWord (cs : List Char) : Bool :=
  !cs.head?.any Char.isDigit ||
    match numberLiteral cs with
    | some (_, rest) => rest == cs.dropWhile isWordChar
    | none => true

theorem textLiteral_rest {marks marks' : TextMarks} {p p' : TextPart} {rest rest' : List Char}
    (h : textLiteral marks cs = some (p, rest)) (h' : textLiteral marks' cs = some (p', rest')) :
    rest = rest' := by
  cases cs with
  | nil => cases h
  | cons mark cs =>
    simp only [textLiteral, Option.bind_eq_bind] at h h'
    by_cases hlong : [mark, mark].isPrefixOf cs = true
    all_goals
      simp only [hlong, if_true, if_false, Bool.false_eq_true, Option.bind_eq_some_iff,
        Prod.exists] at h h'
      obtain ⟨body, r, hbody, part, -, h⟩ := h
      obtain ⟨body', r', hbody', part', -, h'⟩ := h'
      cases hbody.symm.trans hbody'
      cases h
      cases h'
      rfl

theorem lexStep_quote {mark : Char} (h : isQuote mark = true) : lexStep d f (mark :: cs) =
    (textLiteral ⟨false, false, false⟩ (mark :: cs)).map fun (p, rest) =>
      ⟨some (.text p), rest, d, false⟩ := by
  simp only [isQuote, Bool.or_eq_true, beq_iff_eq] at h
  rcases h with rfl | rfl <;> simp [lexStep, isGap]

/-- Without the word at its beginning, a text has no other boolean operators than with it. -/
theorem countP_dropWhile_le {vs : List Token} (hnumber : numberIsWord cs = true)
    (hus : tokensFrom d false cs = some us)
    (hvs : tokensFrom d false (cs.dropWhile isWordChar) = some vs) :
    vs.countP Token.isConnective ≤ us.countP Token.isConnective := by
  cases cs with
  | nil =>
    cases hus.symm.trans hvs
    exact Nat.le_refl _
  | cons c cs =>
    cases hc : isWordChar c with
    | false =>
      rw [List.dropWhile_cons_of_neg (by simp [hc])] at hvs
      cases hus.symm.trans hvs
      exact Nat.le_refl _
    | true =>
      obtain ⟨s, us, hstep, -, hbehind, rfl⟩ := tokensFrom_cases hus (by simp)
      rw [List.countP_append]
      refine Nat.le_add_left_of_le (Nat.le_of_eq ?_)
      cases hdigit : c.isDigit with
      | true =>
        rw [lexStep_digit hdigit, Option.map_eq_some_iff] at hstep
        obtain ⟨⟨k, rest⟩, hread, rfl⟩ := hstep
        simp only [numberIsWord, List.head?_cons, Option.any_some, hdigit, hread] at hnumber
        rw [← eq_of_beq hnumber] at hvs
        cases hbehind.symm.trans hvs
        rfl
      | false =>
        rw [Lexes.lexStep_word hc hdigit] at hstep
        obtain ⟨w, rest, hcs, hw, hrest, hcases⟩ := wordStep_cases hstep
        have hspan := Lexes.span_append hw hrest
        rw [← hcs, List.span_eq_takeWhile_dropWhile] at hspan
        rw [(Prod.mk.inj hspan).2] at hvs
        rcases hcases with ⟨t, -, rfl, -⟩ | ⟨marks, p, rest', -, ⟨mark, hmark, hquote⟩, htext, rfl⟩
        · cases hbehind.symm.trans hvs
          rfl
        · -- the marks in front of a string belong to the word, and the string is read without them
          obtain ⟨rest, rfl⟩ := List.head?_eq_some_iff.1 hmark
          obtain ⟨s, vs, hstep', -, hbehind', rfl⟩ := tokensFrom_cases hvs (by simp)
          rw [lexStep_quote hquote, Option.map_eq_some_iff] at hstep'
          obtain ⟨⟨p', rest''⟩, htext', rfl⟩ := hstep'
          cases textLiteral_rest htext htext'
          cases hbehind.symm.trans hbehind'
          simp [Token.isConnective, Token.role]

end Joined

/-- Whether the word of an operator without blanks around it runs together with what stands beside
it. Behind a comment this can only happen on a new line. -/
def runsTogether (op : BoolOp) (a b : List Char) : Bool :=
  match lastPiece 0 true (leftText a) with
  | some (some t, q) => goesOn (respelled b) || (leftBlanks a).isEmpty && joins op t q
  | _ => goesOn (respelled b) && (leftBlanks a).contains '\n'

/-- Whether a text ends in a word, and no blanks stand behind it. -/
def endsInWord (cs : List Char) : Bool :=
  match lastPiece 0 true (leftText cs) with
  | some (some (.name _), _) | some (some (.keyword _), _) => (leftBlanks cs).isEmpty
  | _ => false

section Spacing

variable {op : BoolOp} {n : Nat} {a b cs : List Char} {ts : List Token}
    {ss : List Statement} {e : Expr}

theorem script?_congr {xs ys : List Char}
    (h : tokensFrom 0 true (Text.withLineFeeds xs) = tokensFrom 0 true (Text.withLineFeeds ys)) :
    script? xs = script? ys :=
  congrArg (Option.bind · _) h

theorem script?_eq_none {xs : List Char} (h : Unreadable (Text.withLineFeeds xs)) :
    script? xs = none := by
  rw [Option.eq_none_iff_forall_ne_some]
  intro ss hss
  obtain ⟨ts, hts, hss⟩ := Option.bind_eq_some_iff.1 hss
  cases hss.symm.trans (h ts hts _)

theorem leftText_eq_concat (h : prepared a ≠ []) :
    ∃ front c, leftText a = front ++ [c] ∧ (prepared a).getLast? = some c ∧
      Text.isBlank c = false := by
  obtain ⟨front, c, hconcat⟩ := (List.eq_nil_or_concat _).resolve_left h
  have hlast : (prepared a).getLast? = some c := by simp [hconcat]
  have hblank : Text.isBlank c = false := isBlank_of_getLast?_trimmed c hlast
  have hne : ∀ k, Text.isBlank k = true → c ≠ k := by
    rintro k hk rfl
    simp [hblank] at hk
  refine ⟨Text.withLineFeeds front, c, ?_, hlast, hblank⟩
  rw [leftText, hconcat, List.concat_eq_append, withLineFeeds_append (hne '\n' (by decide))]
  simp [Text.withLineFeeds, hne '\r' (by decide)]

theorem getLast?_leftText (h : prepared a ≠ []) :
    (leftText a).getLast? = (prepared a).getLast? := by
  obtain ⟨front, c, hleft, hlast, -⟩ := leftText_eq_concat h
  rw [hleft, hlast, List.getLast?_concat]

/-- A character at the end of a text that is no blank stays there. -/
theorem getLast?_prepared {c : Char} (hblank : Text.isBlank c = false)
    (h : (respelled a).getLast? = some c) :
    (prepared a).getLast? = some c := by
  obtain ⟨front, hfront⟩ := List.getLast?_eq_some_iff.1 h
  have htrimmed :=
    trimmed_around (a := front) (b := []) (w := [c]) (by simp) (by simpa using hblank)
  rw [prepared_eq_trimmed, hfront, ← List.append_nil [c], htrimmed]
  simp

/-- How the text in front of an operator ends: in a comment, or in a token. -/
theorem exists_leftEnding (ha : prepared a ≠ []) (hts : tokensFrom 0 true (leftText a) = some ts) :
    ∃ before q f, (∃ note, q = '#' :: note ∧ '\n' ∉ note ∧
      Ending 0 true (leftText a) before q f ⟨none, [], 0, f⟩) ∨
      ∃ t, ts = before ++ [t] ∧ Ending 0 true (leftText a) before q f ⟨some t, [], 0, false⟩ ∧
        ∀ c ∈ (leftText a).getLast?, EndsPiece (some t) c := by
  obtain ⟨front, c, hleft, -, hblank⟩ := leftText_eq_concat ha
  obtain ⟨before, q, f, s, hending, rfl⟩ := exists_ending hts (by simp [hleft])
  rcases hending.cases (by simpa [hleft] using hblank) with ⟨note, rfl, hnote,
    rfl⟩ | ⟨t, rfl, hends⟩
  · exact ⟨before, _, f, .inl ⟨note, rfl, hnote, hending⟩⟩
  · exact ⟨before, q, f, .inr ⟨t, rfl, hending, hends⟩⟩

/-- A text that is read as a script ends in the character of an operator only within a comment. -/
theorem getLast?_respelled_ne {before : List Token} {t : Token} (ha : prepared a ≠ [])
    (hends : ∀ c ∈ (leftText a).getLast?, EndsPiece (some t) c)
    (hss : statements n (before ++ [t]) = some ss) :
    (respelled a).getLast? ≠ some op.mark := by
  have hmark : Text.isBlank op.mark = false := by cases op <;> decide
  have hbits : ∀ p ∈ symbols, p.1.getLast? = some op.mark → (Token.symbol p.2).role = .bit := by
    cases op <;> decide
  intro hlast
  have hends := hends op.mark (by rw [getLast?_leftText ha, getLast?_prepared hmark hlast]; rfl)
  have ht : t.role = .bit := by
    cases t with
    | name | keyword
    | number => cases op <;> simp [EndsPiece, BoolOp.mark, isNumberChar, isWordChar] at hends
    | text => cases op <;> simp [EndsPiece, BoolOp.mark, isQuote] at hends
    | lineEnd => simp [EndsPiece, hmark] at hends
    | symbol x =>
      obtain ⟨p, hp, rfl, hspelled⟩ := hends
      exact hbits p hp hspelled
  -- an operand would be due behind it
  obtain ⟨c, hwalk, hplace⟩ := statements_walk hss (c := ⟨0, .start, [], 0, false⟩) rfl rfl
  rw [Cursor.walk_append, Option.bind_eq_some_iff] at hwalk
  obtain ⟨c', -, hstep⟩ := hwalk
  simp only [Cursor.walk, Cursor.step, ht, Option.bind_some, Option.some.injEq] at hstep
  exact hplace (by rw [← hstep]; rfl)

theorem isBlank_of_mem_leftBlanks : ∀ c ∈ leftBlanks a, Text.isBlank c = true := by
  intro c hc
  rcases mem_of_mem_withLineFeeds hc with hc | rfl
  · exact isBlank_of_mem_endBlanks c hc
  · decide

theorem prepared_concat_blank (ha : prepared a ≠ []) : prepared (a ++ [' ']) ≠ [] := by
  rw [prepared_eq_trimmed] at ha
  rwa [prepared_eq_trimmed, respelled_concat, trimmed_concat_blank ha]

/-- The text with blanks around the operator. -/
theorem withLineFeeds_prepared_spaced (ha : prepared a ≠ []) (hb : prepared b ≠ []) :
    Text.withLineFeeds (prepared (a ++ [' '] ++ op.mark :: op.mark :: ' ' :: b)) =
      leftText a ++ (leftBlanks a ++ [' '] ++ (op.word ++ ' ' :: rightText b)) := by
  have hmark : op.mark ≠ ' ' := by cases op <;> decide
  rw [withLineFeeds_prepared_operator (prepared_concat_blank ha)
    (by simpa [respelled_concat] using hmark.symm), leftText_concat_blank ha,
    leftBlanks_concat_blank, rightText_cons_blank hb]

theorem detached_blank : Detached (' ' :: cs) := by
  intro c hc
  cases hc
  decide

theorem leftBlanks_eq_nil {c : Char} (hblank : Text.isBlank c = false)
    (h : (respelled a).getLast? = some c) :
    leftBlanks a = [] := by
  obtain ⟨front, hfront⟩ := List.getLast?_eq_some_iff.1 h
  simp [leftBlanks, endBlanks, hfront, hblank, Text.withLineFeeds]

/-- The same within a comment that ends in half an operator. -/
theorem script?_half {before : List Token} {note : List Char} {f : Bool} (ha : prepared a ≠ [])
    (hb : prepared b ≠ [])
    (hending : Ending 0 true (leftText a) before ('#' :: note) f ⟨none, [], 0, f⟩)
    (hnote : '\n' ∉ note) (hlast : (respelled a).getLast? = some op.mark) :
    script? (prepared (a ++ op.mark :: op.mark :: b)) =
      script? (prepared (a ++ [' '] ++ op.mark :: op.mark :: ' ' :: b)) := by
  have hmark : Text.isBlank op.mark = false := by cases op <;> decide
  have hline : '\n' ∉ leftBlanks a ++ [' '] := by simp [leftBlanks_eq_nil hmark hlast]
  refine script?_congr ?_
  rw [withLineFeeds_prepared_spaced ha hb, hending.within_note hnote hline,
    List.dropWhile_cons_of_pos (by decide)]
  obtain ⟨front, hfront, hcomment⟩ := hending.comment note rfl
  obtain ⟨a, rfl, hhalf⟩ := exists_half hlast
  rw [leftText_half hhalf] at hfront
  rcases List.eq_nil_or_concat note with rfl | ⟨note, c, rfl⟩
  · have hhash : some '#' = some op.mark := by simpa using congrArg List.getLast? hfront
    cases op <;> cases hhash
  rw [List.concat_eq_append, ← List.cons_append, ← List.append_assoc] at hfront
  have hword : '\n' ∉ note ++ op.word := by
    rw [List.mem_append, not_or]
    exact ⟨fun hmem => hnote (by simp [hmem]), op.line_not_mem⟩
  have hwithin : isWithinLine op.mark = true := by cases op <;> decide
  rw [withLineFeeds_prepared_half hhalf, ← (List.append_inj' hfront rfl).1, List.append_assoc,
    List.cons_append, ← List.append_assoc note, hcomment, tokensFrom_note hword,
    dropWhile_rightText, dropWhile_rightText,
    List.dropWhile_cons_of_pos hwithin]

/-- Blanks around an operator that does not run together with anything make no difference. -/
theorem script?_spaced (ha : prepared a ≠ []) (hb : prepared b ≠ [])
    (hts : tokensFrom 0 true (leftText a) = some ts)
    (hss : statements n ts = some ss) (h : runsTogether op a b = false) :
    script? (prepared (a ++ op.mark :: op.mark :: b)) =
      script? (prepared (a ++ [' '] ++ op.mark :: op.mark :: ' ' :: b)) := by
  have hblank : ∀ c ∈ leftBlanks a, Text.isBlank c = true := isBlank_of_mem_leftBlanks
  have hblank' : ∀ c ∈ leftBlanks a ++ [' '], Text.isBlank c = true :=
    List.forall_mem_append.2 ⟨hblank, List.forall_mem_singleton.2 rfl⟩
  obtain ⟨before, q, f, ⟨note, rfl, hnote, hending⟩ | ⟨t, rfl, hending, hends⟩⟩ :=
    exists_leftEnding ha hts
  · by_cases hmark : (respelled a).getLast? = some op.mark
    · exact script?_half ha hb hending hnote hmark
    simp only [runsTogether, hending.piece, Bool.and_eq_false_iff] at h
    by_cases hline : '\n' ∈ leftBlanks a
    · have hcs : Detached (rightText b) :=
        (detached_rightText hb).2 (h.resolve_right (by simpa using hline))
      rw [script?_eq_none, script?_eq_none]
      · rw [withLineFeeds_prepared_spaced ha hb]
        exact hending.behind_note hnote hblank' (by simp [hline]) detached_blank
      · rw [withLineFeeds_prepared_operator ha hmark]
        exact hending.behind_note hnote hblank hline hcs
    · refine script?_congr ?_
      rw [withLineFeeds_prepared_operator ha hmark, withLineFeeds_prepared_spaced ha hb,
        hending.within_note hnote hline, hending.within_note hnote (by simpa using hline),
        List.dropWhile_cons_of_pos (by decide)]
  · have hmark : (respelled a).getLast? ≠ some op.mark := getLast?_respelled_ne ha hends hss
    simp only [runsTogether, hending.piece, Bool.or_eq_false_iff, Bool.and_eq_false_iff] at h
    obtain ⟨hgoes, hjoins⟩ := h
    have hcs : Detached (rightText b) := (detached_rightText hb).2 hgoes
    by_cases hgap : ∀ c ∈ leftBlanks a, isGap c = true
    · have hgap' : ∀ c ∈ leftBlanks a ++ [' '], isGap c = true :=
        List.forall_mem_append.2 ⟨hgap, List.forall_mem_singleton.2 rfl⟩
      refine script?_congr ?_
      rw [withLineFeeds_prepared_operator ha hmark, withLineFeeds_prepared_spaced ha hb,
        hending.gaps hgap fun hnil => hjoins.resolve_left (by simp [hnil]),
        hending.gaps hgap' (by simp),
        tokensFrom_operator hcs, tokensFrom_operator detached_blank, tokensFrom_blank]
    · have hnot : ∃ c ∈ leftBlanks a, isGap c = false := by simpa using hgap
      rw [script?_eq_none, script?_eq_none]
      · rw [withLineFeeds_prepared_spaced ha hb]
        obtain ⟨c, hc, hnone⟩ := hnot
        exact hending.unreadable hblank' ⟨c, List.mem_append_left _ hc, hnone⟩ detached_blank
      · rw [withLineFeeds_prepared_operator ha hmark]
        exact hending.unreadable hblank hnot hcs

/-- The tokens of an expression that has blanks around an operator, which runs together with
something otherwise. -/
theorem exists_tokens_spaced (ha : prepared a ≠ []) (hb : prepared b ≠ [])
    (hts : tokensFrom 0 true (leftText a) = some ts)
    (hspaced : script? (prepared (a ++ [' '] ++ op.mark :: op.mark :: ' ' :: b)) = some ss)
    (h : runsTogether op a b = true) : ∃ before q f t us n, ts = before ++ [t] ∧
      Ending 0 true (leftText a) before q f ⟨some t, [], 0, false⟩ ∧
      (∀ c ∈ (leftText a).getLast?, EndsPiece (some t) c) ∧ (∀ c ∈ leftBlanks a, isGap c = true) ∧
      tokensFrom 0 false (rightText b) = some us ∧
      statements n (before ++ [t] ++ op.token :: us) = some ss := by
  have hblank : ∀ c ∈ leftBlanks a ++ [' '], Text.isBlank c = true :=
    List.forall_mem_append.2 ⟨isBlank_of_mem_leftBlanks, List.forall_mem_singleton.2 rfl⟩
  have hreadable :
      ¬ Unreadable (leftText a ++ (leftBlanks a ++ [' '] ++ (op.word ++ ' ' :: rightText b))) := by
    intro hnone
    rw [← withLineFeeds_prepared_spaced ha hb] at hnone
    cases hspaced.symm.trans (script?_eq_none hnone)
  obtain ⟨before, q, f, ⟨note, rfl, hnote, hending⟩ | ⟨t, rfl, hending, hends⟩⟩ :=
    exists_leftEnding ha hts
  · simp only [runsTogether, hending.piece, Bool.and_eq_true, List.contains_iff_mem] at h
    exact absurd
      (hending.behind_note hnote hblank (List.mem_append_left _ h.2) detached_blank) hreadable
  · by_cases hgap : ∀ c ∈ leftBlanks a, isGap c = true
    · have hgap' : ∀ c ∈ leftBlanks a ++ [' '], isGap c = true :=
        List.forall_mem_append.2 ⟨hgap, List.forall_mem_singleton.2 rfl⟩
      obtain ⟨us, hus, hss⟩ := Option.bind_eq_some_iff.1 hspaced
      rw [tokens?, withLineFeeds_prepared_spaced ha hb, hending.gaps hgap' (by simp),
        tokensFrom_operator detached_blank, tokensFrom_blank, Option.map_map,
        Option.map_eq_some_iff] at hus
      obtain ⟨us, hus, rfl⟩ := hus
      exact ⟨before, q, f, t, us, _, rfl, hending, hends, hgap, hus, hss⟩
    · obtain ⟨c, hc, hnone⟩ : ∃ c ∈ leftBlanks a, isGap c = false := by simpa using hgap
      exact absurd (hending.unreadable hblank ⟨c, List.mem_append_left _ hc,
        hnone⟩ detached_blank) hreadable

/-- If an operator runs together with something, the source has not the value that it has with
blanks around the operator. -/
theorem value_ne_of_runsTogether {s : Statement} {more : List Statement} (ha : prepared a ≠ [])
    (hb : prepared b ≠ [])
    (hts : tokensFrom 0 true (leftText a) = some ts) (hss : statements n ts = some ss)
    (hspaced : script?
      (prepared (a ++ [' '] ++ op.mark :: op.mark :: ' ' :: b)) = some [.expression e])
    (hnumber : endsInWord a = true → numberIsWord (rightText b) = true)
    (h : runsTogether op a b = true)
    (htight : script? (prepared (a ++ op.mark :: op.mark :: b)) = some (s :: more)) :
    s.value ≠ .ok (some e) := by
  intro hs
  obtain ⟨before, q, f, t, us, n, rfl, hending, hends, hgap, hus, hexpression⟩ :=
    exists_tokens_spaced ha hb hts hspaced h
  have hmark : (respelled a).getLast? ≠ some op.mark := getLast?_respelled_ne ha hends hss
  obtain ⟨vs, hvs, hss⟩ := Option.bind_eq_some_iff.1 htight
  rw [tokens?, withLineFeeds_prepared_operator ha hmark] at hvs
  by_cases hleft : leftBlanks a = [] ∧ joins op t q = true
  · obtain ⟨hnil, hjoins⟩ := hleft
    rw [hnil, List.nil_append] at hvs
    have hword : (∃ id, t = .name id) ∨ (∃ k, t = .keyword k) → False := by
      intro ht
      obtain ⟨u, ws, rfl, hu, hws⟩ := hending.joined_word ht hvs
      -- the operator is missing among the tokens, and so in the value
      have hle := connectives_le_of_statements hss hs
      have hends : endsInWord a = true := by
        rcases ht with ⟨id, rfl⟩ | ⟨k, rfl⟩ <;> simp [endsInWord, hending.piece, hnil]
      have hcount := countP_dropWhile_le (hnumber hends) hus hws
      obtain ⟨c, hwalk, hc, -⟩ := walk_of_expression hexpression
      have hall := walk_connectives hwalk
      have hop : op.token.isConnective = true := by rw [Token.isConnective, op.role_token]; rfl
      simp only [List.countP_append, List.countP_cons, hc, hu, hop, if_true, Bool.false_eq_true,
        if_false] at hle hall
      omega
    cases t with
    | name id => exact hword (.inl ⟨id, rfl⟩)
    | keyword k => exact hword (.inr ⟨k, rfl⟩)
    | number k => cases (hending.joined_number hjoins).symm.trans hvs
    | text | symbol | lineEnd => cases hjoins
  · have hgoes : goesOn (rightText b) = true := by
      rw [← Bool.not_eq_false, ← detached_iff_goesOn, detached_rightText hb, Bool.not_eq_false]
      simp only [runsTogether, hending.piece, Bool.or_eq_true, Bool.and_eq_true,
        List.isEmpty_iff] at h
      exact h.resolve_right hleft
    rw [hending.gaps hgap fun hnil => by simpa [hnil] using hleft, Option.map_eq_some_iff] at hvs
    obtain ⟨vs, hvs, rfl⟩ := hvs
    obtain ⟨id, vs, rfl⟩ := tokensFrom_goesOn hgoes hvs
    cases hss.symm.trans (statements_of_name_for_operator hexpression)

theorem value_congr {source other : String}
    (hnull : '\x00' ∈ source.toList ↔ '\x00' ∈ other.toList)
    (hscript : script? (prepared source.toList) = script? (prepared other.toList)) :
    value (some source) = value (some other) := by
  have hstatements : statementsOf (prepared source.toList) =
      statementsOf (prepared other.toList) := by
    have hcontains : (prepared source.toList).contains '\x00' =
        (prepared other.toList).contains '\x00' := by
      rw [Bool.eq_iff_iff, List.contains_iff_mem, List.contains_iff_mem, null_mem_prepared,
        null_mem_prepared, hnull]
    simp only [statementsOf, readerOf, hcontains, hscript]
  rw [value_eq, value_eq, firstStatement_some, firstStatement_some, hstatements]

theorem exists_tokens_of_value {source : String} {r : Option Expr}
    (h : value (some source) = .ok r) :
    prepared source.toList ≠ [] ∧ '\x00' ∉ source.toList ∧
      ∃ ts ss n, tokensFrom 0 true (leftText source.toList) = some ts ∧
      statements n ts = some ss := by
  obtain ⟨hnull, s, more, hscript, -⟩ := value_eq_ok_iff.1 h
  obtain ⟨ts, hts, hss⟩ := exists_tokensOf hscript
  refine ⟨fun hnil => ?_, fun hmem => hnull (null_mem_prepared.2 hmem), ts, _, _, hts, hss⟩
  have hempty : tokensFrom 0 true (Text.withLineFeeds []) = some [] := by
    simp [Text.withLineFeeds, tokensFrom]
  rw [tokensOf, tokens?, hnil, hempty] at hts
  cases hts
  cases hss

end Spacing

/-- How a boolean operator is written in chart notation. -/
def BoolOp.sign : BoolOp → String
  | .and => "&&"
  | .or => "||"

theorem BoolOp.toList_sign (op : BoolOp) : op.sign.toList = [op.mark, op.mark] := by
  cases op <;> rfl

/-- Between two sources that have a value, a boolean operator means the same with and without blanks
around it, if its word does not run together with what stands beside it. If it does, a source that
is an expression with these blanks is in error or has another value without them. -/
theorem operator_spacing (op : BoolOp) {a b : String} {x y : Option Expr}
    (ha : value (some a) = .ok x) (hb : value (some b) = .ok y) :
    (runsTogether op a.toList b.toList = false →
      value (some (a ++ op.sign ++ b)) = value (some (a ++ " " ++ op.sign ++ " " ++ b))) ∧
    ∀ e, scriptOf (a ++ " " ++ op.sign ++ " " ++ b) = some [.expression e] →
      (endsInWord a.toList = true → numberIsWord (rightText b.toList) = true) →
      runsTogether op a.toList b.toList = true →
      value (some (a ++ op.sign ++ b)) ≠ value (some (a ++ " " ++ op.sign ++ " " ++ b)) := by
  obtain ⟨ha, hnull, ts, ss, n, hts, hss⟩ := exists_tokens_of_value ha
  obtain ⟨hb, hnull', -⟩ := exists_tokens_of_value hb
  have htight : (a ++ op.sign ++ b).toList = a.toList ++ op.mark :: op.mark :: b.toList := by
    simp [op.toList_sign]
  have hspaced : (a ++ " " ++ op.sign ++ " " ++ b).toList =
      a.toList ++ [' '] ++ op.mark :: op.mark :: ' ' :: b.toList := by simp [op.toList_sign]
  refine ⟨fun h => value_congr ?_ ?_, fun e he hnumber h heq => ?_⟩
  · simp [htight, hspaced]
  · rw [htight, hspaced, script?_spaced ha hb hts hss h]
  · have hmark : '\x00' ≠ op.mark := by cases op <;> decide
    have hvalue : value (some (a ++ " " ++ op.sign ++ " " ++ b)) = .ok (some e) := by
      refine value_eq_ok_iff.2 ⟨?_, _, _, he, rfl⟩
      rw [null_mem_prepared, hspaced]
      simp [hnull, hmark, hnull']
    obtain ⟨-, s, more, hscript, hs⟩ := value_eq_ok_iff.1 (heq.trans hvalue)
    rw [scriptOf, htight] at hscript
    rw [scriptOf, hspaced] at he
    exact value_ne_of_runsTogether ha hb hts hss he hnumber h hscript hs

/-- Without blanks, two names and the operator between them are one name; two brackets are no
obstacle. -/
theorem twoNames_run_together :
    value (some ("A" ++ BoolOp.and.sign ++ "B")) ≠
      value (some ("A" ++ " " ++ BoolOp.and.sign ++ " " ++ "B")) ∧
    value (some ("(A)" ++ BoolOp.or.sign ++ "(B)")) =
      value (some ("(A)" ++ " " ++ BoolOp.or.sign ++ " " ++ "(B)")) := by
  have hvalue : ∀ (source : String) (ts : List Token) (e : Expr), '\x00' ∉ prepared source.toList →
      tokensOf source = some ts → statements (depthFor ts) ts = some [.expression e] →
      value (some source) = .ok (some e) := fun source ts e hnull hts hss =>
    value_eq_ok_iff.2 ⟨hnull, _, _, Option.bind_eq_some_iff.2 ⟨ts, hts, hss⟩, rfl⟩
  have ha := hvalue "A" [.name "A"] (.name "A") (by decide +kernel) (by decide +kernel) rfl
  have hb := hvalue "B" [.name "B"] (.name "B") (by decide +kernel) (by decide +kernel) rfl
  have ha' :=
    hvalue "(A)" [.symbol .openParen, .name "A", .symbol .closeParen] (.name "A")
      (by decide +kernel)
    (by decide +kernel) rfl
  have hb' :=
    hvalue "(B)" [.symbol .openParen, .name "B", .symbol .closeParen] (.name "B")
      (by decide +kernel)
    (by decide +kernel) rfl
  have htokens : tokensOf ("A" ++ " " ++ BoolOp.and.sign ++ " " ++ "B") =
      some [.name "A", .keyword .and, .name "B"] := by decide +kernel
  refine ⟨?_, (operator_spacing .or ha' hb').1 (by decide +kernel)⟩
  exact (operator_spacing .and ha hb).2 (.bool .and [.name "A", .name "B"])
    (Option.bind_eq_some_iff.2 ⟨_, htokens, rfl⟩) (fun _ => by decide +kernel) (by decide +kernel)

end TaxFlow.Formula

import TaxFlow.Proofs.BeforeComment
import TaxFlow.Proofs.Sources

/-!
# The last piece of a text

A text is read piece by piece: words, numbers, string literals, symbols, blanks and comments. Only
the last piece decides how more text behind it is read.
-/
namespace TaxFlow.Formula

section Used

variable {depth : Nat} {fresh : Bool} {cs rest : List Char} {s : LexStep}

/-- The characters of numbers and words. -/
def isNumberChar (c : Char) : Bool := isWordChar c || c == '.' || c == '+' || c == '-'

theorem isWordChar_of_isDigit {c : Char} (h : c.isDigit = true) : isWordChar c = true := by
  simp [isWordChar, Char.isAlphanum, h]

theorem isWordChar_of_hexValue? {c : Char} (h : (Text.hexValue? c).isSome = true) :
    isWordChar c = true := by
  simp only [isWordChar, Char.isAlphanum, Bool.or_eq_true, isDigit_iff, isAlpha_iff]
  have hle : ∀ {x y : Char}, x ≤ y → x.toNat ≤ y.toNat := fun h => UInt32.le_iff_toNat_le.1 h
  unfold Text.hexValue? at h
  split at h
  next hc => exact .inl (.inl (.inr ⟨hle hc.1, hle hc.2⟩))
  split at h
  next hc => exact .inl (.inl (.inl (.inr ⟨hle hc.1, Nat.le_trans (hle hc.2) (by decide)⟩)))
  split at h
  next hc => exact .inl (.inl (.inl (.inl ⟨hle hc.1, Nat.le_trans (hle hc.2) (by decide)⟩)))
  next => cases h

/-- Whether the characters in front of the rest of a text are those of a number. -/
def TakesDigits (cs rest : List Char) : Prop :=
  ∃ used, used ++ rest = cs ∧ ∀ c ∈ used, isNumberChar c = true

theorem TakesDigits.trans {ds : List Char} (h : TakesDigits cs ds) (h' : TakesDigits ds rest) :
    TakesDigits cs rest := by
  obtain ⟨used, rfl, hused⟩ := h
  obtain ⟨more, rfl, hmore⟩ := h'
  exact ⟨used ++ more, by simp, fun c hc => (List.mem_append.1 hc).elim (hused c) (hmore c)⟩

theorem TakesDigits.cons {c : Char} (hc : isNumberChar c = true) (h : TakesDigits cs rest) :
    TakesDigits (c :: cs) rest := by
  obtain ⟨used, rfl, hused⟩ := h
  exact ⟨c :: used, rfl, by simpa [hc] using hused⟩

theorem TakesDigits.refl : TakesDigits cs cs := ⟨[], rfl, by simp⟩

theorem digitRun_takes {isDigit : Char → Bool} {ds : List Char}
    (hdigit : ∀ c, isDigit c = true → isWordChar c = true)
    (h : digitRun isDigit cs = some (ds, rest)) : TakesDigits cs rest := by
  have hnumber : ∀ c, isDigit c = true → isNumberChar c = true := fun c hc => by
    simp [isNumberChar, hdigit c hc]
  fun_induction digitRun isDigit cs generalizing ds rest with
  | case1 => cases h; exact .refl
  | case2 | case4 => cases h
  | case3 c cs hc ih =>
    obtain ⟨⟨ds, rest⟩, hrun, hresult⟩ := Option.map_eq_some_iff.1 h
    cases hresult
    exact ((ih hrun).cons (hnumber c hc)).cons (by decide)
  | case5 c cs hlast hunder hc ih =>
    obtain ⟨⟨ds, rest⟩, hrun, hresult⟩ := Option.map_eq_some_iff.1 h
    cases hresult
    exact (ih hrun).cons (hnumber c hc)
  | case6 => cases h; exact .refl

theorem decimalRun_takes {ds : List Char} (h : digitRun Char.isDigit cs = some (ds, rest)) :
    TakesDigits cs rest :=
  digitRun_takes (fun _ => isWordChar_of_isDigit) h

theorem fractionPart_takes {fraction : Option (List Char)}
    (h : fractionPart cs = some (fraction, rest)) :
    TakesDigits cs rest := by
  by_cases hpoint : cs.head? = some '.'
  · obtain ⟨cs, rfl⟩ := List.head?_eq_some_iff.1 hpoint
    rw [fractionPart_point] at h
    refine TakesDigits.cons (by decide) ?_
    split at h
    · obtain ⟨⟨ds, rest⟩, hrun, hresult⟩ := Option.map_eq_some_iff.1 h
      cases hresult
      exact decimalRun_takes hrun
    · cases h
      exact .refl
  · rw [fractionPart_of_head fun c hc hne => hpoint (hne ▸ hc)] at h
    cases h
    exact .refl

theorem exponentPart_takes {exponent : Option Int} (h : exponentPart cs = some (exponent, rest)) :
    TakesDigits cs rest := by
  have hmark : ∀ c, isExponentMark c = true → isNumberChar c = true := fun c hc => by
    simp only [isExponentMark, Bool.or_eq_true, beq_iff_eq] at hc
    rcases hc with rfl | rfl <;> decide
  unfold exponentPart at h
  split at h
  next c d cs =>
    split at h
    next hdigit =>
      obtain ⟨⟨ds, rest⟩, hrun, hresult⟩ := Option.map_eq_some_iff.1 h
      cases hresult
      rw [Bool.and_eq_true] at hdigit
      exact (decimalRun_takes hrun).cons (hmark c hdigit.1)
    split at h
    next hsign =>
      simp only [Bool.and_eq_true, Bool.or_eq_true, beq_iff_eq] at hsign
      have hd : isNumberChar d = true := by rcases hsign.2 with rfl | rfl <;> decide
      split at h
      · split at h
        · obtain ⟨⟨ds, rest⟩, hrun, hresult⟩ := Option.map_eq_some_iff.1 h
          cases hresult
          exact ((decimalRun_takes hrun).cons hd).cons (hmark c hsign.1)
        · cases h
      · cases h
    next => cases h; exact .refl
  next => cases h; exact .refl

theorem decimalNumber_takes {k : Constant} (h : decimalNumber cs = some (k, rest)) :
    TakesDigits cs rest := by
  simp only [decimalNumber, Option.bind_eq_bind, Option.bind_eq_some_iff, Prod.exists] at h
  obtain ⟨whole, rest₁, hwhole, fraction, rest₂, hfraction, exponent, rest₃, hexponent, h⟩ := h
  refine ((decimalRun_takes hwhole).trans (fractionPart_takes hfraction)).trans
    ((exponentPart_takes hexponent).trans ?_)
  split at h
  next rest' himaginary =>
    split at himaginary
    next c rest₃ =>
      split at himaginary
      next hc =>
        cases himaginary
        split at h <;> cases h
        simp only [Bool.or_eq_true, beq_iff_eq] at hc
        refine TakesDigits.refl.cons ?_
        rcases hc with rfl | rfl <;> decide
      next => cases himaginary
    next => cases himaginary
  next =>
    have hrest : rest₃ = rest := by
      split at h
      · cases h
      · split at h
        · cases h; rfl
        · split at h
          · cases h
          · split at h <;> cases h
            rfl
    exact hrest ▸ .refl

theorem radixNumber_takes {base : Nat} {isDigit : Char → Bool} {k : Constant}
    (hdigit : ∀ c, isDigit c = true → isWordChar c = true)
    (h : radixNumber base isDigit cs = some (k, rest)) :
    TakesDigits cs rest := by
  simp only [radixNumber, Option.bind_eq_bind, Option.bind_eq_some_iff, Prod.exists] at h
  obtain ⟨ds, rest', hrun, h⟩ := h
  split at h <;> cases h
  exact digitRun_takes hdigit hrun

theorem numberLiteral_takes {k : Constant} (h : numberLiteral cs = some (k, rest)) :
    TakesDigits cs rest := by
  have hoctal : ∀ c : Char, ('0' ≤ c && c ≤ '7') = true → isWordChar c = true := fun c hc => by
    refine isWordChar_of_isDigit (isDigit_iff.2 ?_)
    simp only [Bool.and_eq_true, decide_eq_true_eq, Char.le_def, UInt32.le_iff_toNat_le] at hc
    exact ⟨hc.1, Nat.le_trans hc.2 (by decide)⟩
  have hbinary : ∀ c : Char, (c == '0' || c == '1') = true → isWordChar c = true := fun c hc => by
    simp only [Bool.or_eq_true, beq_iff_eq] at hc
    rcases hc with rfl | rfl <;> decide
  have hbase : ∀ {c x y : Char}, isNumberChar x = true → isNumberChar y = true →
      (c == x || c == y) = true →
      isNumberChar c = true := fun hx hy hc => by
    simp only [Bool.or_eq_true, beq_iff_eq] at hc
    rcases hc with rfl | rfl <;> assumption
  unfold numberLiteral at h
  split at h
  next c cs =>
    split at h
    next hc =>
      exact ((radixNumber_takes (fun _ => isWordChar_of_hexValue?) h).cons
        (hbase (by decide) (by decide) hc)).cons
        (by decide)
    split at h
    next hc =>
      exact ((radixNumber_takes hoctal h).cons (hbase (by decide) (by decide) hc)).cons (by decide)
    split at h
    next hc =>
      exact ((radixNumber_takes hbinary h).cons (hbase (by decide) (by decide) hc)).cons (by decide)
    next => exact decimalNumber_takes h
  next => exact decimalNumber_takes h

end Used

section Kinds

variable {depth : Nat} {fresh : Bool} {cs more : List Char} {s : LexStep} {ts : List Token}

theorem beginsNumber_append (h : beginsNumber cs = true) : beginsNumber (cs ++ more) = true := by
  cases cs with
  | nil => cases h
  | cons c cs => cases cs <;> simp_all [beginsNumber]

theorem lexStep_number (h : beginsNumber cs = true) : lexStep depth fresh cs =
    (numberLiteral cs).map fun (k, rest) => ⟨some (.number k), rest, depth, false⟩ := by
  cases cs with
  | nil => cases h
  | cons c cs =>
    simp only [beginsNumber, Bool.or_eq_true, Bool.and_eq_true, beq_iff_eq] at h
    rcases h with hc | ⟨rfl, hd⟩
    · exact lexStep_digit hc
    · simp [lexStep, isGap, hd]

/-- The kinds of pieces that are read in one step. -/
inductive StepKind (depth : Nat) (fresh : Bool) : List Char → LexStep → Prop
  | gap {gap rest : List Char} (hgap : ∀ c ∈ gap, isGap c = true) :
      StepKind depth fresh (gap ++ rest) ⟨none, rest, depth, fresh⟩
  | lineEnd {cs : List Char} : StepKind depth fresh ('\n' :: cs) ⟨some .lineEnd, cs, 0, true⟩
  | blankLine {cs : List Char} : StepKind depth fresh ('\n' :: cs) ⟨none, cs, depth, fresh⟩
  | note {cs : List Char} :
      StepKind depth fresh ('#' :: cs) ⟨none, cs.dropWhile (· != '\n'), depth, fresh⟩
  | joined {d : Char} {cs : List Char} :
      StepKind depth fresh ('\\' :: '\n' :: d :: cs) ⟨none, d :: cs, depth, fresh⟩
  | text {w cs rest : List Char} {mark : Char} {marks : TextMarks} {p : TextPart}
      (hmark : isQuote mark = true)
      (h : textLiteral marks (mark :: cs) = some (p, rest)) :
      StepKind depth fresh (w ++ mark :: cs) ⟨some (.text p), rest, depth, false⟩
  | number {cs rest : List Char} {k : Constant} (hbegins : beginsNumber cs = true)
      (h : numberLiteral cs = some (k, rest)) :
      StepKind depth fresh cs ⟨some (.number k), rest, depth, false⟩
  | word {w rest : List Char} {t : Token} (hw : ∀ c ∈ w, isWordChar c = true)
      (hdigit : ∀ c ∈ w.head?, c.isDigit = false) (ht : wordToken w = some t) :
      StepKind depth fresh (w ++ rest) ⟨some t, rest, depth, false⟩
  | symbol {spelling rest : List Char} {x : Symbol} {depth' : Nat} (h : (spelling, x) ∈ symbols) :
      StepKind depth fresh (spelling ++ rest) ⟨some (.symbol x), rest, depth', false⟩

theorem gapStep_kind (h : gapStep depth fresh cs = some s) : StepKind depth fresh cs s := by
  obtain ⟨gap, rest, hspan⟩ : ∃ gap rest, cs.span isGap = (gap, rest) := ⟨_, _, rfl⟩
  obtain ⟨rfl, hgap, -⟩ := span_eq_append hspan
  simp only [gapStep, hspan] at h
  obtain ⟨-, h⟩ := Option.ite_none_left_eq_some.1 h
  cases h
  exact .gap hgap

theorem wordStep_kind (h : wordStep depth cs = some s)
    (hdigit : ∀ c ∈ cs.head?, c.isDigit = false) :
    StepKind depth fresh cs s := by
  obtain ⟨w, rest, rfl, hw, hrest, hcases⟩ := wordStep_cases h
  rcases hcases with ⟨t, ht, rfl, -⟩ | ⟨marks, p, rest', -, ⟨mark, hmark, hquote⟩, htext, rfl⟩
  · refine .word hw (fun c hc => hdigit c ?_) ht
    simp [Option.mem_def.1 hc]
  · obtain ⟨rest, rfl⟩ := List.head?_eq_some_iff.1 hmark
    exact .text hquote htext

theorem symbolStep_kind (h : symbolStep depth cs = some s) : StepKind depth fresh cs s := by
  simp only [symbolStep, Option.bind_eq_bind, Option.bind_eq_some_iff, Prod.exists] at h
  obtain ⟨spelling, x, hfind, depth', -, h⟩ := h
  obtain ⟨rest, rfl⟩ : spelling <+: cs :=
    List.isPrefixOf_iff_prefix.1 (by simpa using List.find?_some hfind)
  rw [List.drop_left] at h
  cases h
  exact .symbol (List.mem_of_find?_eq_some hfind)

theorem lexStep_kind (h : lexStep depth fresh cs = some s) : StepKind depth fresh cs s := by
  cases cs with
  | nil => cases h
  | cons c cs =>
    have hbegins := PieceKind.begins_of c cs
    rw [lexStep_eq] at h
    generalize PieceKind.of c cs = kind at h hbegins
    cases kind with
    | gap => exact gapStep_kind h
    | lineFeed =>
      cases hbegins
      simp only [PieceKind.step] at h
      split at h <;> cases h
      · exact .lineEnd
      · exact .blankLine
    | note =>
      cases hbegins
      cases h
      exact .note
    | joint =>
      cases hbegins
      simp only [PieceKind.step] at h
      split at h <;> cases h
      exact .joined
    | text =>
      obtain ⟨⟨p, rest⟩, htext, rfl⟩ := Option.map_eq_some_iff.1 h
      exact .text (w := []) hbegins htext
    | number =>
      obtain ⟨⟨k, rest⟩, hread, rfl⟩ := Option.map_eq_some_iff.1 h
      exact .number hbegins hread
    | word => exact wordStep_kind h (by simpa [PieceKind.Begins] using hbegins)
    | symbol => exact symbolStep_kind h

/-- What the last character of a piece can be. -/
def EndsPiece (token : Option Token) (c : Char) : Prop :=
  match token with
  | none | some .lineEnd => Text.isBlank c = true
  | some (.name _) | some (.keyword _) | some (.number _) => isNumberChar c = true
  | some (.text _) => isQuote c = true
  | some (.symbol x) => ∃ p ∈ symbols, p.2 = x ∧ p.1.getLast? = some c

theorem isBlank_of_isGap {c : Char} (h : isGap c = true) : Text.isBlank c = true := by
  simp only [isGap, Bool.or_eq_true, beq_iff_eq] at h
  rcases h with (rfl | rfl) | rfl <;> decide

/-- What a step takes from the text. -/
theorem StepKind.takes (h : StepKind depth fresh cs s) : ∃ used, used ++ s.rest = cs ∧
    (s.token = none ∧ cs.head? = some '#' ∨ ∀ c ∈ used.getLast?, EndsPiece s.token c) := by
  have hblank : Text.isBlank '\n' = true := by decide
  cases h with
  | gap hgap => exact ⟨_, rfl, .inr fun c hc => isBlank_of_isGap (hgap c (List.mem_of_getLast? hc))⟩
  | lineEnd | blankLine => exact ⟨['\n'], rfl, .inr fun c hc => by cases hc; exact hblank⟩
  | @note cs =>
    refine ⟨'#' :: cs.takeWhile (· != '\n'), ?_, .inl ⟨rfl, rfl⟩⟩
    rw [List.cons_append, List.takeWhile_append_dropWhile]
  | joined => exact ⟨['\\', '\n'], rfl, .inr fun c hc => by cases hc; exact hblank⟩
  | @text w cs rest mark marks p hmark h =>
    obtain ⟨used, hused, -⟩ := textLiteral_local hmark h
    refine ⟨w ++ (used ++ [mark]), by simp [hused], .inr fun c hc => ?_⟩
    rw [← List.append_assoc, List.getLast?_concat] at hc
    cases hc
    exact hmark
  | number hbegins h =>
    obtain ⟨used, hused, hall⟩ := numberLiteral_takes h
    exact ⟨used, hused, .inr fun c hc => hall c (List.mem_of_getLast? hc)⟩
  | @word w rest t hw hdigit ht =>
    refine ⟨w, rfl, .inr fun c hc => ?_⟩
    have hnumber : isNumberChar c = true := by simp [isNumberChar, hw c (List.mem_of_getLast? hc)]
    rcases wordToken_isWord ht with ⟨id, rfl⟩ | ⟨k, rfl⟩
    · exact hnumber
    · exact hnumber
  | symbol h => exact ⟨_, rfl, .inr fun c hc => ⟨_, h, rfl, hc⟩⟩

/-- A line that is about to start has been so before, or it follows the end of another one. -/
theorem StepKind.line (h : StepKind depth fresh cs s) (hfresh : s.fresh = true) :
    s.token = some .lineEnd ∨ fresh = true ∧ s.token = none := by
  cases h with
  | lineEnd => exact .inl rfl
  | gap | blankLine | note | joined => exact .inr ⟨hfresh, rfl⟩
  | text | number | word | symbol => cases hfresh

end Kinds

section Pieces

variable {depth : Nat} {fresh : Bool} {cs more : List Char} {s : LexStep} {ts : List Token}

/-- The last piece that is read from a text: its token, unless it is a blank or a comment, and its
characters. -/
def lastPiece (depth : Nat) (fresh : Bool) (cs : List Char) : Option (Option Token × List Char) :=
  match lexStep depth fresh cs with
  | none => none
  | some s =>
    if s.rest = [] then some (s.token, cs)
    else if s.rest.length < cs.length then lastPiece s.depth s.fresh s.rest
    else none
termination_by cs.length

theorem tokensFrom_of_lexStep (h : lexStep depth fresh cs = some s)
    (hlength : s.rest.length < cs.length) :
    tokensFrom depth fresh cs = (tokensFrom s.depth s.fresh s.rest).map (s.token.toList ++ ·) := by
  have hne : cs ≠ [] := List.ne_nil_of_length_pos (by omega)
  rw [tokensFrom, if_neg hne, h]
  exact if_pos hlength

theorem tokensFrom_eq_none (h : lexStep depth fresh cs = none) (hne : cs ≠ []) :
    tokensFrom depth fresh cs = none := by
  rw [tokensFrom, if_neg hne, h]

theorem tokensFrom_cases (h : tokensFrom depth fresh cs = some ts) (hne : cs ≠ []) :
    ∃ s us, lexStep depth fresh cs = some s ∧ s.rest.length < cs.length ∧
      tokensFrom s.depth s.fresh s.rest = some us ∧ ts = s.token.toList ++ us := by
  rw [tokensFrom, if_neg hne] at h
  cases hstep : lexStep depth fresh cs with
  | none => simp [hstep] at h
  | some s =>
    simp only [hstep] at h
    split at h
    next hlength =>
      obtain ⟨us, hus, rfl⟩ := Option.map_eq_some_iff.1 h
      exact ⟨s, us, rfl, hlength, hus, rfl⟩
    next => cases h

theorem lexStep_note :
    lexStep depth fresh ('#' :: cs) = some ⟨none, cs.dropWhile (· != '\n'), depth, fresh⟩ := rfl

/-- How a text ends: the tokens in front of its last piece, and the step that reads this piece. -/
structure Ending (depth : Nat) (fresh : Bool) (cs : List Char) (before : List Token) (q : List Char)
    (fresh' : Bool) (s : LexStep) : Prop where
  piece : lastPiece depth fresh cs = some (s.token, q)
  suffix : q <:+ cs
  rest : s.rest = []
  closed : s.depth = 0
  line : fresh' = true → fresh = true ∧ before = [] ∨ before.getLast? = some .lineEnd
  goes_on : ∃ depth', lexStep depth' fresh' q = some s ∧ ∀ more,
    (∀ c ∈ more.head?, isOperatorStart c = true) →
    tokensFrom depth fresh (cs ++ more) = (tokensFrom depth' fresh' (q ++ more)).map (before ++ ·)
  comment : ∀ note, q = '#' :: note → ∃ front, front ++ q = cs ∧ ∀ more,
    tokensFrom depth fresh (front ++ '#' :: more) =
      (tokensFrom 0 fresh' ('#' :: more)).map (before ++ ·)

theorem exists_ending (h : tokensFrom depth fresh cs = some ts) (hne : cs ≠ []) :
    ∃ before q fresh' s, Ending depth fresh cs before q fresh' s ∧
      ts = before ++ s.token.toList := by
  induction hn : cs.length using Nat.strongRecOn generalizing depth fresh cs ts with
  | ind n ih =>
    obtain ⟨s, us, hstep, hlength, hus, rfl⟩ := tokensFrom_cases h hne
    by_cases hrest : s.rest = []
    · rw [hrest, tokensFrom, if_pos rfl] at hus
      split at hus
      next hclosed =>
        cases hus
        refine ⟨[], cs, fresh, s,
          ⟨?_, List.suffix_rfl, hrest, hclosed, fun hfresh => .inl ⟨hfresh, rfl⟩,
            ⟨depth, hstep, fun more hmore => by simp⟩, fun note hnote => ⟨[], rfl, fun more => ?_⟩⟩,
            by simp⟩
        · rw [lastPiece, hstep]
          simp [hrest]
        · rw [hnote, lexStep_note] at hstep
          cases hstep
          obtain rfl : depth = 0 := hclosed
          simp
      next => cases hus
    · obtain ⟨before, q, fresh', s', hending, rfl⟩ := ih s.rest.length (by omega) hus hrest rfl
      obtain ⟨depth', hstep', hgoes⟩ := hending.goes_on
      obtain ⟨used, hused, -⟩ := (lexStep_kind hstep).takes
      have hbefore : q <:+ cs := hending.suffix.trans ⟨used, hused⟩
      refine ⟨s.token.toList ++ before, q, fresh', s',
        ⟨?_, hbefore, hending.rest, hending.closed, fun hfresh => ?_,
          ⟨depth', hstep', fun more hmore => ?_⟩, fun note hnote => ?_⟩, by simp⟩
      · rw [lastPiece, hstep]
        simp [hrest, hlength, hending.piece]
      · rcases hending.line hfresh with ⟨hfresh, rfl⟩ | hline
        · rcases (lexStep_kind hstep).line hfresh with htoken | ⟨hfresh, htoken⟩
          · exact .inr (by simp [htoken])
          · exact .inl ⟨hfresh, by simp [htoken]⟩
        · exact .inr (by simp [List.getLast?_append, hline])
      · have hextended :=
          lexStep_extend hstep (fun c hc => isBorder_of_isOperatorStart (hmore c hc)) fun hnil =>
          absurd hnil hrest
        rw [tokensFrom_of_lexStep hextended (by simpa [LexStep.extend] using hlength)]
        simp only [LexStep.extend, hgoes more hmore, Option.map_map]
        congr 1
        funext us
        simp
      · obtain ⟨front, hfront, hcomment⟩ := hending.comment note hnote
        subst hnote
        refine ⟨used ++ front, by rw [List.append_assoc, hfront, hused], fun more => ?_⟩
        rw [← hused, ← hfront, ← List.append_assoc] at hstep
        rw [← hused, List.length_append] at hlength
        rw [tokensFrom_of_lexStep (lexStep_comment hstep hfront.symm) (by simp; omega)]
        simp only [hcomment more, Option.map_map]
        congr 1
        funext us
        simp

end Pieces

section Behind

variable {depth d : Nat} {fresh f : Bool} {cs q more : List Char} {s : LexStep} {t : Token}
    {before : List Token}

/-- A word as a whole piece. -/
theorem StepKind.word_eq (h : StepKind depth fresh cs ⟨some t, [], d, f⟩)
    (ht : (∃ id, t = .name id) ∨ ∃ k, t = .keyword k) :
    (∀ c ∈ cs, isWordChar c = true) ∧ (∀ c ∈ cs.head?, c.isDigit = false) ∧ depth = d := by
  generalize hs : (⟨some t, [], d, f⟩ : LexStep) = s at h
  cases h <;> cases hs
  case word hw hdigit hword => simpa using ⟨hw, hdigit⟩
  all_goals simp at ht

/-- A number as a whole piece. -/
theorem StepKind.number_eq {k : Constant}
    (h : StepKind depth fresh cs ⟨some (.number k), [], d, f⟩) :
    beginsNumber cs = true ∧ numberLiteral cs = some (k, []) := by
  generalize hs : (⟨some (.number k), [], d, f⟩ : LexStep) = s at h
  cases h <;> cases hs
  case number hbegins h => exact ⟨hbegins, h⟩
  case word hw hdigit hword =>
    rcases wordToken_isWord hword with ⟨id, hid⟩ | ⟨k, hk⟩ <;> contradiction

theorem Ending.getLast?_eq (h : Ending depth fresh cs before q f s) : q.getLast? = cs.getLast? := by
  obtain ⟨d, hstep, -⟩ := h.goes_on
  obtain ⟨front, rfl⟩ := h.suffix
  cases q with
  | nil => cases hstep
  | cons c q => rw [List.getLast?_append, List.getLast?_cons, Option.some_or]

/-- The last piece of a text that does not end in a blank is a comment or the last token. -/
theorem Ending.cases (h : Ending depth fresh cs before q f s)
    (hlast : ∀ c ∈ cs.getLast?, Text.isBlank c = false) :
    (∃ note, q = '#' :: note ∧ '\n' ∉ note ∧ s = ⟨none, [], 0, f⟩) ∨
      ∃ t, s = ⟨some t, [], 0, false⟩ ∧ ∀ c ∈ cs.getLast?, EndsPiece (some t) c := by
  obtain ⟨d, hstep, -⟩ := h.goes_on
  have hkind := lexStep_kind hstep
  have hrest := h.rest
  have hclosed := h.closed
  rw [← h.getLast?_eq] at hlast ⊢
  obtain ⟨token, rest, depth', fresh'⟩ := s
  subst hrest hclosed
  cases token with
  | none =>
    refine .inl ?_
    generalize hs : (⟨none, [], 0, fresh'⟩ : LexStep) = s at hkind
    cases hkind with
    | @gap gap rest hgap =>
      cases hs
      rw [List.append_nil] at hlast hstep
      obtain ⟨front, c, rfl⟩ := List.eq_nil_or_concat gap |>.resolve_left fun hnil => by
        rw [hnil] at hstep
        cases hstep
      have hblank := isBlank_of_isGap (hgap c (by simp))
      simp [hlast c (by simp)] at hblank
    | blankLine =>
      cases hs
      exact absurd (hlast '\n' rfl) (by decide)
    | @note note =>
      simp only [LexStep.mk.injEq, true_and] at hs
      obtain ⟨hdrop, rfl, rfl⟩ := hs
      refine ⟨note, rfl, fun hline => ?_, by rw [hdrop]⟩
      simpa [← hdrop] using mem_dropWhile (p := (· != '\n')) hline rfl
    | joined | lineEnd | text | number | word | symbol => cases hs
  | some t =>
    obtain ⟨used, hused, hends⟩ := hkind.takes
    rw [List.append_nil] at hused
    subst hused
    have hends := hends.resolve_left fun h => nomatch h.1
    refine .inr ⟨t, ?_, hends⟩
    cases fresh' with
    | false => rfl
    | true =>
      obtain ⟨front, c, rfl⟩ := List.eq_nil_or_concat used |>.resolve_left fun hnil => by
        rw [hnil] at hstep
        cases hstep
      rcases hkind.line rfl with hline | ⟨-, hnone⟩
      · cases hline
        exact absurd (hends c (by simp)) (by simp [EndsPiece, hlast c (by simp)])
      · cases hnone

/-- Text behind a last token that stops there. -/
theorem Ending.stops (h : Ending depth fresh cs before q f ⟨some t, [], 0, false⟩)
    (hmore : ∀ c ∈ more.head?, isOperatorStart c = true) (hstops : PieceStops q (some t) more) :
    tokensFrom depth fresh (cs ++ more) = (tokensFrom 0 false more).map (before ++ [t] ++ ·) := by
  obtain ⟨d, hstep, hgoes⟩ := h.goes_on
  have hne : q ≠ [] := by
    rintro rfl
    cases hstep
  have hlength : 0 < q.length := List.length_pos_iff.2 hne
  rw [hgoes more hmore,
    tokensFrom_of_lexStep
      (lexStep_extend hstep (fun c hc => isBorder_of_isOperatorStart (hmore c hc))
    fun _ => hstops) (by simpa [LexStep.extend]), Option.map_map]
  congr 1
  funext us
  simp [LexStep.extend]

theorem tokensFrom_note {note : List Char} (hnote : '\n' ∉ note) :
    tokensFrom depth fresh ('#' :: (note ++ more)) =
      tokensFrom depth fresh (more.dropWhile (· != '\n')) := by
  have hlength : (more.dropWhile (· != '\n')).length ≤ more.length :=
    (List.dropWhile_suffix _).length_le
  have hstep : lexStep depth fresh ('#' :: (note ++ more)) =
      some ⟨none, more.dropWhile (· != '\n'), depth, fresh⟩ := by
    rw [lexStep_note, dropWhile_append_of_line hnote]
  rw [tokensFrom_of_lexStep hstep (by simp; omega)]
  simp

/-- Text behind a comment belongs to it up to the end of the line. -/
theorem Ending.note {note : List Char} (h : Ending depth fresh cs before ('#' :: note) f s)
    (hnote : '\n' ∉ note) :
    tokensFrom depth fresh (cs ++ more) = (tokensFrom 0 f (more.dropWhile (· != '\n'))).map
      (before ++ ·) := by
  obtain ⟨front, rfl, hcomment⟩ := h.comment note rfl
  rw [List.append_assoc, List.cons_append, hcomment, tokensFrom_note hnote]

/-- A word with a blank in it is no token. -/
theorem wordToken_of_blank {w : List Char} (hblank : ∃ c ∈ w, Text.isBlank c = true) :
    wordToken w = none := by
  obtain ⟨c, hc, hblank⟩ := hblank
  have hwords : ∀ p ∈ keywords, p.1.toList.all (fun c => !Text.isBlank c) = true := by decide
  have hlookup : keywords.lookup (String.ofList w) = none := by
    rw [List.lookup_eq_none_iff]
    intro p hp
    rw [bne_iff_ne]
    intro hword
    have hnot :=
      List.all_eq_true.1 (hwords p hp) c (by rw [← hword, String.toList_ofList]; exact hc)
    simp [hblank] at hnot
  have hname : ¬ Text.isName w = true := fun hname => by
    have hnot := isBlank_of_isNamePart (Stands.isNamePart_of_isName hname c hc)
    rw [hblank] at hnot
    cases hnot
  rw [wordToken, hlookup]
  exact if_neg hname

/-- Only three letters can be marks in front of a string. -/
theorem ofWord_eq_none {w : List Char} {c : Char} (hc : c ∈ w)
    (hlower : c.toLower ∉ ['r', 'b', 'u']) :
    TextMarks.ofWord w = none := by
  have hne : ∀ s : String, c.toLower ∉ s.toList → String.ofList (w.map Char.toLower) ≠ s := by
    rintro s hs rfl
    rw [String.toList_ofList] at hs
    exact hs (List.mem_map.2 ⟨c, hc, rfl⟩)
  simp only [List.mem_cons, List.not_mem_nil, or_false, not_or] at hlower
  obtain ⟨hr, hb, hu⟩ := hlower
  simp [TextMarks.ofWord, hne "" (by simp), hne "r" (by simp [hr]), hne "b" (by simp [hb]),
    hne "u" (by simp [hu]), hne "br" (by simp [hb, hr]), hne "rb" (by simp [hb, hr])]

theorem ofWord_of_blank {w : List Char} (hblank : ∃ c ∈ w, Text.isBlank c = true) :
    TextMarks.ofWord w = none := by
  obtain ⟨c, hc, hblank⟩ := hblank
  refine ofWord_eq_none hc ?_
  have hlower : c.toLower = c := by
    simp only [Text.isBlank, Bool.or_eq_true, Bool.and_eq_true, decide_eq_true_eq,
      beq_iff_eq] at hblank
    unfold Char.toLower
    refine dif_neg fun hupper => ?_
    have hfrom : 65 ≤ c.toNat := UInt32.le_iff_toNat_le.1 hupper.1
    have hto : c.toNat ≤ 90 := UInt32.le_iff_toNat_le.1 hupper.2
    omega
  have hletters : ['r', 'b', 'u'].all (fun c => !Text.isBlank c) = true := by decide
  intro hmem
  rw [hlower] at hmem
  simpa [hblank] using List.all_eq_true.1 hletters c hmem

theorem hexValue?_of_blank {c : Char} (hblank : Text.isBlank c = true) :
    (Text.hexValue? c).isSome = false := by
  have hrange : ∀ x y : Char, 32 < x.toNat → y.toNat < 133 → ¬ (x ≤ c ∧ c ≤ y) := by
    rintro x y hx hy ⟨hxc, hcy⟩
    have hxc : x.toNat ≤ c.toNat := UInt32.le_iff_toNat_le.1 hxc
    have hcy : c.toNat ≤ y.toNat := UInt32.le_iff_toNat_le.1 hcy
    simp only [Text.isBlank, Bool.or_eq_true, Bool.and_eq_true, decide_eq_true_eq,
      beq_iff_eq] at hblank
    omega
  rw [Text.hexValue?, if_neg (hrange '0' '9' (by decide) (by decide)),
    if_neg (hrange 'a' 'f' (by decide) (by decide)),
    if_neg (hrange 'A' 'F' (by decide) (by decide))]
  rfl

theorem isOperatorStart_of_blank (h : ∀ c ∈ more.head?, Text.isBlank c = true) :
    ∀ c ∈ more.head?, isOperatorStart c = true :=
  fun c hc => by simp [isOperatorStart, h c hc]

/-- Nothing is read from a word that goes on with a blank. -/
theorem lexStep_of_blank {w : List Char} {c : Char} (hw : ∀ k ∈ w, isWordChar k = true)
    (hdigit : ∀ k ∈ w.head?, k.isDigit = false) (hblank : Text.isBlank c = true)
    (hword : isWordChar c = true) :
    lexStep depth fresh (w ++ c :: cs) = none := by
  obtain ⟨v, rest, hspan⟩ : ∃ v rest, (w ++ c :: cs).span isWordChar = (v, rest) := ⟨_, _, rfl⟩
  obtain ⟨hcs, hv, hrest⟩ := span_eq_append hspan
  have hmem : c ∈ v := by
    rw [List.span_eq_takeWhile_dropWhile, List.takeWhile_append_of_pos hw,
      List.takeWhile_cons_of_pos hword] at hspan
    rw [← (Prod.mk.inj hspan).1]
    simp
  cases v with
  | nil => cases hmem
  | cons k v =>
    have hk : k.isDigit = false := by
      cases w with
      | nil =>
        obtain ⟨rfl, -⟩ := List.cons.inj hcs
        exact isDigit_of_isOperatorStart (by simp [isOperatorStart, hblank])
      | cons d w =>
        obtain ⟨rfl, -⟩ := List.cons.inj hcs
        exact hdigit d rfl
    have hmarks := ofWord_of_blank ⟨c, hmem, hblank⟩
    rw [hcs, List.cons_append, Lexes.lexStep_word (hv k List.mem_cons_self) hk, ← List.cons_append,
      wordStep_plain hv hrest (.inr hmarks), wordToken_of_blank ⟨c, hmem, hblank⟩]
    rfl

/-- No number goes on with a blank. -/
theorem numberStops_of_blank (h : ∀ c ∈ more.head?, Text.isBlank c = true) :
    NumberStops cs [] more := by
  have hletters : ['x', 'X', 'o', 'O', 'b', 'B'].all (fun c => !Text.isBlank c) = true := by decide
  refine ⟨numberEnds_of_isOperatorStart (isOperatorStart_of_blank h), fun _ _ c hc =>
    hexValue?_of_blank (h c hc), fun _ c hc hmem => ?_⟩
  have hblank := h c hc
  simpa [hblank] using List.all_eq_true.1 hletters c hmem

/-- Nothing is read from a word or number that goes on with a blank that is no gap. -/
theorem lexStep_blocked {c : Char} (hstep : lexStep depth fresh q = some ⟨some t, [], d, f⟩)
    (hc : more.head? = some c)
    (hblank : Text.isBlank c = true) (hword : isWordChar c = true)
    (hstops : ¬ PieceStops q (some t) more) :
    lexStep depth fresh (q ++ more) = none := by
  have hword' : (∃ id, t = .name id) ∨ (∃ k, t = .keyword k) →
      lexStep depth fresh (q ++ more) = none := by
    intro ht
    obtain ⟨hq, hdigit, -⟩ := (lexStep_kind hstep).word_eq ht
    obtain ⟨more, rfl⟩ := List.head?_eq_some_iff.1 hc
    exact lexStep_of_blank hq hdigit hblank hword
  cases t with
  | name id => exact hword' (.inl ⟨id, rfl⟩)
  | keyword k => exact hword' (.inr ⟨k, rfl⟩)
  | number k =>
    obtain ⟨hbegins, hread⟩ := (lexStep_kind hstep).number_eq
    have hnumber : NumberStops q [] more := numberStops_of_blank (by simp [hc, hblank])
    rw [lexStep_number (beginsNumber_append hbegins), numberLiteral_extend hread hnumber,
      List.nil_append, if_neg fun hends => hstops ⟨hnumber, hends⟩]
    rfl
  | text | symbol | lineEnd => exact absurd trivial hstops

theorem Ending.blocked {c : Char} (h : Ending depth fresh cs before q f ⟨some t, [], 0, false⟩)
    (hc : more.head? = some c) (hblank : Text.isBlank c = true) (hword : isWordChar c = true)
    (hstops : ¬ PieceStops q (some t) more) : tokensFrom depth fresh (cs ++ more) = none := by
  have hmore : ∀ c ∈ more.head?, isOperatorStart c = true :=
    isOperatorStart_of_blank (by simp [hc, hblank])
  obtain ⟨d, hstep, hgoes⟩ := h.goes_on
  have hne : q ≠ [] := by
    rintro rfl
    cases hstep
  rw [hgoes more hmore,
    tokensFrom_eq_none (lexStep_blocked hstep hc hblank hword hstops) (by simp [hne]),
    Option.map_none]

end Behind

end TaxFlow.Formula

import Mathlib.Data.List.Find
import Mathlib.Data.List.TakeWhile
import TaxFlow.Proofs.Lexing

/-!
# Text behind a text

What has been read from a text is read from it in front of any other text too, except for the last
piece: that one may go on into the other text. So two texts are read one after the other unless a
word, a number or a comment reaches over the border between them.
-/
namespace TaxFlow.Formula

/-- The characters of a text in front of which everything but words and numbers ends: blanks, and
the first letters of the boolean operators. -/
def isOperatorStart (c : Char) : Bool := Text.isBlank c || c == 'a' || c == 'o'

/-- These, and what follows an item of a list. -/
def isBorder (c : Char) : Bool := isOperatorStart c || c == ',' || c == ']'

theorem isBorder_of_isOperatorStart {c : Char} (h : isOperatorStart c = true) :
    isBorder c = true := by simp [isBorder, h]

theorem isBorder_ne {c k : Char} (h : isBorder c = true) (hk : isBorder k = false) : c ≠ k := by
  rintro rfl
  simp [h] at hk

theorem isDigit_of_isBorder {c : Char} (h : isBorder c = true) : c.isDigit = false := by
  rw [← Bool.not_eq_true, isDigit_iff]
  simp only [isBorder, isOperatorStart, Text.isBlank, Bool.or_eq_true, Bool.and_eq_true,
    decide_eq_true_eq, beq_iff_eq] at h
  rcases h with (((h | rfl) | rfl) | rfl) | rfl
  · omega
  all_goals decide

theorem isDigit_of_isOperatorStart {c : Char} (h : isOperatorStart c = true) : c.isDigit = false :=
  isDigit_of_isBorder (isBorder_of_isOperatorStart h)

section Runs

variable {p : Char → Bool} {c : Char} {cs more : List Char}

theorem of_mem_head?_dropWhile : ∀ c ∈ (cs.dropWhile p).head?, p c = false := by
  intro c hc
  have hnot := List.head?_dropWhile_not p cs
  rw [Option.mem_def.1 hc] at hnot
  exact hnot

theorem mem_dropWhile (hc : c ∈ cs) (hp : p c = false) : c ∈ cs.dropWhile p := by
  rw [← List.takeWhile_append_dropWhile (p := p) (l := cs), List.mem_append] at hc
  refine hc.resolve_left fun htaken => ?_
  simp [List.mem_takeWhile_imp htaken] at hp

theorem dropWhile_append_of_mem (hc : c ∈ cs) (hp : p c = false) :
    (cs ++ more).dropWhile p = cs.dropWhile p ++ more := by
  rw [List.dropWhile_append, if_neg]
  rw [List.isEmpty_iff]
  exact List.ne_nil_of_mem (mem_dropWhile hc hp)

/-- The rest of a line goes on behind a text without a line feed. -/
theorem dropWhile_append_of_line (h : '\n' ∉ cs) :
    (cs ++ more).dropWhile (· != '\n') = more.dropWhile (· != '\n') :=
  List.dropWhile_append_of_pos fun c hc => by
    rw [bne_iff_ne]
    rintro rfl
    exact h hc

end Runs

section Literals

variable {cs ds rest more : List Char}

theorem digitRun_cons {isDigit : Char → Bool} {c : Char} (hc : c ≠ '_') :
    digitRun isDigit (c :: cs) =
    if isDigit c then (digitRun isDigit cs).map fun (ds, rest) =>
      (c :: ds, rest) else some ([], c :: cs) := by
  rw [digitRun]
  · exact fun h => absurd h hc
  · exact fun _ _ h => absurd h hc

theorem ne_underscore {c : Char} (hlast : c = '_' → cs = [] → False)
    (hunder : ∀ d ds, c = '_' → cs = d :: ds → False) : c ≠ '_' := by
  intro hc
  cases cs with
  | nil => exact hlast hc rfl
  | cons d cs => exact hunder d cs hc rfl

theorem digitRun_extend {isDigit : Char → Bool} (h : digitRun isDigit cs = some (ds, rest))
    (hmore : rest = [] → ∀ c ∈ more.head?, isDigit c = false ∧ c ≠ '_') :
    digitRun isDigit (cs ++ more) = some (ds, rest ++ more) := by
  fun_induction digitRun isDigit cs generalizing ds rest with
  | case1 =>
    cases h
    cases more with
    | nil => rfl
    | cons c more =>
      obtain ⟨hdigit, hne⟩ := hmore rfl c rfl
      simp [digitRun_cons hne, hdigit]
  | case2 => cases h
  | case3 c cs hc ih =>
    obtain ⟨⟨ds, rest⟩, hrun, hresult⟩ := Option.map_eq_some_iff.1 h
    cases hresult
    simp [digitRun, hc, ih hrun hmore]
  | case4 => cases h
  | case5 c cs hlast hunder hc ih =>
    obtain ⟨⟨ds, rest⟩, hrun, hresult⟩ := Option.map_eq_some_iff.1 h
    cases hresult
    rw [List.cons_append, digitRun_cons (ne_underscore hlast hunder), if_pos hc, ih hrun hmore]
    rfl
  | case6 c cs hlast hunder hc =>
    cases h
    rw [List.cons_append, digitRun_cons (ne_underscore hlast hunder), if_neg hc]

theorem isPrefixOf_append {p : List Char} (h : p.isPrefixOf cs = true) :
    p.isPrefixOf (cs ++ more) = true := by
  rw [List.isPrefixOf_iff_prefix] at h ⊢
  exact h.trans (List.prefix_append cs more)

theorem endsNumber_extend (h : endsNumber cs = true) (hne : cs ≠ []) :
    endsNumber (cs ++ more) = true := by
  cases cs with
  | nil => exact absurd rfl hne
  | cons c cs =>
    rw [List.cons_append]
    simp only [endsNumber, Bool.or_eq_true] at h ⊢
    refine h.imp_right fun h => ?_
    split at h
    · exact isPrefixOf_append h
    · exact isPrefixOf_append h
    · exact isPrefixOf_append h
    · rw [List.any_eq_true] at h ⊢
      obtain ⟨w, hw, hbegins⟩ := h
      exact ⟨w, hw, isPrefixOf_append hbegins⟩
    · exact isPrefixOf_append h
    · exact isPrefixOf_append h
    · cases h

/-- Whether digits, points, exponents and other parts of a number do not go on here. -/
def NumberEnds (more : List Char) : Prop :=
  ∀ c ∈ more.head?, c.isDigit = false ∧ c ≠ '_' ∧ c ≠ '.' ∧ isExponentMark c = false ∧
    c ≠ 'j' ∧ c ≠ 'J'

theorem NumberEnds.run (h : NumberEnds more) : ∀ c ∈ more.head?, c.isDigit = false ∧ c ≠ '_' :=
  fun c hc => ⟨(h c hc).1, (h c hc).2.1⟩

theorem fractionPart_of_head (h : ∀ c ∈ cs.head?, c ≠ '.') : fractionPart cs = some (none, cs) := by
  unfold fractionPart
  split
  · exact absurd rfl (h '.' rfl)
  · exact absurd rfl (h '.' rfl)
  · rfl

theorem fractionPart_point : fractionPart ('.' :: cs) =
    if cs.head?.any Char.isDigit then (digitRun Char.isDigit cs).map fun (ds, rest) =>
      (some ds, rest)
    else some (some [], cs) := by
  cases cs <;> rfl

theorem fractionPart_extend {fraction : Option (List Char)}
    (h : fractionPart cs = some (fraction, rest))
    (hmore : NumberEnds more) : fractionPart (cs ++ more) = some (fraction, rest ++ more) := by
  by_cases hpoint : cs.head? = some '.'
  · obtain ⟨cs, rfl⟩ := List.head?_eq_some_iff.1 hpoint
    have hhead : (cs ++ more).head?.any Char.isDigit = cs.head?.any Char.isDigit := by
      cases cs with
      | nil =>
        cases more with
        | nil => rfl
        | cons c more => simp [(hmore c rfl).1]
      | cons c cs => rfl
    rw [fractionPart_point] at h
    rw [List.cons_append, fractionPart_point, hhead]
    split at h
    · obtain ⟨⟨ds, rest⟩, hrun, hresult⟩ := Option.map_eq_some_iff.1 h
      cases hresult
      rw [digitRun_extend hrun fun _ => hmore.run]
      simp_all
    · cases h
      simp_all
  · rw [fractionPart_of_head fun c hc hne => hpoint (hne ▸ hc)] at h
    cases h
    refine fractionPart_of_head fun c hc => ?_
    cases cs with
    | nil => exact (hmore c hc).2.2.1
    | cons d cs =>
      rintro rfl
      exact hpoint hc

theorem exponentPart_of_head (h : ∀ c ∈ cs.head?, isExponentMark c = false) :
    exponentPart cs = some (none, cs) := by
  unfold exponentPart
  split
  · simp [h _ rfl]
  · rfl

theorem exponentPart_extend {exponent : Option Int} (h : exponentPart cs = some (exponent, rest))
    (hlone : ∀ c, rest = [c] → isExponentMark c = false) (hmore : NumberEnds more) :
    exponentPart (cs ++ more) = some (exponent, rest ++ more) := by
  unfold exponentPart at h
  split at h
  next c d cs =>
    rw [List.cons_append, List.cons_append]
    unfold exponentPart
    dsimp only
    split at h
    · obtain ⟨⟨ds, rest⟩, hrun, hresult⟩ := Option.map_eq_some_iff.1 h
      cases hresult
      have hextended := digitRun_extend hrun fun _ => hmore.run
      simp_all
    · split at h
      · split at h
        · split at h
          · obtain ⟨⟨ds, rest⟩, hrun, hresult⟩ := Option.map_eq_some_iff.1 h
            cases hresult
            have hextended := digitRun_extend hrun fun _ => hmore.run
            simp_all
          · cases h
        · cases h
      · rename_i hdigit hsign
        cases h
        rw [if_neg hdigit, if_neg hsign]
        rfl
  next hshort =>
    cases h
    refine exponentPart_of_head fun c hc => ?_
    cases cs with
    | nil => exact (hmore c hc).2.2.2.1
    | cons d cs =>
      cases cs with
      | nil =>
        obtain rfl : d = c := by simpa using hc
        exact hlone d rfl
      | cons k cs => exact absurd rfl (hshort d k cs)

theorem radixNumber_extend {base : Nat} {isDigit : Char → Bool} {k : Constant}
    (h : radixNumber base isDigit cs = some (k, rest))
    (hmore : rest = [] → ∀ c ∈ more.head?, isDigit c = false ∧ c ≠ '_') :
    radixNumber base isDigit (cs ++ more) = if endsNumber (rest ++ more) then some (k, rest ++ more)
      else none := by
  simp only [radixNumber, Option.bind_eq_bind, Option.bind_eq_some_iff, Prod.exists] at h ⊢
  obtain ⟨ds, rest', hrun, h⟩ := h
  split at h
  next hboth =>
    cases h
    rw [Bool.and_eq_true] at hboth
    simp only [digitRun_extend hrun hmore, Option.bind_some, hboth.1, Bool.true_and]
  next => cases h

/-- The end of a number that is not imaginary. -/
theorem plainEnd_extend {k x y : Constant} {isFloat isOctal isLong : Prop} [Decidable isFloat]
    [Decidable isOctal] [Decidable isLong]
    (h : (if (!endsNumber cs) = true then none else if isFloat then some (x, cs)
      else if isOctal then none
      else if isLong then none else some (y, cs)) = some (k, rest)) :
    (if (!endsNumber (cs ++ more)) = true then none else if isFloat then some (x, cs ++ more)
      else if isOctal then none
      else if isLong then none else some (y, cs ++ more)) =
        if endsNumber (rest ++ more) then some (k, rest ++ more) else none := by
  by_cases hfloat : isFloat
  · simp [hfloat] at h ⊢
    obtain ⟨-, rfl, rfl⟩ := h
    cases endsNumber (cs ++ more) <;> rfl
  · simp [hfloat] at h ⊢
    obtain ⟨-, hoctal, hlong, rfl, rfl⟩ := h
    cases endsNumber (cs ++ more) <;> simp [hoctal, hlong]

theorem decimalNumber_extend {k : Constant} (h : decimalNumber cs = some (k, rest))
    (hmore : NumberEnds more) :
    decimalNumber (cs ++ more) = if endsNumber (rest ++ more) then some (k, rest ++ more)
      else none := by
  simp only [decimalNumber, Option.bind_eq_bind, Option.bind_eq_some_iff, Prod.exists] at h ⊢
  obtain ⟨whole, rest₁, hwhole, fraction, rest₂, hfraction, exponent, rest₃, hexponent, h⟩ := h
  have hlone : ∀ c, rest₃ = [c] → isExponentMark c = false := by
    rintro c rfl
    rw [← Bool.not_eq_true]
    intro hmark
    simp only [isExponentMark, Bool.or_eq_true, beq_iff_eq] at hmark
    rcases hmark with rfl | rfl <;> simp [endsNumber, isWordChar] at h
  rw [digitRun_extend hwhole fun _ => hmore.run, Option.bind_some,
    fractionPart_extend hfraction hmore, Option.bind_some,
    exponentPart_extend hexponent hlone hmore, Option.bind_some]
  cases rest₃ with
  | nil =>
    cases more with
    | nil => exact plainEnd_extend h
    | cons c more =>
      have hc : (c == 'j' || c == 'J') = false := by simp [(hmore c rfl).2.2.2.2]
      simp only [List.nil_append, hc]
      exact plainEnd_extend h
  | cons c rest₃ =>
    by_cases hc : (c == 'j' || c == 'J') = true
    · simp only [List.cons_append, hc, if_true] at h ⊢
      split at h <;> cases h
      rfl
    · simp only [List.cons_append, hc] at h ⊢
      exact plainEnd_extend h

def isHexadecimal : List Char → Bool
  | '0' :: c :: _ => c == 'x' || c == 'X'
  | _ => false

/-- Whether a number in front of a text does not go on into it. A hexadecimal number may go on with
a letter, a zero with the mark of a base. -/
structure NumberStops (cs rest more : List Char) : Prop where
  ends : NumberEnds more
  hexadecimal : rest = [] → isHexadecimal cs = true → ∀ c ∈ more.head?,
    (Text.hexValue? c).isSome = false
  zero : cs = ['0'] → ∀ c ∈ more.head?, c ∉ ['x', 'X', 'o', 'O', 'b', 'B']

theorem numberLiteral_extend {k : Constant} (h : numberLiteral cs = some (k, rest))
    (hmore : NumberStops cs rest more) :
    numberLiteral (cs ++ more) = if endsNumber (rest ++ more) then some (k, rest ++ more)
      else none := by
  have hdigit : ∀ c ∈ more.head?, ('0' ≤ c && c ≤ '7') = false ∧ (c == '0' || c == '1') = false :=
    fun c hc => by
    have hnone := (hmore.ends c hc).1
    constructor
    · rw [← Bool.not_eq_true] at hnone ⊢
      simp only [isDigit_iff, Bool.and_eq_true, decide_eq_true_eq, Char.le_def,
        UInt32.le_iff_toNat_le] at hnone ⊢
      exact fun hoctal => hnone ⟨hoctal.1, Nat.le_trans hoctal.2 (by decide)⟩
    · rw [Bool.or_eq_false_iff, beq_eq_false_iff_ne, beq_eq_false_iff_ne]
      constructor <;> (rintro rfl; simp at hnone)
  unfold numberLiteral at h
  split at h
  next c cs =>
    rw [List.cons_append, List.cons_append, numberLiteral.eq_1]
    split at h
    next hx =>
      rw [if_pos hx]
      exact radixNumber_extend h fun hrest d hd =>
        ⟨hmore.hexadecimal hrest hx d hd, (hmore.ends d hd).2.1⟩
    next hx =>
      rw [if_neg hx]
      split at h
      next ho =>
        rw [if_pos ho]
        exact radixNumber_extend h fun _ d hd => ⟨(hdigit d hd).1, (hmore.ends d hd).2.1⟩
      next ho =>
        rw [if_neg ho]
        split at h
        next hb =>
          rw [if_pos hb]
          exact radixNumber_extend h fun _ d hd => ⟨(hdigit d hd).2, (hmore.ends d hd).2.1⟩
        next hb =>
          rw [if_neg hb]
          exact decimalNumber_extend h hmore.ends
  next hother =>
    have hextended := decimalNumber_extend h hmore.ends
    unfold numberLiteral
    split
    next c ds heq =>
      -- only a single zero could be read in another way in front of more text
      cases cs with
      | nil =>
        cases more with
        | nil => cases heq
        | cons d more =>
          have hends := (hmore.ends d rfl).1
          cases heq
          simp at hends
      | cons d cs =>
        cases cs with
        | nil =>
          obtain ⟨rfl, hmore'⟩ := List.cons.inj heq
          cases hmore'
          have hmark := hmore.zero rfl c rfl
          simp only [List.mem_cons, List.not_mem_nil, or_false, not_or] at hmark
          simpa [hmark] using hextended
        | cons k cs =>
          obtain ⟨rfl, -⟩ := List.cons.inj heq
          exact absurd rfl (hother k cs)
    next => exact hextended

theorem endsNumber_of_numberLiteral {k : Constant} (h : numberLiteral cs = some (k, rest)) :
    endsNumber rest = true := by
  have hsame : numberLiteral (cs ++ []) = _ :=
    numberLiteral_extend h ⟨by simp [NumberEnds], by simp, by simp⟩
  rw [List.append_nil, h, List.append_nil] at hsame
  exact (Option.ite_none_right_eq_some.1 hsame.symm).1

theorem shortBody_cons {mark c : Char} (hc : c ≠ '\\') : shortBody mark (c :: cs) =
    if c = mark then some ([], cs) else if c = '\n' then none
    else (shortBody mark cs).map fun (body, rest) => (c :: body, rest) := by
  rw [shortBody]
  exact fun _ _ h => absurd h hc

/-- What is read of a string literal does not depend on the text behind it. -/
theorem shortBody_local {mark : Char} {body : List Char} (hmark : mark ≠ '\\')
    (h : shortBody mark cs = some (body, rest)) :
    ∃ used, used ++ mark :: rest = cs ∧ ∀ more,
      shortBody mark (used ++ mark :: more) = some (body, more) := by
  fun_induction shortBody mark cs generalizing body rest with
  | case1 | case4 => cases h
  | case2 c cs ih =>
    obtain ⟨⟨body, rest⟩, hbody, hresult⟩ := Option.map_eq_some_iff.1 h
    cases hresult
    obtain ⟨used, rfl, hused⟩ := ih hbody
    exact ⟨'\\' :: c :: used, rfl, fun more => by simp [shortBody, hused more]⟩
  | case3 cs =>
    cases h
    exact ⟨[], rfl, fun more => by rw [List.nil_append, shortBody_cons hmark, if_pos rfl]⟩
  | case5 c cs hescape hne hline ih =>
    obtain ⟨⟨body, rest⟩, hbody, hresult⟩ := Option.map_eq_some_iff.1 h
    cases hresult
    obtain ⟨used, rfl, hused⟩ := ih hbody
    have hc : c ≠ '\\' := by
      rintro rfl
      cases used with
      | nil => exact hescape mark rest rfl rfl
      | cons d used => exact hescape d (used ++ mark :: rest) rfl rfl
    refine ⟨c :: used, rfl, fun more => ?_⟩
    rw [List.cons_append, shortBody_cons hc, if_neg hne, if_neg hline, hused more]
    rfl

theorem longBody_cons {mark c : Char} (hc : c ≠ '\\') : longBody mark (c :: cs) =
    if c = mark ∧ [mark, mark].isPrefixOf cs then some ([], cs.drop 2)
    else (longBody mark cs).map fun (body, rest) => (c :: body, rest) := by
  rw [longBody]
  exact fun _ _ h => absurd h hc

theorem longBody_local {mark : Char} {body : List Char} (hmark : mark ≠ '\\')
    (h : longBody mark cs = some (body, rest)) :
    ∃ used, used ++ mark :: rest = cs ∧ 2 ≤ used.length ∧
      ∀ more, longBody mark (used ++ mark :: more) = some (body, more) := by
  fun_induction longBody mark cs generalizing body rest with
  | case1 => cases h
  | case2 c cs ih =>
    obtain ⟨⟨body, rest⟩, hbody, hresult⟩ := Option.map_eq_some_iff.1 h
    cases hresult
    obtain ⟨used, rfl, -, hused⟩ := ih hbody
    exact ⟨'\\' :: c :: used, rfl, by simp, fun more => by simp [longBody, hused more]⟩
  | case3 c cs hescape hends =>
    obtain ⟨rfl, hends⟩ := hends
    obtain ⟨rest, rfl⟩ := List.isPrefixOf_iff_prefix.1 hends
    cases h
    refine ⟨[c, c], rfl, Nat.le_refl 2, fun more => ?_⟩
    rw [List.cons_append, longBody_cons hmark, if_pos (by simp)]
    rfl
  | case4 c cs hescape hends ih =>
    obtain ⟨⟨body, rest⟩, hbody, hresult⟩ := Option.map_eq_some_iff.1 h
    cases hresult
    obtain ⟨used, rfl, hlength, hused⟩ := ih hbody
    obtain ⟨k, used, rfl⟩ := List.exists_cons_of_length_pos (Nat.lt_of_succ_lt hlength)
    obtain ⟨l, used, rfl⟩ := List.exists_cons_of_length_pos (Nat.lt_of_succ_lt_succ hlength)
    refine ⟨c :: k :: l :: used, rfl, by simp, fun more => ?_⟩
    have hc : c ≠ '\\' := by
      rintro rfl
      exact hescape k _ rfl rfl
    rw [List.cons_append, longBody_cons hc, if_neg (by simpa using hends), hused more]
    rfl

def isQuote (c : Char) : Bool := c == '"' || c == '\''

/-- The same for a string literal with its marks. Only behind an empty one another mark would go
on. -/
theorem textLiteral_local {marks : TextMarks} {part : TextPart} {mark : Char}
    (hquote : isQuote mark = true)
    (h : textLiteral marks (mark :: cs) = some (part, rest)) :
    ∃ used, used ++ mark :: rest = mark :: cs ∧
      ∀ more, (more.head? = some mark → rest.head? = some mark) →
        textLiteral marks (used ++ mark :: more) = some (part, more) := by
  have hmark : mark ≠ '\\' := by
    rintro rfl
    exact absurd hquote (by decide)
  simp only [textLiteral, Option.bind_eq_bind] at h
  split at h
  next hlong =>
    simp only [Option.bind_eq_some_iff, Prod.exists] at h
    obtain ⟨body, rest', hbody, part', hpart, h⟩ := h
    cases h
    obtain ⟨cs, rfl⟩ := List.isPrefixOf_iff_prefix.1 hlong
    obtain ⟨used, hused, -, hlocal⟩ := longBody_local hmark hbody
    refine ⟨mark :: mark :: mark :: used, by simp [hused], fun more _ => ?_⟩
    simp [textLiteral, hlocal more, hpart]
  next hshort =>
    simp only [Option.bind_eq_some_iff, Prod.exists] at h
    obtain ⟨body, rest', hbody, part', hpart, h⟩ := h
    cases h
    obtain ⟨used, rfl, hlocal⟩ := shortBody_local hmark hbody
    refine ⟨mark :: used, rfl, fun more hmore => ?_⟩
    have hshort' : ¬ [mark, mark].isPrefixOf (used ++ mark :: more) = true := by
      have hhead : ∀ xs, [mark, mark].isPrefixOf (mark :: xs) = true ↔ xs.head? = some mark := by
        intro xs
        cases xs with
        | nil => simp
        | cons x xs => simpa using eq_comm
      cases used with
      | nil => exact fun hbegins => hshort ((hhead rest).2 (hmore ((hhead more).1 hbegins)))
      | cons c used => cases used <;> simpa using hshort
    simp [textLiteral, hshort', hlocal more, hpart]

theorem textLiteral_extend {marks : TextMarks} {part : TextPart} {mark : Char}
    (hquote : isQuote mark = true)
    (h : textLiteral marks (mark :: cs) = some (part, rest))
    (hmore : rest = [] → ∀ c ∈ more.head?, isQuote c = false) :
    textLiteral marks (mark :: cs ++ more) = some (part, rest ++ more) := by
  obtain ⟨used, hused, hlocal⟩ := textLiteral_local hquote h
  rw [← hused, List.append_assoc, List.cons_append]
  refine hlocal _ fun hhead => ?_
  cases rest with
  | nil => simp [hmore rfl mark hhead] at hquote
  | cons c rest => exact hhead

end Literals

section Steps

variable {depth : Nat} {fresh : Bool} {cs more : List Char} {s : LexStep}

/-- What has been read, in front of more text. -/
def LexStep.extend (s : LexStep) (more : List Char) : LexStep := { s with rest := s.rest ++ more }

theorem span_eq_append {p : Char → Bool} {w rest : List Char} (h : cs.span p = (w, rest)) :
    cs = w ++ rest ∧ (∀ c ∈ w, p c = true) ∧ ∀ c ∈ rest.head?, p c = false := by
  rw [List.span_eq_takeWhile_dropWhile] at h
  cases h
  exact ⟨List.takeWhile_append_dropWhile.symm, fun _ => List.mem_takeWhile_imp,
    of_mem_head?_dropWhile⟩

theorem span_extend {p : Char → Bool} {w rest : List Char} (h : cs.span p = (w, rest))
    (hmore : rest = [] → ∀ c ∈ more.head?, p c = false) :
    (cs ++ more).span p = (w, rest ++ more) := by
  obtain ⟨rfl, hw, hrest⟩ := span_eq_append h
  rw [List.append_assoc]
  refine Lexes.span_append hw fun c hc => ?_
  cases rest with
  | nil => exact hmore rfl c hc
  | cons d rest => exact hrest c hc

theorem gapStep_extend (h : gapStep depth fresh cs = some s) (hrest : s.rest ≠ []) :
    gapStep depth fresh (cs ++ more) = some (s.extend more) := by
  unfold gapStep at h ⊢
  obtain ⟨gap, rest, hspan⟩ : ∃ gap rest, cs.span isGap = (gap, rest) := ⟨_, _, rfl⟩
  simp only [hspan] at h
  obtain ⟨hblank, h⟩ := Option.ite_none_left_eq_some.1 h
  cases h
  cases rest with
  | nil => exact absurd rfl hrest
  | cons c rest =>
    simp only [span_extend hspan (by simp), List.cons_append]
    exact if_neg hblank

theorem isPrefixOf_extend {p : List Char} (h : ∀ c ∈ more.head?, c ∉ p) :
    p.isPrefixOf (cs ++ more) = p.isPrefixOf cs := by
  rw [Bool.eq_iff_iff]
  refine ⟨fun hbegins => ?_, isPrefixOf_append⟩
  rw [List.isPrefixOf_iff_prefix] at hbegins ⊢
  by_cases hlength : p.length ≤ cs.length
  · exact List.prefix_of_prefix_length_le hbegins (List.prefix_append cs more) hlength
  · obtain ⟨y, rfl⟩ :=
      List.prefix_of_prefix_length_le (List.prefix_append cs more) hbegins (by omega)
    cases y with
    | nil => simp
    | cons c y =>
      obtain ⟨more', rfl⟩ := (List.prefix_append_right_inj cs).1 hbegins
      exact absurd (by simp) (h c rfl)

theorem isPrefixOf_extend_of_tail {p : List Char} (hne : cs ≠ [])
    (h : ∀ c ∈ more.head?, c ∉ p.tail) :
    p.isPrefixOf (cs ++ more) = p.isPrefixOf cs := by
  cases cs with
  | nil => exact absurd rfl hne
  | cons d cs =>
    cases p with
    | nil => rfl
    | cons k p =>
      have hrest : p.isPrefixOf (cs ++ more) = p.isPrefixOf cs := isPrefixOf_extend h
      rw [List.cons_append, List.isPrefixOf_cons_cons, List.isPrefixOf_cons_cons, hrest]

theorem not_isOperatorStart_of_mem_symbols :
    ∀ p ∈ symbols, ∀ c ∈ p.1, isOperatorStart c = false := by
  have hall : ∀ p ∈ symbols, p.1.all (fun c => !isOperatorStart c) = true := by decide
  intro p hp c hc
  simpa using List.all_eq_true.1 (hall p hp) c hc

/-- No symbol goes on with a border. -/
theorem not_border_of_mem_symbols : ∀ p ∈ symbols, ∀ c ∈ p.1.tail, isBorder c = false := by
  have hall : ∀ p ∈ symbols, p.1.tail.all (fun c => !isBorder c) = true := by decide
  intro p hp c hc
  simpa using List.all_eq_true.1 (hall p hp) c hc

theorem symbolStep_eq :
    symbolStep depth cs = (symbols.find? fun p => p.1.isPrefixOf cs).bind fun p =>
    (p.2.depthAfter depth).bind fun depth =>
      some ⟨some (.symbol p.2), cs.drop p.1.length, depth, false⟩ := rfl

/-- Which symbol begins a text does not depend on what stands behind it, if no symbol reaches that
far. -/
theorem symbolStep_append (hsame : ∀ p ∈ symbols, p.1.isPrefixOf (cs ++ more) = p.1.isPrefixOf cs) :
    symbolStep depth (cs ++ more) = (symbolStep depth cs).map (·.extend more) := by
  rw [symbolStep_eq, symbolStep_eq, List.find?_congr hsame]
  cases hfind : symbols.find? fun p => p.1.isPrefixOf cs with
  | none => rfl
  | some p =>
    have hbegins : p.1.isPrefixOf cs = true := by simpa using List.find?_some hfind
    have hlength : p.1.length ≤ cs.length := (List.isPrefixOf_iff_prefix.1 hbegins).length_le
    rw [Option.bind_some, Option.bind_some, List.drop_append_of_le_length hlength]
    cases p.2.depthAfter depth <;> rfl

theorem symbolStep_extend (h : symbolStep depth cs = some s) (hne : cs ≠ [])
    (hmore : ∀ c ∈ more.head?, isBorder c = true) :
    symbolStep depth (cs ++ more) = some (s.extend more) := by
  rw [symbolStep_append fun p hp => isPrefixOf_extend_of_tail hne fun c hc hmem => ?_, h]
  · rfl
  · simpa [not_border_of_mem_symbols p hp c hmem] using hmore c hc

/-- A word that is no string literal. -/
theorem wordStep_plain {w rest : List Char} (hw : ∀ c ∈ w, isWordChar c = true)
    (hrest : ∀ c ∈ rest.head?, isWordChar c = false)
    (hplain : (∀ c ∈ rest.head?, isQuote c = false) ∨ TextMarks.ofWord w = none) :
    wordStep depth (w ++ rest) = (wordToken w).map fun t => ⟨some t, rest, depth, false⟩ := by
  simp only [wordStep, Lexes.span_append hw hrest]
  rcases hplain with hplain | hplain
  · cases rest with
    | nil => rfl
    | cons c rest =>
      have hc : (c == '"' || c == '\'') = false := hplain c rfl
      simp only [hc, Bool.false_eq_true, if_false]
  · simp only [hplain, ite_self]

/-- Marks in front of a string literal. -/
theorem wordStep_text {w rest : List Char} {c : Char} {marks : TextMarks}
    (hw : ∀ c ∈ w, isWordChar c = true)
    (hc : isQuote c = true) (hmarks : TextMarks.ofWord w = some marks) :
    wordStep depth (w ++ c :: rest) =
      (textLiteral marks (c :: rest)).map fun (p, rest) =>
        ⟨some (.text p), rest, depth, false⟩ := by
  have hword : isWordChar c = false := by
    simp only [isQuote, Bool.or_eq_true, beq_iff_eq] at hc
    rcases hc with rfl | rfl <;> decide
  have hquoted : (c == '"' || c == '\'') = true := hc
  have hspan : (w ++ c :: rest).span isWordChar = (w, c :: rest) :=
    Lexes.span_append hw (by simpa using hword)
  simp only [wordStep, hspan, hquoted, if_true, hmarks]

/-- Every step from a word is one of these two. -/
theorem wordStep_cases (h : wordStep depth cs = some s) :
    ∃ w rest, cs = w ++ rest ∧ (∀ c ∈ w, isWordChar c = true) ∧
    (∀ c ∈ rest.head?, isWordChar c = false) ∧
    ((∃ t, wordToken w = some t ∧ s = ⟨some t, rest, depth, false⟩ ∧
        ((∀ c ∈ rest.head?, isQuote c = false) ∨ TextMarks.ofWord w = none)) ∨
      ∃ marks p rest', TextMarks.ofWord w = some marks ∧ (∃ c ∈ rest.head?, isQuote c = true) ∧
        textLiteral marks rest = some (p, rest') ∧ s = ⟨some (.text p), rest', depth, false⟩) := by
  obtain ⟨w, rest, hspan⟩ : ∃ w rest, cs.span isWordChar = (w, rest) := ⟨_, _, rfl⟩
  obtain ⟨rfl, hw, hrest⟩ := span_eq_append hspan
  refine ⟨w, rest, rfl, hw, hrest, ?_⟩
  by_cases hplain : (∀ c ∈ rest.head?, isQuote c = false) ∨ TextMarks.ofWord w = none
  · rw [wordStep_plain hw hrest hplain, Option.map_eq_some_iff] at h
    obtain ⟨t, ht, rfl⟩ := h
    exact .inl ⟨t, ht, rfl, hplain⟩
  · simp only [not_or, not_forall, Bool.not_eq_false] at hplain
    obtain ⟨⟨c, hc, hquote⟩, hmarks⟩ := hplain
    obtain ⟨rest, rfl⟩ := List.head?_eq_some_iff.1 hc
    obtain ⟨marks, hmarks⟩ := Option.ne_none_iff_exists'.1 hmarks
    rw [wordStep_text hw hquote hmarks, Option.map_eq_some_iff] at h
    obtain ⟨⟨p, rest'⟩, htext, rfl⟩ := h
    exact .inr ⟨marks, p, rest', hmarks, ⟨c, rfl, hquote⟩, htext, rfl⟩

theorem wordStep_extend (h : wordStep depth cs = some s)
    (hmore : s.rest = [] → ∀ c ∈ more.head?, isQuote c = false)
    (hword : (∀ c ∈ cs, isWordChar c = true) → ∀ c ∈ more.head?, isWordChar c = false) :
    wordStep depth (cs ++ more) = some (s.extend more) := by
  obtain ⟨w, rest, rfl, hw, hrest, hcases⟩ := wordStep_cases h
  rw [List.append_assoc]
  rcases hcases with ⟨t, ht, rfl, hplain⟩ | ⟨marks, p, rest', hmarks, hquote, htext, rfl⟩
  · rw [wordStep_plain hw, ht]
    · rfl
    · cases rest with
      | nil => exact hword (by simpa using hw)
      | cons c rest => exact hrest
    · cases rest with
      | nil => exact .inl (hmore rfl)
      | cons c rest => exact hplain
  · obtain ⟨c, hc, hquote⟩ := hquote
    obtain ⟨rest, rfl⟩ := List.head?_eq_some_iff.1 hc
    have hextended := textLiteral_extend hquote htext hmore
    rw [List.cons_append] at hextended ⊢
    rw [wordStep_text hw hquote hmarks, hextended]
    rfl

theorem wordToken_isWord {w : List Char} {t : Token} (h : wordToken w = some t) :
    (∃ id, t = .name id) ∨ ∃ k, t = .keyword k := by
  unfold wordToken at h
  split at h
  · cases h
    exact .inr ⟨_, rfl⟩
  · split at h <;> cases h
    exact .inl ⟨_, rfl⟩

theorem numberEnds_of_border (h : ∀ c ∈ more.head?, isBorder c = true) : NumberEnds more := by
  intro c hc
  have hne : ∀ k, isBorder k = false → c ≠ k := fun k => isBorder_ne (h c hc)
  refine ⟨isDigit_of_isBorder (h c hc), hne '_' (by decide), hne '.' (by decide), ?_,
    hne 'j' (by decide), hne 'J' (by decide)⟩
  simp [isExponentMark, hne 'e' (by decide), hne 'E' (by decide)]

theorem numberEnds_of_isOperatorStart (h : ∀ c ∈ more.head?, isOperatorStart c = true) :
    NumberEnds more :=
  numberEnds_of_border fun c hc => isBorder_of_isOperatorStart (h c hc)

theorem isQuote_of_border (h : ∀ c ∈ more.head?, isBorder c = true) :
    ∀ c ∈ more.head?, isQuote c = false := by
  intro c hc
  have hne : ∀ k, isBorder k = false → c ≠ k := fun k => isBorder_ne (h c hc)
  simp [isQuote, hne '"' (by decide), hne '\'' (by decide)]

/-- Whether a text begins with a digit, or with a point in front of one. -/
def beginsNumber : List Char → Bool
  | [] => false
  | c :: cs => c.isDigit || (c == '.' && (cs.head?.map Char.isDigit).getD false)

/-- The kinds of pieces that a text can begin with. -/
inductive PieceKind where
  | gap | lineFeed | note | joint | text | number | word | symbol
  deriving DecidableEq, Repr

namespace PieceKind

/-- The kind of the piece that begins with a character. Of what is behind it only one thing matters:
in front of a digit a point begins a number. -/
def of (c : Char) (cs : List Char) : PieceKind :=
  if isGap c then .gap
  else if c = '\n' then .lineFeed
  else if c = '#' then .note
  else if c = '\\' then .joint
  else if isQuote c then .text
  else if beginsNumber (c :: cs) then .number
  else if isWordChar c then .word
  else .symbol

/-- How a piece of a kind is read. -/
def step (depth : Nat) (fresh : Bool) (c : Char) (cs : List Char) : PieceKind → Option LexStep
  | gap => gapStep depth fresh (c :: cs)
  | lineFeed =>
    if depth = 0 && !fresh then some ⟨some .lineEnd, cs, 0, true⟩ else some ⟨none, cs, depth, fresh⟩
  | note => some ⟨none, cs.dropWhile (· != '\n'), depth, fresh⟩
  | joint =>
    match cs with
    | '\n' :: d :: rest => some ⟨none, d :: rest, depth, fresh⟩
    | _ => none
  | text =>
    (textLiteral ⟨false, false, false⟩ (c :: cs)).map fun (p, rest) =>
      ⟨some (.text p), rest, depth, false⟩
  | number => (numberLiteral (c :: cs)).map fun (k, rest) => ⟨some (.number k), rest, depth, false⟩
  | word => wordStep depth (c :: cs)
  | symbol => symbolStep depth (c :: cs)

/-- What is known about the beginning of a piece. -/
def Begins (c : Char) (cs : List Char) : PieceKind → Prop
  | gap => isGap c = true
  | lineFeed => c = '\n'
  | note => c = '#'
  | joint => c = '\\'
  | text => isQuote c = true
  | number => beginsNumber (c :: cs) = true
  | word => c.isDigit = false
  | symbol => True

theorem begins_of (c : Char) (cs : List Char) : (of c cs).Begins c cs := by
  unfold of
  split_ifs with hgap hline hnote hescape hquote hnumber hword
  · exact hgap
  · exact hline
  · exact hnote
  · exact hescape
  · exact hquote
  · exact hnumber
  · simp only [beginsNumber, Bool.or_eq_true, not_or, Bool.not_eq_true] at hnumber
    exact hnumber.1
  · trivial

/-- What is behind the first character matters only where a digit comes or goes. -/
theorem of_congr {c : Char} {cs cs' : List Char}
    (h : (cs.head?.map Char.isDigit).getD false = (cs'.head?.map Char.isDigit).getD false) :
    of c cs = of c cs' := by
  have hnumber : beginsNumber (c :: cs) = beginsNumber (c :: cs') := by
    rw [beginsNumber, beginsNumber, h]
  rw [of, of, hnumber]

end PieceKind

/-- A step is that of the kind of piece that the text begins with. -/
theorem lexStep_eq (depth : Nat) (fresh : Bool) (c : Char) (cs : List Char) :
    lexStep depth fresh (c :: cs) = (PieceKind.of c cs).step depth fresh c cs := by
  simp only [PieceKind.of, apply_ite (PieceKind.step depth fresh c cs)]
  rfl

/-- Whether the last piece of a text does not go on into more text. -/
def PieceStops (cs : List Char) (token : Option Token) (more : List Char) : Prop :=
  match token with
  | none => False
  | some (.name _) | some (.keyword _) => ∀ c ∈ more.head?, isWordChar c = false
  | some (.number _) => NumberStops cs [] more ∧ endsNumber more = true
  | some (.text _) | some (.symbol _) | some .lineEnd => True

theorem numberStops_of_rest {k : Constant} {rest : List Char}
    (hmore : ∀ c ∈ more.head?, isBorder c = true)
    (hread : numberLiteral cs = some (k, rest)) (hrest : rest ≠ []) :
    NumberStops cs rest more ∧ endsNumber (rest ++ more) = true := by
  refine ⟨⟨numberEnds_of_border hmore, fun hnil => absurd hnil hrest, fun hzero => ?_⟩,
    endsNumber_extend (endsNumber_of_numberLiteral hread) hrest⟩
  have hread' : numberLiteral ['0'] = some (.int 0, []) := by decide +kernel
  rw [hzero, hread'] at hread
  cases hread
  exact absurd rfl hrest

/-- A step is the same in front of more text, if it is not the last one or its piece stops there. -/
theorem lexStep_extend (h : lexStep depth fresh cs = some s)
    (hmore : ∀ c ∈ more.head?, isBorder c = true)
    (hstops : s.rest = [] → PieceStops cs s.token more) :
    lexStep depth fresh (cs ++ more) = some (s.extend more) := by
  cases cs with
  | nil => cases h
  | cons c cs =>
    have hkind : PieceKind.of c (cs ++ more) = PieceKind.of c cs := by
      refine PieceKind.of_congr ?_
      cases cs with
      | nil =>
        cases more with
        | nil => rfl
        | cons d more => exact isDigit_of_isBorder (hmore d rfl)
      | cons d cs => rfl
    have hbegins := PieceKind.begins_of c cs
    rw [List.cons_append, lexStep_eq, hkind]
    rw [lexStep_eq] at h
    generalize PieceKind.of c cs = kind at h hbegins ⊢
    cases kind with
    | gap =>
      rw [PieceKind.step] at h
      refine gapStep_extend h fun hrest => ?_
      have htoken : s.token = none := by
        unfold gapStep at h
        obtain ⟨-, h⟩ := Option.ite_none_left_eq_some.1 h
        cases h
        rfl
      simpa [PieceStops, htoken] using hstops hrest
    | lineFeed =>
      simp only [PieceKind.step] at h ⊢
      split at h <;> cases h <;> rename_i hopen <;> simp only [hopen] <;> rfl
    | note =>
      cases h
      have hrest : (cs.dropWhile (· != '\n')).isEmpty = false := by
        rw [← Bool.not_eq_true, List.isEmpty_iff]
        exact hstops
      rw [PieceKind.step, List.dropWhile_append, hrest]
      rfl
    | joint =>
      simp only [PieceKind.step] at h
      split at h <;> cases h
      rfl
    | text =>
      obtain ⟨⟨p, rest⟩, htext, rfl⟩ := Option.map_eq_some_iff.1 h
      rw [PieceKind.step, ← List.cons_append,
        textLiteral_extend hbegins htext fun _ => isQuote_of_border hmore]
      rfl
    | number =>
      obtain ⟨⟨k, rest⟩, hread, rfl⟩ := Option.map_eq_some_iff.1 h
      have hends : NumberStops (c :: cs) rest more ∧ endsNumber (rest ++ more) = true := by
        by_cases hrest : rest = []
        · subst hrest
          exact hstops rfl
        · exact numberStops_of_rest hmore hread hrest
      rw [PieceKind.step, ← List.cons_append, numberLiteral_extend hread hends.1, if_pos hends.2]
      rfl
    | word =>
      rw [PieceKind.step] at h
      refine wordStep_extend h (fun _ => isQuote_of_border hmore) fun hall => ?_
      rw [← List.append_nil (c :: cs), wordStep_plain hall (by simp) (.inl (by simp))] at h
      obtain ⟨t, ht, rfl⟩ := Option.map_eq_some_iff.1 h
      rcases wordToken_isWord ht with ⟨id, rfl⟩ | ⟨k, rfl⟩
      · exact hstops rfl
      · exact hstops rfl
    | symbol =>
      exact symbolStep_extend h (by simp) hmore

end Steps

end TaxFlow.Formula

import Mathlib.Data.List.TakeDrop
import TaxFlow.Dialect.Render
import TaxFlow.Formula.Lexer

/-!
# Reading words, numbers and symbols

What the characters in front of some rest are read as, one token after the other. A word ends in
front of the first character that belongs to no word; a number may not go on with a point either.
-/
namespace TaxFlow.Formula

/-- Whether the characters `cs` in front of `rest` are read as the tokens `ts`, and how many
brackets are open before and after them. -/
def Lexes (depth : Nat) (fresh : Bool) (cs : List Char) (ts : List Token) (depth' : Nat)
    (rest : List Char) : Prop :=
  tokensFrom depth fresh (cs ++ rest) = (tokensFrom depth' false rest).map (ts ++ ·)

/-- Text without carriage returns has its line feeds already. -/
theorem withLineFeeds_eq_self {cs : List Char} (h : '\r' ∉ cs) : Text.withLineFeeds cs = cs := by
  induction cs with
  | nil => rfl
  | cons c cs ih =>
    rw [List.mem_cons, not_or] at h
    rw [Text.withLineFeeds, if_neg (Ne.symm h.1), ih h.2]
    intro _ hc
    exact absurd hc.symm h.1

namespace Lexes

variable {depth depth' : Nat} {fresh : Bool} {cs rest : List Char}

theorem trans {cs' : List Char} {ts ts' : List Token} {depth'' : Nat}
    (h : Lexes depth fresh cs ts depth' (cs' ++ rest))
    (h' : Lexes depth' false cs' ts' depth'' rest) :
    Lexes depth fresh (cs ++ cs') (ts ++ ts') depth'' rest := by
  rw [Lexes, List.append_assoc, h, h', Option.map_map]
  congr 1
  funext us
  simp

/-- A step of the reading that starts no new line. -/
theorem of_step (token : Option Token) (hne : cs ≠ [])
    (h : lexStep depth fresh (cs ++ rest) = some ⟨token, rest, depth', false⟩) :
    Lexes depth fresh cs token.toList depth' rest := by
  have hpos : 0 < cs.length := List.length_pos_iff.2 hne
  rw [Lexes, tokensFrom, if_neg (by simp [hne]), h]
  simp [hpos]

/-- A whole text. -/
theorem tokens_eq {ts : List Token} (h : Lexes 0 true cs ts 0 []) (hcr : '\r' ∉ cs) :
    tokens? cs = some ts := by
  rw [Lexes, List.append_nil, tokensFrom.eq_def 0 false] at h
  rw [tokens?, withLineFeeds_eq_self hcr, h]
  simp

theorem span_append {p : Char → Bool} {w : List Char} (hw : ∀ c ∈ w, p c = true)
    (hrest : ∀ c ∈ rest.head?, p c = false) : (w ++ rest).span p = (w, rest) := by
  rw [List.span_eq_takeWhile_dropWhile, List.takeWhile_append_of_pos hw,
    List.dropWhile_append_of_pos hw]
  cases rest with
  | nil => simp
  | cons c cs => simp [hrest c rfl]

/-- A blank between tokens. -/
theorem gap (hrest : ∀ c ∈ rest.head?, isGap c = false) :
    Lexes depth false [' '] [] depth rest := by
  have hspan := span_append (w := [' ']) (by simp [isGap]) hrest
  refine of_step none (by simp) ?_
  rw [List.singleton_append] at hspan ⊢
  simp only [lexStep, gapStep, hspan]
  simp [isGap]

theorem lexStep_word {c : Char} (hword : isWordChar c = true) (hdigit : c.isDigit = false) :
    lexStep depth fresh (c :: cs) = wordStep depth (c :: cs) := by
  have hne : ∀ k, isWordChar k = false → c ≠ k := by
    rintro k hk rfl
    simp [hk] at hword
  simp [lexStep, isGap, hword, hdigit, hne ' ' (by decide), hne '\t' (by decide),
    hne '\x0c' (by decide), hne '\n' (by decide), hne '#' (by decide), hne '\\' (by decide),
    hne '"' (by decide), hne '\'' (by decide),
    hne '.' (by decide)]

/-- What may follow a word. -/
def EndsWord (rest : List Char) : Prop :=
  ∀ c ∈ rest.head?, isWordChar c = false ∧ c ≠ '"' ∧ c ≠ '\''

/-- A word is read as its token. -/
theorem word {c : Char} {t : Token} (hword : ∀ d ∈ c :: cs, isWordChar d = true)
    (hdigit : c.isDigit = false) (ht : wordToken (c :: cs) = some t) (hrest : EndsWord rest) :
    Lexes depth fresh (c :: cs) [t] depth rest := by
  have hspan := span_append hword fun d hd => (hrest d hd).1
  refine of_step (some t) (by simp) ?_
  rw [List.cons_append, lexStep_word (hword c List.mem_cons_self) hdigit, ← List.cons_append,
    wordStep, hspan]
  cases rest with
  | nil => simp [ht]
  | cons d ds => simp [ht, (hrest d rfl).2.1, (hrest d rfl).2.2]

end Lexes

/-- Whether a name is an identifier in normal form that is no keyword. -/
def isPlainName (id : String) : Bool :=
  (keywords.lookup id).isNone && Text.isName id.toList && Text.normalForm id == id

theorem isDigit_iff {c : Char} : c.isDigit = true ↔ 48 ≤ c.toNat ∧ c.toNat ≤ 57 := by
  simp [Char.isDigit, UInt32.le_iff_toNat_le]

theorem isAlpha_iff {c : Char} :
    c.isAlpha = true ↔ 65 ≤ c.toNat ∧ c.toNat ≤ 90 ∨ 97 ≤ c.toNat ∧ c.toNat ≤ 122 := by
  have hvalue : c.isAlpha =
      (decide (65 ≤ c.val ∧ c.val ≤ 90) || decide (97 ≤ c.val) && decide (c.val ≤ 122)) := rfl
  simp [hvalue, UInt32.le_iff_toNat_le]

/-- The characters of identifiers belong to words. -/
theorem isWordChar_of_isNamePart {c : Char} (h : Text.isNamePart c = true) :
    isWordChar c = true := by
  unfold Text.isNamePart at h
  split at h
  · simp only [Text.isAsciiNameStart, Bool.or_eq_true, beq_iff_eq] at h
    simp only [isWordChar, Char.isAlphanum, Bool.or_eq_true, beq_iff_eq, decide_eq_true_eq]
    tauto
  · simp_all [Text.isAscii, isWordChar]

/-- No identifier begins with a digit. -/
theorem isWordChar_of_isNameStart {c : Char} (h : Text.isNameStart c = true) :
    isWordChar c = true ∧ c.isDigit = false := by
  rw [← Bool.not_eq_true, isDigit_iff]
  unfold Text.isNameStart at h
  split at h
  · simp only [Text.isAsciiNameStart, Bool.or_eq_true, beq_iff_eq, isAlpha_iff] at h
    rcases h with h | rfl
    · simp only [isWordChar, Char.isAlphanum, Bool.or_eq_true, isAlpha_iff, decide_eq_true_eq]
      omega
    · decide
  · simp_all [Text.isAscii, isWordChar]
    omega

/-- An identifier is read in normal form. -/
theorem Lexes.identifier {depth : Nat} {fresh : Bool} {cs rest : List Char}
    (hkeyword : keywords.lookup (String.ofList cs) = none) (hname : Text.isName cs = true)
    (hrest : Lexes.EndsWord rest) :
    Lexes depth fresh cs [.name (Text.normalForm (String.ofList cs))] depth rest := by
  have ht : wordToken cs = some (.name (Text.normalForm (String.ofList cs))) := by
    simp [wordToken, hkeyword, hname]
  cases cs with
  | nil => simp [Text.isName] at hname
  | cons c cs =>
    simp only [Text.isName, Bool.and_eq_true, List.all_eq_true] at hname
    obtain ⟨hword, hdigit⟩ := isWordChar_of_isNameStart hname.1
    refine Lexes.word ?_ hdigit ht hrest
    intro d hd
    rcases List.mem_cons.1 hd with rfl | hd
    · exact hword
    · exact isWordChar_of_isNamePart (hname.2 d hd)

theorem Lexes.plainName {depth : Nat} {fresh : Bool} {id : String} {rest : List Char}
    (h : isPlainName id = true) (hrest : Lexes.EndsWord rest) :
    Lexes depth fresh id.toList [.name id] depth rest := by
  simp only [isPlainName, Bool.and_eq_true, Option.isNone_iff_eq_none, beq_iff_eq] at h
  have hread : Lexes depth fresh id.toList _ depth rest :=
    Lexes.identifier (by simpa using h.1.1) h.1.2 hrest
  rwa [String.ofList_toList, h.2] at hread

section Numbers

/-- What may follow a number. -/
def EndsNumber (rest : List Char) : Prop := ∀ c ∈ rest.head?, isWordChar c = false ∧ c ≠ '.'

variable {rest : List Char}

theorem EndsNumber.endsNumber (h : EndsNumber rest) : endsNumber rest = true := by
  cases rest with
  | nil => rfl
  | cons c cs => simp [endsNumber, (h c rfl).1]

theorem EndsNumber.ne (h : EndsNumber rest) {c : Char} {cs : List Char}
    (hc : rest = c :: cs) {k : Char} (hk : isWordChar k = true ∨ k = '.') : c ≠ k := by
  rintro rfl
  have hboth := h c (by simp [hc])
  rcases hk with hk | rfl
  · simp [hk] at hboth
  · exact hboth.2 rfl

theorem EndsNumber.endsRun (h : EndsNumber rest) :
    ∀ c ∈ rest.head?, c.isDigit = false ∧ c ≠ '_' := by
  cases rest with
  | nil => simp
  | cons c cs =>
    have hword := (h c rfl).1
    simpa using ⟨by simp_all [isWordChar, Char.isAlphanum], h.ne rfl (.inl (by decide))⟩

/-- Digits are read up to the first other character, unless that is an underscore. -/
theorem digitRun_append {ds : List Char} (hds : ∀ c ∈ ds, c.isDigit = true)
    (hrest : ∀ c ∈ rest.head?, c.isDigit = false ∧ c ≠ '_') :
    digitRun Char.isDigit (ds ++ rest) = some (ds, rest) := by
  induction ds with
  | nil =>
    cases rest with
    | nil => rfl
    | cons c cs =>
      obtain ⟨hdigit, hne⟩ := hrest c rfl
      rw [List.nil_append, digitRun]
      · simp [hdigit]
      · intro h
        exact absurd h hne
      · intro _ _ h
        exact absurd h hne
  | cons d ds ih =>
    have hd := hds d List.mem_cons_self
    have hne : d ≠ '_' := by
      rintro rfl
      exact absurd hd (by decide)
    rw [List.cons_append, digitRun]
    · simp [hd, ih fun c hc => hds c (List.mem_cons_of_mem d hc)]
    · intro h
      exact absurd h hne
    · intro _ _ h
      exact absurd h hne

theorem fractionPart_none (hrest : EndsNumber rest) : fractionPart rest = some (none, rest) := by
  unfold fractionPart
  split
  · exact absurd rfl (hrest.ne rfl (.inr rfl))
  · exact absurd rfl (hrest.ne rfl (.inr rfl))
  · rfl

theorem exponentPart_none (hrest : EndsNumber rest) : exponentPart rest = some (none, rest) := by
  unfold exponentPart
  split
  next c d cs =>
    have hlower : c ≠ 'e' := hrest.ne rfl (.inl (by decide))
    have hupper : c ≠ 'E' := hrest.ne rfl (.inl (by decide))
    simp [isExponentMark, hlower, hupper]
  next => rfl

theorem head_toDigits {n : Nat} (hn : 0 < n) : (Nat.toDigits 10 n).head? ≠ some '0' := by
  induction n using Nat.strongRecOn with
  | ind n ih =>
    rw [Nat.toDigits_eq_if (by decide)]
    split
    next hlt =>
      have hdigits : ∀ k < 10, 0 < k → Nat.digitChar k ≠ '0' := by decide
      simpa using hdigits n hlt hn
    next hge =>
      have hhead := ih (n / 10) (by omega) (by omega)
      rw [List.head?_append]
      cases h : (Nat.toDigits 10 (n / 10)).head? with
      | none => simp at h
      | some c => simpa [h] using hhead

theorem ofDecimal_toDigits (n : Nat) : Text.ofDecimal (Nat.toDigits 10 n) = n := by
  have hvalue : ∀ c : Char, c.isDigit = true → (Text.hexValue? c).getD 0 = c.toNat - '0'.toNat := by
    intro c hc
    have hrange : '0' ≤ c ∧ c ≤ '9' := by simpa [Char.isDigit, Char.le_def] using hc
    simp [Text.hexValue?, hrange]
  have hfold : ∀ (cs : List Char) (k : Nat), (∀ c ∈ cs, c.isDigit = true) →
      cs.foldl (fun n c => n * 10 + (Text.hexValue? c).getD 0) k = Nat.ofDigitChars 10 cs k := by
    intro cs
    induction cs with
    | nil => simp
    | cons c cs ih =>
      intro k hcs
      rw [List.foldl_cons, Nat.ofDigitChars_cons, hvalue c (hcs c List.mem_cons_self),
        ih _ fun d hd => hcs d (List.mem_cons_of_mem c hd), Nat.mul_comm]
  rw [Text.ofDecimal, Text.ofDigits, hfold _ _ fun c =>
    Nat.isDigit_of_mem_toDigits (by decide) (by decide), Nat.ofDigitChars_ten_toDigits]

/-- The digits of a whole number are read as that number. -/
theorem decimalNumber_toDigits {n : Nat} (hn : (Nat.toDigits 10 n).length ≤ maxIntegerDigits)
    (hrest : EndsNumber rest) :
    decimalNumber (Nat.toDigits 10 n ++ rest) = some (.int n, rest) := by
  have hisDigit : ∀ c ∈ Nat.toDigits 10 n, c.isDigit = true := fun c =>
    Nat.isDigit_of_mem_toDigits (by decide) (by decide)
  have hzeros :
      ((Nat.toDigits 10 n).head? == some '0' && (Nat.toDigits 10 n).any (· != '0')) = false := by
    by_cases h : n = 0
    · subst h
      decide
    · simp [head_toDigits (Nat.pos_of_ne_zero h)]
  simp only [decimalNumber, digitRun_append hisDigit hrest.endsRun, fractionPart_none hrest,
    exponentPart_none hrest, hrest.endsNumber, hzeros, if_neg (Nat.not_lt.2 hn), ofDecimal_toDigits,
    Option.bind_eq_bind, Option.bind_some]
  cases rest with
  | nil => simp
  | cons c cs =>
    have hlower : c ≠ 'j' := hrest.ne rfl (.inl (by decide))
    have hupper : c ≠ 'J' := hrest.ne rfl (.inl (by decide))
    simp [hlower, hupper]

theorem lt_pow_iff_length_toDigits {n k : Nat} (hk : 0 < k) :
    n < Nat.pow 10 k ↔ (Nat.toDigits 10 n).length ≤ k :=
  (Nat.length_toDigits_le_iff (by decide) hk).symm

/-- Exactly the whole numbers that are not too long have a text. -/
theorem integerText_eq {n : Nat} (hn : (Nat.toDigits 10 n).length ≤ maxIntegerDigits) :
    integerText n = .ok (toString n) := by
  rw [integerText, if_pos ((lt_pow_iff_length_toDigits (by decide)).2 hn)]

theorem integerText_eq_error {n : Nat} (hn : ¬ (Nat.toDigits 10 n).length ≤ maxIntegerDigits) :
    integerText n = .error .integerTooLong := by
  rw [integerText, if_neg fun h => hn ((lt_pow_iff_length_toDigits (by decide)).1 h)]

theorem numberLiteral_toDigits {n : Nat} (hrest : EndsNumber rest) :
    numberLiteral (Nat.toDigits 10 n ++ rest) = decimalNumber (Nat.toDigits 10 n ++ rest) := by
  by_cases hn : n = 0
  · subst hn
    cases rest with
    | nil => rfl
    | cons c cs =>
      have hne : ∀ k, isWordChar k = true → c ≠ k := fun k hk => hrest.ne rfl (.inl hk)
      simp [numberLiteral, hne 'x' (by decide), hne 'X' (by decide), hne 'o' (by decide),
        hne 'O' (by decide), hne 'b' (by decide), hne 'B' (by decide)]
  · have hhead := head_toDigits (Nat.pos_of_ne_zero hn)
    cases h : Nat.toDigits 10 n with
    | nil => simp at h
    | cons c cs =>
      rw [h] at hhead
      rw [List.cons_append, numberLiteral]
      intro _ _ hzero
      exact hhead (by rw [(List.cons.inj hzero).1]; rfl)

theorem lexStep_digit {depth : Nat} {fresh : Bool} {c : Char} {cs : List Char}
    (hc : c.isDigit = true) :
    lexStep depth fresh (c :: cs) =
      (numberLiteral (c :: cs)).map fun (k, rest) => ⟨some (.number k), rest, depth, false⟩ := by
  have hne : ∀ k : Char, k.isDigit = false → c ≠ k := by
    rintro k hk rfl
    simp [hk] at hc
  simp [lexStep, isGap, hc, hne ' ' (by decide), hne '\t' (by decide), hne '\x0c' (by decide),
    hne '\n' (by decide), hne '#' (by decide), hne '\\' (by decide), hne '"' (by decide),
    hne '\'' (by decide)]

/-- A whole number is read from its text. -/
theorem Lexes.number {depth n : Nat} {fresh : Bool}
    (hn : (Nat.toDigits 10 n).length ≤ maxIntegerDigits) (hrest : EndsNumber rest) :
    Lexes depth fresh (toString n).toList [.number (.int n)] depth rest := by
  have hread : numberLiteral (Nat.toDigits 10 n ++ rest) = some (.int n, rest) := by
    rw [numberLiteral_toDigits hrest, decimalNumber_toDigits hn hrest]
  have hisDigit : ∀ c ∈ Nat.toDigits 10 n, c.isDigit = true := fun c =>
    Nat.isDigit_of_mem_toDigits (by decide) (by decide)
  rw [Nat.toString_eq_ofList_toDigits, String.toList_ofList]
  refine Lexes.of_step (some (.number (.int n))) (by simp) ?_
  cases h : Nat.toDigits 10 n with
  | nil => simp at h
  | cons c cs =>
    rw [h] at hread hisDigit
    rw [List.cons_append] at hread ⊢
    rw [lexStep_digit (hisDigit c List.mem_cons_self), hread]
    rfl

end Numbers

section Symbols

variable {depth : Nat} {fresh : Bool} {cs rest : List Char}

/-- Tokens with a blank on both sides. -/
theorem Lexes.spaced {t : Token} (hcs : ∃ c, cs.head? = some c ∧ isGap c = false)
    (h : Lexes depth false cs [t] depth (' ' :: rest)) (hrest : ∀ c ∈ rest.head?, isGap c = false) :
    Lexes depth false (' ' :: cs ++ [' ']) [t] depth rest := by
  obtain ⟨c, hhead, hc⟩ := hcs
  have hfirst : Lexes depth false [' '] [] depth (cs ++ [' '] ++ rest) := by
    refine Lexes.gap fun d hd => ?_
    simp only [List.append_assoc, List.head?_append, hhead, Option.some_or, Option.mem_some] at hd
    rwa [← hd]
  have hlast : Lexes depth false (cs ++ [' ']) ([t] ++ []) depth rest :=
    Lexes.trans h (Lexes.gap hrest)
  exact hfirst.trans hlast

theorem lexStep_symbol {c : Char} (hword : isWordChar c = false)
    (hc : c ∉ [' ', '\t', '\x0c', '\n', '#', '\\', '"', '\'', '.']) :
    lexStep depth fresh (c :: cs) = symbolStep depth (c :: cs) := by
  have hdigit : c.isDigit = false := by
    simp only [isWordChar, Char.isAlphanum, Bool.or_eq_false_iff] at hword
    exact hword.1.1.2
  simp only [List.mem_cons, List.not_mem_nil, or_false, not_or] at hc
  simp [lexStep, isGap, hword, hdigit, hc]

/-- The symbols that are written with a blank on both sides. -/
def spacedSymbols : List (List Char × Symbol) :=
  [(['+'], .arith .add), (['-'], .arith .sub), (['*'], .arith .mul), (['/'], .arith .div),
    (['<'], .relation .lt), (['<', '='], .relation .le), (['>'], .relation .gt),
    (['>', '='], .relation .ge),
    (['=', '='], .relation .eq), (['!', '='], .relation .notEq)]

theorem Lexes.spacedSymbol {s : Symbol} (h : (cs, s) ∈ spacedSymbols)
    (hrest : ∀ c ∈ rest.head?, isGap c = false) :
    Lexes depth false (' ' :: cs ++ [' ']) [.symbol s] depth rest := by
  have hhead : ∀ p ∈ spacedSymbols, ∃ c ∈ p.1.head?, isGap c = false := by
    simp [spacedSymbols, isGap]
  obtain ⟨c, hc, hgap⟩ := hhead _ h
  refine Lexes.spaced ⟨c, hc, hgap⟩ (Lexes.of_step (some (.symbol s)) ?_ ?_) hrest
  · rintro rfl
    simp at hc
  · simp only [spacedSymbols, List.mem_cons, List.not_mem_nil, or_false, Prod.mk.injEq] at h
    rcases h with ⟨rfl, rfl⟩ | ⟨rfl, rfl⟩ | ⟨rfl, rfl⟩ | ⟨rfl, rfl⟩ | ⟨rfl, rfl⟩ | ⟨rfl,
      rfl⟩ | ⟨rfl, rfl⟩ |
        ⟨rfl, rfl⟩ | ⟨rfl, rfl⟩ | ⟨rfl, rfl⟩ <;>
      rw [List.cons_append, lexStep_symbol (by decide) (by decide)] <;>
      simp [symbolStep, symbols, List.isPrefixOf, Symbol.depthAfter]

/-- The word of a binary operator is read as that operator. -/
theorem Lexes.binaryWord {op : BinaryOp} {w : String} (h : Dialect.binaryWord op = .ok w)
    (hrest : ∀ c ∈ rest.head?, isGap c = false) :
    Lexes depth false w.toList [.symbol (.arith op)] depth rest := by
  obtain ⟨hcs, hw⟩ : (w.toList.tail.dropLast, Symbol.arith op) ∈ spacedSymbols ∧
      w.toList = ' ' :: w.toList.tail.dropLast ++ [' '] := by
    cases op <;> cases h <;> decide
  rw [hw]
  exact Lexes.spacedSymbol hcs hrest

theorem Lexes.compareWord {op : CompareOp} {w : String} (h : Dialect.compareWord op = .ok w)
    (hrest : ∀ c ∈ rest.head?, isGap c = false) :
    Lexes depth false w.toList [.symbol (.relation op)] depth rest := by
  obtain ⟨hcs, hw⟩ : (w.toList.tail.dropLast, Symbol.relation op) ∈ spacedSymbols ∧
      w.toList = ' ' :: w.toList.tail.dropLast ++ [' '] := by
    cases op <;> cases h <;> decide
  rw [hw]
  exact Lexes.spacedSymbol hcs hrest

/-- The signs in front of an operand. -/
def signs : List (Char × BinaryOp) := [('-', .sub), ('+', .add)]

theorem Lexes.sign {c : Char} {op : BinaryOp} (h : (c, op) ∈ signs)
    (hrest : ∀ d ∈ rest.head?, d ≠ '=') :
    Lexes depth fresh [c] [.symbol (.arith op)] depth rest := by
  refine Lexes.of_step (some _) (by simp) ?_
  simp only [signs, List.mem_cons, List.not_mem_nil, or_false, Prod.mk.injEq] at h
  rw [List.singleton_append]
  rcases h with ⟨rfl, rfl⟩ | ⟨rfl, rfl⟩ <;>
    rw [lexStep_symbol (by decide) (by decide)] <;>
    cases rest with
    | nil => simp [symbolStep, symbols, List.isPrefixOf, Symbol.depthAfter]
    | cons d ds =>
      have hd : '=' ≠ d := (hrest d rfl).symm
      simp [symbolStep, symbols, List.isPrefixOf, Symbol.depthAfter, hd]

/-- A point in front of a name. -/
theorem Lexes.dot (hrest : ∀ c ∈ rest.head?, c ≠ '.' ∧ c.isDigit = false) :
    Lexes depth fresh ['.'] [.symbol .dot] depth rest := by
  refine Lexes.of_step (some _) (by simp) ?_
  have hstep : lexStep depth fresh ('.' :: rest) = symbolStep depth ('.' :: rest) := by
    cases rest with
    | nil => simp [lexStep, isGap, isWordChar]
    | cons c cs => simp [lexStep, isGap, isWordChar, (hrest c rfl).2]
  rw [List.singleton_append, hstep]
  cases rest with
  | nil => simp [symbolStep, symbols, List.isPrefixOf, Symbol.depthAfter]
  | cons c cs =>
    have hc : '.' ≠ c := (hrest c rfl).1.symm
    simp [symbolStep, symbols, List.isPrefixOf, Symbol.depthAfter, hc]

/-- A comma and a blank behind it. -/
theorem Lexes.comma (hrest : ∀ c ∈ rest.head?, isGap c = false) :
    Lexes depth false ", ".toList [.symbol .comma] depth rest := by
  have hcomma : Lexes depth false [','] [.symbol .comma] depth ([' '] ++ rest) := by
    refine Lexes.of_step (some _) (by simp) ?_
    rw [List.singleton_append, lexStep_symbol (by decide) (by decide)]
    simp [symbolStep, symbols, List.isPrefixOf, Symbol.depthAfter]
  exact hcomma.trans (Lexes.gap hrest)

/-- The brackets that stand around an index, arguments and items. -/
def brackets : List ((Char × Symbol) × Char × Symbol) :=
  [(('(', .openParen), ')', .closeParen), (('[', .openBracket), ']', .closeBracket)]

theorem round_mem_brackets :
    (('(', Symbol.openParen), ')', Symbol.closeParen) ∈ brackets := by decide

theorem square_mem_brackets :
    (('[', Symbol.openBracket), ']', Symbol.closeBracket) ∈ brackets := by decide

variable {opening ending : Char} {opens closes : Symbol}

/-- A bracket is opened unless too many are open. -/
theorem tokensFrom_opening (h : ((opening, opens), ending, closes) ∈ brackets) :
    tokensFrom depth fresh (opening :: rest) =
      if depth < maxDepth then (tokensFrom (depth + 1) false rest).map (.symbol opens :: ·)
        else none := by
  have hstep : lexStep depth fresh (opening :: rest) =
      if depth < maxDepth then some ⟨some (.symbol opens), rest, depth + 1, false⟩ else none := by
    simp only [brackets, List.mem_cons, List.not_mem_nil, or_false, Prod.mk.injEq] at h
    rcases h with ⟨⟨rfl, rfl⟩, rfl, rfl⟩ | ⟨⟨rfl, rfl⟩, rfl, rfl⟩ <;>
      rw [lexStep_symbol (by decide) (by decide)] <;>
      by_cases hdepth : depth < maxDepth <;>
      simp [symbolStep, symbols, List.isPrefixOf, Symbol.depthAfter, hdepth]
  rw [tokensFrom, if_neg (by simp), hstep]
  by_cases hdepth : depth < maxDepth <;> simp [hdepth]

theorem Lexes.closing (h : ((opening, opens), ending, closes) ∈ brackets) :
    Lexes (depth + 1) fresh [ending] [.symbol closes] depth rest := by
  refine Lexes.of_step (some _) (by simp) ?_
  simp only [brackets, List.mem_cons, List.not_mem_nil, or_false, Prod.mk.injEq] at h
  rcases h with ⟨⟨rfl, rfl⟩, rfl, rfl⟩ | ⟨⟨rfl, rfl⟩, rfl, rfl⟩ <;>
    rw [List.singleton_append, lexStep_symbol (by decide) (by decide)] <;>
    simp [symbolStep, symbols, List.isPrefixOf, Symbol.depthAfter]

end Symbols

end TaxFlow.Formula

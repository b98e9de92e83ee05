import TaxFlow.Proofs.Grouping
import TaxFlow.Proofs.Lexing
import TaxFlow.Proofs.Mentions
import TaxFlow.Proofs.Stack

/-!
# Expressions as phrases

What the dialect of Python writes for an expression is read as tokens again, whatever follows it:
the tokens of the expression with every name as the reference that is written for it. Brackets need
room, since only so many may be open, and a whole number has a text only up to a number of digits.
-/
namespace TaxFlow.Formula

/-- What a name is written as: the decimal class, a constant of the class, or a variable of the
object. -/
def reference (className : String) (constants : List (Option String)) (id : String) : Expr :=
  if id = "BigDecimal" ∨ id = "BigDecimalConstructor" then .name "BigDecimal"
  else if constants.contains (some id) then .member (.name className) id
  else .member (.name "self") id

/-- Whether a word is an identifier and no keyword. -/
def isIdentifier (id : String) : Bool := (keywords.lookup id).isNone && Text.isName id.toList

theorem isPlainName_iff {id : String} :
    isPlainName id = true ↔ isIdentifier id = true ∧ Text.normalForm id = id := by
  simp [isPlainName, isIdentifier]

/-- Whether an index is not written as a whole. -/
def Expr.isPartialIndex : Expr → Bool
  | .constant _ | .member .. | .subscript .. => true
  | _ => false

/-- Whether members of an expression can follow it directly. -/
def Expr.isPrimary : Expr → Bool
  | .name _ | .member .. | .subscript .. | .call .. | .list _ => true
  | _ => false

mutual

/-- Whether what is written for an expression can be told apart: members belong to what can be
followed by a point, and operations have operands. -/
def Expr.isLegible : Expr → Bool
  | .name id => isPlainName id
  | .constant (.int _) => true
  | .member e name => isPlainName name && e.isPrimary && e.isLegible
  | .subscript e i => !i.isPartialIndex && e.isLegible && i.isLegible
  | .call f args keywords => keywords.isEmpty && f.isLegible && areLegible args
  | .binary op a b => arithmetic.contains op && a.isLegible && b.isLegible
  | .unary op e => (op == .minus || op == .plus) && e.isLegible
  | .compare a op b more => relations.contains op && more.isEmpty && a.isLegible && b.isLegible
  | .bool _ es => !es.isEmpty && areLegible es
  | .list es => areLegible es
  | _ => false

def areLegible : List Expr → Bool
  | [] => true
  | e :: es => e.isLegible && areLegible es

end

mutual

/-- Whether all whole numbers of an expression have a text. -/
def Expr.isShort : Expr → Bool
  | .constant (.int n) => (Nat.toDigits 10 n).length ≤ maxIntegerDigits
  | .member e _ | .unary _ e => e.isShort
  | .subscript a b | .binary _ a b | .compare a _ b _ => a.isShort && b.isShort
  | .call f args _ => f.isShort && areShort args
  | .bool _ es | .list es => areShort es
  | _ => true

def areShort : List Expr → Bool
  | [] => true
  | e :: es => e.isShort && areShort es

end

mutual

/-- How deep the brackets of an expression are nested. -/
def Expr.nesting : Expr → Nat
  | .member e _ | .unary _ e => e.nesting
  | .subscript e i => max e.nesting (i.nesting + 1)
  | .call f args _ => max f.nesting (nestingOf args + 1)
  | .binary _ a b | .compare a _ b _ => max a.nesting b.nesting
  | .bool _ es => nestingOf es
  | .list es => nestingOf es + 1
  | _ => 0

def nestingOf : List Expr → Nat
  | [] => 0
  | e :: es => max e.nesting (nestingOf es)

end

section Brackets

variable {depth room : Nat} {fresh : Bool} {cs rest : List Char} {ts : List Token}
    {opening ending : Char}
  {opens closes : Symbol}

/-- Whether the characters `cs` in front of `rest` are read as the tokens `ts` exactly if there is
room for so many further brackets. As many brackets are open behind the characters as in front of
them. -/
def LexesWithin (room depth : Nat) (fresh : Bool) (cs : List Char) (ts : List Token)
    (rest : List Char) : Prop :=
  tokensFrom depth fresh (cs ++ rest) =
    if depth + room ≤ maxDepth then (tokensFrom depth false rest).map (ts ++ ·) else none

namespace LexesWithin

theorem of_lexes (hdepth : depth ≤ maxDepth) (h : Lexes depth fresh cs ts depth rest) :
    LexesWithin 0 depth fresh cs ts rest := by
  rw [LexesWithin, h, Nat.add_zero, if_pos hdepth]

theorem trans {room' : Nat} {cs' : List Char} {ts' : List Token}
    (h : LexesWithin room depth fresh cs ts (cs' ++ rest))
    (h' : LexesWithin room' depth false cs' ts' rest) :
    LexesWithin (max room room') depth fresh (cs ++ cs') (ts ++ ts') rest := by
  rw [LexesWithin, List.append_assoc, h, h']
  by_cases hroom : depth + room ≤ maxDepth
  · by_cases hroom' : depth + room' ≤ maxDepth
    · have hboth : depth + max room room' ≤ maxDepth := by omega
      simp [hroom, hroom', hboth, Function.comp_def]
    · have hboth : ¬ depth + max room room' ≤ maxDepth := by omega
      simp [hroom, hroom', hboth]
  · have hboth : ¬ depth + max room room' ≤ maxDepth := by omega
    simp [hroom, hboth]

/-- Characters in front of which no bracket is opened. -/
theorem after {cs' : List Char} {ts' : List Token} (hdepth : depth ≤ maxDepth)
    (h : Lexes depth fresh cs ts depth (cs' ++ rest))
    (h' : LexesWithin room depth false cs' ts' rest) :
    LexesWithin room depth fresh (cs ++ cs') (ts ++ ts') rest := by
  simpa using (of_lexes hdepth h).trans h'

/-- Brackets take the room of one more. -/
theorem enclosed (h : ((opening, opens), ending, closes) ∈ brackets) (hdepth : depth ≤ maxDepth)
    (hinner : depth < maxDepth → LexesWithin room (depth + 1) false cs ts (ending :: rest)) :
    LexesWithin (room + 1) depth fresh (opening :: cs ++ [ending])
      (.symbol opens :: ts ++ [Token.symbol closes]) rest := by
  have hclose : tokensFrom (depth + 1) false (ending :: rest) = _ := Lexes.closing h
  have hchars : opening :: cs ++ [ending] ++ rest = opening :: (cs ++ ending :: rest) := by simp
  rw [LexesWithin, hchars, tokensFrom_opening h]
  by_cases hopen : depth < maxDepth
  · have hroom : depth + 1 + room = depth + (room + 1) := by omega
    rw [if_pos hopen, hinner hopen, hclose, hroom]
    split <;> simp [Function.comp_def]
  · have hroom : ¬ depth + (room + 1) ≤ maxDepth := by omega
    rw [if_neg hopen, if_neg hroom]

end LexesWithin

end Brackets

/-- What may follow an expression that is no longer continued. -/
def Ends (rest : List Char) : Prop :=
  ∀ c ∈ rest.head?, isWordChar c = false ∧ c ≠ '.' ∧ c ≠ '"' ∧ c ≠ '\''

theorem Ends.word {rest : List Char} (h : Ends rest) : Lexes.EndsWord rest :=
  fun c hc => ⟨(h c hc).1, (h c hc).2.2⟩

theorem Ends.number {rest : List Char} (h : Ends rest) : EndsNumber rest :=
  fun c hc => ⟨(h c hc).1, (h c hc).2.1⟩

/-- The characters of words. -/
def chars (ws : List String) : List Char := ws.flatMap String.toList

theorem toList_join (ws : List String) : (String.join ws).toList = chars ws := by
  simp [chars]

theorem lexes_boolWord (op : BoolOp) {depth : Nat} {rest : List Char}
    (hrest : ∀ c ∈ rest.head?, isGap c = false) :
    Lexes depth false (Dialect.python.boolWord op).toList [op.token] depth rest := by
  have hends : Lexes.EndsWord (' ' :: rest) := by
    intro c hc
    cases hc
    decide
  cases op with
  | and =>
    have hand : Lexes depth false ['a', 'n', 'd'] [.keyword .and] depth (' ' :: rest) :=
      Lexes.word (List.all_eq_true.1 (by decide)) (by decide) (by decide) hends
    exact Lexes.spaced ⟨'a', rfl, by decide⟩ hand hrest
  | or =>
    have hor : Lexes depth false ['o', 'r'] [.keyword .or] depth (' ' :: rest) :=
      Lexes.word (List.all_eq_true.1 (by decide)) (by decide) (by decide) hends
    exact Lexes.spaced ⟨'o', rfl, by decide⟩ hor hrest

theorem clean_of_all {w : String} (h : w.toList.all (fun c => c != '\r' && c != '\x00') = true) :
    ∀ c ∈ w.toList, c ≠ '\r' ∧ c ≠ '\x00' := by
  simpa using h

theorem binaryWord_ok {op : BinaryOp} (h : op ∈ arithmetic) : ∃ w, Dialect.binaryWord op = .ok w ∧
    w.toList.head? = some ' ' ∧ ∀ c ∈ w.toList, c ≠ '\r' ∧ c ≠ '\x00' := by
  simp only [arithmetic, List.mem_cons, List.not_mem_nil, or_false] at h
  rcases h with rfl | rfl | rfl | rfl <;> exact ⟨_, rfl, by decide, clean_of_all (by decide)⟩

theorem compareWord_ok {op : CompareOp} (h : op ∈ relations) : ∃ w, Dialect.compareWord op = .ok w ∧
    w.toList.head? = some ' ' ∧ ∀ c ∈ w.toList, c ≠ '\r' ∧ c ≠ '\x00' := by
  simp only [relations, List.mem_cons, List.not_mem_nil, or_false] at h
  rcases h with rfl | rfl | rfl | rfl | rfl | rfl <;>
    exact ⟨_, rfl, by decide, clean_of_all (by decide)⟩

theorem word_clean {c : Char} (h : isWordChar c = true) : c ≠ '\r' ∧ c ≠ '\x00' := by
  constructor <;> rintro rfl <;> exact absurd h (by decide)

theorem name_chars {id : String} (h : isPlainName id = true) :
    ∃ c, id.toList.head? = some c ∧ c.isDigit = false ∧ ∀ d ∈ id.toList, isWordChar d = true := by
  simp only [isPlainName, Bool.and_eq_true] at h
  have hname := h.1.2
  cases hid : id.toList with
  | nil => simp [hid, Text.isName] at hname
  | cons c cs =>
    simp only [hid, Text.isName, Bool.and_eq_true, List.all_eq_true] at hname
    obtain ⟨hword, hdigit⟩ := isWordChar_of_isNameStart hname.1
    refine ⟨c, rfl, hdigit, fun d hd => ?_⟩
    rcases List.mem_cons.1 hd with rfl | hd
    · exact hword
    · exact isWordChar_of_isNamePart (hname.2 d hd)

theorem digit_chars (n : Nat) : ∀ c ∈ (toString n).toList, isWordChar c = true := by
  intro c hc
  rw [Nat.toString_eq_ofList_toDigits, String.toList_ofList] at hc
  have hdigit := Nat.isDigit_of_mem_toDigits (by decide) (by decide) hc
  simp [isWordChar, Char.isAlphanum, hdigit]

/-- What may follow an expression; a point only where its members can. -/
def MayFollow (pointed : Bool) (rest : List Char) : Prop :=
  if pointed then Lexes.EndsWord rest else Ends rest

theorem Ends.mayFollow {rest : List Char} (h : Ends rest) (pointed : Bool) :
    MayFollow pointed rest := by
  cases pointed with
  | true => exact h.word
  | false => exact h

theorem ends_cons {c : Char} {cs : List Char}
    (h : isWordChar c = false ∧ c ≠ '.' ∧ c ≠ '"' ∧ c ≠ '\'') :
    Ends (c :: cs) := by
  intro d hd
  cases hd
  exact h

/-- Whether an expression can begin with a character. -/
def isBeginning (c : Char) : Bool := isWordChar c || c == '-' || c == '+' || c == '['

/-- Whether the characters of an expression are read as tokens where there is room for its brackets,
whatever follows them. -/
structure Phrase (pointed : Bool) (room : Nat) (cs : List Char) (ts : List Token) : Prop where
  head : ∃ c, cs.head? = some c ∧ isBeginning c = true
  clean : ∀ c ∈ cs, c ≠ '\r' ∧ c ≠ '\x00'
  lexes : ∀ depth fresh rest, depth ≤ maxDepth → MayFollow pointed rest →
    LexesWithin room depth fresh cs ts rest

/-- Whether a word between expressions is read as a token. -/
structure Separates (w : String) (t : Token) : Prop where
  ends : ∀ rest, Ends (w.toList ++ rest)
  clean : ∀ c ∈ w.toList, c ≠ '\r' ∧ c ≠ '\x00'
  lexes : ∀ depth rest, (∀ c ∈ rest.head?, isGap c = false) →
    Lexes depth false w.toList [t] depth rest

/-- What stands between brackets: nothing, or expressions. -/
def Inside (room : Nat) (cs : List Char) (ts : List Token) : Prop :=
  (room = 0 ∧ cs = [] ∧ ts = []) ∨ Phrase false room cs ts

namespace Separates

theorem of_blank {w : String} {t : Token} (hblank : w.toList.head? = some ' ')
    (hclean : ∀ c ∈ w.toList, c ≠ '\r' ∧ c ≠ '\x00')
    (hlexes : ∀ depth rest, (∀ c ∈ rest.head?, isGap c = false) → Lexes depth false w.toList
      [t] depth rest) :
    Separates w t := by
  refine ⟨fun rest c hc => ?_, hclean, hlexes⟩
  rw [List.head?_append, hblank] at hc
  cases hc
  decide

theorem comma : Separates ", " (.symbol .comma) :=
  ⟨fun _ => ends_cons (by decide), clean_of_all (by decide), fun _ _ => Lexes.comma⟩

theorem boolWord (op : BoolOp) : Separates (Dialect.python.boolWord op) op.token :=
  of_blank (by cases op <;> decide) (by cases op <;> exact clean_of_all (by decide)) fun _ _ =>
    lexes_boolWord op

end Separates

namespace Phrase

variable {pointed pointed' : Bool} {room room' : Nat} {cs cs' : List Char} {ts ts' : List Token}

theorem head_ne (h : Phrase pointed room cs ts) {k : Char} (hk : isBeginning k = false)
    (rest : List Char) :
    ∀ c ∈ (cs ++ rest).head?, c ≠ k := by
  obtain ⟨c, hc, hbegins⟩ := h.head
  intro d hd
  rw [List.head?_append, hc] at hd
  cases hd
  rintro rfl
  simp [hk] at hbegins

theorem head_gap (h : Phrase pointed room cs ts) (rest : List Char) :
    ∀ c ∈ (cs ++ rest).head?, isGap c = false := by
  intro c hc
  simp [isGap, h.head_ne (k := ' ') (by decide) rest c hc,
    h.head_ne (k := '\t') (by decide) rest c hc, h.head_ne (k := '\x0c') (by decide) rest c hc]

/-- Where less may follow, the same is read. -/
theorem unpointed (h : Phrase pointed room cs ts) : Phrase false room cs ts :=
  ⟨h.head, h.clean, fun depth fresh rest hdepth hrest =>
    h.lexes depth fresh rest hdepth (Ends.mayFollow hrest pointed)⟩

theorem of_word {t : Token} (hne : cs ≠ []) (hword : ∀ c ∈ cs, isWordChar c = true)
    (h : ∀ depth fresh rest, MayFollow pointed rest → Lexes depth fresh cs [t] depth rest) :
    Phrase pointed 0 cs [t] := by
  obtain ⟨c, cs, rfl⟩ := List.exists_cons_of_ne_nil hne
  refine ⟨⟨c, rfl, ?_⟩, fun d hd => word_clean (hword d hd), ?_⟩
  · simp [isBeginning, hword c List.mem_cons_self]
  · exact fun depth fresh rest hdepth hrest => .of_lexes hdepth (h depth fresh rest hrest)

/-- An identifier is read in normal form. -/
theorem identifier {id : String} (h : isIdentifier id = true) :
    Phrase true 0 id.toList [.name (Text.normalForm id)] := by
  simp only [isIdentifier, Bool.and_eq_true, Option.isNone_iff_eq_none] at h
  have hne : id.toList ≠ [] := by
    intro hnil
    simp [hnil, Text.isName] at h
  have hword : ∀ c ∈ id.toList, isWordChar c = true := fun c hc =>
    isWordChar_of_isNamePart (Stands.isNamePart_of_isName h.2 c hc)
  refine of_word hne hword fun depth fresh rest hrest => ?_
  have hread : Lexes depth fresh id.toList _ depth rest :=
    Lexes.identifier (by simpa using h.1) h.2 hrest
  rwa [String.ofList_toList] at hread

theorem number {n : Nat} (hn : (Nat.toDigits 10 n).length ≤ maxIntegerDigits) :
    Phrase false 0 (toString n).toList [.number (.int n)] := by
  refine of_word (by simp) (digit_chars n) fun depth fresh rest hrest => ?_
  exact Lexes.number hn (Ends.number hrest)

/-- A member behind what it belongs to. -/
theorem member {id : String} (h : Phrase true room cs ts) (hid : isPlainName id = true) :
    Phrase true room (cs ++ ('.' :: id.toList)) (ts ++ [Token.symbol .dot, .name id]) := by
  obtain ⟨c, hc, hbegins⟩ := h.head
  obtain ⟨d, hd, hdigit, hword⟩ := name_chars hid
  refine ⟨⟨c, by simp [hc], hbegins⟩, ?_, ?_⟩
  · intro k hk
    simp only [List.mem_append, List.mem_cons] at hk
    rcases hk with hk | rfl | hk
    · exact h.clean k hk
    · decide
    · exact word_clean (hword k hk)
  · intro depth fresh rest hdepth hrest
    have hpoint : Lexes depth false ['.'] [.symbol .dot] depth (id.toList ++ rest) := by
      refine Lexes.dot fun k hk => ?_
      rw [List.head?_append, hd] at hk
      cases hk
      refine ⟨?_, hdigit⟩
      rintro rfl
      exact absurd (hword _ (List.mem_of_mem_head? hd)) (by decide)
    have hends : MayFollow true ('.' :: id.toList ++ rest) := by
      intro k hk
      cases hk
      decide
    have hmember := LexesWithin.of_lexes hdepth (hpoint.trans (Lexes.plainName hid hrest))
    simpa using (h.lexes depth fresh _ hdepth hends).trans hmember

theorem between {w : String} {t : Token} (h : Phrase pointed room cs ts) (hw : Separates w t)
    (h' : Phrase pointed' room' cs' ts') :
    Phrase false (max room room') (cs ++ (w.toList ++ cs')) (ts ++ ([t] ++ ts')) := by
  obtain ⟨c, hc, hbegins⟩ := h.head
  refine ⟨⟨c, by simp [hc], hbegins⟩, ?_, ?_⟩
  · intro k hk
    simp only [List.mem_append] at hk
    rcases hk with hk | hk | hk
    · exact h.clean k hk
    · exact hw.clean k hk
    · exact h'.clean k hk
  · intro depth fresh rest hdepth hrest
    have hright := h'.unpointed.lexes depth false rest hdepth hrest
    have hends := (hw.ends (cs' ++ rest)).mayFollow pointed
    rw [← List.append_assoc] at hends
    exact (h.lexes depth fresh _ hdepth hends).trans
      (.after hdepth (hw.lexes depth _ (h'.head_gap rest)) hright)

theorem sign {c : Char} {op : BinaryOp} (hc : (c, op) ∈ signs) (h : Phrase pointed room cs ts) :
    Phrase false room (c :: cs) (.symbol (.arith op) :: ts) := by
  obtain ⟨hbegins, hclean⟩ : isBeginning c = true ∧ c ≠ '\r' ∧ c ≠ '\x00' := by
    simp only [signs, List.mem_cons, List.not_mem_nil, or_false, Prod.mk.injEq] at hc
    rcases hc with ⟨rfl, -⟩ | ⟨rfl, -⟩ <;> decide
  refine ⟨⟨c, rfl, hbegins⟩, ?_, ?_⟩
  · intro k hk
    rcases List.mem_cons.1 hk with rfl | hk
    · exact hclean
    · exact h.clean k hk
  · intro depth fresh rest hdepth hrest
    have hoperand := h.unpointed.lexes depth false rest hdepth hrest
    exact .after hdepth (Lexes.sign hc (h.head_ne (by decide) rest)) hoperand

end Phrase

namespace Inside

variable {room : Nat} {cs : List Char} {ts : List Token} {opening ending : Char}
    {opens closes : Symbol}

theorem clean (h : Inside room cs ts) : ∀ c ∈ cs, c ≠ '\r' ∧ c ≠ '\x00' := by
  rcases h with ⟨-, rfl, -⟩ | h
  · simp
  · exact h.clean

/-- Brackets are read around what stands inside. -/
theorem enclosed (h : Inside room cs ts)
    (hpair : ((opening, opens), ending, closes) ∈ brackets) {depth : Nat}
    {fresh : Bool} {rest : List Char} (hdepth : depth ≤ maxDepth) :
    LexesWithin (room + 1) depth fresh (opening :: cs ++ [ending])
      (.symbol opens :: ts ++ [Token.symbol closes]) rest := by
  refine .enclosed hpair hdepth fun hopen => ?_
  have hends : Ends (ending :: rest) := by
    simp only [brackets, List.mem_cons, List.not_mem_nil, or_false, Prod.mk.injEq] at hpair
    rcases hpair with ⟨-, rfl, -⟩ | ⟨-, rfl, -⟩ <;> exact ends_cons (by decide)
  rcases h with ⟨rfl, rfl, rfl⟩ | h
  · rw [LexesWithin, if_pos (by omega)]
    simp
  · exact h.lexes _ _ _ hopen hends

theorem list (h : Inside room cs ts) : Phrase true (room + 1) ('[' :: cs ++ [']'])
    (.symbol .openBracket :: ts ++ [Token.symbol .closeBracket]) := by
  refine ⟨⟨'[', rfl, by decide⟩, ?_, fun depth fresh rest hdepth _ =>
    h.enclosed square_mem_brackets hdepth⟩
  intro c hc
  simp only [List.cons_append, List.mem_cons, List.mem_append, List.not_mem_nil, or_false] at hc
  rcases hc with rfl | hc | rfl
  · decide
  · exact h.clean c hc
  · decide

/-- An index or arguments behind what they belong to. -/
theorem behind {pointed : Bool} {room' : Nat} {cs' : List Char} {ts' : List Token}
    (hpair : ((opening, opens), ending, closes) ∈ brackets) (h' : Phrase pointed room' cs' ts')
    (h : Inside room cs ts) :
    Phrase true (max room' (room + 1)) (cs' ++ (opening :: cs ++ [ending]))
      (ts' ++ (.symbol opens :: ts ++ [Token.symbol closes])) := by
  have hmarks : (opening ≠ '\r' ∧ opening ≠ '\x00') ∧ (ending ≠ '\r' ∧ ending ≠ '\x00') ∧
      isWordChar opening = false ∧ opening ≠ '.' ∧ opening ≠ '"' ∧ opening ≠ '\'' := by
    simp only [brackets, List.mem_cons, List.not_mem_nil, or_false, Prod.mk.injEq] at hpair
    rcases hpair with ⟨⟨rfl, -⟩, rfl, -⟩ | ⟨⟨rfl, -⟩, rfl, -⟩ <;> decide
  obtain ⟨c, hc, hbegins⟩ := h'.head
  refine ⟨⟨c, by simp [hc], hbegins⟩, ?_, ?_⟩
  · intro k hk
    simp only [List.cons_append, List.mem_append, List.mem_cons, List.not_mem_nil, or_false] at hk
    rcases hk with hk | rfl | hk | rfl
    · exact h'.clean k hk
    · exact hmarks.1
    · exact h.clean k hk
    · exact hmarks.2.1
  · intro depth fresh rest hdepth _
    exact (h'.lexes depth fresh _ hdepth ((ends_cons hmarks.2.2).mayFollow pointed)).trans
      (h.enclosed hpair hdepth)

end Inside

/-- Whether words are written whose characters have a property, or too long a number keeps them from
being written. -/
def Outcome (short : Bool) (P : List Char → Prop) (written : Except Fault (List String)) : Prop :=
  if short then ∃ ws, written = .ok ws ∧ P (chars ws) else written = .error .integerTooLong

namespace Outcome

variable {short short' : Bool} {P P' Q : List Char → Prop}
    {written written' : Except Fault (List String)}

theorem ok {ws : List String} (h : P (chars ws)) : Outcome true P (.ok ws) := ⟨ws, rfl, h⟩

theorem mono (h : Outcome short P written) (hQ : ∀ cs, P cs → Q cs) : Outcome short Q written := by
  cases short with
  | false => exact h
  | true =>
    obtain ⟨ws, hws, hP⟩ := h
    exact ⟨ws, hws, hQ _ hP⟩

theorem map (h : Outcome short P written) (f : List String → List String)
    (hQ : ∀ ws, P (chars ws) → Q (chars (f ws))) : Outcome short Q (do .ok (f (← written))) := by
  cases short with
  | false => exact congrArg (· >>= _) h
  | true =>
    obtain ⟨ws, rfl, hP⟩ := h
    exact ⟨f ws, rfl, hQ ws hP⟩

theorem map₂ (h : Outcome short P written) (h' : Outcome short' P' written')
    (f : List String → List String → List String)
    (hQ : ∀ ws ws', P (chars ws) → P' (chars ws') → Q (chars (f ws ws'))) :
    Outcome (short && short') Q (do .ok (f (← written) (← written'))) := by
  cases short with
  | false => exact congrArg (· >>= _) h
  | true =>
    obtain ⟨ws, rfl, hP⟩ := h
    exact h'.map (f ws) fun ws' hP' => hQ ws ws' hP hP'

end Outcome

section Words

variable {className : String} {scope : Scope}

/-- A name is read as the reference that is written for it. -/
theorem phrase_name (hclass : isIdentifier className = true)
    (hscope : scope.className = some className) {id : String} (h : isPlainName id = true) :
    Phrase true 0 (Dialect.python.nameWord scope id).toList
      (reference (Text.normalForm className) scope.constants id).tokens := by
  have hself : Phrase true 0 "self".toList [.name "self"] := .identifier (by decide)
  have hdecimal : Phrase true 0 "BigDecimal".toList [.name "BigDecimal"] := .identifier (by decide)
  have howner : Dialect.python.ownerPart = "self" ++ "." := by decide
  simp only [Dialect.nameWord, reference]
  by_cases hone : id = "BigDecimal"
  · simpa [hone, Expr.tokens] using hdecimal
  · by_cases htwo : id = "BigDecimalConstructor"
    · simpa [htwo, Expr.tokens, Dialect.python] using hdecimal
    · by_cases hconstant : some id ∈ scope.constants
      · simpa [hone, htwo, hconstant, hscope, Dialect.python, Expr.tokens]
          using (Phrase.identifier hclass).member h
      · simpa [hone, htwo, hconstant, howner, Expr.tokens] using hself.member h

/-- Items are written like operands with a comma between them. -/
theorem listWords_eq (d : Dialect) (es : List Expr) :
    d.listWords scope es.length es = d.boolWords scope ", " es := by
  rw [Dialect.listWords_eq_joinedBy, Dialect.boolWords_eq_joinedBy, List.take_length]

theorem toCode_member (e : Expr) (name : String) :
    Dialect.python.toCode scope (.member e name) =
      (do .ok ((← Dialect.python.toCode scope e) ++ [".", name])) := by
  rw [Dialect.toCode]
  rfl

theorem toCode_subscript {i : Expr} (hi : i.isLegible = true)
    (hwhole : i.isPartialIndex = false) (e : Expr) :
    Dialect.python.toCode scope (.subscript e i) = (do
      .ok (Dialect.subscriptWords (← Dialect.python.toCode scope e)
        (← Dialect.python.toCode scope i))) := by
  cases i <;> simp_all [Dialect.toCode, Expr.isLegible, Expr.isPartialIndex]

/-- What is written between brackets. -/
theorem inside_separated {es : List Expr} {f : String → Expr} {d : Dialect}
    (h : es ≠ [] → Outcome (areShort es) (fun cs => Phrase false (nestingOf es) cs
      (separated (.symbol .comma) (mapNamesOf f es))) (d.boolWords scope ", " es)) :
    Outcome (areShort es) (fun cs =>
      Inside (nestingOf es) cs (separated (.symbol .comma) (mapNamesOf f es)))
      (d.boolWords scope ", " es) := by
  cases es with
  | nil =>
    rw [Dialect.boolWords, areShort]
    exact .ok (.inl ⟨rfl, rfl, rfl⟩)
  | cons e es => exact (h (by simp)).mono fun cs => .inr

mutual

/-- The words of an expression are read as the tokens of the references that it is written with. -/
theorem phrase_words (hclass : isIdentifier className = true)
    (hscope : scope.className = some className) :
    (e : Expr) → e.isLegible = true →
    Outcome e.isShort (fun cs => Phrase e.isPrimary e.nesting cs
      (e.mapNames (reference (Text.normalForm className) scope.constants)).tokens)
        (Dialect.python.toCode scope e)
  | .name id, h => by
    have hname : isPlainName id = true := by simpa [Expr.isLegible] using h
    rw [Dialect.toCode]
    exact .ok (by
      simpa [chars, Expr.mapNames, Expr.isPrimary, Expr.nesting]
        using phrase_name hclass hscope hname)
  | .constant (.int n), _ => by
    simp only [Dialect.toCode, Dialect.constantWord, Constant.isNumber, Constant.plainText,
      if_true, Expr.isShort]
    by_cases hn : (Nat.toDigits 10 n).length ≤ maxIntegerDigits
    · rw [integerText_eq hn, decide_eq_true hn]
      exact .ok (by
        simpa [chars, Expr.mapNames, Expr.tokens, Expr.isPrimary, Expr.nesting]
          using Phrase.number hn)
    · rw [integerText_eq_error hn, decide_eq_false hn]
      rfl
  | .member e name, h => by
    simp only [Expr.isLegible, Bool.and_eq_true] at h
    have he := phrase_words hclass hscope e h.2
    rw [h.1.2] at he
    rw [toCode_member, Expr.isShort]
    refine he.map (fun ws => ws ++ [".", name]) fun ws hws => ?_
    simpa [chars, Expr.mapNames, Expr.tokens, Expr.isPrimary, Expr.nesting] using hws.member h.1.1
  | .subscript e i, h => by
    simp only [Expr.isLegible, Bool.and_eq_true, Bool.not_eq_true'] at h
    have he := phrase_words hclass hscope e h.1.2
    have hi := phrase_words hclass hscope i h.2
    rw [toCode_subscript h.2 h.1.1, Expr.isShort]
    refine he.map₂ hi _ fun ws ws' hws hws' => ?_
    have hboth := Inside.behind square_mem_brackets hws (.inr hws'.unpointed)
    simpa [chars, Dialect.subscriptWords, Expr.mapNames, Expr.tokens, Expr.isPrimary,
      Expr.nesting] using hboth
  | .call f args keywords, h => by
    simp only [Expr.isLegible, Bool.and_eq_true] at h
    have hf := phrase_words hclass hscope f h.1.2
    have hargs := inside_separated (phrase_separated hclass hscope Separates.comma args h.2)
    rw [Dialect.toCode_call (by decide), listWords_eq, Expr.isShort]
    refine hf.map₂ hargs (fun ws ws' => ws ++ ["("] ++ ws' ++ [")"]) fun ws ws' hws hws' => ?_
    simpa [chars, Expr.mapNames, Expr.tokens, Expr.isPrimary, Expr.nesting]
      using Inside.behind round_mem_brackets hws hws'
  | .binary op a b, h => by
    simp only [Expr.isLegible, Bool.and_eq_true, List.contains_iff_mem] at h
    have ha := phrase_words hclass hscope a h.1.2
    have hb := phrase_words hclass hscope b h.2
    obtain ⟨w, hw, hblank, hclean⟩ := binaryWord_ok h.1.1
    have hseparates := Separates.of_blank hblank hclean fun depth rest => Lexes.binaryWord hw
    rw [Dialect.toCode, hw, Expr.isShort]
    refine ha.map₂ hb (fun ws ws' => ws ++ [w] ++ ws') fun ws ws' hws hws' => ?_
    simpa [chars, Expr.mapNames, Expr.tokens, Expr.isPrimary, Expr.nesting]
      using hws.between hseparates hws'
  | .unary op e, h => by
    simp only [Expr.isLegible, Bool.and_eq_true, Bool.or_eq_true, beq_iff_eq] at h
    have he := phrase_words hclass hscope e h.2
    rw [Dialect.toCode, Expr.isShort]
    refine he.map (fun ws => Dialect.unaryWord op :: ws) fun ws hws => ?_
    rcases h.1 with rfl | rfl
    · simpa [chars, Dialect.unaryWord, Expr.mapNames, Expr.tokens, UnaryOp.token,
        Expr.isPrimary, Expr.nesting]
        using hws.sign (c := '-') (by decide)
    · simpa [chars, Dialect.unaryWord, Expr.mapNames, Expr.tokens, UnaryOp.token,
        Expr.isPrimary, Expr.nesting]
        using hws.sign (c := '+') (by decide)
  | .bool op es, h => by
    simp only [Expr.isLegible, Bool.and_eq_true] at h
    have hes := phrase_separated hclass hscope (.boolWord op) es h.2 (by rintro rfl; simp at h)
    simpa [Dialect.toCode, Expr.isShort, Expr.mapNames, Expr.tokens, Expr.isPrimary,
      Expr.nesting] using hes
  | .compare a op b more, h => by
    simp only [Expr.isLegible, Bool.and_eq_true, List.contains_iff_mem, List.isEmpty_iff] at h
    obtain ⟨⟨⟨hop, rfl⟩, hwa⟩, hwb⟩ := h
    have ha := phrase_words hclass hscope a hwa
    have hb := phrase_words hclass hscope b hwb
    obtain ⟨w, hw, hblank, hclean⟩ := compareWord_ok hop
    have hseparates := Separates.of_blank hblank hclean fun depth rest => Lexes.compareWord hw
    rw [Dialect.toCode, hw, Expr.isShort]
    refine ha.map₂ hb (fun ws ws' => ws ++ [w] ++ ws') fun ws ws' hws hws' => ?_
    simpa [chars, Expr.mapNames, mapLinkNames, Expr.tokens, linked, Expr.isPrimary, Expr.nesting]
      using hws.between hseparates hws'
  | .list es, h => by
    simp only [Expr.isLegible] at h
    have hes := inside_separated (phrase_separated hclass hscope Separates.comma es h)
    rw [Dialect.toCode, listWords_eq, Expr.isShort]
    refine hes.map (fun ws => ["["] ++ ws ++ ["]"]) fun ws hws => ?_
    simpa [chars, Expr.mapNames, Expr.tokens, Expr.isPrimary, Expr.nesting] using hws.list
  | .constant (.float _), h | .constant (.imaginary _), h | .constant (.text ..), h
  | .constant (.bytes _), h
  | .constant .true, h | .constant .false, h | .constant .none, h | .constant .ellipsis, h
  | .constant (.other ..), h
  | .incomplete .., h | .tuple _, h | .set _, h | .dict _, h | .conditional .., h | .starred _, h
  | .slice .., h
  | .other _, h | .holder .., h => by simp [Expr.isLegible] at h

theorem phrase_separated (hclass : isIdentifier className = true)
    (hscope : scope.className = some className)
    {w : String} {t : Token} (hw : Separates w t) :
    (es : List Expr) → areLegible es = true → es ≠ [] →
    Outcome (areShort es) (fun cs => Phrase false (nestingOf es) cs
      (separated t (mapNamesOf (reference (Text.normalForm className) scope.constants) es)))
      (Dialect.python.boolWords scope w es)
  | [], _, hne => absurd rfl hne
  | [e], h, _ => by
    simp only [areLegible, Bool.and_true] at h
    have he := phrase_words hclass hscope e h
    have hwords : Dialect.python.boolWords scope w [e] = Dialect.python.toCode scope e := by
      rw [Dialect.boolWords]
      cases Dialect.python.toCode scope e <;> rfl
    rw [hwords, areShort, areShort, Bool.and_true]
    refine he.mono fun cs hcs => ?_
    simpa [mapNamesOf, separated, behind, nestingOf] using hcs.unpointed
  | e :: a :: es, h, _ => by
    rw [areLegible, Bool.and_eq_true] at h
    have he := phrase_words hclass hscope e h.1
    have hes := phrase_separated hclass hscope hw (a :: es) h.2 (by simp)
    rw [Dialect.boolWords, areShort]
    refine he.map₂ hes (fun ws ws' => ws ++ [w] ++ ws') fun ws ws' hws hws' => ?_
    rw [nestingOf]
    simpa [chars, mapNamesOf, separated, behind] using hws.between hw hws'

end

end Words

/-- The tokens of a whole text. -/
theorem Phrase.tokens_eq {pointed : Bool} {room : Nat} {cs : List Char} {ts : List Token}
    (h : Phrase pointed room cs ts) : tokens? cs = if room ≤ maxDepth then some ts else none := by
  have hlexes := h.unpointed.lexes 0 true [] (by decide) (by simp [MayFollow, Ends])
  rw [LexesWithin, List.append_nil, Nat.zero_add, tokensFrom.eq_def 0 false] at hlexes
  rw [tokens?, withLineFeeds_eq_self fun hmem => (h.clean _ hmem).1 rfl, hlexes]
  simp

/-- A whole text is read as its tokens are, if not too many brackets are open. -/
theorem Phrase.readerOf_eq {pointed : Bool} {room : Nat} {cs : List Char} {ts : List Token}
    (h : Phrase pointed room cs ts) (script : List Char → Option (List Statement))
    (read : List Token → Option (List Statement))
    (hscript : ∀ cs, script cs = (tokens? cs).bind read) :
    readerOf script cs =
      if room ≤ maxDepth then (read ts).elim (.error .unreadableFormula)
        .ok else .error .unreadableFormula := by
  have hnull : '\x00' ∉ cs := fun hmem => (h.clean _ hmem).2 rfl
  rw [readerOf, if_neg (by simpa using hnull), hscript, h.tokens_eq]
  by_cases hroom : room ≤ maxDepth
  · simp only [hroom, if_true, Option.bind_some]
    cases read ts <;> rfl
  · simp [hroom]

theorem Phrase.statementsOf_eq {pointed : Bool} {room : Nat} {cs : List Char} {ts : List Token}
    (h : Phrase pointed room cs ts) (hroom : room ≤ maxDepth) {ss : List Statement}
    (hread : statements (depthFor ts) ts = some ss) : statementsOf cs = .ok ss := by
  rw [statementsOf, h.readerOf_eq script? (fun ts => statements (depthFor ts) ts) fun _ => rfl,
    if_pos hroom, hread]
  rfl

/-- Words that are written make up a text. -/
theorem Outcome.render {P : List Char → Prop} {d : Dialect} {scope : Scope} {e : Expr}
    (h : Outcome true P (d.toCode scope e)) :
    ∃ text, d.render scope (some e) = .ok text ∧ P text.toList := by
  obtain ⟨ws, hws, hP⟩ := h
  refine ⟨String.join ws, by simp [Dialect.render, Dialect.valueWords, hws, bind, Except.bind], ?_⟩
  rwa [toList_join]

end TaxFlow.Formula

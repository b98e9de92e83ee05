import TaxFlow.Formula.Parser

/-!
# Grouping by strength

How tightly operators hold their operands together, the tokens of an expression that is written
without parentheses, and the expressions that need none. The strengths are those of the readers, in
the order in which they descend: 0 for conditional expressions, 1 for disjunctions, 2 for
conjunctions, 3 for inversions, 4 for comparisons, from 5 to 10 for the binary operators, 12 for
signs and powers, and 13 for everything that is no operation.
-/
namespace TaxFlow.Formula

def BoolOp.strength : BoolOp → Nat
  | .or => 1
  | .and => 2

def BinaryOp.strength : BinaryOp → Nat
  | .bitOr => 5
  | .bitXor => 6
  | .bitAnd => 7
  | .shiftLeft | .shiftRight => 8
  | .add | .sub => 9
  | .mul | .div | .floorDiv | .mod | .matMul => 10
  | .pow => 12

/-- The binary operators that formulas are written with. -/
def arithmetic : List BinaryOp := [.add, .sub, .mul, .div]

/-- The comparisons that are written with a symbol. -/
def relations : List CompareOp := [.lt, .le, .gt, .ge, .eq, .notEq]

/-- The strength with which a token continues the expression in front of it. -/
def Token.strength : Token → Option Nat
  | .keyword .if => some 0
  | .keyword .or => some 1
  | .keyword .and => some 2
  | .keyword .not | .keyword .in | .keyword .is | .symbol (.relation _) => some 4
  | .symbol (.arith op) => some op.strength
  | .symbol .dot | .symbol .openParen | .symbol .openBracket => some 13
  | _ => none

/-- Whether an expression of strength `k` ends in front of these tokens. -/
def Stops (k : Nat) (ts : List Token) : Prop := ∀ t ∈ ts.head?, ∀ s ∈ t.strength, s < k

/-- Whether an expression of strength `k` can begin with a token. -/
def Token.opens (k : Nat) : Token → Bool
  | .name _ | .number _ | .symbol .openBracket => true
  | .symbol (.arith .add) | .symbol (.arith .sub) | .symbol .tilde => k ≤ 12
  | _ => false

def BoolOp.token : BoolOp → Token
  | .or => .keyword .or
  | .and => .keyword .and

def UnaryOp.token : UnaryOp → Token
  | .minus => .symbol (.arith .sub)
  | .plus => .symbol (.arith .add)
  | .invert => .symbol .tilde
  | .not => .keyword .not

mutual

/-- The tokens of an expression without parentheses around operands. -/
def Expr.tokens : Expr → List Token
  | .name id => [.name id]
  | .constant k => [.number k]
  | .member e name => e.tokens ++ [.symbol .dot, .name name]
  | .subscript e i => e.tokens ++ .symbol .openBracket :: i.tokens ++ [.symbol .closeBracket]
  | .call f args _ => f.tokens ++ .symbol .openParen :: separated (.symbol .comma) args ++
      [.symbol .closeParen]
  | .binary op a b => a.tokens ++ .symbol (.arith op) :: b.tokens
  | .unary op e => op.token :: e.tokens
  | .bool op es => separated op.token es
  | .compare a op b more => a.tokens ++ .symbol (.relation op) :: b.tokens ++ linked more
  | .list es => .symbol .openBracket :: separated (.symbol .comma) es ++ [.symbol .closeBracket]
  | _ => []

/-- The tokens of expressions with a token between them. -/
def separated (t : Token) : List Expr → List Token
  | [] => []
  | e :: es => e.tokens ++ behind t es

/-- The tokens of expressions with a token in front of each. -/
def behind (t : Token) : List Expr → List Token
  | [] => []
  | e :: es => t :: e.tokens ++ behind t es

/-- The tokens of the further links of a comparison. -/
def linked : List (CompareOp × Expr) → List Token
  | [] => []
  | (op, e) :: more => .symbol (.relation op) :: e.tokens ++ linked more

end

mutual

/-- Whether an expression needs no parentheses where an operand of strength `k` is asked for, and
none inside. Binary operators are taken together from the left. -/
def Expr.fits (k : Nat) : Expr → Bool
  | .name _ | .constant _ => k ≤ 13
  | .member e _ => k ≤ 13 && e.fits 13
  | .subscript e i => k ≤ 13 && e.fits 13 && i.fits 0
  | .call f args keywords => k ≤ 13 && f.fits 13 && areFit 0 args && keywords.isEmpty
  | .binary op a b =>
    k ≤ op.strength && op != .pow && a.fits op.strength && b.fits (op.strength + 1)
  | .unary op e => k ≤ 12 && op != .not && e.fits 12
  | .bool op es => k ≤ op.strength && 2 ≤ es.length && areFit (op.strength + 1) es
  | .compare a _ b more => k ≤ 4 && a.fits 5 && b.fits 5 && linksFit more
  | .list es => k ≤ 13 && areFit 0 es
  | _ => false

def areFit (k : Nat) : List Expr → Bool
  | [] => true
  | e :: es => e.fits k && areFit k es

def linksFit : List (CompareOp × Expr) → Bool
  | [] => true
  | (_, e) :: more => e.fits 5 && linksFit more

end

/-- Whether an expression needs no parentheses at all. -/
def Expr.isGrouped (e : Expr) : Bool := e.fits 0

theorem Expr.fits_mono {e : Expr} {j k : Nat} (hjk : j ≤ k) (h : e.fits k = true) :
    e.fits j = true := by
  cases e <;> simp_all [Expr.fits] <;> omega

theorem Token.opens_mono {t : Token} {j k : Nat} (hjk : j ≤ k) (h : t.opens k = true) :
    t.opens j = true := by
  unfold Token.opens at *
  split at h <;> simp_all <;> omega

/-- An expression begins with a token that opens one. -/
theorem Expr.tokens_opens : {e : Expr} → {k : Nat} → e.fits k = true →
    ∃ t, e.tokens.head? = some t ∧ t.opens k = true
  | .name id, _, _ => ⟨.name id, by simp [tokens], rfl⟩
  | .constant c, _, _ => ⟨.number c, by simp [tokens], rfl⟩
  | .list _, _, _ => ⟨.symbol .openBracket, by simp [tokens], rfl⟩
  | .member e _, k, h => by
    simp only [fits, Bool.and_eq_true, decide_eq_true_eq] at h
    obtain ⟨t, hhead, ht⟩ := tokens_opens h.2
    exact ⟨t, by simp [tokens, hhead], Token.opens_mono h.1 ht⟩
  | .subscript e _, k, h => by
    simp only [fits, Bool.and_eq_true, decide_eq_true_eq] at h
    obtain ⟨t, hhead, ht⟩ := tokens_opens h.1.2
    exact ⟨t, by simp [tokens, hhead], Token.opens_mono h.1.1 ht⟩
  | .call f _ _, k, h => by
    simp only [fits, Bool.and_eq_true, decide_eq_true_eq] at h
    obtain ⟨t, hhead, ht⟩ := tokens_opens h.1.1.2
    exact ⟨t, by simp [tokens, hhead], Token.opens_mono h.1.1.1 ht⟩
  | .binary op a _, k, h => by
    simp only [fits, Bool.and_eq_true, decide_eq_true_eq] at h
    obtain ⟨t, hhead, ht⟩ := tokens_opens h.1.2
    exact ⟨t, by simp [tokens, hhead], Token.opens_mono h.1.1.1 ht⟩
  | .unary op e, k, h => by
    simp only [fits, Bool.and_eq_true, decide_eq_true_eq] at h
    refine ⟨op.token, by simp [tokens], ?_⟩
    cases op <;> simp_all [UnaryOp.token, Token.opens]
  | .bool op [], k, h => by simp [fits] at h
  | .bool op (e :: _), k, h => by
    simp only [fits, areFit, Bool.and_eq_true, decide_eq_true_eq] at h
    obtain ⟨t, hhead, ht⟩ := tokens_opens h.2.1
    exact ⟨t, by simp [tokens, separated, hhead], Token.opens_mono (by omega) ht⟩
  | .compare a _ _ _, k, h => by
    simp only [fits, Bool.and_eq_true, decide_eq_true_eq] at h
    obtain ⟨t, hhead, ht⟩ := tokens_opens h.1.1.2
    exact ⟨t, by simp [tokens, hhead], Token.opens_mono (by omega) ht⟩

mutual

/-- Nothing is assigned inside of an expression. -/
theorem Expr.equals_not_mem : (e : Expr) → Token.symbol .equals ∉ e.tokens
  | .name _ | .constant _ => by simp [Expr.tokens]
  | .member e _ => by simp [Expr.tokens, e.equals_not_mem]
  | .subscript e i => by simp [Expr.tokens, e.equals_not_mem, i.equals_not_mem]
  | .call f args _ => by
    simp [Expr.tokens, f.equals_not_mem,
      separated_equals_not_mem (t := .symbol .comma) (by simp) args]
  | .binary _ a b => by simp [Expr.tokens, a.equals_not_mem, b.equals_not_mem]
  | .unary op e => by cases op <;> simp [Expr.tokens, UnaryOp.token, e.equals_not_mem]
  | .bool op es => by
    have h := separated_equals_not_mem (t := op.token) (by cases op <;> simp [BoolOp.token]) es
    simpa [Expr.tokens] using h
  | .compare a _ b more => by
    simp [Expr.tokens, a.equals_not_mem, b.equals_not_mem, linked_equals_not_mem more]
  | .list es => by simp [Expr.tokens, separated_equals_not_mem (t := .symbol .comma) (by simp) es]
  | .incomplete .. | .tuple _ | .set _ | .dict _ | .conditional .. | .starred _ | .slice ..
  | .other _ | .holder .. => by
    simp [Expr.tokens]

theorem separated_equals_not_mem {t : Token} (ht : t ≠ .symbol .equals) :
    (es : List Expr) → Token.symbol .equals ∉ separated t es
  | [] => by simp [separated]
  | e :: es => by simp [separated, e.equals_not_mem, behind_equals_not_mem ht es]

theorem behind_equals_not_mem {t : Token} (ht : t ≠ .symbol .equals) :
    (es : List Expr) → Token.symbol .equals ∉ behind t es
  | [] => by simp [behind]
  | e :: es => by simp [behind, ht.symm, e.equals_not_mem, behind_equals_not_mem ht es]

theorem linked_equals_not_mem :
    (more : List (CompareOp × Expr)) → Token.symbol .equals ∉ linked more
  | [] => by simp [linked]
  | (_, e) :: more => by simp [linked, e.equals_not_mem, linked_equals_not_mem more]

end

mutual

/-- The expression with its names replaced; arguments by keyword are kept. -/
def Expr.mapNames (f : String → Expr) : Expr → Expr
  | .name id => f id
  | .member e name => .member (e.mapNames f) name
  | .subscript e i => .subscript (e.mapNames f) (i.mapNames f)
  | .call g args keywords => .call (g.mapNames f) (mapNamesOf f args) keywords
  | .binary op a b => .binary op (a.mapNames f) (b.mapNames f)
  | .unary op e => .unary op (e.mapNames f)
  | .bool op es => .bool op (mapNamesOf f es)
  | .compare a op b more => .compare (a.mapNames f) op (b.mapNames f) (mapLinkNames f more)
  | .list es => .list (mapNamesOf f es)
  | e => e

def mapNamesOf (f : String → Expr) : List Expr → List Expr
  | [] => []
  | e :: es => e.mapNames f :: mapNamesOf f es

def mapLinkNames (f : String → Expr) : List (CompareOp × Expr) → List (CompareOp × Expr)
  | [] => []
  | (op, e) :: more => (op, e.mapNames f) :: mapLinkNames f more

end

theorem length_mapNamesOf (f : String → Expr) (es : List Expr) :
    (mapNamesOf f es).length = es.length := by
  induction es with
  | nil => rfl
  | cons e es ih => simp [mapNamesOf, ih]

section MapNames

variable {f : String → Expr}

mutual

/-- Names that are replaced by expressions of the same strength change nothing about parentheses. -/
theorem Expr.fits_mapNames (hf : ∀ id, (f id).fits 13 = true) (k : Nat) (hk : k ≤ 13) :
    (e : Expr) → (e.mapNames f).fits k = e.fits k
  | .name id => by simp [Expr.mapNames, Expr.fits, hk, Expr.fits_mono hk (hf id)]
  | .constant _ => by simp [Expr.mapNames]
  | .member e _ => by simp [Expr.mapNames, Expr.fits, e.fits_mapNames hf 13]
  | .subscript e i => by
    simp [Expr.mapNames, Expr.fits, e.fits_mapNames hf 13, i.fits_mapNames hf 0]
  | .call g args _ => by
    simp [Expr.mapNames, Expr.fits, g.fits_mapNames hf 13, areFit_mapNamesOf hf 0 (by omega) args]
  | .binary op a b => by
    by_cases hop : op = .pow
    · simp [Expr.mapNames, Expr.fits, hop]
    · have hstrength : op.strength ≤ 10 := by cases op <;> simp_all [BinaryOp.strength]
      simp [Expr.mapNames, Expr.fits, a.fits_mapNames hf op.strength (by omega),
        b.fits_mapNames hf (op.strength + 1) (by omega)]
  | .unary _ e => by simp [Expr.mapNames, Expr.fits, e.fits_mapNames hf 12]
  | .bool op es => by
    have hstrength : op.strength ≤ 2 := by cases op <;> simp [BoolOp.strength]
    simp [Expr.mapNames, Expr.fits, length_mapNamesOf,
      areFit_mapNamesOf hf (op.strength + 1) (by omega) es]
  | .compare a _ b more => by
    simp [Expr.mapNames, Expr.fits, a.fits_mapNames hf 5, b.fits_mapNames hf 5,
      linksFit_mapLinkNames hf more]
  | .list es => by simp [Expr.mapNames, Expr.fits, areFit_mapNamesOf hf 0 (by omega) es]
  | .incomplete .. | .tuple _ | .set _ | .dict _ | .conditional .. | .starred _ | .slice ..
  | .other _ | .holder .. => by
    simp [Expr.mapNames]

theorem areFit_mapNamesOf (hf : ∀ id, (f id).fits 13 = true) (k : Nat) (hk : k ≤ 13) :
    (es : List Expr) → areFit k (mapNamesOf f es) = areFit k es
  | [] => rfl
  | e :: es => by simp [mapNamesOf, areFit, e.fits_mapNames hf k hk, areFit_mapNamesOf hf k hk es]

theorem linksFit_mapLinkNames (hf : ∀ id, (f id).fits 13 = true) :
    (more : List (CompareOp × Expr)) → linksFit (mapLinkNames f more) = linksFit more
  | [] => rfl
  | (_, e) :: more => by
    simp [mapLinkNames, linksFit, e.fits_mapNames hf 5, linksFit_mapLinkNames hf more]

end

end MapNames

end TaxFlow.Formula

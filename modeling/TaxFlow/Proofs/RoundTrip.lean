import TaxFlow.Proofs.OperatorNesting
import TaxFlow.Proofs.Stack
import TaxFlow.Proofs.TokenBorders

/-!
# Expressions that are read as they were written

An expression that needs no parentheses is written in the dialect of Python and read again as the
same expression, with every name as the reference that is written for it. A whole number has a text
only up to a number of digits, and brackets are read only up to a depth. Apart from that, what is
too large for the stack is not written, and what is too large for the descent of the reader is not
read; otherwise neither of them makes a difference.
-/
namespace TaxFlow.Formula

/-- Whether an expression is a literal. -/
def Expr.isLiteral : Expr → Bool
  | .constant _ => true
  | _ => false

mutual

/-- Whether an expression consists of elements that are written as a whole. -/
def Expr.isWritable : Expr → Bool
  | .name id => isPlainName id
  | .constant (.int _) => true
  | .member e name => isPlainName name && !e.isLiteral && e.isWritable
  | .subscript e i => !i.isPartialIndex && e.isWritable && i.isWritable
  | .call f args keywords => keywords.isEmpty && f.isWritable && areWritable args
  | .binary op a b => arithmetic.contains op && a.isWritable && b.isWritable
  | .unary op e => (op == .minus || op == .plus) && e.isWritable
  | .compare a op b more => relations.contains op && more.isEmpty && a.isWritable && b.isWritable
  | .bool _ es | .list es => areWritable es
  | _ => false

def areWritable : List Expr → Bool
  | [] => true
  | e :: es => e.isWritable && areWritable es

end

theorem isPrimary_of_fits {e : Expr} (h : e.fits 13 = true) (hliteral : e.isLiteral = false) :
    e.isPrimary = true := by
  cases e with
  | binary op _ _ => cases op <;> simp [Expr.fits, BinaryOp.strength] at h
  | bool op _ => cases op <;> simp [Expr.fits, BoolOp.strength] at h
  | _ => simp_all [Expr.fits, Expr.isLiteral, Expr.isPrimary]

mutual

/-- Where no parentheses are needed, members belong to what can be followed by a point. -/
theorem isLegible_of_isWritable :
    (e : Expr) → {k : Nat} → e.fits k = true → e.isWritable = true → e.isLegible = true
  | .name _, _, _, h => by simpa [Expr.isWritable, Expr.isLegible] using h
  | .constant (.int _), _, _, _ => by simp [Expr.isLegible]
  | .member e name, _, hfits, h => by
    simp only [Expr.fits, Bool.and_eq_true] at hfits
    simp only [Expr.isWritable, Bool.and_eq_true, Bool.not_eq_true'] at h
    have he := isLegible_of_isWritable e hfits.2 h.2
    simp [Expr.isLegible, h.1.1, isPrimary_of_fits hfits.2 h.1.2, he]
  | .subscript e i, _, hfits, h => by
    simp only [Expr.fits, Bool.and_eq_true] at hfits
    simp only [Expr.isWritable, Bool.and_eq_true] at h
    have he := isLegible_of_isWritable e hfits.1.2 h.1.2
    have hi := isLegible_of_isWritable i hfits.2 h.2
    simp only [Expr.isLegible, h.1.1, he, hi, Bool.and_self]
  | .call f args keywords, _, hfits, h => by
    simp only [Expr.fits, Bool.and_eq_true] at hfits
    simp only [Expr.isWritable, Bool.and_eq_true] at h
    have hf := isLegible_of_isWritable f hfits.1.1.2 h.1.2
    have hargs := areLegible_of_areWritable args hfits.1.2 h.2
    simp only [Expr.isLegible, h.1.1, hf, hargs, Bool.and_self]
  | .binary op a b, _, hfits, h => by
    simp only [Expr.fits, Bool.and_eq_true] at hfits
    simp only [Expr.isWritable, Bool.and_eq_true] at h
    have ha := isLegible_of_isWritable a hfits.1.2 h.1.2
    have hb := isLegible_of_isWritable b hfits.2 h.2
    simp only [Expr.isLegible, h.1.1, ha, hb, Bool.and_self]
  | .unary op e, _, hfits, h => by
    simp only [Expr.fits, Bool.and_eq_true] at hfits
    simp only [Expr.isWritable, Bool.and_eq_true] at h
    have he := isLegible_of_isWritable e hfits.2 h.2
    simp only [Expr.isLegible, h.1, he, Bool.and_self]
  | .compare a op b more, _, hfits, h => by
    simp only [Expr.fits, Bool.and_eq_true] at hfits
    simp only [Expr.isWritable, Bool.and_eq_true] at h
    have ha := isLegible_of_isWritable a hfits.1.1.2 h.1.2
    have hb := isLegible_of_isWritable b hfits.1.2 h.2
    simp only [Expr.isLegible, h.1.1.1, h.1.1.2, ha, hb, Bool.and_self]
  | .bool op es, _, hfits, h => by
    simp only [Expr.fits, Bool.and_eq_true, decide_eq_true_eq] at hfits
    simp only [Expr.isWritable] at h
    have hne : es.isEmpty = false := by cases es <;> simp at hfits ⊢
    simp [Expr.isLegible, hne, areLegible_of_areWritable es hfits.2 h]
  | .list es, _, hfits, h => by
    simp only [Expr.fits, Bool.and_eq_true] at hfits
    simp only [Expr.isWritable] at h
    simpa [Expr.isLegible] using areLegible_of_areWritable es hfits.2 h
  | .constant (.float _), _, _, h | .constant (.imaginary _), _, _, h
  | .constant (.text ..), _, _, h
  | .constant (.bytes _), _, _, h | .constant .true, _, _, h | .constant .false, _, _, h
  | .constant .none, _, _, h
  | .constant .ellipsis, _, _, h | .constant (.other ..), _, _, h | .incomplete .., _, _, h
  | .tuple _, _, _, h
  | .set _, _, _, h | .dict _, _, _, h | .conditional .., _, _, h | .starred _, _, _, h
  | .slice .., _, _, h
  | .other _, _, _, h | .holder .., _, _, h => by simp [Expr.isWritable] at h

theorem areLegible_of_areWritable :
    (es : List Expr) → {k : Nat} → areFit k es = true → areWritable es = true →
    areLegible es = true
  | [], _, _, _ => rfl
  | e :: es, _, hfits, h => by
    rw [areFit, Bool.and_eq_true] at hfits
    rw [areWritable, Bool.and_eq_true] at h
    rw [areLegible, isLegible_of_isWritable e hfits.1 h.1, areLegible_of_areWritable es hfits.2 h.2,
      Bool.and_self]

end

end TaxFlow.Formula

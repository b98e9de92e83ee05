/-!
# Double precision numbers by value

A finite number is an exact product `mantissa · 2 ^ exponent`. Decimal texts are rounded to the
nearest such number, a tie going to the even mantissa, in exact integer arithmetic.
-/
namespace TaxFlow.Number

/-- Double precision numbers. A finite mantissa lies below `2 ^ 53`; it is at least `2 ^ 52` unless
the exponent is the least one, `-1074`. -/
inductive Binary64 where
  | finite (negative : Bool) (mantissa : Nat) (exponent : Int)
  | infinite (negative : Bool)
  | nan
  deriving DecidableEq, Repr

/-- The nearest integer to a quotient, a tie going to the even one. -/
def roundDiv (num den : Nat) : Nat :=
  let q := num / den
  let r := num % den
  if 2 * r < den then q
  else if 2 * r > den then q + 1
  else if q % 2 = 0 then q else q + 1

/-- `n · 2 ^ e` as a numerator over a power of two. -/
def scaled (n : Nat) (e : Int) : Nat × Nat :=
  match e with
  | .ofNat k => (n * Nat.pow 2 k, 1)
  | .negSucc k => (n, Nat.pow 2 (k + 1))

/-- The integral part of the binary logarithm of a positive quotient. -/
def log2Quotient (num den : Nat) : Int :=
  let e := (num.log2 : Int) - den.log2
  let (p, q) := scaled 1 e
  if den * p ≤ num * q then e else e - 1

namespace Binary64

def zero (negative : Bool) : Binary64 := .finite negative 0 (-1074)

def ofQuotient (negative : Bool) (num den : Nat) : Binary64 :=
  let q := max (log2Quotient num den - 52) (-1074)
  let (u, v) := scaled 1 q
  let m := roundDiv (num * v) (den * u)
  let (m, q) := if m = Nat.pow 2 53 then (Nat.pow 2 52, q + 1) else (m, q)
  if q > 971 then .infinite negative else .finite negative m q

/-- The number nearest to `digits · 10 ^ exponent`. Exponents far outside the range are settled by
the count of digits alone. -/
def ofDecimal (negative : Bool) (digits : Nat) (exponent : Int) : Binary64 :=
  if digits = 0 then zero negative
  else
    let order := (digits.repr.length : Int) + exponent
    if order > 310 then .infinite negative
    else if order < -330 then zero negative
    else match exponent with
      | .ofNat k => ofQuotient negative (digits * Nat.pow 10 k) 1
      | .negSucc k => ofQuotient negative digits (Nat.pow 10 (k + 1))

def truncate? : Binary64 → Option Int
  | .finite negative m e =>
    let (u, v) := scaled m e
    some (if negative then -((u / v : Nat) : Int) else ((u / v : Nat) : Int))
  | _ => none

end Binary64
end TaxFlow.Number

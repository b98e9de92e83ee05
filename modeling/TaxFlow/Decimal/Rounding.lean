import TaxFlow.Decimal.Basic

/-!
# Rounding decimals

The ways in which digits can be cut off, and the limits that every result of a calculation keeps: 28
digits and exponents up to 999999.
-/
namespace TaxFlow.Decimal

inductive Rounding where
  | ceiling | floor
  | up
  | down
  | halfUp | halfDown | halfEven
  /-- Away from zero if the last digit would be a zero or a five. -/
  | zeroFiveUp
  deriving DecidableEq, Repr

def roundingNames : List (String × Rounding) :=
  [("ROUND_CEILING", .ceiling), ("ROUND_FLOOR", .floor), ("ROUND_UP", .up), ("ROUND_DOWN", .down),
    ("ROUND_HALF_UP", .halfUp), ("ROUND_HALF_DOWN", .halfDown), ("ROUND_HALF_EVEN", .halfEven),
    ("ROUND_05UP", .zeroFiveUp)]

/-- Whether `quotient` is raised by one for a remainder below `divisor`. -/
def Rounding.raises (r : Rounding) (negative : Bool) (quotient remainder divisor : Nat) : Bool :=
  match r with
  | .ceiling => remainder ≠ 0 && !negative
  | .floor => remainder ≠ 0 && negative
  | .up => remainder ≠ 0
  | .down => false
  | .halfUp => divisor ≤ 2 * remainder
  | .halfDown => divisor < 2 * remainder
  | .halfEven => divisor < 2 * remainder || (divisor = 2 * remainder && quotient % 2 = 1)
  | .zeroFiveUp => remainder ≠ 0 && quotient % 5 = 0

/-- Cuts off the last `count` digits. More digits than there are make no difference beyond the
first. -/
def Rounding.cut (r : Rounding) (negative : Bool) (digits count : Nat) : Nat :=
  let divisor := Nat.pow 10 (min count (digitCount digits + 1))
  let quotient := digits / divisor
  if r.raises negative quotient (digits % divisor) divisor then quotient + 1 else quotient

def precision : Nat := 28

def maxExponent : Int := 999999

def minExponent : Int := -999999

/-- The least exponent of the last digit. -/
def tinyExponent : Int := minExponent - precision + 1

inductive Trouble where
  | conversionSyntax
  | invalidOperation
  | divisionUndefined
  | divisionByZero
  | overflow
  deriving DecidableEq, Repr

/-- A finite result within the limits. Zeros keep the nearest exponent that is allowed. -/
def fitted (negative : Bool) (digits : Nat) (exponent : Int) : Except Trouble Decimal :=
  if digits = 0 then .ok (.finite negative 0 (min (max exponent tinyExponent) maxExponent))
  else if maxExponent < adjusted digits exponent then .error .overflow
  else if adjusted digits exponent < minExponent then
    if exponent < tinyExponent then
      .ok (.finite negative
        (Rounding.halfEven.cut negative digits (tinyExponent - exponent).toNat) tinyExponent)
    else .ok (.finite negative digits exponent)
  else
    let excess := digitCount digits - precision
    if excess = 0 then .ok (.finite negative digits exponent)
    else
      let cut := Rounding.halfEven.cut negative digits excess
      let (cut, exponent) :=
        if cut = Nat.pow 10 precision then (Nat.pow 10 (precision - 1), exponent + excess + 1)
        else (cut, exponent + excess)
      if maxExponent < adjusted cut exponent then .error .overflow
      else .ok (.finite negative cut exponent)

end TaxFlow.Decimal

import TaxFlow.Decimal.Rounding

/-!
# Calculating with decimals

Sums, products, quotients, rescaling and comparison. Every result is the exact one rounded to the
limits, a half going to the even digit.
-/
namespace TaxFlow.Decimal

/-- What comes of two operands if one of them is no number: a signaling one is an error, otherwise
the first one is the result, with no more digits for a diagnosis than a result may have. -/
def withoutNumber (a b : Decimal) : Option (Except Trouble Decimal) :=
  match a, b with
  | .nan _ true _, _ => some (.error .invalidOperation)
  | _, .nan _ true _ => some (.error .invalidOperation)
  | .nan negative _ d, _ => some (.ok (.nan negative false (d % Nat.pow 10 precision)))
  | _, .nan negative _ d => some (.ok (.nan negative false (d % Nat.pow 10 precision)))
  | _, _ => none

def isNegative : Decimal → Bool
  | .finite negative .. | .infinite negative | .nan negative .. => negative

def negated : Decimal → Decimal
  | .finite negative digits exponent => .finite (!negative) digits exponent
  | .infinite negative => .infinite (!negative)
  | x => x

def signed (negative : Bool) (digits : Nat) : Int := if negative then -digits else digits

/-- The sum of a number and one of a smaller exponent. A number too small to be seen beside a large
one is replaced by the smallest that rounds the same. -/
def alignedSum (bigNegative : Bool) (bigDigits : Nat) (bigExponent : Int) (smallNegative : Bool)
    (smallDigits : Nat) (smallExponent : Int) : Except Trouble Decimal :=
  let floor := bigExponent - 1 + min 0 ((digitCount bigDigits : Int) - precision - 1)
  let negligible := bigDigits ≠ 0 && adjusted smallDigits smallExponent < floor
  let smallDigits := if negligible then min smallDigits 1 else smallDigits
  let smallExponent := if negligible then floor else smallExponent
  let shifted :=
    if bigDigits = 0 then 0 else bigDigits * Nat.pow 10 (bigExponent - smallExponent).toNat
  let total := signed bigNegative shifted + signed smallNegative smallDigits
  let negative := if total = 0 then bigNegative && smallNegative else total < 0
  fitted negative total.natAbs smallExponent

def add (a b : Decimal) : Except Trouble Decimal :=
  match withoutNumber a b with
  | some r => r
  | none =>
    match a, b with
    | .infinite m, .infinite n => if m = n then .ok a else .error .invalidOperation
    | .infinite _, _ => .ok a
    | _, .infinite _ => .ok b
    | .finite m c e, .finite n d f =>
      if f ≤ e then alignedSum m c e n d f else alignedSum n d f m c e
    | _, _ => .error .invalidOperation

def subtract (a b : Decimal) : Except Trouble Decimal :=
  match b with
  | .nan .. => add a b
  | b => add a b.negated

def multiply (a b : Decimal) : Except Trouble Decimal :=
  match withoutNumber a b with
  | some r => r
  | none =>
    let negative := a.isNegative != b.isNegative
    match a, b with
    | .finite _ c e, .finite _ d f => fitted negative (c * d) (e + f)
    | .finite _ c _, _ => if c = 0 then .error .invalidOperation else .ok (.infinite negative)
    | _, .finite _ d _ => if d = 0 then .error .invalidOperation else .ok (.infinite negative)
    | _, _ => .ok (.infinite negative)

/-- Trailing zeros are removed until the exponent reaches `ideal`; `fuel` bounds their number. -/
def stripped (ideal : Int) : (fuel : Nat) → Nat → Int → Nat × Int
  | 0, digits, exponent => (digits, exponent)
  | fuel + 1, digits, exponent =>
    if exponent < ideal ∧ digits % 10 = 0 then stripped ideal fuel (digits / 10) (exponent + 1)
    else (digits, exponent)

/-- A quotient of positive digits with one digit more than the limit. If it is not exact, its last
digit is made neither zero nor five, so that it cannot be taken for a tie. -/
def quotient (c : Nat) (e : Int) (d : Nat) (f : Int) : Nat × Int :=
  let shift : Int := (digitCount d : Int) - digitCount c + precision + 1
  let num := c * Nat.pow 10 shift.toNat
  let den := d * Nat.pow 10 (-shift).toNat
  let exponent := e - f - shift
  let q := num / den
  if num % den ≠ 0 then (if q % 5 = 0 then q + 1 else q, exponent)
  else stripped (e - f) (digitCount q) q exponent

def divide (a b : Decimal) : Except Trouble Decimal :=
  match withoutNumber a b with
  | some r => r
  | none =>
    let negative := a.isNegative != b.isNegative
    match a, b with
    | .infinite _, .infinite _ => .error .invalidOperation
    | .infinite _, _ => .ok (.infinite negative)
    | _, .infinite _ => .ok (.finite negative 0 tinyExponent)
    | .finite _ c e, .finite _ d f =>
      if d = 0 then if c = 0 then .error .divisionUndefined else .error .divisionByZero
      else if c = 0 then fitted negative 0 (e - f)
      else
        let (q, exponent) := quotient c e d f
        fitted negative q exponent
    | _, _ => .error .invalidOperation

/-- The number with the given exponent, if its digits then fit. -/
def rescaledFinite (r : Rounding) (negative : Bool) (digits : Nat) (exponent scale : Int) :
    Except Trouble Decimal :=
  if scale < tinyExponent ∨ maxExponent < scale then .error .invalidOperation
  else if digits = 0 then .ok (.finite negative 0 scale)
  else if precision < digitCount digits + (exponent - scale) then .error .invalidOperation
  else
    let digits :=
      if scale ≤ exponent then digits * Nat.pow 10 (exponent - scale).toNat
      else r.cut negative digits (scale - exponent).toNat
    if precision < digitCount digits ∨ maxExponent < adjusted digits scale then
      .error .invalidOperation
    else fitted negative digits scale

def rescaled (r : Rounding) (a b : Decimal) : Except Trouble Decimal :=
  match withoutNumber a b with
  | some x => x
  | none =>
    match a, b with
    | .infinite _, .infinite _ => .ok a
    | .finite negative digits exponent, .finite _ _ scale =>
      rescaledFinite r negative digits exponent scale
    | _, _ => .error .invalidOperation

def comparePositive (c : Nat) (e : Int) (d : Nat) (f : Int) : Ordering :=
  match compare (adjusted c e) (adjusted d f) with
  | .eq => compare (c * Nat.pow 10 (e - f).toNat) (d * Nat.pow 10 (f - e).toNat)
  | o => o

def compareFinite (m : Bool) (c : Nat) (e : Int) (n : Bool) (d : Nat) (f : Int) : Ordering :=
  if c = 0 ∧ d = 0 then .eq
  else if c = 0 then if n then .gt else .lt
  else if d = 0 then if m then .lt else .gt
  else if m ≠ n then if m then .lt else .gt
  else if m then comparePositive d f c e else comparePositive c e d f

def ofOrdering : Ordering → Decimal
  | .lt => ofInt (-1)
  | .eq => ofInt 0
  | .gt => ofInt 1

def compareTo (a b : Decimal) : Except Trouble Decimal :=
  match withoutNumber a b with
  | some r => r
  | none =>
    .ok <| ofOrdering <| match a, b with
      | .infinite m, .infinite n => if m = n then .eq else if m then .lt else .gt
      | .infinite m, _ => if m then .lt else .gt
      | _, .infinite n => if n then .gt else .lt
      | .finite m c e, .finite n d f => compareFinite m c e n d f
      | _, _ => .eq

end TaxFlow.Decimal

import TaxFlow.Number.Binary64

/-!
# Shortest decimal texts

The text of a double precision number has the fewest digits that read back as the same number; of
several such decimals it is the nearest one.
-/
namespace TaxFlow.Number

structure Scientific where
  digits : Nat
  exponent : Int
  deriving DecidableEq, Repr

def log10Quotient (num den : Nat) : Int :=
  if den ≤ num then ((num / den).repr.length : Int) - 1
  else
    let k := (den / num).repr.length
    if den ≤ num * Nat.pow 10 (k - 1) then -((k - 1 : Nat) : Int) else -(k : Int)

/-- The reals that round to a number, as numerators over a common denominator. -/
structure RoundingInterval where
  low : Nat
  value : Nat
  high : Nat
  den : Nat
  /-- The ends belong to the interval. -/
  closed : Bool

/-- The interval around `m · 2 ^ e`; it is narrower below a power of two. -/
def RoundingInterval.around (m : Nat) (e : Int) : RoundingInterval :=
  let below := if m = Nat.pow 2 52 ∧ e > -1074 then 1 else 2
  let (u, v) := scaled 1 (e - 2)
  { low := (4 * m - below) * u
    value := 4 * m * u
    high := (4 * m + 2) * u
    den := v
    closed := m % 2 = 0 }

/-- Whether a decimal reads back as the number. -/
def RoundingInterval.contains (i : RoundingInterval) (x : Nat) : Bool :=
  if i.closed then i.low ≤ x && x ≤ i.high else i.low < x && x < i.high

/-- The interval measured in units of `10 ^ k`: a number `d` of units has the numerator `d *
den`. -/
def RoundingInterval.inUnits (i : RoundingInterval) : Int → RoundingInterval
  | .ofNat k => { i with den := i.den * Nat.pow 10 k }
  | .negSucc k =>
    let s := Nat.pow 10 (k + 1)
    { i with low := i.low * s, value := i.value * s, high := i.high * s }

/-- The decimal of `n` digits that reads back, if there is one: of the two neighbours of the value
the nearer, in a tie the even. -/
def RoundingInterval.withDigits? (i : RoundingInterval) (order : Int) (n : Nat) :
    Option Scientific :=
  let k := order - n + 1
  let j := i.inUnits k
  let d := j.value / j.den
  let below := j.contains (d * j.den)
  let above := j.contains ((d + 1) * j.den)
  let pick := fun x => some { digits := x, exponent := k : Scientific }
  if below && above then
    let a := j.value - d * j.den
    let b := (d + 1) * j.den - j.value
    if a < b then pick d else if b < a then pick (d + 1)
    else if d % 2 = 0 then pick d else pick (d + 1)
  else if below then pick d
  else if above then pick (d + 1)
  else none

/-- Moves the trailing zeros of the digits into the exponent; there are at most `fuel` of them. -/
def Scientific.stripped : (fuel : Nat) → Scientific → Scientific
  | 0, s => s
  | n + 1, s =>
    if s.digits % 10 = 0 ∧ s.digits ≠ 0 then
      stripped n { digits := s.digits / 10, exponent := s.exponent + 1 }
    else s

/-- The shortest decimal of a positive number `m · 2 ^ e`. Seventeen digits always suffice. -/
def shortest (m : Nat) (e : Int) : Scientific :=
  let i := RoundingInterval.around m e
  let order := log10Quotient i.value i.den
  let found := (List.range 17).findSome? fun n => i.withDigits? order (n + 1)
  (found.getD { digits := i.value / i.den, exponent := 0 }).stripped 20

/-- Positional notation for decimal points from just behind the fourth zero after the point up to
the sixteenth digit, otherwise an exponent of at least two digits. A whole number gets a final `.0`
if `pointed`. -/
def Scientific.text (pointed : Bool) (s : Scientific) : String :=
  let ds := s.digits.repr.toList
  let n := ds.length
  let point := (n : Int) + s.exponent
  if -4 < point ∧ point ≤ 16 then
    if point ≤ 0 then "0." ++ String.ofList (List.replicate (-point).toNat '0' ++ ds)
    else if n ≤ point then
      String.ofList (ds ++ List.replicate (point.toNat - n) '0') ++ (if pointed then ".0" else "")
    else String.ofList (ds.take point.toNat) ++ "." ++ String.ofList (ds.drop point.toNat)
  else
    let e := point - 1
    let mantissa := match ds with
      | [d] => String.singleton d
      | d :: rest => String.ofList (d :: '.' :: rest)
      | [] => ""
    let power := e.natAbs.repr
    mantissa ++ "e" ++ (if e < 0 then "-" else "+") ++
      (if power.length < 2 then "0" ++ power else power)

def Binary64.text (pointed : Bool) : Binary64 → String
  | .finite negative m e =>
    let sign := if negative then "-" else ""
    if m = 0 then sign ++ (if pointed then "0.0" else "0")
    else sign ++ (shortest m e).text pointed
  | .infinite negative => if negative then "-inf" else "inf"
  | .nan => "nan"

end TaxFlow.Number

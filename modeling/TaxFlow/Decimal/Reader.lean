import TaxFlow.Decimal.Rounding
import TaxFlow.Number.Reader

/-!
# Decimals from texts and double precision numbers

Texts are read exactly, with blanks at both ends, digits of any script, and underscores anywhere. A
double precision number is converted exactly.
-/
namespace TaxFlow.Decimal

open TaxFlow.Number TaxFlow.Text

/-- The form in which a text is read: no outer blanks, no underscores, and only ASCII characters. -/
def asciiText? (s : String) : Option (List Char) :=
  ((trimmed s.toList).filter (· != '_')).mapM fun c =>
    if isAscii c then if c = '\x00' then none else some c
    else if isBlank c then some ' '
    else (digitValue? c).map fun d => Char.ofNat (0x30 + d)

def maxTextExponent : Int := 999999999999999999

/-- The least exponent of a last digit that can be written. -/
def minTextExponent : Int := -1999999999999999997

def diagnosis? (word : String) (cs : List Char) : Option Nat :=
  let n := word.length
  if (cs.take n).map Char.toLower = word.toList ∧ (cs.drop n).all Char.isDigit then
    some (Text.ofDecimal (cs.drop n))
  else none

def ofText (s : String) : Except Trouble Decimal :=
  match asciiText? s with
  | none => .error .conversionSyntax
  | some cs =>
    let (negative, cs) := splitSign cs
    let word := String.ofList (cs.map Char.toLower)
    if word = "inf" ∨ word = "infinity" then .ok (.infinite negative)
    else match diagnosis? "nan" cs with
      | some d => .ok (.nan negative false d)
      | none =>
        match diagnosis? "snan" cs with
        | some d => .ok (.nan negative true d)
        | none =>
          match decimalText? cs with
          | none => .error .conversionSyntax
          | some t =>
            if t.scale < minTextExponent ∨ maxTextExponent < adjusted t.digits t.scale then
              .error .invalidOperation
            else .ok (.finite negative t.digits t.scale)

/-- Halves an even number as often as possible, at most `fuel` times. -/
def halved : (fuel : Nat) → Nat → Nat × Nat
  | 0, n => (n, 0)
  | fuel + 1, n =>
    if n % 2 = 0 ∧ n ≠ 0 then
      let (m, count) := halved fuel (n / 2)
      (m, count + 1)
    else (n, 0)

def ofBinary64 : Binary64 → Decimal
  | .nan => .nan false false 0
  | .infinite negative => .infinite negative
  | .finite negative m e =>
    match e with
    | .ofNat k => .finite negative (m * Nat.pow 2 k) 0
    | .negSucc k =>
      let (m, count) := halved (k + 1) m
      let places := if m = 0 then 0 else k + 1 - count
      .finite negative (m * Nat.pow 5 places) (-(places : Int))

end TaxFlow.Decimal

import TaxFlow.Decimal.Arithmetic
import TaxFlow.Decimal.Reader
import TaxFlow.Formula.Literal

/-!
# Operations on decimals

The operations that generated code calls: they take operands of several kinds, and reject those that
do not fit.
-/
namespace TaxFlow

open TaxFlow.Number

inductive Operand where
  | missing
  | integer (value : Int)
  | truth (value : Bool)
  | float (value : Binary64)
  | text (value : String)
  | decimal (value : Decimal)
  deriving DecidableEq, Repr

namespace Operand

def kind : Operand → String
  | missing => "NoneType"
  | integer _ => "int"
  | truth _ => "bool"
  | float _ => "float"
  | text _ => "str"
  | decimal _ => "BigDecimal"

/-- Whether an operand counts as left out. -/
def isBlank : Operand → Bool
  | missing => true
  | integer n => n = 0
  | truth b => !b
  | float (.finite _ m _) => m = 0
  | float _ => false
  | text s => s.isEmpty
  | decimal (.finite _ d _) => d = 0
  | decimal _ => false

def whole? : Operand → Option Int
  | integer n => some n
  | truth b => some (if b then 1 else 0)
  | _ => none

def number? (o : Operand) : Option Decimal :=
  match o with
  | decimal d => some d
  | o => o.whole?.map Decimal.ofInt

end Operand

inductive DecimalFault where
  | trouble (t : Decimal.Trouble)
  | unsupportedOperand (operator kind : String)
  /-- An operand of this kind cannot count zeros. -/
  | uncountable (kind : String)
  | unconvertible (kind : String)
  | unknownRounding
  | scaleNotInteger
  | scaleTooLarge
  | nanToInteger
  | infinityToInteger
  | integerTooLong
  | lacking (kind operation : String)
  | missingOperands (operation : String) (names : List String)
  | surplusOperands (operation takes : String) (given : Nat)
  deriving DecidableEq, Repr

namespace DecimalFault

def quotedNames : List String → String
  | [] => ""
  | [a] => "'" ++ a ++ "'"
  | [a, b] => "'" ++ a ++ "' and '" ++ b ++ "'"
  | a :: names => "'" ++ a ++ "', " ++ quotedNames names

def troubleWord : Decimal.Trouble → String
  | .conversionSyntax => "ConversionSyntax"
  | .invalidOperation => "InvalidOperation"
  | .divisionUndefined => "DivisionUndefined"
  | .divisionByZero => "DivisionByZero"
  | .overflow => "Overflow"

def message : DecimalFault → String
  | trouble t => "[<class 'decimal." ++ troubleWord t ++ "'>]"
  | unsupportedOperand operator kind =>
    "unsupported operand type(s) for " ++ operator ++ ": 'BigDecimal' and '" ++ kind ++ "'"
  | uncountable kind => "can't multiply sequence by non-int of type '" ++ kind ++ "'"
  | unconvertible kind => "conversion from " ++ kind ++ " to Decimal is not supported"
  | unknownRounding =>
    "valid values for rounding are:\n  [ROUND_CEILING, ROUND_FLOOR, ROUND_UP, ROUND_DOWN,\n" ++
    "   ROUND_HALF_UP, ROUND_HALF_DOWN, ROUND_HALF_EVEN,\n   ROUND_05UP]"
  | scaleNotInteger => "Expected integer value for scale"
  | scaleTooLarge => "cannot fit 'int' into an index-sized integer"
  | nanToInteger => "cannot convert NaN to integer"
  | infinityToInteger => "cannot convert Infinity to integer"
  | integerTooLong =>
    "Exceeds the limit (4300 digits) for integer string conversion; " ++
    "use sys.set_int_max_str_digits() to increase the limit"
  | lacking kind operation => "'" ++ kind ++ "' object has no attribute '" ++ operation ++ "'"
  | missingOperands operation names =>
    "BigDecimal." ++ operation ++ "() missing " ++ toString names.length ++
    " required positional argument" ++ (if names.length = 1 then "" else "s") ++ ": " ++
    quotedNames names
  | surplusOperands operation takes given =>
    "BigDecimal." ++ operation ++ "() takes " ++ takes ++ " but " ++ toString given ++
    (if given = 1 then " was given" else " were given")

end DecimalFault

namespace Decimal

/-- A calculation whose trouble is the fault. -/
def attempt (x : Except Trouble Decimal) : Except DecimalFault Decimal :=
  x.mapError DecimalFault.trouble

def ofOperand : Operand → Except DecimalFault Decimal
  | .text s => attempt (ofText s)
  | .float x => .ok (ofBinary64 x)
  | o =>
    match o.number? with
    | some d => .ok d
    | none => .error (.unconvertible o.kind)

/-- A zero with so many places, the measure for rescaling. A negative count is none. -/
def zeroWithPlaces (places : Operand) : Except DecimalFault Decimal :=
  match places.whole? with
  | some n =>
    if n.natAbs < Nat.pow 2 63 then .ok (.finite false 0 (-(n.toNat : Int)))
      else .error .scaleTooLarge
  | none => .error (.uncountable places.kind)

/-- The rounding that an operand names; without one a half goes to the even digit. -/
def roundingOf : Operand → Except DecimalFault Rounding
  | .missing => .ok .halfEven
  | .text s =>
    match roundingNames.lookup s with
    | some r => .ok r
    | none => .error .unknownRounding
  | _ => .error .unknownRounding

def withNumber (operator : String) (f : Decimal → Except Trouble Decimal) (o : Operand) :
    Except DecimalFault Decimal :=
  match o.number? with
  | some d => attempt (f d)
  | none => .error (.unsupportedOperand operator o.kind)

def rescaledTo (x : Decimal) (places rounding : Operand) : Except DecimalFault Decimal := do
  let measure ← zeroWithPlaces places
  let r ← roundingOf rounding
  attempt (rescaled r x measure)

/-- A quotient; with a scale or a rounding it is rescaled. -/
def quotientWith (x : Decimal) (other scale rounding : Operand) : Except DecimalFault Decimal := do
  if scale.isBlank && rounding.isBlank then withNumber "/" x.divide other
  else
    match scale with
    | .integer _ =>
      let measure ← zeroWithPlaces scale
      let q ← withNumber "/" x.divide other
      let r ← roundingOf rounding
      attempt (rescaled r q measure)
    | _ => .error .scaleNotInteger

/-- A product; a text cannot be multiplied at all. -/
def productWith (x : Decimal) (other : Operand) : Except DecimalFault Decimal :=
  match other with
  | .text _ => .error (.uncountable "BigDecimal")
  | other => withNumber "*" x.multiply other

def orderWith (x : Decimal) (other : Operand) : Except DecimalFault Decimal :=
  match other.number? with
  | some d => attempt (x.compareTo d)
  | none => .error (.unconvertible other.kind)

def wholePart : Decimal → Except DecimalFault Int
  | .nan .. => .error .nanToInteger
  | .infinite _ => .error .infinityToInteger
  | .finite negative digits exponent =>
    if digits ≠ 0 ∧ (Formula.maxIntegerDigits : Int) ≤ adjusted digits exponent then
      .error .integerTooLong
    else
      let n := match exponent with
        | .ofNat k => if digits = 0 then 0 else digits * Nat.pow 10 k
        | .negSucc k => Rounding.down.cut negative digits (k + 1)
      .ok (signed negative n)

end Decimal
end TaxFlow

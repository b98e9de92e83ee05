import TaxFlow.Number.Binary64
import TaxFlow.Text.Blank
import TaxFlow.Text.CodeRange
import TaxFlow.Text.Digit

/-!
# Reading decimal numbers

The unsigned decimal part of a number text, and whole texts read as double precision numbers: blanks
at both ends, digits of any script, and single underscores between digits are allowed.
-/
namespace TaxFlow.Number

open TaxFlow.Text

/-- An unsigned decimal: digits before and behind the point and the exponent. -/
structure DecimalText where
  whole : List Char
  fraction : List Char
  exponent : Int
  deriving DecidableEq, Repr

def DecimalText.digits (d : DecimalText) : Nat := Text.ofDecimal (d.whole ++ d.fraction)

def DecimalText.scale (d : DecimalText) : Int := d.exponent - d.fraction.length

def exponentOf? (cs : List Char) : Option Int :=
  let (negative, ds) := match cs with
    | '-' :: r => (true, r)
    | '+' :: r => (false, r)
    | r => (false, r)
  if ds ≠ [] ∧ ds.all Char.isDigit then
    some (if negative then -(Text.ofDecimal ds : Int) else Text.ofDecimal ds)
  else none

/-- An unsigned decimal number over the whole text: at least one digit, then an optional
exponent. -/
def decimalText? (cs : List Char) : Option DecimalText :=
  let (whole, rest) := cs.span Char.isDigit
  let (fraction, rest) := match rest with
    | '.' :: r => r.span Char.isDigit
    | r => ([], r)
  if whole = [] ∧ fraction = [] then none
  else match rest with
    | [] => some ⟨whole, fraction, 0⟩
    | c :: r =>
      if c = 'e' ∨ c = 'E' then (exponentOf? r).map fun e => ⟨whole, fraction, e⟩ else none

/-- Removes underscores, each of which has to stand between two digits. -/
def withoutUnderscores? : (previous : Char) → List Char → Option (List Char)
  | previous, [] => if previous = '_' then none else some []
  | previous, c :: cs =>
    if c = '_' then if previous.isDigit then withoutUnderscores? c cs else none
    else if previous = '_' ∧ !c.isDigit then none
    else (withoutUnderscores? c cs).map (c :: ·)

/-- Splits off a sign; `true` for a minus. -/
def splitSign : List Char → Bool × List Char
  | '-' :: cs => (true, cs)
  | '+' :: cs => (false, cs)
  | cs => (false, cs)

def isAsciiBlank (c : Char) : Bool := (0x09 ≤ c.toNat && c.toNat ≤ 0x0D) || c == ' '

/-- ASCII forms of blanks and digits of other scripts; any other character that is not ASCII is one
that no number contains. -/
def asciiForm (c : Char) : Char :=
  if isAscii c then c
  else if isBlank c then ' '
  else match digitValue? c with
    | some d => Char.ofNat (0x30 + d)
    | none => '?'

def unpadded (cs : List Char) : List Char :=
  ((cs.dropWhile isAsciiBlank).reverse.dropWhile isAsciiBlank).reverse

def Binary64.ofText? (s : String) : Option Binary64 := do
  let cs ← withoutUnderscores? ' ' (unpadded (s.toList.map asciiForm))
  let (negative, cs) := splitSign cs
  let word := String.ofList (cs.map Char.toLower)
  if word = "inf" ∨ word = "infinity" then some (.infinite negative)
  else if word = "nan" then some .nan
  else
    let d ← decimalText? cs
    some (.ofDecimal negative d.digits d.scale)

end TaxFlow.Number

import TaxFlow.Text.CodeRange
import TaxFlow.Text.Digit
import TaxFlow.Text.PrintableTable

/-!
# Quoted texts

A text in quotation marks, with escapes for what has no printed form. Single marks are used unless
the text holds a single and no double mark.
-/
namespace TaxFlow.Text

def isPrintable (c : Char) : Bool :=
  if isAscii c then 0x20 ≤ c.toNat && c.toNat < 0x7F else !inRanges unprintables c.toNat

def quoteMark (cs : List Char) : Char :=
  if cs.contains '\'' && !cs.contains '"' then '"' else '\''

/-- The escape of a code point by its number. -/
def numericEscape (n : Nat) : String :=
  if n < 0x100 then "\\x" ++ hexPadded 2 n
  else if n < 0x10000 then "\\u" ++ hexPadded 4 n
  else "\\U" ++ hexPadded 8 n

def quotedChar (mark c : Char) : String :=
  if c == mark || c == '\\' then String.ofList ['\\', c]
  else if c == '\t' then "\\t"
  else if c == '\n' then "\\n"
  else if c == '\r' then "\\r"
  else if isPrintable c then String.singleton c
  else numericEscape c.toNat

def quote (s : String) : String :=
  let cs := s.toList
  let mark := quoteMark cs
  String.singleton mark ++ String.join (cs.map (quotedChar mark)) ++ String.singleton mark

/-- Bytes in quotation marks; every byte outside printable ASCII is escaped by its number. -/
def quoteBytes (bytes : List Nat) : String :=
  let cs := bytes.map Char.ofNat
  let mark := quoteMark cs
  let one := fun c => if isAscii c then quotedChar mark c else numericEscape c.toNat
  "b" ++ String.singleton mark ++ String.join (cs.map one) ++ String.singleton mark

end TaxFlow.Text

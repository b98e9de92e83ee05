import TaxFlow.Text.CodeRange
import TaxFlow.Text.IdentifierTable

/-!
# Identifiers

An identifier starts with a letter of any script or an underscore and goes on with letters, digits
and marks.
-/
namespace TaxFlow.Text

def isAsciiNameStart (c : Char) : Bool := c.isAlpha || c == '_'

def isNameStart (c : Char) : Bool :=
  if isAscii c then isAsciiNameStart c else inRanges identifierStarts c.toNat

def isNamePart (c : Char) : Bool :=
  if isAscii c then isAsciiNameStart c || c.isDigit
  else inRanges identifierStarts c.toNat || inRanges identifierParts c.toNat

def isName : List Char → Bool
  | [] => false
  | c :: cs => isNameStart c && cs.all isNamePart

end TaxFlow.Text

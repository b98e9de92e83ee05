import TaxFlow.Text.Blank

/-!
# From chart notation to formulas

Formulas in a chart are written with Java spellings. Before they are read, constructor calls and
boolean operators are respelled; for some target languages the size suffixes of numbers are removed
first.
-/
namespace TaxFlow.Formula

/-- Every occurrence of a non-empty `pattern` is replaced, from left to right; `skip` counts the
characters of an occurrence that are still to be passed over. -/
def replaceAll (pattern replacement : List Char) : (skip : Nat) → List Char → List Char
  | _, [] => []
  | skip + 1, _ :: cs => replaceAll pattern replacement skip cs
  | 0, c :: cs =>
    if pattern.isPrefixOf (c :: cs) then
      replacement ++ replaceAll pattern replacement (pattern.length - 1) cs
    else c :: replaceAll pattern replacement 0 cs

def respellings : List (String × String) :=
  [("new BigDecimal", "BigDecimalConstructor"), ("&&", "and"), ("||", "or")]

/-- The formula behind a text in chart notation, without blanks around it. -/
def prepared (cs : List Char) : List Char :=
  Text.trimmed (respellings.foldl (fun cs (a, b) => replaceAll a.toList b.toList 0 cs) cs)

def isSizeMark (c : Char) : Bool := c == 'L' || c == 'D'

/-- Drops size marks directly behind a digit. -/
def removeSizeLiteralsFrom (afterDigit : Bool) : List Char → List Char
  | [] => []
  | c :: cs =>
    if afterDigit && isSizeMark c then removeSizeLiteralsFrom false cs
    else c :: removeSizeLiteralsFrom c.isDigit cs

/-- Removes the size literals of numbers from the text of a formula. -/
def removeSizeLiterals (s : String) : String :=
  String.ofList (removeSizeLiteralsFrom false s.toList)

end TaxFlow.Formula

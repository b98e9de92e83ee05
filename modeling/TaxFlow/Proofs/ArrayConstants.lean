import TaxFlow.Proofs.Interface
import TaxFlow.Proofs.ListTexts

/-!
# Array constants

The value of an array constant is a list of formulas in braces. Each language writes its own
brackets around what it writes for the formulas one by one. A formula that can be read by itself
need not fit into a list: outside of it there may be blanks that formulas do not know, a semicolon
may stand at its end, and its brackets may be nested too deep.
-/
namespace TaxFlow

open Chart Outline Formula

namespace Dialect

variable {d : Dialect} {scope : Scope}

end Dialect

namespace CodeSettings

variable {v : CodeSettings} {source text : String} {sources texts : List String}

/-- The characters of a formula that are going to be read. -/
def chars (v : CodeSettings) (source : String) : List Char :=
  if v.statementSettings.removesSizeLiterals then removeSizeLiteralsFrom false source.toList
    else source.toList

/-- Whether a formula that is read by itself can be an item of a list: around it there are only
blanks that formulas know, it does not end in a semicolon, and its brackets can be nested once
more. -/
def fits (v : CodeSettings) (source : String) : Bool := fitsList (v.chars source)

end CodeSettings

namespace Outline

variable {o : Outline} {os : List Outline}

end Outline

namespace CodeSettings

variable {v : CodeSettings} {c : Chart}

end CodeSettings

namespace Generator

variable {g : Generator} {c : Chart} {k : Chart.Constant}

end Generator

end TaxFlow

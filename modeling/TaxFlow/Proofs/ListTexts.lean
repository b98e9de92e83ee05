import TaxFlow.Proofs.Bracketed
import TaxFlow.Proofs.TokenBorders

/-!
# Lists of texts

The texts of items are joined by commas and put into brackets. What is read from the whole are the
tokens of the items with commas between them, and then a list of what is read from each item by
itself, unless an item does not fit there.
-/
namespace TaxFlow.Formula

section Texts

variable {α : Type} {comma close : α} {f : List Char → List Char} {cs : List Char}
    {css : List (List Char)}

end Texts

section Reading

variable {n : Nat} {ts rest : List Token} {e : Expr} {s : Statement}

/-- What may stand behind the only statement of a text. -/
def endings : List (List Token) :=
  [[], [.symbol .semicolon], [.symbol .semicolon, .lineEnd], [.lineEnd]]

/-- What stands behind an expression. -/
def semicolonIf (ended : Bool) : List Token := if ended then [.symbol .semicolon] else []

end Reading

/-- Whether a text ends in a semicolon, which is no part of an expression. -/
def endsInSemicolon (cs : List Char) : Bool := (prepared cs).getLast? = some ';'

/-- Whether a text that is read by itself can be an item of a list. -/
def fitsList (cs : List Char) : Bool := fitsBrackets cs && !endsInSemicolon cs

/-- A text that is read by itself as one expression, which an item of a list can be. -/
structure ListItem where
  text : List Char
  tokens : List Token
  value : Expr
  depth : Nat
  ne_nil : prepared text ≠ []
  lexed : tokens? (prepared text) = some tokens
  oneLine : .lineEnd ∉ tokens
  noNote : endsInNote 0 true (leftText text) = false
  read : item depth tokens = some (value, semicolonIf (endsInSemicolon text))
  shallow : depth < depthFor tokens

namespace ListItem

variable {x : ListItem} {xs : List ListItem} {css : List (List Char)}
    {us : List Token} {rest : Bool}

/-- The text of an item within a list. -/
def spelled (x : ListItem) : List Char := Text.withLineFeeds (respelled x.text)

end ListItem

end TaxFlow.Formula

import TaxFlow.Decimal.Operand
import TaxFlow.Page.Basic

/-!
# Rounds

Work that is done over and over again: blocks written onto a page, and a balance that grows.
-/
namespace TaxFlow.Sample

/-- A page with so many blocks of one line. -/
def blocks : Nat → Page
  | 0 => { style := {} }
  | n + 1 => (((blocks n).enter "block").line "line").leave

def pageSize (rounds : Nat) : Nat := (blocks rounds).text.length

def limit : Decimal := .ofInt 1000000

/-- A balance after a round: half as much again, the cents rounded up, and nothing beyond the
limit. -/
def grown (balance : Decimal) : Except DecimalFault Decimal := do
  let tripled ← balance.productWith (.integer 3)
  let next ← tripled.quotientWith (.integer 2) (.integer 2) (.text "ROUND_UP")
  let order ← next.orderWith (.decimal limit)
  .ok (if order = .ofInt 1 then .ofInt 0 else next)

/-- A balance of one after so many rounds. -/
def balance : Nat → Except DecimalFault Decimal
  | 0 => .ok (.ofInt 1)
  | n + 1 => do grown (← balance n)

def wholeBalance (rounds : Nat) : Except DecimalFault Int := do (← balance rounds).wholePart

end TaxFlow.Sample

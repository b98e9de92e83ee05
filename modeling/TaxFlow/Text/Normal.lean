import TaxFlow.Text.CodeRange
import TaxFlow.Text.CombiningTable
import TaxFlow.Text.CompositionTable
import TaxFlow.Text.DecompositionTable
import TaxFlow.Text.Digit

/-!
# Compatibility normal form

Names that differ only in compatibility variants of their characters are one name: they are
decomposed, their marks are put in canonical order, and what composes is composed again.
-/
namespace TaxFlow.Text

/-- A range of code points with the decomposition of its first member. -/
structure Decomposition where
  first : Nat
  last : Nat
  image : List Nat

def Decomposition.ofText (entry : String) : Option Decomposition :=
  match entry.splitOn " " with
  | [_] => none
  | key :: image =>
    let number := fun t : String => ofDigits 16 t.toList
    match key.splitOn "-" with
    | [first, last] => some ⟨number first, number last, image.map number⟩
    | _ => some ⟨number key, number key, image.map number⟩
  | [] => none

def decompositions : Array Decomposition :=
  ((decompositionLines.flatMap (·.splitOn ";")).filterMap Decomposition.ofText).toArray

def hangulLetters (n : Nat) : List Nat :=
  let i := n - 0xAC00
  let lead := 0x1100 + i / 588
  let vowel := 0x1161 + i % 588 / 28
  if i % 28 = 0 then [lead, vowel] else [lead, vowel, 0x11A7 + i % 28]

def decomposed (n : Nat) : List Nat :=
  if 0xAC00 ≤ n ∧ n ≤ 0xD7A3 then hangulLetters n
  else match decompositions.find? fun d => d.first ≤ n && n ≤ d.last with
    | some d => if d.image.length = 1 then d.image.map (· + (n - d.first)) else d.image
    | none => [n]

def combiningClass (n : Nat) : Nat :=
  match combiningClasses.find? fun (first, last, _) => first ≤ n && n ≤ last with
  | some (_, _, k) => k
  | none => 0

/-- Puts a code point of class `k` behind the earlier marks of no greater class; the list is in
reverse. -/
def insertMark (n k : Nat) : List Nat → List Nat
  | [] => [n]
  | m :: ms => if combiningClass m > k then m :: insertMark n k ms else n :: m :: ms

/-- Canonical order of marks, built up in reverse. -/
def orderedMarks (ns : List Nat) : List Nat :=
  (ns.foldl (fun done n =>
    let k := combiningClass n
    if k = 0 then n :: done else insertMark n k done) []).reverse

def composite? (a b : Nat) : Option Nat :=
  if 0x1100 ≤ a ∧ a ≤ 0x1112 ∧ 0x1161 ≤ b ∧ b ≤ 0x1175 then
    some (0xAC00 + ((a - 0x1100) * 21 + (b - 0x1161)) * 28)
  else if 0xAC00 ≤ a ∧ a ≤ 0xD7A3 ∧ (a - 0xAC00) % 28 = 0 ∧ 0x11A8 ≤ b ∧ b ≤ 0x11C2 then
    some (a + (b - 0x11A7))
  else (primaryComposites.find? fun (x, y, _) => x == a && y == b).map fun (_, _, z) => z

/-- State of the composition: finished code points in reverse, the open starter, and the marks after
it in reverse. -/
structure Composing where
  done : List Nat := []
  starter : Option Nat := none
  marks : List Nat := []

def Composing.flush (s : Composing) : List Nat :=
  match s.starter with
  | some x => s.marks ++ x :: s.done
  | none => s.marks ++ s.done

/-- Takes up one code point: it joins the open starter unless a mark of the same or a greater class
stands between them. -/
def Composing.push (s : Composing) (n : Nat) : Composing :=
  let k := combiningClass n
  let blocked := match s.marks with
    | [] => false
    | m :: _ => combiningClass m = 0 || combiningClass m ≥ k
  match s.starter.bind (composite? · n), blocked with
  | some z, false => { s with starter := some z }
  | _, _ =>
    if k = 0 then { done := s.flush, starter := some n, marks := [] }
    else { s with marks := n :: s.marks }

def normalForm (s : String) : String :=
  if s.toList.all isAscii then s
  else
    let ns := orderedMarks (s.toList.flatMap fun c => decomposed c.toNat)
    String.ofList ((ns.foldl Composing.push {}).flush.reverse.map Char.ofNat)

end TaxFlow.Text

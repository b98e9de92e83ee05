import TaxFlow.Text.CasingTable
import TaxFlow.Text.CodeRange

/-!
# Capitalised words

The first character in title case and the others in lower case, with the full mappings of Unicode: a
character may become several, and a capital sigma at the end of a word takes its final form.
-/
namespace TaxFlow.Text

def shifted (table : Array (Nat × Nat × Nat × Nat)) (n : Nat) : Option Nat :=
  (table.find? fun (first, last, step, _) => first ≤ n && n ≤ last && (n - first) % step == 0).map
    fun (first, _, _, image) => image + (n - first)

def mapped (table : Array (Nat × Nat × Nat × Nat)) (expansions : List (Nat × List Nat)) (c : Char) :
    List Char :=
  match expansions.lookup c.toNat with
  | some ns => ns.map Char.ofNat
  | none => match shifted table c.toNat with
    | some n => [Char.ofNat n]
    | none => [c]

def lowerChar (c : Char) : List Char :=
  if isAscii c then [c.toLower] else mapped lowerRuns lowerExpansions c

def titleChar (c : Char) : List Char :=
  if isAscii c then [c.toUpper] else mapped titleRuns titleExpansions c

def isCased (c : Char) : Bool :=
  if isAscii c then c.isAlpha else inRanges casedLetters c.toNat

/-- Characters that are passed over when the cased neighbours of a sigma are sought. -/
def isCaseIgnorable (c : Char) : Bool :=
  if isAscii c then ['\'', '.', ':', '^', '\x60'].contains c else inRanges caseIgnorables c.toNat

/-- Whether the nearest character that is not passed over is cased. -/
def meetsCased (cs : List Char) : Bool :=
  match cs.dropWhile isCaseIgnorable with
  | [] => false
  | c :: _ => isCased c

/-- Lower case of the rest of a word, given the reversed beginning. -/
def lowerAfter : (before : List Char) → List Char → List Char
  | _, [] => []
  | before, c :: cs =>
    let here :=
      if c = 'Σ' then [if meetsCased before && !meetsCased cs then 'ς' else 'σ'] else lowerChar c
    here ++ lowerAfter (c :: before) cs

def capitalize (s : String) : String :=
  match s.toList with
  | [] => ""
  | c :: cs => String.ofList (titleChar c ++ lowerAfter [c] cs)

end TaxFlow.Text

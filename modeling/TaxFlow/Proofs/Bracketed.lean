import TaxFlow.Proofs.OperatorSpacing

/-!
# Texts within brackets

A text that has been read by itself is read as the same tokens within brackets, up to a blank, a
comma or a closing bracket behind it. Brackets may be nested less deep there, and the blanks around
the text have to be those of formulas.
-/
namespace TaxFlow.Formula

/-- The count of open brackets behind a token. -/
def Token.depthAfter (depth : Nat) (t : Token) : Nat :=
  match t.role with
  | .opening => depth + 1
  | .closing => depth - 1
  | _ => depth

/-- How many brackets are open at most among the tokens, if `depth` are open in front of them. -/
def nesting (depth : Nat) : List Token → Nat
  | [] => depth
  | t :: ts => max depth (nesting (t.depthAfter depth) ts)

/-- Whether the last piece of a text is a comment. -/
def endsInNote (depth : Nat) (fresh : Bool) (cs : List Char) : Bool :=
  (lastPiece depth fresh cs).any fun (token, q) => token.isNone && q.head? == some '#'

section Steps

variable {depth d depth' : Nat} {fresh : Bool} {cs more : List Char} {s : LexStep}

/-- The same step with `d` more brackets open, and whether they are too many behind it. -/
def LexStep.within (s : LexStep) (d : Nat) : Option LexStep :=
  if s.depth + d ≤ maxDepth then some ⟨s.token, s.rest, s.depth + d, false⟩ else none

end Steps

section Runs

variable {depth d : Nat} {fresh : Bool} {cs more : List Char} {s : LexStep}
    {ts : List Token} {t : Token}

/-- Blanks that may stand around the items of a list. -/
def isPlainBlank (c : Char) : Bool := isGap c || c == '\n' || c == '\r'

end Runs

section Blanks

variable {cs : List Char}

/-- The blanks at the beginning of a text. -/
def startBlanks (cs : List Char) : List Char := cs.takeWhile Text.isBlank

end Blanks

/-- Whether a text that is read by itself can also be read within one more pair of brackets. -/
def fitsBrackets (cs : List Char) : Bool :=
  (startBlanks (respelled cs)).all isPlainBlank && (endBlanks (respelled cs)).all isPlainBlank &&
    (tokens? (prepared cs)).all (nesting 0 · < maxDepth)

end TaxFlow.Formula

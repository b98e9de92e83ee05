import TaxFlow.Formula.Literal
import TaxFlow.Text.Blank
import TaxFlow.Text.Identifier
import TaxFlow.Text.Normal

/-!
# Reading tokens

A formula is cut into tokens from left to right. Blanks and comments separate tokens; a line feed
ends a logical line unless a bracket is open or a backslash stands before it. A logical line starts
at the margin.
-/
namespace TaxFlow.Formula

def isGap (c : Char) : Bool := c == ' ' || c == '\t' || c == '\x0c'

/-- Brackets may be nested this deep. -/
def maxDepth : Nat := 200

/-- One step of the reading: perhaps a token, the rest, the count of open brackets, and whether a
logical line is about to start. -/
structure LexStep where
  token : Option Token
  rest : List Char
  depth : Nat
  fresh : Bool

/-- The token of a word. Names are brought into normal form; a word that is no identifier is in
error. -/
def wordToken (word : List Char) : Option Token :=
  match keywords.lookup (String.ofList word) with
  | some k => some (.keyword k)
  | none => if Text.isName word then some (.name (Text.normalForm (String.ofList word))) else none

def Symbol.depthAfter (depth : Nat) : Symbol → Option Nat
  | .openParen | .openBracket | .openBrace => if depth < maxDepth then some (depth + 1) else none
  | .closeParen | .closeBracket | .closeBrace => if depth = 0 then none else some (depth - 1)
  | _ => some depth

def symbolStep (depth : Nat) (cs : List Char) : Option LexStep := do
  let (spelling, s) ← symbols.find? fun (spelling, _) => spelling.isPrefixOf cs
  let depth ← s.depthAfter depth
  some ⟨some (.symbol s), cs.drop spelling.length, depth, false⟩

/-- A word, or a string literal if the word stands for marks in front of it. -/
def wordStep (depth : Nat) (cs : List Char) : Option LexStep :=
  let (word, rest) := cs.span isWordChar
  let quoted := match rest with
    | c :: _ => c == '"' || c == '\''
    | [] => false
  match if quoted then TextMarks.ofWord word else none with
  | some marks => (textLiteral marks rest).map fun (p, rest) => ⟨some (.text p), rest, depth, false⟩
  | none => (wordToken word).map fun t => ⟨some t, rest, depth, false⟩

/-- Blanks; at the start of a logical line only a blank line or a comment may follow them, or they
end in a form feed. -/
def gapStep (depth : Nat) (fresh : Bool) (cs : List Char) : Option LexStep :=
  let (gap, rest) := cs.span isGap
  let margin := gap.getLast? == some '\x0c'
  let blank := match rest with
    | [] => true
    | c :: _ => c == '\n' || c == '#'
  if fresh && depth = 0 && !margin && !blank then none else some ⟨none, rest, depth, fresh⟩

def lexStep (depth : Nat) (fresh : Bool) : List Char → Option LexStep
  | [] => none
  | c :: cs =>
    if isGap c then gapStep depth fresh (c :: cs)
    else if c = '\n' then
      if depth = 0 && !fresh then some ⟨some .lineEnd, cs, 0, true⟩ else some ⟨none,
        cs, depth, fresh⟩
    else if c = '#' then some ⟨none, cs.dropWhile (· != '\n'), depth, fresh⟩
    else if c = '\\' then
      match cs with
      | '\n' :: d :: rest => some ⟨none, d :: rest, depth, fresh⟩
      | _ => none
    else if c = '"' || c = '\'' then
      (textLiteral ⟨false, false, false⟩ (c :: cs)).map fun (p, rest) =>
        ⟨some (.text p), rest, depth, false⟩
    else if c.isDigit || (c = '.' && (cs.head?.map Char.isDigit).getD false) then
      (numberLiteral (c :: cs)).map fun (k, rest) => ⟨some (.number k), rest, depth, false⟩
    else if isWordChar c then wordStep depth (c :: cs)
    else symbolStep depth (c :: cs)

/-- All tokens of a text. Every bracket has to be closed at the end. -/
def tokensFrom (depth : Nat) (fresh : Bool) (cs : List Char) : Option (List Token) :=
  if cs = [] then if depth = 0 then some [] else none
  else match lexStep depth fresh cs with
    | none => none
    | some s =>
      if s.rest.length < cs.length then
        (tokensFrom s.depth s.fresh s.rest).map (s.token.toList ++ ·)
      else none
termination_by cs.length

def tokens? (cs : List Char) : Option (List Token) := tokensFrom 0 true (Text.withLineFeeds cs)

end TaxFlow.Formula

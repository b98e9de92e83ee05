import TaxFlow.Formula.Token
import TaxFlow.Number.Reader
import TaxFlow.Text.Digit

/-!
# Literals

Numbers and strings at the beginning of a text of characters. Each reader gives the literal and the
rest, or nothing if the text is in error.
-/
namespace TaxFlow.Formula

open TaxFlow.Number

/-- Characters that belong to a word: ASCII letters, digits, the underscore and everything above
ASCII. -/
def isWordChar (c : Char) : Bool := c.isAlphanum || c == '_' || 0x80 ≤ c.toNat

/-- Digits in groups, single underscores between them; the underscores are dropped. -/
def digitRun (isDigit : Char → Bool) : List Char → Option (List Char × List Char)
  | [] => some ([], [])
  | '_' :: [] => none
  | '_' :: c :: cs =>
    if isDigit c then (digitRun isDigit cs).map fun (ds, rest) => (c :: ds, rest) else none
  | c :: cs =>
    if isDigit c then (digitRun isDigit cs).map fun (ds, rest) => (c :: ds, rest)
    else some ([], c :: cs)

/-- Whether a number may end here: no word goes on directly, except one that begins like a keyword
that can follow a number. -/
def endsNumber : List Char → Bool
  | [] => true
  | c :: cs =>
    !isWordChar c ||
      match c with
      | 'a' => "nd".toList.isPrefixOf cs
      | 'e' => "lse".toList.isPrefixOf cs
      | 'f' => "or".toList.isPrefixOf cs
      | 'i' => ["f", "n", "s"].any fun w => w.toList.isPrefixOf cs
      | 'o' => "r".toList.isPrefixOf cs
      | 'n' => "ot".toList.isPrefixOf cs
      | _ => false

def radixNumber (base : Nat) (isDigit : Char → Bool) (cs : List Char) :
    Option (Constant × List Char) := do
  let (ds, rest) ← digitRun isDigit cs
  if ds ≠ [] && endsNumber rest then some (.int (Text.ofDigits base ds), rest) else none

def fractionPart : List Char → Option (Option (List Char) × List Char)
  | '.' :: c :: cs =>
    if c.isDigit then (digitRun Char.isDigit (c :: cs)).map fun (ds, rest) => (some ds, rest)
    else some (some [], c :: cs)
  | ['.'] => some (some [], [])
  | cs => some (none, cs)

def isExponentMark (c : Char) : Bool := c == 'e' || c == 'E'

/-- The exponent, if one begins here; a sign has to be followed by a digit. -/
def exponentPart : List Char → Option (Option Int × List Char)
  | c :: d :: cs =>
    if isExponentMark c && d.isDigit then
      (digitRun Char.isDigit (d :: cs)).map fun (ds, rest) => (some (Text.ofDecimal ds), rest)
    else if isExponentMark c && (d == '+' || d == '-') then
      match cs with
      | e :: _ =>
        if e.isDigit then
          (digitRun Char.isDigit cs).map fun (ds, rest) =>
            (some (if d == '-' then -(Text.ofDecimal ds : Int) else Text.ofDecimal ds), rest)
        else none
      | [] => none
    else some (none, c :: d :: cs)
  | cs => some (none, cs)

def maxIntegerDigits : Nat := 4300

/-- A decimal number: whole, with a fraction or exponent, or imaginary. A whole number other than
zero has no leading zero. -/
def decimalNumber (cs : List Char) : Option (Constant × List Char) := do
  let (whole, rest) ← digitRun Char.isDigit cs
  let (fraction, rest) ← fractionPart rest
  let (exponent, rest) ← exponentPart rest
  let digits : DecimalText := ⟨whole, fraction.getD [], exponent.getD 0⟩
  let value := Binary64.ofDecimal false digits.digits digits.scale
  let imaginary := match rest with
    | c :: rest => if c == 'j' || c == 'J' then some rest else none
    | [] => none
  match imaginary with
  | some rest => if endsNumber rest then some (.imaginary value, rest) else none
  | none =>
    if !endsNumber rest then none
    else if fraction.isSome || exponent.isSome then some (.float value, rest)
    else if whole.head? == some '0' && whole.any (· != '0') then none
    else if maxIntegerDigits < whole.length then none
    else some (.int (Text.ofDecimal whole), rest)

def numberLiteral : List Char → Option (Constant × List Char)
  | '0' :: c :: cs =>
    if c == 'x' || c == 'X' then radixNumber 16 (fun d => (Text.hexValue? d).isSome) cs
    else if c == 'o' || c == 'O' then radixNumber 8 (fun d => '0' ≤ d && d ≤ '7') cs
    else if c == 'b' || c == 'B' then radixNumber 2 (fun d => d == '0' || d == '1') cs
    else decimalNumber ('0' :: c :: cs)
  | cs => decimalNumber cs

structure TextMarks where
  raw : Bool
  bytes : Bool
  unicode : Bool

/-- The marks that a word in front of a quotation mark stands for. -/
def TextMarks.ofWord (word : List Char) : Option TextMarks :=
  let lower := String.ofList (word.map Char.toLower)
  if lower = "" then some ⟨false, false, false⟩
  else if lower = "r" then some ⟨true, false, false⟩
  else if lower = "b" then some ⟨false, true, false⟩
  else if lower = "u" then some ⟨false, false, word = ['u']⟩
  else if lower = "br" || lower = "rb" then some ⟨true, true, false⟩
  else none

/-- The characters up to the closing mark on the same line; a backslash takes the next character
along. -/
def shortBody (mark : Char) : List Char → Option (List Char × List Char)
  | [] => none
  | '\\' :: c :: cs => (shortBody mark cs).map fun (body, rest) => ('\\' :: c :: body, rest)
  | c :: cs =>
    if c = mark then some ([], cs)
    else if c = '\n' then none
    else (shortBody mark cs).map fun (body, rest) => (c :: body, rest)

def longBody (mark : Char) : List Char → Option (List Char × List Char)
  | [] => none
  | '\\' :: c :: cs => (longBody mark cs).map fun (body, rest) => ('\\' :: c :: body, rest)
  | c :: cs =>
    if c = mark ∧ [mark, mark].isPrefixOf cs then some ([], cs.drop 2)
    else (longBody mark cs).map fun (body, rest) => (c :: body, rest)

def plainEscape (c : Char) : Option (List Nat) :=
  [('\n', []), ('\\', [0x5C]), ('\'', [0x27]), ('"', [0x22]), ('a', [7]), ('b', [8]), ('f', [12]),
    ('n', [10]), ('r', [13]), ('t', [9]), ('v', [11])].lookup c

def isOctal (c : Char) : Bool := '0' ≤ c && c ≤ '7'

/-- The code points of a string literal. Every step takes at least one of `fuel` characters. -/
def unescaped (bytes : Bool) : (fuel : Nat) → List Char → Option (List Nat)
  | 0, _ => some []
  | _, [] => some []
  | n + 1, '\\' :: c :: cs =>
    match plainEscape c with
    | some ns => (unescaped bytes n cs).map (ns ++ ·)
    | none =>
      if isOctal c then
        let more := (cs.take 2).takeWhile isOctal
        let value := Text.ofDigits 8 (c :: more)
        (unescaped bytes n (cs.drop more.length)).map
          ((if bytes then value % 256 else value) :: ·)
      else
        let width := if c = 'x' then 2 else if bytes then 0 else if c = 'u' then 4
          else if c = 'U' then 8 else 0
        if width = 0 then
          if c = 'N' && !bytes then none else (unescaped bytes n cs).map (0x5C :: c.toNat :: ·)
        else
          let ds := cs.take width
          let value := Text.ofDigits 16 ds
          if ds.length = width && ds.all (fun d => (Text.hexValue? d).isSome) && value.isValidChar
          then (unescaped bytes n (cs.drop width)).map (value :: ·)
          else none
  | n + 1, c :: cs => (unescaped bytes n cs).map (c.toNat :: ·)

def TextMarks.part (marks : TextMarks) (body : List Char) : Option TextPart :=
  if marks.bytes && body.any (fun c => 0x80 ≤ c.toNat) then none
  else do
    let codes ← if marks.raw then some (body.map Char.toNat)
      else unescaped marks.bytes (body.length + 1) body
    if marks.bytes then some (.bytes codes)
    else some (.text (String.ofList (codes.map Char.ofNat)) marks.unicode)

/-- A string literal behind its marks, beginning with the quotation mark. -/
def textLiteral (marks : TextMarks) : List Char → Option (TextPart × List Char)
  | [] => none
  | mark :: cs => do
    let (body, rest) ←
      if [mark, mark].isPrefixOf cs then longBody mark (cs.drop 2) else shortBody mark cs
    let part ← marks.part body
    some (part, rest)

end TaxFlow.Formula

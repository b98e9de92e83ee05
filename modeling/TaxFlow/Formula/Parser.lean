import TaxFlow.Formula.Lexer

/-!
# Reading expressions

Recursive descent over tokens. Each reader gives what it has read and the remaining tokens, or
nothing. The first argument bounds the depth of the descent, which goes down by one with every call.
Where the depth does not matter it is `depthFor` the tokens: between two tokens the descent passes
each level of precedence at most once.
-/
namespace TaxFlow.Formula

/-- The binary operators of a level, from the weakest to the strongest. -/
def operatorAt (level : Nat) : Token → Option BinaryOp
  | .symbol (.arith op) =>
    let own := match op with
      | .bitOr => 0
      | .bitXor => 1
      | .bitAnd => 2
      | .shiftLeft | .shiftRight => 3
      | .add | .sub => 4
      | .mul | .div | .floorDiv | .mod | .matMul => 5
      | .pow => 6
    if own = level then some op else none
  | _ => none

def factorLevel : Nat := 6

def comparisonAt : List Token → Option (CompareOp × List Token)
  | .symbol (.relation op) :: ts => some (op, ts)
  | .keyword .not :: .keyword .in :: ts => some (.notMember, ts)
  | .keyword .is :: .keyword .not :: ts => some (.notSame, ts)
  | .keyword .in :: ts => some (.member, ts)
  | .keyword .is :: ts => some (.same, ts)
  | _ => none

def signAt : Token → Option UnaryOp
  | .symbol (.arith .add) => some .plus
  | .symbol (.arith .sub) => some .minus
  | .symbol .tilde => some .invert
  | _ => none

/-- A chain of operands of one boolean operator is one node; a single operand stands alone. -/
def joined (op : BoolOp) (first : Expr) : List Expr → Expr
  | [] => first
  | more => .bool op (first :: more)

/-- A chain of comparisons is one node; a single operand stands alone. -/
def chained (left : Expr) : List (CompareOp × Expr) → Expr
  | [] => left
  | (op, right) :: more => .compare left op right more

/-- Neighbouring string literals are one; texts and bytes do not mix. -/
def joinedText : TextPart → List TextPart → Option Constant
  | .text s marked, parts => do
    let rest ← parts.mapM fun p => match p with
      | .text t _ => some t
      | .bytes _ => none
    some (.text (String.join (s :: rest)) marked)
  | .bytes b, parts => do
    let rest ← parts.mapM fun p => match p with
      | .bytes c => some c
      | .text .. => none
    some (.bytes (b ++ rest.flatten))

def textParts : List Token → List TextPart × List Token
  | .text p :: ts =>
    let (ps, rest) := textParts ts
    (p :: ps, rest)
  | ts => ([], ts)

structure Arguments where
  positional : List Expr := []
  keywords : List (Option String × Expr) := []

/-- What has been seen among the arguments of a call: named ones allow no further plain ones, and an
unpacked mapping allows no unpacked sequence either. -/
inductive ArgumentStage where
  | plain | named | unpacked
  deriving DecidableEq

def boundOmitted : List Token → Bool
  | .symbol .colon :: _ | .symbol .comma :: _ | .symbol .closeBracket :: _ => true
  | _ => false

mutual

def expression : Nat → List Token → Option (Expr × List Token)
  | 0, _ => none
  | n + 1, ts => do
    let (body, ts) ← disjunction n ts
    match ts with
    | .keyword .if :: ts =>
      let (test, ts) ← disjunction n ts
      match ts with
      | .keyword .else :: ts =>
        let (other, ts) ← expression n ts
        some (.conditional test body other, ts)
      | _ => none
    | _ => some (body, ts)

def disjunction : Nat → List Token → Option (Expr × List Token)
  | 0, _ => none
  | n + 1, ts => do
    let (first, ts) ← conjunction n ts
    let (more, ts) ← disjuncts n ts
    some (joined .or first more, ts)

def disjuncts : Nat → List Token → Option (List Expr × List Token)
  | 0, _ => none
  | n + 1, .keyword .or :: ts => do
    let (e, ts) ← conjunction n ts
    let (more, ts) ← disjuncts n ts
    some (e :: more, ts)
  | _ + 1, ts => some ([], ts)

def conjunction : Nat → List Token → Option (Expr × List Token)
  | 0, _ => none
  | n + 1, ts => do
    let (first, ts) ← inversion n ts
    let (more, ts) ← conjuncts n ts
    some (joined .and first more, ts)

def conjuncts : Nat → List Token → Option (List Expr × List Token)
  | 0, _ => none
  | n + 1, .keyword .and :: ts => do
    let (e, ts) ← inversion n ts
    let (more, ts) ← conjuncts n ts
    some (e :: more, ts)
  | _ + 1, ts => some ([], ts)

def inversion : Nat → List Token → Option (Expr × List Token)
  | 0, _ => none
  | n + 1, .keyword .not :: ts => do
    let (e, ts) ← inversion n ts
    some (.unary .not e, ts)
  | n + 1, ts => comparison n ts

def comparison : Nat → List Token → Option (Expr × List Token)
  | 0, _ => none
  | n + 1, ts => do
    let (left, ts) ← binary n 0 ts
    let (links, ts) ← comparisonLinks n ts
    some (chained left links, ts)

def comparisonLinks : Nat → List Token → Option (List (CompareOp × Expr) × List Token)
  | 0, _ => none
  | n + 1, ts =>
    match comparisonAt ts with
    | none => some ([], ts)
    | some (op, ts) => do
      let (right, ts) ← binary n 0 ts
      let (more, ts) ← comparisonLinks n ts
      some ((op, right) :: more, ts)

/-- Operands joined by the binary operators of a level and those above it. -/
def binary : Nat → (level : Nat) → List Token → Option (Expr × List Token)
  | 0, _, _ => none
  | n + 1, level, ts =>
    if factorLevel ≤ level then factor n ts
    else do
      let (left, ts) ← binary n (level + 1) ts
      operands n level left ts

/-- The further operands of a level, taken together from the left. -/
def operands : Nat → (level : Nat) → (left : Expr) → List Token → Option (Expr × List Token)
  | 0, _, _, _ => none
  | _ + 1, _, left, [] => some (left, [])
  | n + 1, level, left, t :: ts =>
    match operatorAt level t with
    | none => some (left, t :: ts)
    | some op => do
      let (right, ts) ← binary n (level + 1) ts
      operands n level (.binary op left right) ts

def factor : Nat → List Token → Option (Expr × List Token)
  | 0, _ => none
  | _ + 1, [] => none
  | n + 1, t :: ts =>
    match signAt t with
    | some op => do
      let (e, ts) ← factor n ts
      some (.unary op e, ts)
    | none => do
      let (base, ts) ← primary n (t :: ts)
      match ts with
      | .symbol (.arith .pow) :: ts =>
        let (exponent, ts) ← factor n ts
        some (.binary .pow base exponent, ts)
      | _ => some (base, ts)

def primary : Nat → List Token → Option (Expr × List Token)
  | 0, _ => none
  | n + 1, ts => do
    let (e, ts) ← atom n ts
    trailers n e ts

def trailers : Nat → Expr → List Token → Option (Expr × List Token)
  | 0, _, _ => none
  | n + 1, e, .symbol .dot :: ts =>
    match ts with
    | .name id :: ts => trailers n (.member e id) ts
    | _ => none
  | n + 1, e, .symbol .openParen :: ts => do
    let (args, ts) ← arguments n .plain ts
    trailers n (.call e args.positional args.keywords) ts
  | n + 1, e, .symbol .openBracket :: ts => do
    let (index, ts) ← subscript n ts
    trailers n (.subscript e index) ts
  | _ + 1, e, ts => some (e, ts)

def arguments : Nat → ArgumentStage → List Token → Option (Arguments × List Token)
  | 0, _, _ => none
  | _ + 1, _, .symbol .closeParen :: ts => some ({}, ts)
  | n + 1, stage, .symbol (.arith .mul) :: ts =>
    if stage = .unpacked then none
    else do
      let (e, ts) ← expression n ts
      let (rest, ts) ← moreArguments n stage ts
      some ({ rest with positional := .starred e :: rest.positional }, ts)
  | n + 1, _, .symbol (.arith .pow) :: ts => do
    let (e, ts) ← expression n ts
    let (rest, ts) ← moreArguments n .unpacked ts
    some ({ rest with keywords := (none, e) :: rest.keywords }, ts)
  | n + 1, stage, .name id :: .symbol .equals :: ts => do
    let (e, ts) ← expression n ts
    let (rest, ts) ← moreArguments n (if stage = .plain then .named else stage) ts
    some ({ rest with keywords := (some id, e) :: rest.keywords }, ts)
  | n + 1, stage, ts =>
    if stage = .plain then do
      let (e, ts) ← expression n ts
      let (rest, ts) ← moreArguments n stage ts
      some ({ rest with positional := e :: rest.positional }, ts)
    else none

def moreArguments : Nat → ArgumentStage → List Token → Option (Arguments × List Token)
  | 0, _, _ => none
  | n + 1, stage, .symbol .comma :: ts => arguments n stage ts
  | _ + 1, _, .symbol .closeParen :: ts => some ({}, ts)
  | _ + 1, _, _ => none

/-- The index of a subscript and its closing bracket. Several indices form a tuple, as does an
unpacked one. -/
def subscript : Nat → List Token → Option (Expr × List Token)
  | 0, _ => none
  | n + 1, ts => do
    let (first, ts) ← index n ts
    match ts with
    | .symbol .closeBracket :: ts =>
      match first with
      | .starred _ => some (.tuple [first], ts)
      | _ => some (first, ts)
    | .symbol .comma :: ts =>
      let (more, ts) ← indices n ts
      some (.tuple (first :: more), ts)
    | _ => none

def indices : Nat → List Token → Option (List Expr × List Token)
  | 0, _ => none
  | _ + 1, .symbol .closeBracket :: ts => some ([], ts)
  | n + 1, ts => do
    let (e, ts) ← index n ts
    match ts with
    | .symbol .closeBracket :: ts => some ([e], ts)
    | .symbol .comma :: ts =>
      let (more, ts) ← indices n ts
      some (e :: more, ts)
    | _ => none

def index : Nat → List Token → Option (Expr × List Token)
  | 0, _ => none
  | n + 1, .symbol .colon :: ts => slice n none ts
  | n + 1, .symbol (.arith .mul) :: ts => do
    let (e, ts) ← expression n ts
    some (.starred e, ts)
  | n + 1, ts => do
    let (e, ts) ← expression n ts
    match ts with
    | .symbol .colon :: ts => slice n (some e) ts
    | _ => some (e, ts)

def slice : Nat → (lower : Option Expr) → List Token → Option (Expr × List Token)
  | 0, _, _ => none
  | n + 1, lower, ts => do
    let (upper, ts) ← bound n ts
    match ts with
    | .symbol .colon :: ts =>
      let (step, ts) ← bound n ts
      some (.slice lower upper step, ts)
    | _ => some (.slice lower upper none, ts)

def bound : Nat → List Token → Option (Option Expr × List Token)
  | 0, _ => none
  | n + 1, ts =>
    if boundOmitted ts then some (none, ts)
    else do
      let (e, ts) ← expression n ts
      some (some e, ts)

/-- Names, literals and bracketed expressions. -/
def atom : Nat → List Token → Option (Expr × List Token)
  | 0, _ => none
  | _ + 1, [] => none
  | n + 1, t :: ts =>
    match t with
    | .name id => some (.name id, ts)
    | .number k => some (.constant k, ts)
    | .keyword .true => some (.constant .true, ts)
    | .keyword .false => some (.constant .false, ts)
    | .keyword .none => some (.constant .none, ts)
    | .symbol .ellipsis => some (.constant .ellipsis, ts)
    | .text p =>
      let (parts, ts) := textParts ts
      (joinedText p parts).map fun k => (.constant k, ts)
    | .symbol .openParen => parenthesized n ts
    | .symbol .openBracket => do
      let (es, ts) ← items n .closeBracket ts
      some (.list es, ts)
    | .symbol .openBrace => braced n ts
    | _ => none

/-- Behind an opening parenthesis: a tuple, or one expression by itself. -/
def parenthesized : Nat → List Token → Option (Expr × List Token)
  | 0, _ => none
  | _ + 1, .symbol .closeParen :: ts => some (.tuple [], ts)
  | n + 1, ts => do
    let (e, ts) ← item n ts
    match ts with
    | .symbol .closeParen :: ts =>
      match e with
      | .starred _ => none
      | _ => some (e, ts)
    | .symbol .comma :: ts =>
      let (es, ts) ← items n .closeParen ts
      some (.tuple (e :: es), ts)
    | _ => none

def braced : Nat → List Token → Option (Expr × List Token)
  | 0, _ => none
  | _ + 1, .symbol .closeBrace :: ts => some (.dict [], ts)
  | n + 1, .symbol (.arith .pow) :: ts => do
    let (e, ts) ← binary n 0 ts
    let (es, ts) ← moreEntries n ts
    some (.dict ((none, e) :: es), ts)
  | n + 1, ts => do
    let (e, ts) ← item n ts
    match ts with
    | .symbol .closeBrace :: ts => some (.set [e], ts)
    | .symbol .comma :: ts =>
      let (es, ts) ← items n .closeBrace ts
      some (.set (e :: es), ts)
    | .symbol .colon :: ts =>
      match e with
      | .starred _ => none
      | _ =>
        let (value, ts) ← expression n ts
        let (es, ts) ← moreEntries n ts
        some (.dict ((some e, value) :: es), ts)
    | _ => none

def entries : Nat → List Token → Option (List (Option Expr × Expr) × List Token)
  | 0, _ => none
  | _ + 1, .symbol .closeBrace :: ts => some ([], ts)
  | n + 1, .symbol (.arith .pow) :: ts => do
    let (e, ts) ← binary n 0 ts
    let (es, ts) ← moreEntries n ts
    some ((none, e) :: es, ts)
  | n + 1, ts => do
    let (key, ts) ← expression n ts
    match ts with
    | .symbol .colon :: ts =>
      let (value, ts) ← expression n ts
      let (es, ts) ← moreEntries n ts
      some ((some key, value) :: es, ts)
    | _ => none

def moreEntries : Nat → List Token → Option (List (Option Expr × Expr) × List Token)
  | 0, _ => none
  | n + 1, .symbol .comma :: ts => entries n ts
  | _ + 1, .symbol .closeBrace :: ts => some ([], ts)
  | _ + 1, _ => none

/-- Items up to a closing symbol; a comma may stand behind the last one. -/
def items : Nat → (close : Symbol) → List Token → Option (List Expr × List Token)
  | 0, _, _ => none
  | n + 1, close, ts =>
    if ts.head? = some (.symbol close) then some ([], ts.tail)
    else do
      let (e, ts) ← item n ts
      match ts with
      | .symbol .comma :: ts =>
        let (es, ts) ← items n close ts
        some (e :: es, ts)
      | t :: ts => if t = .symbol close then some ([e], ts) else none
      | [] => none

def item : Nat → List Token → Option (Expr × List Token)
  | 0, _ => none
  | n + 1, .symbol (.arith .mul) :: ts => do
    let (e, ts) ← binary n 0 ts
    some (.starred e, ts)
  | n + 1, ts => expression n ts

end

/-- Further items of a bare tuple, each behind a comma; the last comma may stand alone. -/
def bareItems : Nat → List Token → List Expr × List Token
  | 0, ts => ([], ts)
  | n + 1, ts =>
    match ts with
    | .symbol .comma :: ts =>
      match item n ts with
      | some (e, ts) =>
        let (es, ts) := bareItems n ts
        (e :: es, ts)
      | none => ([], ts)
    | _ => ([], ts)

/-- Items separated by commas outside of brackets; a comma makes them a tuple. -/
def bareTuple (n : Nat) (ts : List Token) : Option (Expr × List Token) := do
  let (e, ts) ← item n ts
  match ts with
  | .symbol .comma :: _ =>
    let (es, ts) := bareItems n ts
    some (.tuple (e :: es), ts)
  | _ => some (e, ts)

/-- A depth of descent for tokens: room for all levels of precedence at each of them. -/
def depthFor (ts : List Token) : Nat := 24 * (ts.length + 2)

end TaxFlow.Formula

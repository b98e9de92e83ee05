import TaxFlow.Formula.Parser

/-!
# Reading statements

A text of formulas is a sequence of logical lines; each holds statements separated by semicolons.
-/
namespace TaxFlow.Formula

mutual

def Expr.isTarget : Expr → Bool
  | .name _ | .member .. | .subscript .. => true
  | .starred e =>
    match e with
    | .starred _ => false
    | e => e.isTarget
  | .list es | .tuple es => areTargets es
  | _ => false

def areTargets : List Expr → Bool
  | [] => true
  | e :: es => e.isTarget && areTargets es

end

mutual

def Expr.isDeletable : Expr → Bool
  | .name _ | .member .. | .subscript .. => true
  | .list es | .tuple es => areDeletable es
  | _ => false

def areDeletable : List Expr → Bool
  | [] => true
  | e :: es => e.isDeletable && areDeletable es

end

/-- Whether the expression is a single place: a name, a member or a subscript. -/
def Expr.isPlace : Expr → Bool
  | .name _ | .member .. | .subscript .. => true
  | _ => false

def endsStatement : List Token → Bool
  | [] | .lineEnd :: _ | .symbol .semicolon :: _ => true
  | _ => false

/-- What follows the equals signs of an assignment: further targets and the value. -/
def assigned : Nat → List Token → Option (List Expr × Expr × List Token)
  | 0, _ => none
  | n + 1, ts => do
    let (e, ts) ← bareTuple n ts
    match ts with
    | .symbol .equals :: ts =>
      if e.isTarget then do
        let (targets, value, ts) ← assigned n ts
        some (e :: targets, value, ts)
      else none
    | _ => some ([], e, ts)

def expressionStatement (n : Nat) (ts : List Token) : Option (Statement × List Token) := do
  let (e, ts) ← bareTuple n ts
  match ts with
  | .symbol .equals :: ts =>
    if e.isTarget then do
      let (targets, value, ts) ← assigned n ts
      some (.assign e targets value, ts)
    else none
  | .symbol (.augment op) :: ts =>
    if e.isPlace then do
      let (value, ts) ← bareTuple n ts
      some (.augmented e op value, ts)
    else none
  | .symbol .colon :: ts =>
    if e.isPlace then do
      let (declared, ts) ← expression n ts
      match ts with
      | .symbol .equals :: ts =>
        let (value, ts) ← bareTuple n ts
        some (.annotated e declared (some value), ts)
      | _ => some (.annotated e declared none, ts)
    else none
  | _ => some (.expression e, ts)

/-- Targets of a deletion; a comma may stand behind the last one. -/
def deleted : Nat → List Token → Option (List Expr × List Token)
  | 0, _ => none
  | n + 1, ts =>
    if endsStatement ts then some ([], ts)
    else do
      let (e, ts) ← expression n ts
      if e.isDeletable then
        match ts with
        | .symbol .comma :: ts =>
          let (es, ts) ← deleted n ts
          some (e :: es, ts)
        | _ => some ([e], ts)
      else none

/-- An expression behind the given token, if that token stands here. -/
def expressionBehind (t : Token) (n : Nat) (ts : List Token) : Option (List Token) :=
  if ts.head? = some t then (expression n ts.tail).map Prod.snd else some ts

def namesOnly : List Token → Option (List Token)
  | .name _ :: .symbol .comma :: ts => namesOnly ts
  | .name _ :: ts => some ts
  | _ => none

def dottedName : List Token → Option (List Token)
  | .name _ :: .symbol .dot :: ts => dottedName ts
  | .name _ :: ts => some ts
  | _ => none

def renamed : List Token → Option (List Token)
  | .keyword .as :: .name _ :: ts => some ts
  | .keyword .as :: _ => none
  | ts => some ts

def importedModules : Nat → List Token → Option (List Token)
  | 0, _ => none
  | n + 1, ts => do
    let ts ← dottedName ts
    let ts ← renamed ts
    match ts with
    | .symbol .comma :: ts => importedModules n ts
    | _ => some ts

/-- Names, each perhaps with another name, separated by commas; in parentheses a comma may stand
behind the last one. -/
def importedNames (closing : Bool) : Nat → List Token → Option (List Token)
  | 0, _ => none
  | n + 1, .name _ :: ts => do
    let ts ← renamed ts
    match ts with
    | .symbol .comma :: .symbol .closeParen :: ts => if closing then some ts else none
    | .symbol .comma :: ts => importedNames closing n ts
    | .symbol .closeParen :: ts => if closing then some ts else none
    | ts => if closing then none else some ts
  | _ + 1, _ => none

/-- What is imported from a module: all of it, or some names. -/
def importedPart (n : Nat) : List Token → Option (List Token)
  | .keyword .import :: .symbol (.arith .mul) :: ts => some ts
  | .keyword .import :: .symbol .openParen :: ts => importedNames true n ts
  | .keyword .import :: ts => importedNames false n ts
  | _ => none

/-- What follows the word `from`: dots, or a module, or both. -/
def importFrom (n : Nat) (ts : List Token) : Option (List Token) :=
  let rest := ts.dropWhile fun t => t = .symbol .dot || t = .symbol .ellipsis
  if rest.head? = some (.keyword .import) then
    if rest.length < ts.length then importedPart n rest else none
  else (dottedName rest).bind (importedPart n)

def statement (n : Nat) : List Token → Option (Statement × List Token)
  | .keyword .pass :: ts => some (.plain .pass, ts)
  | .keyword .break :: ts => some (.plain .break, ts)
  | .keyword .continue :: ts => some (.plain .continue, ts)
  | .keyword .return :: ts =>
    if endsStatement ts then some (.return none, ts)
    else (bareTuple n ts).map fun (e, ts) => (.return (some e), ts)
  | .keyword .raise :: ts =>
    if endsStatement ts then some (.plain .raise, ts)
    else do
      let (_, ts) ← expression n ts
      let ts ← expressionBehind (.keyword .from) n ts
      some (.plain .raise, ts)
  | .keyword .assert :: ts => do
    let (_, ts) ← expression n ts
    let ts ← expressionBehind (.symbol .comma) n ts
    some (.plain .assert, ts)
  | .keyword .del :: ts => do
    let (es, ts) ← deleted n ts
    match es with
    | e :: es => some (.delete e es, ts)
    | [] => none
  | .keyword .global :: ts => (namesOnly ts).map fun ts => (.plain .global, ts)
  | .keyword .nonlocal :: ts => (namesOnly ts).map fun ts => (.plain .nonlocal, ts)
  | .keyword .import :: ts => (importedModules n ts).map fun ts => (.plain .import, ts)
  | .keyword .from :: ts => (importFrom n ts).map fun ts => (.plain .importFrom, ts)
  | ts => expressionStatement n ts

def statements : Nat → List Token → Option (List Statement)
  | 0, _ => none
  | _ + 1, [] => some []
  | n + 1, ts => do
    let (s, ts) ← statement n ts
    match ts with
    | [] | [.symbol .semicolon] => some [s]
    | .symbol .semicolon :: .lineEnd :: ts | .symbol .semicolon :: ts | .lineEnd :: ts =>
      (statements n ts).map (s :: ·)
    | _ => none

def script? (cs : List Char) : Option (List Statement) := do
  let ts ← tokens? cs
  statements (depthFor ts) ts

end TaxFlow.Formula

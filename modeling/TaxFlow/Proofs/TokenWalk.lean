import TaxFlow.Formula.Script

/-!
# Walking over tokens

A cursor that goes over tokens one by one, without any grammar: it counts the brackets that are open
and the boolean operators it has passed, notes the signs that structure statements, and knows
whether an operand has just ended. No name directly follows the end of an operand, and every boolean
operator does. All tokens that are read as statements can be walked over in this way, and what the
cursor has counted at the end is what has been read.
-/
namespace TaxFlow.Formula

/-- What the last token leads to: an operand may start, an operand has to start, or one has
ended. -/
inductive Place where
  | start | due | ended
  deriving DecidableEq, Repr

/-- What a token does to what stands around it. The signs make a statement other than a plain
expression. -/
inductive Role where
  | name | operand | connective | bit | opening | closing | origin | separator | sign | other
  deriving DecidableEq, Repr

def Token.role : Token → Role
  | .name _ => .name
  | .number _ | .text _ | .keyword .true | .keyword .false | .keyword .none
  | .symbol .ellipsis => .operand
  | .keyword .and | .keyword .or => .connective
  | .symbol (.arith .bitAnd) | .symbol (.arith .bitOr) => .bit
  | .symbol .openParen | .symbol .openBracket | .symbol .openBrace => .opening
  | .symbol .closeParen | .symbol .closeBracket | .symbol .closeBrace => .closing
  | .keyword .from => .origin
  | .lineEnd | .symbol .semicolon => .separator
  | .symbol .equals | .symbol (.augment _) | .symbol .colon | .keyword .return => .sign
  | _ => .other

/-- A place among tokens, with what has been passed on the way to it. -/
structure Cursor where
  depth : Nat
  place : Place
  marks : List Token
  connectives : Nat
  importing : Bool

namespace Cursor

def placed (c : Cursor) (place : Place) : Cursor := { c with place }

/-- The cursor within one more bracket. -/
def deeper (c : Cursor) : Cursor := { c with depth := c.depth + 1 }

/-- The cursor behind an operand with a number of boolean operators in it. -/
def past (c : Cursor) (k : Nat) : Cursor :=
  { c with place := .ended, connectives := c.connectives + k }

def noting (c : Cursor) (ts : List Token) : Cursor := { c with marks := c.marks ++ ts }

/-- One token further. Separators are noted anywhere, signs outside of brackets. Behind the word
`from` three dots need not be an operand, so that a name may follow them. -/
def step (c : Cursor) (t : Token) : Option Cursor :=
  match t.role with
  | .name => if c.place = .ended && !c.importing then none else some (c.placed .ended)
  | .operand => some (c.placed .ended)
  | .connective =>
    if c.place = .ended then
      some { c with place := .start, connectives := c.connectives + 1 }
    else none
  | .bit => some (c.placed .due)
  | .opening => some (c.placed .start).deeper
  | .closing => if c.depth = 0 then none else some { c with depth := c.depth - 1, place := .ended }
  | .origin => some { c with place := .start, importing := true }
  | .separator => some ((c.noting [t]).placed .start)
  | .sign => some (if c.depth = 0 then (c.noting [t]).placed .start else c.placed .start)
  | .other => some (c.placed .start)

def walk (c : Cursor) : List Token → Option Cursor
  | [] => some c
  | t :: ts => (c.step t).bind fun c => c.walk ts

variable (c : Cursor)

@[simp] theorem placed_place (p : Place) : (c.placed p).place = p := rfl

@[simp] theorem past_place (k : Nat) : (c.past k).place = .ended := rfl

@[simp] theorem placed_past (p : Place) (k : Nat) : (c.placed p).past k = c.past k := rfl

@[simp] theorem past_past (j k : Nat) : (c.past j).past k = c.past (j + k) := by
  simp [past, Nat.add_assoc]

theorem past_zero (h : c.place = .ended) : c.past 0 = c := by
  simp [past, ← h]

@[simp] theorem deeper_place : c.deeper.place = c.place := rfl

theorem walk_cons (t : Token) (ts : List Token) : c.walk (t :: ts) = (c.step t).bind fun c =>
    c.walk ts := rfl

theorem walk_append (ts us : List Token) :
    c.walk (ts ++ us) = (c.walk ts).bind fun c => c.walk us := by
  induction ts generalizing c with
  | nil => rfl
  | cons t ts ih =>
    rw [List.cons_append, walk_cons, walk_cons]
    cases c.step t with
    | none => rfl
    | some c => exact ih c

end Cursor

mutual

/-- The number of boolean operators in an expression. -/
def Expr.connectives : Expr → Nat
  | .name _ | .constant _ | .other _ => 0
  | .member e _ | .unary _ e | .starred e | .incomplete e _ => e.connectives
  | .subscript a b | .binary _ a b => a.connectives + b.connectives
  | .call f args keywords => f.connectives + (connectivesOf args + namedConnectives keywords)
  | .bool _ es => es.length - 1 + connectivesOf es
  | .compare a _ b more => a.connectives + (b.connectives + linkedConnectives more)
  | .list es | .tuple es | .set es => connectivesOf es
  | .dict es => entryConnectives es
  | .conditional test body other => body.connectives + (test.connectives + other.connectives)
  | .slice lower upper step =>
    boundConnectives lower + (boundConnectives upper + boundConnectives step)
  | .holder _ value => boundConnectives value

def connectivesOf : List Expr → Nat
  | [] => 0
  | e :: es => e.connectives + connectivesOf es

def namedConnectives : List (Option String × Expr) → Nat
  | [] => 0
  | (_, e) :: es => e.connectives + namedConnectives es

def linkedConnectives : List (CompareOp × Expr) → Nat
  | [] => 0
  | (_, e) :: es => e.connectives + linkedConnectives es

def entryConnectives : List (Option Expr × Expr) → Nat
  | [] => 0
  | (key, e) :: es => boundConnectives key + e.connectives + entryConnectives es

def boundConnectives : Option Expr → Nat
  | none => 0
  | some e => e.connectives

end

attribute [simp] Expr.connectives connectivesOf namedConnectives linkedConnectives entryConnectives
    boundConnectives

theorem connectives_joined (op : BoolOp) (first : Expr) (more : List Expr) :
    (joined op first more).connectives =
      first.connectives + (more.length + connectivesOf more) := by
  cases more with
  | nil => simp [joined]
  | cons e more =>
    simp only [joined, Expr.connectives, connectivesOf, List.length_cons]
    omega

theorem connectives_chained (left : Expr) (more : List (CompareOp × Expr)) :
    (chained left more).connectives = left.connectives + linkedConnectives more := by
  cases more <;> simp [chained]

section Taking

variable {ts rest us : List Token} {t : Token} {j k : Nat}

/-- Whether an operand with `k` boolean operators stands in front of the rest. -/
def TakesOperand (ts rest : List Token) (k : Nat) : Prop :=
  ∃ used, used ++ rest = ts ∧ ∀ c : Cursor, c.place ≠ .ended → c.walk used = some (c.past k)

/-- Whether what stands in front of the rest belongs to an operand that has ended. -/
def TakesSequel (ts rest : List Token) (k : Nat) : Prop :=
  ∃ used, used ++ rest = ts ∧ ∀ c : Cursor, c.place = .ended → c.walk used = some (c.past k)

/-- Whether a part of a bracketed list, which may be empty, stands in front of the rest. -/
def TakesPart (ts rest : List Token) (k : Nat) : Prop :=
  ∃ used, used ++ rest = ts ∧ ∀ c : Cursor, c.place ≠ .ended →
    ∃ p, c.deeper.walk used = some ((c.past k).placed p).deeper

/-- Whether the rest begins behind the bracket that closes the one directly in front. -/
def TakesInner (ts rest : List Token) (k : Nat) : Prop :=
  ∃ used, used ++ rest = ts ∧ ∀ c : Cursor, c.place ≠ .ended → c.deeper.walk used = some (c.past k)

/-- Whether the rest begins behind the bracket that closes the one around a part that has been
read. -/
def TakesClosing (ts rest : List Token) (k : Nat) : Prop :=
  ∃ used, used ++ rest = ts ∧ ∀ c : Cursor, c.deeper.walk used = some (c.past k)

/-- Tokens that lead to an operand, whatever stands in front of them. -/
def Token.IsLead (t : Token) : Prop := ∀ c : Cursor, ∃ p, p ≠ .ended ∧ c.step t = some (c.placed p)

/-- Tokens that do so within brackets. -/
def Token.IsInnerLead (t : Token) : Prop :=
  ∀ c : Cursor, ∃ p, p ≠ .ended ∧ c.deeper.step t = some (c.placed p).deeper

def Token.IsOpening (t : Token) : Prop := ∀ c : Cursor, c.step t = some (c.placed .start).deeper

def Token.IsClosing (t : Token) : Prop := ∀ c : Cursor, c.deeper.step t = some (c.past 0)

theorem Token.IsLead.inner (h : t.IsLead) : t.IsInnerLead := fun c => h c.deeper

theorem isLead_arith (op : BinaryOp) : (Token.symbol (.arith op)).IsLead := by
  intro c
  cases op <;> exact ⟨_, by decide, rfl⟩

theorem isLead_relation (op : CompareOp) : (Token.symbol (.relation op)).IsLead := fun _ =>
    ⟨.start, by decide, rfl⟩

theorem isLead_tilde : (Token.symbol .tilde).IsLead := fun _ => ⟨.start, by decide, rfl⟩

theorem isLead_comma : (Token.symbol .comma).IsLead := fun _ => ⟨.start, by decide, rfl⟩

theorem isLead_dot : (Token.symbol .dot).IsLead := fun _ => ⟨.start, by decide, rfl⟩

theorem isInnerLead_colon : (Token.symbol .colon).IsInnerLead := fun _ => ⟨.start, by decide, rfl⟩

theorem isInnerLead_equals : (Token.symbol .equals).IsInnerLead := fun _ => ⟨.start, by decide, rfl⟩

theorem isClosing_paren : (Token.symbol .closeParen).IsClosing := fun _ => rfl

theorem isClosing_bracket : (Token.symbol .closeBracket).IsClosing := fun _ => rfl

theorem isClosing_brace : (Token.symbol .closeBrace).IsClosing := fun _ => rfl

theorem TakesSequel.nil : TakesSequel ts ts 0 :=
  ⟨[], rfl, fun c hc => congrArg some (c.past_zero hc).symm⟩

theorem TakesOperand.append (h : TakesOperand ts us j) (h' : TakesSequel us rest k) :
    TakesOperand ts rest (j + k) := by
  obtain ⟨first, rfl, hfirst⟩ := h
  obtain ⟨second, rfl, hsecond⟩ := h'
  refine ⟨first ++ second, List.append_assoc .., fun c hc => ?_⟩
  rw [Cursor.walk_append, hfirst c hc, Option.bind_some, hsecond _ rfl, Cursor.past_past]

theorem TakesSequel.append (h : TakesSequel ts us j) (h' : TakesSequel us rest k) :
    TakesSequel ts rest (j + k) := by
  obtain ⟨first, rfl, hfirst⟩ := h
  obtain ⟨second, rfl, hsecond⟩ := h'
  refine ⟨first ++ second, List.append_assoc .., fun c hc => ?_⟩
  rw [Cursor.walk_append, hfirst c hc, Option.bind_some, hsecond _ rfl, Cursor.past_past]

theorem TakesOperand.cons (ht : t.IsLead) (h : TakesOperand ts rest k) :
    TakesOperand (t :: ts) rest k := by
  obtain ⟨used, rfl, hused⟩ := h
  refine ⟨t :: used, rfl, fun c _ => ?_⟩
  obtain ⟨p, hp, hstep⟩ := ht c
  rw [Cursor.walk_cons, hstep, Option.bind_some, hused _ hp, Cursor.placed_past]

theorem TakesOperand.behind (ht : t.IsLead) (h : TakesOperand ts rest k) :
    TakesSequel (t :: ts) rest k := by
  obtain ⟨used, rfl, hused⟩ := h
  refine ⟨t :: used, rfl, fun c _ => ?_⟩
  obtain ⟨p, hp, hstep⟩ := ht c
  rw [Cursor.walk_cons, hstep, Option.bind_some, hused _ hp, Cursor.placed_past]

theorem TakesOperand.behind_connective (ht : t = .keyword .and ∨ t = .keyword .or)
    (h : TakesOperand ts rest k) :
    TakesSequel (t :: ts) rest (1 + k) := by
  obtain ⟨used, rfl, hused⟩ := h
  refine ⟨t :: used, rfl, fun c hc => ?_⟩
  have hstep : c.step t = some ((c.past 1).placed .start) := by
    rcases ht with rfl | rfl <;> exact if_pos hc
  rw [Cursor.walk_cons, hstep, Option.bind_some, hused _ (by simp), Cursor.placed_past,
    Cursor.past_past]

theorem TakesOperand.part (h : TakesOperand ts rest k) : TakesPart ts rest k := by
  obtain ⟨used, rfl, hused⟩ := h
  exact ⟨used, rfl, fun c hc => ⟨.ended, hused c.deeper hc⟩⟩

theorem TakesPart.nil : TakesPart ts ts 0 := ⟨[], rfl, fun c _ => ⟨c.place, rfl⟩⟩

theorem TakesPart.cons (ht : t.IsInnerLead) (h : TakesPart ts rest k) :
    TakesPart (t :: ts) rest k := by
  obtain ⟨used, rfl, hused⟩ := h
  refine ⟨t :: used, rfl, fun c _ => ?_⟩
  obtain ⟨p, hp, hstep⟩ := ht c
  rw [Cursor.walk_cons, hstep, Option.bind_some]
  exact hused _ hp

theorem TakesPart.append (h : TakesPart ts (t :: us) j) (ht : t.IsInnerLead)
    (h' : TakesPart us rest k) :
    TakesPart ts rest (j + k) := by
  obtain ⟨first, rfl, hfirst⟩ := h
  obtain ⟨second, rfl, hsecond⟩ := h'
  refine ⟨first ++ t :: second, by simp, fun c hc => ?_⟩
  obtain ⟨p, hp⟩ := hfirst c hc
  obtain ⟨q, hq, hstep⟩ := ht ((c.past j).placed p)
  obtain ⟨r, hr⟩ := hsecond (((c.past j).placed p).placed q) hq
  refine ⟨r, ?_⟩
  rw [Cursor.walk_append, hp, Option.bind_some, Cursor.walk_cons, hstep, Option.bind_some, hr]
  simp

theorem TakesPart.closing (h : TakesPart ts us j) (h' : TakesClosing us rest k) :
    TakesInner ts rest (j + k) := by
  obtain ⟨first, rfl, hfirst⟩ := h
  obtain ⟨second, rfl, hsecond⟩ := h'
  refine ⟨first ++ second, List.append_assoc .., fun c hc => ?_⟩
  obtain ⟨p, hp⟩ := hfirst c hc
  rw [Cursor.walk_append, hp, Option.bind_some, hsecond, Cursor.placed_past, Cursor.past_past]

theorem TakesClosing.close (ht : t.IsClosing) : TakesClosing (t :: ts) ts 0 :=
  ⟨[t], rfl, fun c => by rw [Cursor.walk_cons, ht c]; rfl⟩

theorem TakesClosing.inner (h : TakesClosing ts rest k) : TakesInner ts rest k := by
  obtain ⟨used, rfl, hused⟩ := h
  exact ⟨used, rfl, fun c _ => hused c⟩

theorem TakesInner.behind (ht : t.IsInnerLead) (h : TakesInner ts rest k) :
    TakesClosing (t :: ts) rest k := by
  obtain ⟨used, rfl, hused⟩ := h
  refine ⟨t :: used, rfl, fun c => ?_⟩
  obtain ⟨p, hp, hstep⟩ := ht c
  rw [Cursor.walk_cons, hstep, Option.bind_some, hused _ hp, Cursor.placed_past]

theorem TakesInner.operand (ht : t.IsOpening) (h : TakesInner ts rest k) :
    TakesOperand (t :: ts) rest k := by
  obtain ⟨used, rfl, hused⟩ := h
  refine ⟨t :: used, rfl, fun c _ => ?_⟩
  rw [Cursor.walk_cons, ht c, Option.bind_some, hused _ (by simp), Cursor.placed_past]

theorem TakesInner.sequel (ht : t.IsOpening) (h : TakesInner ts rest k) :
    TakesSequel (t :: ts) rest k := by
  obtain ⟨used, rfl, hused⟩ := h
  refine ⟨t :: used, rfl, fun c _ => ?_⟩
  rw [Cursor.walk_cons, ht c, Option.bind_some, hused _ (by simp), Cursor.placed_past]

/-- A token that is an operand by itself. -/
theorem TakesOperand.single
    (ht : ∀ c : Cursor, c.place ≠ .ended → c.step t = some (c.placed .ended)) :
    TakesOperand (t :: ts) ts 0 :=
  ⟨[t], rfl, fun c hc => by rw [Cursor.walk_cons, ht c hc]; rfl⟩

theorem step_name {id : String} {c : Cursor} (hc : c.place ≠ .ended) :
    c.step (.name id) = some (c.placed .ended) := by
  simp [Cursor.step, Token.role, hc]

theorem TakesOperand.name {id : String} : TakesOperand (.name id :: ts) ts 0 :=
  .single fun _ hc => step_name hc

/-- An argument behind its name. -/
theorem TakesPart.named {id : String} (h : TakesOperand ts rest k) :
    TakesPart (.name id :: .symbol .equals :: ts) rest k := by
  obtain ⟨used, rfl, hused⟩ := h
  refine ⟨.name id :: .symbol .equals :: used, rfl, fun c hc => ⟨.ended, ?_⟩⟩
  obtain ⟨p, hp, hstep⟩ := isInnerLead_equals (c.placed .ended)
  have hname : c.deeper.step (.name id) = some (c.placed .ended).deeper :=
    step_name (c := c.deeper) hc
  rw [Cursor.walk_cons, hname, Option.bind_some, Cursor.walk_cons, hstep, Option.bind_some]
  exact hused _ hp

theorem comparisonAt_takes {op : CompareOp} (hop : comparisonAt ts = some (op, us))
    (h : TakesOperand us rest k) :
    TakesSequel ts rest k := by
  have hin : (Token.keyword .in).IsLead := fun _ => ⟨.start, by decide, rfl⟩
  have his : (Token.keyword .is).IsLead := fun _ => ⟨.start, by decide, rfl⟩
  have hnot : (Token.keyword .not).IsLead := fun _ => ⟨.start, by decide, rfl⟩
  unfold comparisonAt at hop
  split at hop <;> cases hop
  · exact h.behind (isLead_relation op)
  · exact (h.cons hin).behind hnot
  · exact (h.cons hnot).behind his
  · exact h.behind hin
  · exact h.behind his

theorem eq_arith_of_operatorAt {level : Nat} {op : BinaryOp} (h : operatorAt level t = some op) :
    t = .symbol (.arith op) := by
  cases t with
  | symbol s =>
    cases s with
    | arith op' =>
      simp only [operatorAt, Option.ite_none_right_eq_some, Option.some.injEq] at h
      rw [h.2]
    | _ => cases h
  | _ => cases h

theorem signAt_isLead {op : UnaryOp} (h : signAt t = some op) : t.IsLead := by
  unfold signAt at h
  split at h
  · exact isLead_arith .add
  · exact isLead_arith .sub
  · exact isLead_tilde
  · cases h

theorem textParts_takes (ts : List Token) : TakesSequel ts (textParts ts).2 0 := by
  induction ts with
  | nil => exact .nil
  | cons t ts ih =>
    cases t with
    | text p =>
      obtain ⟨used, hts, hused⟩ := ih
      refine ⟨.text p :: used, by simp [textParts, hts], fun c hc => ?_⟩
      rw [Cursor.walk_cons]
      exact hused (c.placed .ended) rfl
    | _ => exact .nil

end Taking

/-- What all readers take. -/
structure AllTake (n : Nat) : Prop where
  expression : ∀ {ts e rest}, expression n ts = some (e, rest) → TakesOperand ts rest e.connectives
  disjunction : ∀ {ts e rest}, disjunction n ts = some (e, rest) →
    TakesOperand ts rest e.connectives
  disjuncts : ∀ {ts es rest}, disjuncts n ts = some (es, rest) →
    TakesSequel ts rest (es.length + connectivesOf es)
  conjunction : ∀ {ts e rest}, conjunction n ts = some (e, rest) →
    TakesOperand ts rest e.connectives
  conjuncts : ∀ {ts es rest}, conjuncts n ts = some (es, rest) →
    TakesSequel ts rest (es.length + connectivesOf es)
  inversion : ∀ {ts e rest}, inversion n ts = some (e, rest) → TakesOperand ts rest e.connectives
  comparison : ∀ {ts e rest}, comparison n ts = some (e, rest) → TakesOperand ts rest e.connectives
  comparisonLinks : ∀ {ts es rest}, comparisonLinks n ts = some (es, rest) →
    TakesSequel ts rest (linkedConnectives es)
  binary : ∀ {level ts e rest}, binary n level ts = some (e, rest) →
    TakesOperand ts rest e.connectives
  operands : ∀ {level left ts e rest}, operands n level left ts = some (e, rest) →
    ∃ k, e.connectives = left.connectives + k ∧ TakesSequel ts rest k
  factor : ∀ {ts e rest}, factor n ts = some (e, rest) → TakesOperand ts rest e.connectives
  primary : ∀ {ts e rest}, primary n ts = some (e, rest) → TakesOperand ts rest e.connectives
  trailers : ∀ {left ts e rest}, trailers n left ts = some (e, rest) →
    ∃ k, e.connectives = left.connectives + k ∧ TakesSequel ts rest k
  arguments : ∀ {stage ts args rest}, arguments n stage ts = some (args, rest) →
    TakesInner ts rest (connectivesOf args.positional + namedConnectives args.keywords)
  moreArguments : ∀ {stage ts args rest}, moreArguments n stage ts = some (args, rest) →
    TakesClosing ts rest (connectivesOf args.positional + namedConnectives args.keywords)
  subscript : ∀ {ts e rest}, subscript n ts = some (e, rest) → TakesInner ts rest e.connectives
  indices : ∀ {ts es rest}, indices n ts = some (es, rest) → TakesInner ts rest (connectivesOf es)
  index : ∀ {ts e rest}, index n ts = some (e, rest) → TakesPart ts rest e.connectives
  slice : ∀ {lower ts e rest}, slice n lower ts = some (e, rest) →
    ∃ k, e.connectives = boundConnectives lower + k ∧ TakesPart ts rest k
  bound : ∀ {ts e rest}, bound n ts = some (e, rest) → TakesPart ts rest (boundConnectives e)
  atom : ∀ {ts e rest}, atom n ts = some (e, rest) → TakesOperand ts rest e.connectives
  parenthesized : ∀ {ts e rest}, parenthesized n ts = some (e, rest) →
    TakesInner ts rest e.connectives
  braced : ∀ {ts e rest}, braced n ts = some (e, rest) → TakesInner ts rest e.connectives
  entries : ∀ {ts es rest}, entries n ts = some (es, rest) →
    TakesInner ts rest (entryConnectives es)
  moreEntries : ∀ {ts es rest}, moreEntries n ts = some (es, rest) →
    TakesClosing ts rest (entryConnectives es)
  items : ∀ {close ts es rest}, (Token.symbol close).IsClosing →
    items n close ts = some (es, rest) →
    TakesInner ts rest (connectivesOf es)
  item : ∀ {ts e rest}, item n ts = some (e, rest) → TakesOperand ts rest e.connectives

theorem allTake_zero : AllTake 0 := by
  constructor <;> intros <;> contradiction

namespace AllTake

variable {n : Nat} (h : AllTake n) {ts rest : List Token} {e : Expr} {es : List Expr}

include h

theorem expression_succ (hread : Formula.expression (n + 1) ts = some (e, rest)) :
    TakesOperand ts rest e.connectives := by
  simp only [Formula.expression, Option.bind_eq_bind, Option.bind_eq_some_iff, Prod.exists] at hread
  obtain ⟨body, us, hbody, hread⟩ := hread
  split at hread
  · simp only [Option.bind_eq_some_iff, Prod.exists] at hread
    obtain ⟨test, vs, htest, hread⟩ := hread
    split at hread
    · simp only [Option.bind_eq_some_iff, Prod.exists] at hread
      obtain ⟨other, ws, hother, hread⟩ := hread
      cases hread
      have hif : (Token.keyword .if).IsLead := fun _ => ⟨.start, by decide, rfl⟩
      have helse : (Token.keyword .else).IsLead := fun _ => ⟨.start, by decide, rfl⟩
      simpa using (h.disjunction hbody).append
        (((h.disjunction htest).behind hif).append ((h.expression hother).behind helse))
    · cases hread
  · cases hread
    exact h.disjunction hbody

theorem disjunction_succ (hread : Formula.disjunction (n + 1) ts = some (e, rest)) :
    TakesOperand ts rest e.connectives := by
  simp only [Formula.disjunction, Option.bind_eq_bind, Option.bind_eq_some_iff,
    Prod.exists] at hread
  obtain ⟨first, us, hfirst, more, vs, hmore, hread⟩ := hread
  cases hread
  rw [connectives_joined]
  exact (h.conjunction hfirst).append (h.disjuncts hmore)

theorem disjuncts_succ (hread : Formula.disjuncts (n + 1) ts = some (es, rest)) :
    TakesSequel ts rest (es.length + connectivesOf es) := by
  unfold Formula.disjuncts at hread
  split at hread
  · contradiction
  · cases ‹n + 1 = _›
    simp only [Option.bind_eq_bind, Option.bind_eq_some_iff, Prod.exists] at hread
    obtain ⟨first, us, hfirst, more, vs, hmore, hread⟩ := hread
    cases hread
    have htake := ((h.conjunction hfirst).behind_connective (.inr rfl)).append (h.disjuncts hmore)
    simpa [Nat.add_comm, Nat.add_left_comm, Nat.add_assoc] using htake
  · cases hread
    exact .nil

theorem conjunction_succ (hread : Formula.conjunction (n + 1) ts = some (e, rest)) :
    TakesOperand ts rest e.connectives := by
  simp only [Formula.conjunction, Option.bind_eq_bind, Option.bind_eq_some_iff,
    Prod.exists] at hread
  obtain ⟨first, us, hfirst, more, vs, hmore, hread⟩ := hread
  cases hread
  rw [connectives_joined]
  exact (h.inversion hfirst).append (h.conjuncts hmore)

theorem conjuncts_succ (hread : Formula.conjuncts (n + 1) ts = some (es, rest)) :
    TakesSequel ts rest (es.length + connectivesOf es) := by
  unfold Formula.conjuncts at hread
  split at hread
  · contradiction
  · cases ‹n + 1 = _›
    simp only [Option.bind_eq_bind, Option.bind_eq_some_iff, Prod.exists] at hread
    obtain ⟨first, us, hfirst, more, vs, hmore, hread⟩ := hread
    cases hread
    have htake := ((h.inversion hfirst).behind_connective (.inl rfl)).append (h.conjuncts hmore)
    simpa [Nat.add_comm, Nat.add_left_comm, Nat.add_assoc] using htake
  · cases hread
    exact .nil

theorem inversion_succ (hread : Formula.inversion (n + 1) ts = some (e, rest)) :
    TakesOperand ts rest e.connectives := by
  unfold Formula.inversion at hread
  split at hread
  · contradiction
  · cases ‹n + 1 = _›
    simp only [Option.bind_eq_bind, Option.bind_eq_some_iff, Prod.exists] at hread
    obtain ⟨operand, us, hoperand, hread⟩ := hread
    cases hread
    have hnot : (Token.keyword .not).IsLead := fun _ => ⟨.start, by decide, rfl⟩
    simpa using (h.inversion hoperand).cons hnot
  · cases ‹n + 1 = _›
    exact h.comparison hread

theorem comparison_succ (hread : Formula.comparison (n + 1) ts = some (e, rest)) :
    TakesOperand ts rest e.connectives := by
  simp only [Formula.comparison, Option.bind_eq_bind, Option.bind_eq_some_iff, Prod.exists] at hread
  obtain ⟨left, us, hleft, links, vs, hlinks, hread⟩ := hread
  cases hread
  rw [connectives_chained]
  exact (h.binary hleft).append (h.comparisonLinks hlinks)

theorem comparisonLinks_succ {links : List (CompareOp × Expr)}
    (hread : Formula.comparisonLinks (n + 1) ts = some (links, rest)) :
    TakesSequel ts rest (linkedConnectives links) := by
  simp only [Formula.comparisonLinks] at hread
  split at hread
  · cases hread
    exact .nil
  · simp only [Option.bind_eq_bind, Option.bind_eq_some_iff, Prod.exists] at hread
    obtain ⟨right, us, hright, more, vs, hmore, hread⟩ := hread
    cases hread
    simpa using (comparisonAt_takes ‹_› (h.binary hright)).append (h.comparisonLinks hmore)

theorem binary_succ {level : Nat} (hread : Formula.binary (n + 1) level ts = some (e, rest)) :
    TakesOperand ts rest e.connectives := by
  simp only [Formula.binary] at hread
  split at hread
  · exact h.factor hread
  · simp only [Option.bind_eq_bind, Option.bind_eq_some_iff, Prod.exists] at hread
    obtain ⟨left, us, hleft, hread⟩ := hread
    obtain ⟨k, hk, hmore⟩ := h.operands hread
    rw [hk]
    exact (h.binary hleft).append hmore

theorem operands_succ {level : Nat} {left : Expr}
    (hread : Formula.operands (n + 1) level left ts = some (e, rest)) :
    ∃ k, e.connectives = left.connectives + k ∧ TakesSequel ts rest k := by
  cases ts with
  | nil =>
    cases hread
    exact ⟨0, rfl, .nil⟩
  | cons t ts =>
    simp only [Formula.operands] at hread
    split at hread
    · cases hread
      exact ⟨0, rfl, .nil⟩
    · rename_i op hop
      simp only [Option.bind_eq_bind, Option.bind_eq_some_iff, Prod.exists] at hread
      obtain ⟨right, us, hright, hread⟩ := hread
      obtain ⟨k, hk, hmore⟩ := h.operands hread
      cases eq_arith_of_operatorAt hop
      refine ⟨right.connectives + k, ?_, ((h.binary hright).behind (isLead_arith op)).append hmore⟩
      rw [hk, Expr.connectives, Nat.add_assoc]

theorem factor_succ (hread : Formula.factor (n + 1) ts = some (e, rest)) :
    TakesOperand ts rest e.connectives := by
  cases ts with
  | nil => cases hread
  | cons t ts =>
    simp only [Formula.factor] at hread
    split at hread
    · simp only [Option.bind_eq_bind, Option.bind_eq_some_iff, Prod.exists] at hread
      obtain ⟨operand, us, hoperand, hread⟩ := hread
      cases hread
      simpa using (h.factor hoperand).cons (signAt_isLead ‹_›)
    · simp only [Option.bind_eq_bind, Option.bind_eq_some_iff, Prod.exists] at hread
      obtain ⟨base, us, hbase, hread⟩ := hread
      split at hread
      · simp only [Option.bind_eq_some_iff, Prod.exists] at hread
        obtain ⟨exponent, vs, hexponent, hread⟩ := hread
        cases hread
        simpa using (h.primary hbase).append ((h.factor hexponent).behind (isLead_arith .pow))
      · cases hread
        exact h.primary hbase

theorem primary_succ (hread : Formula.primary (n + 1) ts = some (e, rest)) :
    TakesOperand ts rest e.connectives := by
  simp only [Formula.primary, Option.bind_eq_bind, Option.bind_eq_some_iff, Prod.exists] at hread
  obtain ⟨base, us, hbase, hread⟩ := hread
  obtain ⟨k, hk, hmore⟩ := h.trailers hread
  rw [hk]
  exact (h.atom hbase).append hmore

theorem trailers_succ {left : Expr} (hread : Formula.trailers (n + 1) left ts = some (e, rest)) :
    ∃ k, e.connectives = left.connectives + k ∧ TakesSequel ts rest k := by
  have hopen : (Token.symbol .openParen).IsOpening ∧ (Token.symbol .openBracket).IsOpening := by
    constructor <;> exact fun _ => rfl
  unfold Formula.trailers at hread
  split at hread
  · contradiction
  · cases ‹n + 1 = _›
    split at hread
    · obtain ⟨k, hk, hmore⟩ := h.trailers hread
      refine ⟨0 + k, ?_, (TakesOperand.name.behind isLead_dot).append hmore⟩
      simpa using hk
    · cases hread
  · cases ‹n + 1 = _›
    simp only [Option.bind_eq_bind, Option.bind_eq_some_iff, Prod.exists] at hread
    obtain ⟨args, us, hargs, hread⟩ := hread
    obtain ⟨k, hk, hmore⟩ := h.trailers hread
    refine ⟨_ + k, ?_, ((h.arguments hargs).sequel hopen.1).append hmore⟩
    rw [hk, Expr.connectives, Nat.add_assoc]
  · cases ‹n + 1 = _›
    simp only [Option.bind_eq_bind, Option.bind_eq_some_iff, Prod.exists] at hread
    obtain ⟨index, us, hindex, hread⟩ := hread
    obtain ⟨k, hk, hmore⟩ := h.trailers hread
    refine ⟨_ + k, ?_, ((h.subscript hindex).sequel hopen.2).append hmore⟩
    rw [hk, Expr.connectives, Nat.add_assoc]
  · cases hread
    exact ⟨0, rfl, .nil⟩

theorem moreArguments_succ {stage : ArgumentStage} {args : Arguments}
    (hread : Formula.moreArguments (n + 1) stage ts = some (args, rest)) :
    TakesClosing ts rest (connectivesOf args.positional + namedConnectives args.keywords) := by
  unfold Formula.moreArguments at hread
  split at hread
  · contradiction
  · cases ‹n + 1 = _›
    exact (h.arguments hread).behind isLead_comma.inner
  · cases hread
    simpa using TakesClosing.close isClosing_paren
  · cases hread

theorem arguments_succ {stage : ArgumentStage} {args : Arguments}
    (hread : Formula.arguments (n + 1) stage ts = some (args, rest)) :
    TakesInner ts rest (connectivesOf args.positional + namedConnectives args.keywords) := by
  unfold Formula.arguments at hread
  split at hread
  · contradiction
  · cases hread
    simpa using (TakesClosing.close isClosing_paren).inner
  · cases ‹n + 1 = _›
    split at hread
    · cases hread
    · simp only [Option.bind_eq_bind, Option.bind_eq_some_iff, Prod.exists] at hread
      obtain ⟨arg, us, harg, more, vs, hmore, hread⟩ := hread
      cases hread
      simpa [Nat.add_assoc] using ((h.expression harg).cons (isLead_arith .mul)).part.closing
        (h.moreArguments hmore)
  · cases ‹n + 1 = _›
    simp only [Option.bind_eq_bind, Option.bind_eq_some_iff, Prod.exists] at hread
    obtain ⟨arg, us, harg, more, vs, hmore, hread⟩ := hread
    cases hread
    simpa [Nat.add_left_comm] using ((h.expression harg).cons (isLead_arith .pow)).part.closing
      (h.moreArguments hmore)
  · cases ‹n + 1 = _›
    simp only [Option.bind_eq_bind, Option.bind_eq_some_iff, Prod.exists] at hread
    obtain ⟨arg, us, harg, more, vs, hmore, hread⟩ := hread
    cases hread
    simpa [Nat.add_left_comm] using (TakesPart.named (h.expression harg)).closing
      (h.moreArguments hmore)
  · cases ‹n + 1 = _›
    split at hread
    · simp only [Option.bind_eq_bind, Option.bind_eq_some_iff, Prod.exists] at hread
      obtain ⟨arg, us, harg, more, vs, hmore, hread⟩ := hread
      cases hread
      simpa [Nat.add_assoc] using (h.expression harg).part.closing (h.moreArguments hmore)
    · cases hread

theorem subscript_succ (hread : Formula.subscript (n + 1) ts = some (e, rest)) :
    TakesInner ts rest e.connectives := by
  simp only [Formula.subscript, Option.bind_eq_bind, Option.bind_eq_some_iff, Prod.exists] at hread
  obtain ⟨first, us, hfirst, hread⟩ := hread
  split at hread
  · have htake := (h.index hfirst).closing (.close isClosing_bracket)
    split at hread <;> cases hread <;> simpa using htake
  · simp only [Option.bind_eq_some_iff, Prod.exists] at hread
    obtain ⟨more, vs, hmore, hread⟩ := hread
    cases hread
    simpa using (h.index hfirst).closing ((h.indices hmore).behind isLead_comma.inner)
  · cases hread

theorem indices_succ (hread : Formula.indices (n + 1) ts = some (es, rest)) :
    TakesInner ts rest (connectivesOf es) := by
  unfold Formula.indices at hread
  split at hread
  · contradiction
  · cases hread
    simpa using (TakesClosing.close isClosing_bracket).inner
  · cases ‹n + 1 = _›
    simp only [Option.bind_eq_bind, Option.bind_eq_some_iff, Prod.exists] at hread
    obtain ⟨first, us, hfirst, hread⟩ := hread
    split at hread
    · cases hread
      simpa using (h.index hfirst).closing (.close isClosing_bracket)
    · simp only [Option.bind_eq_some_iff, Prod.exists] at hread
      obtain ⟨more, vs, hmore, hread⟩ := hread
      cases hread
      simpa using (h.index hfirst).closing ((h.indices hmore).behind isLead_comma.inner)
    · cases hread

theorem index_succ (hread : Formula.index (n + 1) ts = some (e, rest)) :
    TakesPart ts rest e.connectives := by
  unfold Formula.index at hread
  split at hread
  · contradiction
  · cases ‹n + 1 = _›
    obtain ⟨k, hk, htake⟩ := h.slice hread
    simpa [hk] using htake.cons isInnerLead_colon
  · cases ‹n + 1 = _›
    simp only [Option.bind_eq_bind, Option.bind_eq_some_iff, Prod.exists] at hread
    obtain ⟨inner, us, hinner, hread⟩ := hread
    cases hread
    simpa using ((h.expression hinner).cons (isLead_arith .mul)).part
  · cases ‹n + 1 = _›
    simp only [Option.bind_eq_bind, Option.bind_eq_some_iff, Prod.exists] at hread
    obtain ⟨lower, us, hlower, hread⟩ := hread
    split at hread
    · obtain ⟨k, hk, htake⟩ := h.slice hread
      simpa [hk] using (h.expression hlower).part.append isInnerLead_colon htake
    · cases hread
      exact (h.expression hlower).part

theorem slice_succ {lower : Option Expr} (hread : Formula.slice (n + 1) lower ts = some (e, rest)) :
    ∃ k, e.connectives = boundConnectives lower + k ∧ TakesPart ts rest k := by
  simp only [Formula.slice, Option.bind_eq_bind, Option.bind_eq_some_iff, Prod.exists] at hread
  obtain ⟨upper, us, hupper, hread⟩ := hread
  split at hread
  · simp only [Option.bind_eq_some_iff, Prod.exists] at hread
    obtain ⟨step, vs, hstep, hread⟩ := hread
    cases hread
    exact ⟨_, by rw [Expr.connectives], (h.bound hupper).append isInnerLead_colon (h.bound hstep)⟩
  · cases hread
    exact ⟨_, by rw [Expr.connectives]; rfl, h.bound hupper⟩

theorem bound_succ {bound : Option Expr} (hread : Formula.bound (n + 1) ts = some (bound, rest)) :
    TakesPart ts rest (boundConnectives bound) := by
  simp only [Formula.bound] at hread
  split at hread
  · cases hread
    simpa using TakesPart.nil
  · simp only [Option.bind_eq_bind, Option.bind_eq_some_iff, Prod.exists] at hread
    obtain ⟨inner, us, hinner, hread⟩ := hread
    cases hread
    simpa using (h.expression hinner).part

theorem atom_succ (hread : Formula.atom (n + 1) ts = some (e, rest)) :
    TakesOperand ts rest e.connectives := by
  cases ts with
  | nil => cases hread
  | cons t ts =>
    simp only [Formula.atom] at hread
    split at hread
    case h_1 => cases hread; simpa using TakesOperand.name
    case h_7 p =>
      simp only [Option.map_eq_some_iff] at hread
      obtain ⟨k, -, hread⟩ := hread
      cases hread
      have hfirst : TakesOperand (.text p :: ts) ts 0 := .single fun _ _ => rfl
      simpa using hfirst.append (textParts_takes ts)
    case h_8 => exact (h.parenthesized hread).operand fun _ => rfl
    case h_9 =>
      simp only [Option.bind_eq_bind, Option.bind_eq_some_iff, Prod.exists] at hread
      obtain ⟨inner, us, hinner, hread⟩ := hread
      cases hread
      simpa using (h.items isClosing_bracket hinner).operand fun _ => rfl
    case h_10 => exact (h.braced hread).operand fun _ => rfl
    case h_11 => cases hread
    all_goals
      cases hread
      simpa using TakesOperand.single fun _ _ => rfl

theorem parenthesized_succ (hread : Formula.parenthesized (n + 1) ts = some (e, rest)) :
    TakesInner ts rest e.connectives := by
  unfold Formula.parenthesized at hread
  split at hread
  · contradiction
  · cases hread
    simpa using (TakesClosing.close isClosing_paren).inner
  · cases ‹n + 1 = _›
    simp only [Option.bind_eq_bind, Option.bind_eq_some_iff, Prod.exists] at hread
    obtain ⟨first, us, hfirst, hread⟩ := hread
    split at hread
    · have htake := (h.item hfirst).part.closing (.close isClosing_paren)
      split at hread <;> cases hread
      simpa using htake
    · simp only [Option.bind_eq_some_iff, Prod.exists] at hread
      obtain ⟨more, vs, hmore, hread⟩ := hread
      cases hread
      simpa using (h.item hfirst).part.closing
        ((h.items isClosing_paren hmore).behind isLead_comma.inner)
    · cases hread

theorem braced_succ (hread : Formula.braced (n + 1) ts = some (e, rest)) :
    TakesInner ts rest e.connectives := by
  unfold Formula.braced at hread
  split at hread
  · contradiction
  · cases hread
    simpa using (TakesClosing.close isClosing_brace).inner
  · cases ‹n + 1 = _›
    simp only [Option.bind_eq_bind, Option.bind_eq_some_iff, Prod.exists] at hread
    obtain ⟨first, us, hfirst, more, vs, hmore, hread⟩ := hread
    cases hread
    simpa using ((h.binary hfirst).cons (isLead_arith .pow)).part.closing (h.moreEntries hmore)
  · cases ‹n + 1 = _›
    simp only [Option.bind_eq_bind, Option.bind_eq_some_iff, Prod.exists] at hread
    obtain ⟨first, us, hfirst, hread⟩ := hread
    split at hread
    · cases hread
      simpa using (h.item hfirst).part.closing (.close isClosing_brace)
    · simp only [Option.bind_eq_some_iff, Prod.exists] at hread
      obtain ⟨more, vs, hmore, hread⟩ := hread
      cases hread
      simpa using (h.item hfirst).part.closing
        ((h.items isClosing_brace hmore).behind isLead_comma.inner)
    · split at hread
      · cases hread
      · simp only [Option.bind_eq_some_iff, Prod.exists] at hread
        obtain ⟨value, vs, hvalue, more, ws, hmore, hread⟩ := hread
        cases hread
        simpa using ((h.item hfirst).part.append isInnerLead_colon
          (h.expression hvalue).part).closing
          (h.moreEntries hmore)
    · cases hread

theorem entries_succ {es : List (Option Expr × Expr)}
    (hread : Formula.entries (n + 1) ts = some (es, rest)) :
    TakesInner ts rest (entryConnectives es) := by
  unfold Formula.entries at hread
  split at hread
  · contradiction
  · cases hread
    simpa using (TakesClosing.close isClosing_brace).inner
  · cases ‹n + 1 = _›
    simp only [Option.bind_eq_bind, Option.bind_eq_some_iff, Prod.exists] at hread
    obtain ⟨first, us, hfirst, more, vs, hmore, hread⟩ := hread
    cases hread
    simpa using ((h.binary hfirst).cons (isLead_arith .pow)).part.closing (h.moreEntries hmore)
  · cases ‹n + 1 = _›
    simp only [Option.bind_eq_bind, Option.bind_eq_some_iff, Prod.exists] at hread
    obtain ⟨key, us, hkey, hread⟩ := hread
    split at hread
    · simp only [Option.bind_eq_some_iff, Prod.exists] at hread
      obtain ⟨value, vs, hvalue, more, ws, hmore, hread⟩ := hread
      cases hread
      simpa using ((h.expression hkey).part.append isInnerLead_colon
        (h.expression hvalue).part).closing
        (h.moreEntries hmore)
    · cases hread

theorem moreEntries_succ {es : List (Option Expr × Expr)}
    (hread : Formula.moreEntries (n + 1) ts = some (es, rest)) :
    TakesClosing ts rest (entryConnectives es) := by
  unfold Formula.moreEntries at hread
  split at hread
  · contradiction
  · cases ‹n + 1 = _›
    exact (h.entries hread).behind isLead_comma.inner
  · cases hread
    simpa using TakesClosing.close isClosing_brace
  · cases hread

theorem items_succ {close : Symbol} (hclose : (Token.symbol close).IsClosing)
    (hread : Formula.items (n + 1) close ts = some (es, rest)) :
    TakesInner ts rest (connectivesOf es) := by
  simp only [Formula.items] at hread
  split at hread
  · obtain ⟨us, rfl⟩ := List.head?_eq_some_iff.1 ‹_›
    cases hread
    simpa using (TakesClosing.close hclose).inner
  · simp only [Option.bind_eq_bind, Option.bind_eq_some_iff, Prod.exists] at hread
    obtain ⟨first, us, hfirst, hread⟩ := hread
    split at hread
    · simp only [Option.bind_eq_some_iff, Prod.exists] at hread
      obtain ⟨more, vs, hmore, hread⟩ := hread
      cases hread
      simpa using (h.item hfirst).part.closing ((h.items hclose hmore).behind isLead_comma.inner)
    · split at hread
      · cases hread
        subst_vars
        simpa using (h.item hfirst).part.closing (.close hclose)
      · cases hread
    · cases hread

theorem item_succ (hread : Formula.item (n + 1) ts = some (e, rest)) :
    TakesOperand ts rest e.connectives := by
  unfold Formula.item at hread
  split at hread
  · contradiction
  · cases ‹n + 1 = _›
    simp only [Option.bind_eq_bind, Option.bind_eq_some_iff, Prod.exists] at hread
    obtain ⟨inner, us, hinner, hread⟩ := hread
    cases hread
    simpa using (h.binary hinner).cons (isLead_arith .mul)
  · cases ‹n + 1 = _›
    exact h.expression hread

theorem succ : AllTake (n + 1) where
  expression := h.expression_succ
  disjunction := h.disjunction_succ
  disjuncts := h.disjuncts_succ
  conjunction := h.conjunction_succ
  conjuncts := h.conjuncts_succ
  inversion := h.inversion_succ
  comparison := h.comparison_succ
  comparisonLinks := h.comparisonLinks_succ
  binary := h.binary_succ
  operands := h.operands_succ
  factor := h.factor_succ
  primary := h.primary_succ
  trailers := h.trailers_succ
  arguments := h.arguments_succ
  moreArguments := h.moreArguments_succ
  subscript := h.subscript_succ
  indices := h.indices_succ
  index := h.index_succ
  slice := h.slice_succ
  bound := h.bound_succ
  atom := h.atom_succ
  parenthesized := h.parenthesized_succ
  braced := h.braced_succ
  entries := h.entries_succ
  moreEntries := h.moreEntries_succ
  items := h.items_succ
  item := h.item_succ

end AllTake

/-- All readers take what belongs together, however deep they descend. -/
theorem allTake (n : Nat) : AllTake n := by
  induction n with
  | zero => exact allTake_zero
  | succ n ih => exact ih.succ

end TaxFlow.Formula

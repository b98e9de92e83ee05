import TaxFlow.Dialect.Render
import TaxFlow.Formula.Basic

/-!
# Operations and their operands

An expression is filled if every boolean operation of which something is written has operands, and
every comparison an operator with an operand behind it. What is written for a filled expression has
at least one word, and whatever is read from a text is filled.
-/
namespace TaxFlow.Formula

mutual

/-- Whether all boolean operations and comparisons have operands, where something is written for
them. -/
def Expr.isFilled : Expr → Bool
  | .member e _ | .unary _ e | .starred e | .holder _ (some e) => e.isFilled
  | .subscript a b | .binary _ a b | .compare a _ b _ => a.isFilled && b.isFilled
  | .call f args _ => f.isFilled && areFilled args
  | .bool _ es => !es.isEmpty && areFilled es
  | .list es => areFilled es
  | .incomplete .. => false
  | _ => true

def areFilled : List Expr → Bool
  | [] => true
  | e :: es => e.isFilled && areFilled es

end

attribute [simp] Expr.isFilled areFilled

def SyntaxNode.isFilled : SyntaxNode → Bool
  | .expression e => e.isFilled
  | _ => true

/-- Whether the value of a statement is filled, if it has one. -/
def Statement.isFilled : Statement → Bool
  | .assign _ _ value | .augmented _ _ value | .expression value => value.isFilled
  | .annotated _ _ value | .return value => value.all Expr.isFilled
  | _ => true

/-- Whether what has been read, if anything, has a property. -/
def Yields {α : Type} (P : α → Prop) (read : Option (α × List Token)) : Prop :=
  ∀ a rest, read = some (a, rest) → P a

namespace Yields

variable {α β : Type} {P : α → Prop} {Q : β → Prop}

theorem none : Yields P none := by
  intro a rest h
  cases h

theorem some {a : α} {ts : List Token} (h : P a) : Yields P (some (a, ts)) := by
  rintro a rest ⟨⟩
  exact h

theorem bind {read : Option (α × List Token)} {next : α × List Token → Option (β × List Token)}
    (h : Yields P read)
    (hnext : ∀ a ts, P a → Yields Q (next (a, ts))) : Yields Q (read >>= next) := by
  intro b rest hread
  obtain ⟨⟨a, ts⟩, ha, hb⟩ := Option.bind_eq_some_iff.1 hread
  exact hnext a ts (h a ts ha) b rest hb

/-- For a property of the result that does not depend on what is read before. -/
theorem bind_any {read : Option (α × List Token)} {next : α × List Token → Option (β × List Token)}
    (hnext : ∀ a ts, Yields Q (next (a, ts))) : Yields Q (read >>= next) :=
  bind (P := fun _ => True) (fun _ _ _ => trivial) fun a ts _ => hnext a ts

/-- For tokens that are only skipped. -/
theorem bind_tokens {skip : Option (List Token)} {next : List Token → Option (β × List Token)}
    (hnext : ∀ ts, Yields Q (next ts)) : Yields Q (skip >>= next) := by
  intro b rest hread
  obtain ⟨ts, -, hb⟩ := Option.bind_eq_some_iff.1 hread
  exact hnext ts b rest hb

theorem map_tokens {skip : Option (List Token)} {b : β} (hb : Q b) :
    Yields Q (skip.map fun ts => (b, ts)) := by
  intro b' rest hread
  obtain ⟨ts, -, hb'⟩ := Option.map_eq_some_iff.1 hread
  cases hb'
  exact hb

end Yields

section Readers

/-- The readers of expressions read only filled ones. -/
structure AllFilled (n : Nat) : Prop where
  expression : ∀ ts, Yields (·.isFilled = true) (expression n ts)
  disjunction : ∀ ts, Yields (·.isFilled = true) (disjunction n ts)
  disjuncts : ∀ ts, Yields (areFilled · = true) (disjuncts n ts)
  conjunction : ∀ ts, Yields (·.isFilled = true) (conjunction n ts)
  conjuncts : ∀ ts, Yields (areFilled · = true) (conjuncts n ts)
  inversion : ∀ ts, Yields (·.isFilled = true) (inversion n ts)
  comparison : ∀ ts, Yields (·.isFilled = true) (comparison n ts)
  comparisonLinks : ∀ ts, Yields (∀ l ∈ ·, l.2.isFilled = true) (comparisonLinks n ts)
  binary : ∀ level ts, Yields (·.isFilled = true) (binary n level ts)
  operands : ∀ level left ts, left.isFilled = true →
    Yields (·.isFilled = true) (operands n level left ts)
  factor : ∀ ts, Yields (·.isFilled = true) (factor n ts)
  primary : ∀ ts, Yields (·.isFilled = true) (primary n ts)
  trailers : ∀ e ts, e.isFilled = true → Yields (·.isFilled = true) (trailers n e ts)
  arguments : ∀ stage ts, Yields (areFilled ·.positional = true) (arguments n stage ts)
  moreArguments : ∀ stage ts, Yields (areFilled ·.positional = true) (moreArguments n stage ts)
  subscript : ∀ ts, Yields (·.isFilled = true) (subscript n ts)
  index : ∀ ts, Yields (·.isFilled = true) (index n ts)
  atom : ∀ ts, Yields (·.isFilled = true) (atom n ts)
  parenthesized : ∀ ts, Yields (·.isFilled = true) (parenthesized n ts)
  items : ∀ close ts, Yields (areFilled · = true) (items n close ts)
  item : ∀ ts, Yields (·.isFilled = true) (item n ts)

theorem allFilled_zero : AllFilled 0 := by
  constructor <;> intros <;> exact .none

theorem isFilled_joined {op : BoolOp} {first : Expr} {more : List Expr}
    (hfirst : first.isFilled = true)
    (hmore : areFilled more = true) : (joined op first more).isFilled = true := by
  cases more with
  | nil => exact hfirst
  | cons e more => simp_all [joined]

theorem isFilled_chained {left : Expr} {more : List (CompareOp × Expr)}
    (hleft : left.isFilled = true)
    (hmore : ∀ l ∈ more, l.2.isFilled = true) : (chained left more).isFilled = true := by
  cases more with
  | nil => exact hleft
  | cons l more =>
    have hright := hmore l List.mem_cons_self
    simp [chained, hleft, hright]

/-- A slice is filled since nothing is written for it, whatever its bounds are. -/
theorem slice_yields (n : Nat) (lower : Option Expr) (ts : List Token) :
    Yields (·.isFilled = true) (slice n lower ts) := by
  cases n with
  | zero => exact .none
  | succ n =>
    simp only [slice]
    refine .bind_any fun upper ts => ?_
    split
    · exact .bind_any fun step ts => .some (by simp)
    · exact .some (by simp)

theorem braced_yields (n : Nat) (ts : List Token) : Yields (·.isFilled = true) (braced n ts) := by
  cases n with
  | zero => exact .none
  | succ n =>
    unfold braced
    split
    · exact .none
    · exact .some (by simp)
    · exact .bind_any fun e ts => .bind_any fun es ts => .some (by simp)
    · refine .bind_any fun e ts => ?_
      dsimp only
      split
      · exact .some (by simp)
      · exact .bind_any fun es ts => .some (by simp)
      · split
        · exact .none
        · exact .bind_any fun value ts => .bind_any fun es ts => .some (by simp)
      · exact .none

namespace AllFilled

variable {n : Nat} (h : AllFilled n)
include h

theorem expression_succ (ts : List Token) :
    Yields (·.isFilled = true) (Formula.expression (n + 1) ts) := by
  simp only [Formula.expression]
  refine (h.disjunction ts).bind fun body ts hbody => ?_
  split
  · refine .bind_any fun test ts => ?_
    split
    · exact .bind_any fun other ts => .some (by simp)
    · exact .none
  · exact .some hbody

theorem disjunction_succ (ts : List Token) :
    Yields (·.isFilled = true) (Formula.disjunction (n + 1) ts) := by
  simp only [Formula.disjunction]
  exact (h.conjunction ts).bind fun first ts hfirst => (h.disjuncts ts).bind fun more ts hmore =>
    .some (isFilled_joined hfirst hmore)

theorem disjuncts_succ (ts : List Token) :
    Yields (areFilled · = true) (Formula.disjuncts (n + 1) ts) := by
  unfold Formula.disjuncts
  split
  · exact .none
  · cases ‹n + 1 = _›
    exact (h.conjunction _).bind fun e ts he => (h.disjuncts ts).bind fun more ts hmore =>
      .some (by simp [he, hmore])
  · exact .some rfl

theorem conjunction_succ (ts : List Token) :
    Yields (·.isFilled = true) (Formula.conjunction (n + 1) ts) := by
  simp only [Formula.conjunction]
  exact (h.inversion ts).bind fun first ts hfirst => (h.conjuncts ts).bind fun more ts hmore =>
    .some (isFilled_joined hfirst hmore)

theorem conjuncts_succ (ts : List Token) :
    Yields (areFilled · = true) (Formula.conjuncts (n + 1) ts) := by
  unfold Formula.conjuncts
  split
  · exact .none
  · cases ‹n + 1 = _›
    exact (h.inversion _).bind fun e ts he => (h.conjuncts ts).bind fun more ts hmore =>
      .some (by simp [he, hmore])
  · exact .some rfl

theorem inversion_succ (ts : List Token) :
    Yields (·.isFilled = true) (Formula.inversion (n + 1) ts) := by
  unfold Formula.inversion
  split
  · exact .none
  · cases ‹n + 1 = _›
    exact (h.inversion _).bind fun e ts he => .some (by simpa using he)
  · cases ‹n + 1 = _›
    exact h.comparison _

theorem comparison_succ (ts : List Token) :
    Yields (·.isFilled = true) (Formula.comparison (n + 1) ts) := by
  simp only [Formula.comparison]
  exact (h.binary 0 ts).bind fun left ts hleft => (h.comparisonLinks ts).bind fun links ts hlinks =>
    .some (isFilled_chained hleft hlinks)

theorem comparisonLinks_succ (ts : List Token) :
    Yields (∀ l ∈ ·, l.2.isFilled = true) (Formula.comparisonLinks (n + 1) ts) := by
  simp only [Formula.comparisonLinks]
  split
  · exact .some (by simp)
  · exact (h.binary 0 _).bind fun right ts hright => (h.comparisonLinks ts).bind
      fun more ts hmore =>
      .some (by simpa [hright] using hmore)

theorem binary_succ (level : Nat) (ts : List Token) :
    Yields (·.isFilled = true) (Formula.binary (n + 1) level ts) := by
  simp only [Formula.binary]
  split
  · exact h.factor ts
  · exact (h.binary (level + 1) ts).bind fun left ts hleft => h.operands level left ts hleft

theorem operands_succ (level : Nat) (left : Expr) (ts : List Token) (hleft : left.isFilled = true) :
    Yields (·.isFilled = true) (Formula.operands (n + 1) level left ts) := by
  unfold Formula.operands
  split
  · exact .none
  · exact .some hleft
  · cases ‹n + 1 = _›
    split
    · exact .some hleft
    · exact (h.binary _ _).bind fun right ts hright =>
        h.operands _ _ ts (by simp [hleft, hright])

theorem factor_succ (ts : List Token) : Yields (·.isFilled = true) (Formula.factor (n + 1) ts) := by
  unfold Formula.factor
  split
  · exact .none
  · exact .none
  · cases ‹n + 1 = _›
    split
    · exact (h.factor _).bind fun e ts he => .some (by simpa using he)
    · refine (h.primary _).bind fun base ts hbase => ?_
      dsimp only
      split
      · exact (h.factor _).bind fun exponent ts hexponent => .some (by simp [hbase, hexponent])
      · exact .some hbase

theorem primary_succ (ts : List Token) :
    Yields (·.isFilled = true) (Formula.primary (n + 1) ts) := by
  simp only [Formula.primary]
  exact (h.atom ts).bind fun e ts he => h.trailers e ts he

theorem trailers_succ (e : Expr) (ts : List Token) (he : e.isFilled = true) :
    Yields (·.isFilled = true) (Formula.trailers (n + 1) e ts) := by
  unfold Formula.trailers
  split
  · exact .none
  · cases ‹n + 1 = _›
    split
    · exact h.trailers _ _ (by simpa using he)
    · exact .none
  · cases ‹n + 1 = _›
    exact (h.arguments .plain _).bind fun args ts hargs => h.trailers _ ts (by simp [he, hargs])
  · cases ‹n + 1 = _›
    exact (h.subscript _).bind fun index ts hindex => h.trailers _ ts (by simp [he, hindex])
  · exact .some he

theorem arguments_succ (stage : ArgumentStage) (ts : List Token) :
    Yields (areFilled ·.positional = true) (Formula.arguments (n + 1) stage ts) := by
  unfold Formula.arguments
  split
  · exact .none
  · exact .some rfl
  · cases ‹n + 1 = _›
    split
    · exact .none
    · exact (h.expression _).bind fun e ts he => (h.moreArguments _ ts).bind fun rest ts hrest =>
        .some (by simp [he, hrest])
  · cases ‹n + 1 = _›
    exact .bind_any fun e ts => (h.moreArguments .unpacked ts).bind fun rest ts hrest => .some hrest
  · cases ‹n + 1 = _›
    exact .bind_any fun e ts => (h.moreArguments _ ts).bind fun rest ts hrest => .some hrest
  · cases ‹n + 1 = _›
    split
    · exact (h.expression _).bind fun e ts he => (h.moreArguments _ ts).bind fun rest ts hrest =>
        .some (by simp [he, hrest])
    · exact .none

theorem moreArguments_succ (stage : ArgumentStage) (ts : List Token) :
    Yields (areFilled ·.positional = true) (Formula.moreArguments (n + 1) stage ts) := by
  unfold Formula.moreArguments
  split
  · exact .none
  · cases ‹n + 1 = _›
    exact h.arguments _ _
  · exact .some rfl
  · exact .none

theorem subscript_succ (ts : List Token) :
    Yields (·.isFilled = true) (Formula.subscript (n + 1) ts) := by
  simp only [Formula.subscript]
  refine (h.index ts).bind fun first ts hfirst => ?_
  split
  · split
    · exact .some (by simp)
    · exact .some hfirst
  · exact .bind_any fun more ts => .some (by simp)
  · exact .none

theorem index_succ (ts : List Token) : Yields (·.isFilled = true) (Formula.index (n + 1) ts) := by
  unfold Formula.index
  split
  · exact .none
  · exact slice_yields _ none _
  · cases ‹n + 1 = _›
    exact (h.expression _).bind fun e ts he => .some (by simpa using he)
  · cases ‹n + 1 = _›
    refine (h.expression _).bind fun e ts he => ?_
    dsimp only
    split
    · exact slice_yields n (some e) _
    · exact .some he

theorem atom_succ (ts : List Token) : Yields (·.isFilled = true) (Formula.atom (n + 1) ts) := by
  unfold Formula.atom
  split
  · exact .none
  · exact .none
  · cases ‹n + 1 = _›
    split
    case h_7 p =>
      intro e rest hread
      obtain ⟨k, -, hk⟩ := Option.map_eq_some_iff.1 hread
      obtain ⟨rfl, -⟩ := Prod.mk.inj hk
      simp
    case h_8 => exact h.parenthesized _
    case h_9 => exact (h.items .closeBracket _).bind fun es ts hes => .some (by simpa using hes)
    case h_10 => exact braced_yields n _
    case h_11 => exact .none
    all_goals exact .some (by simp)

theorem parenthesized_succ (ts : List Token) :
    Yields (·.isFilled = true) (Formula.parenthesized (n + 1) ts) := by
  unfold Formula.parenthesized
  split
  · exact .none
  · exact .some (by simp)
  · cases ‹n + 1 = _›
    refine (h.item _).bind fun e ts he => ?_
    dsimp only
    split
    · split
      · exact .none
      · exact .some he
    · exact .bind_any fun es ts => .some (by simp)
    · exact .none

theorem items_succ (close : Symbol) (ts : List Token) :
    Yields (areFilled · = true) (Formula.items (n + 1) close ts) := by
  simp only [Formula.items]
  split
  · exact .some rfl
  · refine (h.item ts).bind fun e ts he => ?_
    split
    · exact (h.items close _).bind fun es ts hes => .some (by simp [he, hes])
    · split
      · exact .some (by simp [he])
      · exact .none
    · exact .none

theorem item_succ (ts : List Token) : Yields (·.isFilled = true) (Formula.item (n + 1) ts) := by
  unfold Formula.item
  split
  · exact .none
  · cases ‹n + 1 = _›
    exact (h.binary 0 _).bind fun e ts he => .some (by simpa using he)
  · cases ‹n + 1 = _›
    exact h.expression _

theorem succ : AllFilled (n + 1) where
  expression := h.expression_succ
  disjunction := h.disjunction_succ
  disjuncts := h.disjuncts_succ
  conjunction := h.conjunction_succ
  conjuncts := h.conjuncts_succ
  inversion := h.inversion_succ
  comparison := h.comparison_succ
  comparisonLinks := h.comparisonLinks_succ
  binary := h.binary_succ
  operands := h.operands_succ
  factor := h.factor_succ
  primary := h.primary_succ
  trailers := h.trailers_succ
  arguments := h.arguments_succ
  moreArguments := h.moreArguments_succ
  subscript := h.subscript_succ
  index := h.index_succ
  atom := h.atom_succ
  parenthesized := h.parenthesized_succ
  items := h.items_succ
  item := h.item_succ

end AllFilled

theorem allFilled (n : Nat) : AllFilled n := by
  induction n with
  | zero => exact allFilled_zero
  | succ n ih => exact ih.succ

theorem bareTuple_yields (n : Nat) (ts : List Token) :
    Yields (·.isFilled = true) (bareTuple n ts) := by
  refine ((allFilled n).item ts).bind fun e ts he => ?_
  dsimp only
  split
  · exact .some (by simp)
  · exact .some he

theorem assigned_yields (n : Nat) (ts : List Token) {targets : List Expr} {value : Expr}
    {rest : List Token}
    (h : assigned n ts = some (targets, value, rest)) : value.isFilled = true := by
  induction n generalizing ts targets with
  | zero => cases h
  | succ n ih =>
    simp only [assigned, Option.bind_eq_bind, Option.bind_eq_some_iff, Prod.exists] at h
    obtain ⟨e, us, he, h⟩ := h
    split at h
    · split at h
      · simp only [Option.bind_eq_some_iff, Prod.exists, Option.some.injEq, Prod.mk.injEq] at h
        obtain ⟨more, value', rest', hmore, -, rfl, rfl⟩ := h
        exact ih _ hmore
      · cases h
    · simp only [Option.some.injEq, Prod.mk.injEq] at h
      obtain ⟨-, rfl, -⟩ := h
      exact bareTuple_yields n ts e us he

theorem expressionStatement_yields (n : Nat) (ts : List Token) :
    Yields (·.isFilled = true) (expressionStatement n ts) := by
  refine (bareTuple_yields n ts).bind fun e ts he => ?_
  dsimp only
  split
  · split
    · intro s rest hread
      simp only [Option.bind_eq_bind, Option.bind_eq_some_iff, Prod.exists, Option.some.injEq,
        Prod.mk.injEq] at hread
      obtain ⟨targets, value, us, hvalue, rfl, -⟩ := hread
      exact assigned_yields n _ hvalue
    · exact .none
  · split
    · exact (bareTuple_yields n _).bind fun value ts hvalue => .some hvalue
    · exact .none
  · split
    · refine .bind_any fun declared ts => ?_
      dsimp only
      split
      · exact (bareTuple_yields n _).bind fun value ts hvalue =>
          .some (by simpa [Statement.isFilled] using hvalue)
      · exact .some rfl
    · exact .none
  · exact .some he

theorem statement_yields (n : Nat) (ts : List Token) :
    Yields (·.isFilled = true) (statement n ts) := by
  unfold statement
  split
  · exact .some rfl
  · exact .some rfl
  · exact .some rfl
  · split
    · exact .some rfl
    · intro s rest hread
      obtain ⟨⟨e, us⟩, he, hs⟩ := Option.map_eq_some_iff.1 hread
      obtain ⟨rfl, -⟩ := Prod.mk.inj hs
      simpa [Statement.isFilled] using bareTuple_yields n _ e us he
  · split
    · exact .some rfl
    · exact .bind_any fun e ts => .bind_tokens fun ts => .some rfl
  · exact .bind_any fun e ts => .bind_tokens fun ts => .some rfl
  · refine .bind_any fun es ts => ?_
    dsimp only
    split
    · exact .some rfl
    · exact .none
  · exact .map_tokens rfl
  · exact .map_tokens rfl
  · exact .map_tokens rfl
  · exact .map_tokens rfl
  · exact expressionStatement_yields n _

/-- All statements of a text have filled values. -/
theorem statements_filled {n : Nat} {ts : List Token} {ss : List Statement}
    (h : statements n ts = some ss) :
    ∀ s ∈ ss, s.isFilled = true := by
  induction n generalizing ts ss with
  | zero => cases h
  | succ n ih =>
    cases ts with
    | nil =>
      cases h
      simp
    | cons t ts =>
      simp only [statements, Option.bind_eq_bind, Option.bind_eq_some_iff, Prod.exists] at h
      obtain ⟨s, us, hs, h⟩ := h
      have hfilled := statement_yields n _ s us hs
      have hmore {us : List Token} (h : (statements n us).map (s :: ·) = some ss) : ∀ s ∈ ss,
          s.isFilled = true := by
        obtain ⟨rest, hrest, rfl⟩ := Option.map_eq_some_iff.1 h
        simpa [hfilled] using ih hrest
      split at h
      · cases h
        simpa using hfilled
      · cases h
        simpa using hfilled
      · exact hmore h
      · exact hmore h
      · exact hmore h
      · cases h

theorem firstStatement_filled {source : Option String} {s : Statement}
    (h : firstStatement source = .ok s) :
    s.isFilled = true := by
  cases source with
  | none => cases h
  | some source =>
    obtain ⟨ss, hss, h⟩ := bind_eq_ok h
    unfold statementsOf readerOf at hss
    split at hss
    · cases hss
    · split at hss
      next hscript =>
        cases hss
        obtain ⟨ts, -, hstatements⟩ := Option.bind_eq_some_iff.1 hscript
        cases ss with
        | nil => cases h
        | cons s' more =>
          cases h
          exact statements_filled hstatements s List.mem_cons_self
      · cases hss

theorem assignment_filled {source : Option String} {id : String} {e : Expr}
    (h : assignment source = .ok (id, e)) :
    e.isFilled = true := by
  obtain ⟨s, hs, h⟩ := bind_eq_ok h
  have hfilled := firstStatement_filled hs
  cases s with
  | assign target targets value =>
    obtain ⟨_, -, h⟩ := bind_eq_ok h
    cases h
    exact hfilled
  | delete target targets =>
    obtain ⟨_, -, h⟩ := bind_eq_ok h
    cases h
  | _ => cases h

theorem value_filled {source : Option String} {e : Option Expr} (h : value source = .ok e) :
    e.all Expr.isFilled = true := by
  obtain ⟨s, hs, h⟩ := bind_eq_ok h
  have hfilled := firstStatement_filled hs
  cases s with
  | delete | plain => cases h
  | _ =>
    cases h
    exact hfilled

end Readers

end TaxFlow.Formula

namespace TaxFlow.Dialect

open Formula

/-- A member is two words behind those of its value, if there are any. -/
theorem memberWords_ne_nil {d : Dialect} {value ws : List String} {name : String}
    (h : d.memberWords value name = .ok ws) : ws ≠ [] := by
  unfold memberWords at h
  split at h
  · split at h
    · cases h
      simp
    · split at h
      · split at h
        · cases h
          simp
        · cases h
      · cases h
        simp
  · cases h
    simp

theorem boolWords_ne_nil {d : Dialect} {scope : Scope} {word : String} {e : Expr} {es : List Expr}
    {ws : List String}
    (he : ∀ us, d.toCode scope e = .ok us → us ≠ [])
    (h : d.boolWords scope word (e :: es) = .ok ws) : ws ≠ [] := by
  rw [boolWords] at h
  obtain ⟨first, hfirst, h⟩ := bind_eq_ok h
  split at h
  · cases h
    exact he _ hfirst
  · obtain ⟨rest, -, h⟩ := bind_eq_ok h
    cases h
    simp

variable {d : Dialect} {scope : Scope}

theorem subscript_ne_nil {e i : Expr} {ws : List String}
    (h : d.toCode scope (.subscript e i) = .ok ws) : ws ≠ [] := by
  cases i with
  | constant k =>
    rw [toCode] at h
    obtain ⟨us, -, h⟩ := bind_eq_ok h
    obtain ⟨text, -, h⟩ := bind_eq_ok h
    cases h
  | holder kind value =>
    cases value with
    | none =>
      rw [toCode] at h
      obtain ⟨us, -, h⟩ := bind_eq_ok h
      cases h
    | some j =>
      rw [toCode] at h
      obtain ⟨us, -, h⟩ := bind_eq_ok h
      obtain ⟨vs, -, h⟩ := bind_eq_ok h
      cases h
      simp [subscriptWords]
  | _ =>
    simp only [toCode] at h
    obtain ⟨us, -, h⟩ := bind_eq_ok h
    obtain ⟨vs, -, h⟩ := bind_eq_ok h
    cases h
    simp [subscriptWords]

/-- Something is written for a filled expression, unless that fails. -/
theorem toCode_ne_nil : (e : Expr) → e.isFilled = true → ∀ ws, d.toCode scope e = .ok ws → ws ≠ []
  | .name _, _, ws, h => by
    rw [toCode] at h
    cases h
    simp
  | .constant _, _, ws, h => by
    rw [toCode] at h
    obtain ⟨word, -, h⟩ := bind_eq_ok h
    cases h
    simp
  | .member e name, _, ws, h => by
    rw [toCode] at h
    split at h
    · split at h
      · cases h
        simp
      · obtain ⟨us, -, h⟩ := bind_eq_ok h
        cases h
        simp
      · cases h
    · obtain ⟨us, -, h⟩ := bind_eq_ok h
      exact memberWords_ne_nil h
  | .subscript .., _, _, h => subscript_ne_nil h
  | .call .., _, ws, h => by
    rw [toCode] at h
    obtain ⟨callee, -, h⟩ := bind_eq_ok h
    dsimp only at h
    split at h
    all_goals
      obtain ⟨shape, -, h⟩ := bind_eq_ok h
      obtain ⟨inner, -, h⟩ := bind_eq_ok h
      cases h
      simp
  | .binary .., _, ws, h | .compare .., _, ws, h => by
    rw [toCode] at h
    obtain ⟨left, -, h⟩ := bind_eq_ok h
    obtain ⟨word, -, h⟩ := bind_eq_ok h
    obtain ⟨right, -, h⟩ := bind_eq_ok h
    cases h
    simp
  | .unary .., _, ws, h => by
    rw [toCode] at h
    obtain ⟨us, -, h⟩ := bind_eq_ok h
    cases h
    simp
  | .bool _ [], hfilled, _, _ => by simp at hfilled
  | .bool _ (e :: es), hfilled, ws, h => by
    simp only [Expr.isFilled, areFilled, Bool.and_eq_true] at hfilled
    rw [toCode] at h
    exact boolWords_ne_nil (toCode_ne_nil e hfilled.2.1) h
  | .list _, _, ws, h => by
    rw [toCode] at h
    obtain ⟨inner, -, h⟩ := bind_eq_ok h
    cases h
    simp
  | .incomplete .., hfilled, _, _ => by simp at hfilled
  | .tuple _, _, _, h | .set _, _, _, h | .dict _, _, _, h | .conditional .., _, _, h
  | .starred _, _, _, h
  | .slice .., _, _, h | .other _, _, _, h | .holder .., _, _, h => by simp [toCode] at h

end TaxFlow.Dialect

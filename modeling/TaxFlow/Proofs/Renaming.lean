import TaxFlow.Formula.Script

/-!
# Renaming

The readers treat all names alike: if names are exchanged in the tokens, the same is read with the
names exchanged. Each reader follows the renaming because the readers that it calls do.
-/
namespace TaxFlow.Formula

section Rename

variable (ρ : String → String)

def Token.rename : Token → Token
  | .name id => .name (ρ id)
  | t => t

mutual

/-- The expression with all identifiers exchanged, those of members and arguments too. -/
def Expr.rename : Expr → Expr
  | .name id => .name (ρ id)
  | .constant k => .constant k
  | .member e name => .member e.rename (ρ name)
  | .subscript e i => .subscript e.rename i.rename
  | .call f args keywords => .call f.rename (renameAll args) (renameKeywords keywords)
  | .binary op a b => .binary op a.rename b.rename
  | .unary op e => .unary op e.rename
  | .bool op es => .bool op (renameAll es)
  | .compare a op b more => .compare a.rename op b.rename (renameLinks more)
  | .incomplete a op => .incomplete a.rename op
  | .list es => .list (renameAll es)
  | .tuple es => .tuple (renameAll es)
  | .set es => .set (renameAll es)
  | .dict es => .dict (renameEntries es)
  | .conditional test body other => .conditional test.rename body.rename other.rename
  | .starred e => .starred e.rename
  | .slice lower upper step => .slice (renameBound lower) (renameBound upper) (renameBound step)
  | .other kind => .other kind
  | .holder kind value => .holder kind (renameBound value)

def renameAll : List Expr → List Expr
  | [] => []
  | e :: es => e.rename :: renameAll es

def renameLinks : List (CompareOp × Expr) → List (CompareOp × Expr)
  | [] => []
  | (op, e) :: more => (op, e.rename) :: renameLinks more

def renameKeywords : List (Option String × Expr) → List (Option String × Expr)
  | [] => []
  | (name, e) :: more => (name.map ρ, e.rename) :: renameKeywords more

def renameEntries : List (Option Expr × Expr) → List (Option Expr × Expr)
  | [] => []
  | (key, e) :: more => (renameBound key, e.rename) :: renameEntries more

def renameBound : Option Expr → Option Expr
  | none => none
  | some e => some e.rename

end

attribute [simp] Expr.rename renameAll renameLinks renameKeywords renameEntries renameBound

def Arguments.rename (a : Arguments) : Arguments :=
  ⟨renameAll ρ a.positional, renameKeywords ρ a.keywords⟩

/-- Whether a reader follows the renaming of tokens. -/
def Follows {α : Type} (read : List Token → Option (α × List Token)) (f : α → α) : Prop :=
  ∀ ts, read (ts.map (Token.rename ρ)) = (read ts).map (Prod.map f (List.map (Token.rename ρ)))

/-- All readers follow the renaming. -/
structure AllFollow (n : Nat) : Prop where
  expression : Follows ρ (expression n) (Expr.rename ρ)
  disjunction : Follows ρ (disjunction n) (Expr.rename ρ)
  disjuncts : Follows ρ (disjuncts n) (renameAll ρ)
  conjunction : Follows ρ (conjunction n) (Expr.rename ρ)
  conjuncts : Follows ρ (conjuncts n) (renameAll ρ)
  inversion : Follows ρ (inversion n) (Expr.rename ρ)
  comparison : Follows ρ (comparison n) (Expr.rename ρ)
  comparisonLinks : Follows ρ (comparisonLinks n) (renameLinks ρ)
  binary : ∀ level, Follows ρ (binary n level) (Expr.rename ρ)
  operands : ∀ level left ts, operands n level (left.rename ρ) (ts.map (Token.rename ρ)) =
    (operands n level left ts).map (Prod.map (Expr.rename ρ) (List.map (Token.rename ρ)))
  factor : Follows ρ (factor n) (Expr.rename ρ)
  primary : Follows ρ (primary n) (Expr.rename ρ)
  trailers : ∀ e ts, trailers n (e.rename ρ) (ts.map (Token.rename ρ)) =
    (trailers n e ts).map (Prod.map (Expr.rename ρ) (List.map (Token.rename ρ)))
  arguments : ∀ stage, Follows ρ (arguments n stage) (Arguments.rename ρ)
  moreArguments : ∀ stage, Follows ρ (moreArguments n stage) (Arguments.rename ρ)
  subscript : Follows ρ (subscript n) (Expr.rename ρ)
  indices : Follows ρ (indices n) (renameAll ρ)
  index : Follows ρ (index n) (Expr.rename ρ)
  slice : ∀ lower ts, slice n (renameBound ρ lower) (ts.map (Token.rename ρ)) =
    (slice n lower ts).map (Prod.map (Expr.rename ρ) (List.map (Token.rename ρ)))
  bound : Follows ρ (bound n) (renameBound ρ)
  atom : Follows ρ (atom n) (Expr.rename ρ)
  parenthesized : Follows ρ (parenthesized n) (Expr.rename ρ)
  braced : Follows ρ (braced n) (Expr.rename ρ)
  entries : Follows ρ (entries n) (renameEntries ρ)
  moreEntries : Follows ρ (moreEntries n) (renameEntries ρ)
  items : ∀ close, Follows ρ (items n close) (renameAll ρ)
  item : Follows ρ (item n) (Expr.rename ρ)

variable {ρ}

theorem allFollow_zero : AllFollow ρ 0 := by
  constructor <;> intros <;> first | rfl | (intro ts; rfl)

/-- A reader goes on with what another one has read. -/
theorem Follows.bind {α β : Type} {read : List Token → Option (α × List Token)}
    {f : α → α} {g : β → β}
    {next next' : α × List Token → Option (β × List Token)} (h : Follows ρ read f) (ts : List Token)
    (hnext : ∀ a ts, next' (f a, ts.map (Token.rename ρ)) =
      (next (a, ts)).map (Prod.map g (List.map (Token.rename ρ)))) :
    (read (ts.map (Token.rename ρ))).bind next' =
      ((read ts).bind next).map (Prod.map g (List.map (Token.rename ρ))) := by
  rw [h ts]
  cases read ts with
  | none => rfl
  | some p => exact hnext p.1 p.2

theorem rename_joined (op : BoolOp) (first : Expr) (more : List Expr) :
    (joined op first more).rename ρ = joined op (first.rename ρ) (renameAll ρ more) := by
  cases more <;> simp [joined, Expr.rename, renameAll]

theorem rename_chained (left : Expr) (more : List (CompareOp × Expr)) :
    (chained left more).rename ρ = chained (left.rename ρ) (renameLinks ρ more) := by
  cases more <;> simp [chained, Expr.rename, renameLinks]

theorem operatorAt_rename (level : Nat) (t : Token) :
    operatorAt level (t.rename ρ) = operatorAt level t := by
  cases t <;> rfl

theorem signAt_rename (t : Token) : signAt (t.rename ρ) = signAt t := by
  cases t <;> rfl

theorem comparisonAt_rename (ts : List Token) :
    comparisonAt (ts.map (Token.rename ρ)) =
      (comparisonAt ts).map (Prod.map id (List.map (Token.rename ρ))) := by
  cases ts with
  | nil => rfl
  | cons t ts =>
    cases t with
    | symbol s => cases s <;> rfl
    | keyword k =>
      cases k with
      | not =>
        cases ts with
        | nil => rfl
        | cons u ts =>
          cases u with
          | keyword k => cases k <;> rfl
          | _ => rfl
      | is =>
        cases ts with
        | nil => rfl
        | cons u ts =>
          cases u with
          | keyword k => cases k <;> rfl
          | _ => rfl
      | _ => rfl
    | _ => rfl

theorem textParts_rename (ts : List Token) :
    textParts (ts.map (Token.rename ρ)) =
      Prod.map id (List.map (Token.rename ρ)) (textParts ts) := by
  induction ts with
  | nil => rfl
  | cons t ts ih => cases t <;> simp [textParts, Token.rename, ih]

theorem rename_eq_symbol {t : Token} {s : Symbol} : t.rename ρ = .symbol s ↔ t = .symbol s := by
  cases t <;> simp [Token.rename]

theorem head?_rename_keyword {ts : List Token} {k : Keyword} :
    ((ts.map (Token.rename ρ)).head? = some (.keyword k)) = (ts.head? = some (.keyword k)) := by
  cases ts with
  | nil => rfl
  | cons t ts => cases t <;> simp [Token.rename]

theorem starts_or_not (s : Symbol) (ts : List Token) :
    (∃ us, ts = .symbol s :: us) ∨ ∀ us, ts = .symbol s :: us → False := by
  by_cases h : ∃ us, ts = .symbol s :: us
  · exact .inl h
  · exact .inr fun us hus => h ⟨us, hus⟩

/-- Renamed tokens do not start with a symbol that the tokens do not start with. -/
theorem starts_not_rename {s : Symbol} {ts : List Token} (h : ∀ us, ts = .symbol s :: us → False)
    (us : List Token) (hus : ts.map (Token.rename ρ) = .symbol s :: us) : False := by
  obtain ⟨t, rest, rfl, ht, -⟩ := List.map_eq_cons_iff.1 hus
  rw [rename_eq_symbol] at ht
  exact h rest (by rw [ht])

theorem boundOmitted_rename (ts : List Token) :
    boundOmitted (ts.map (Token.rename ρ)) = boundOmitted ts := by
  cases ts with
  | nil => rfl
  | cons t ts =>
    cases t with
    | symbol s => cases s <;> rfl
    | _ => rfl

end Rename

namespace AllFollow

variable {ρ : String → String} {n : Nat} (h : AllFollow ρ n)

include h

theorem expression_succ : Follows ρ (Formula.expression (n + 1)) (Expr.rename ρ) := by
  intro ts
  simp only [Formula.expression]
  refine h.disjunction.bind ts fun body ts => ?_
  cases ts with
  | nil => rfl
  | cons t ts =>
    cases t with
    | keyword k =>
      cases k with
      | «if» =>
        refine h.disjunction.bind ts fun test ts => ?_
        cases ts with
        | nil => rfl
        | cons t ts =>
          cases t with
          | keyword k =>
            cases k with
            | «else» =>
              refine h.expression.bind ts fun other ts => ?_
              simp [Expr.rename]
            | _ => rfl
          | _ => rfl
      | _ => rfl
    | _ => rfl

theorem disjunction_succ : Follows ρ (Formula.disjunction (n + 1)) (Expr.rename ρ) := by
  intro ts
  simp only [Formula.disjunction]
  refine h.conjunction.bind ts fun first ts => h.disjuncts.bind ts fun more ts => ?_
  simp [rename_joined]

theorem disjuncts_succ : Follows ρ (Formula.disjuncts (n + 1)) (renameAll ρ) := by
  intro ts
  cases ts with
  | nil => rfl
  | cons t ts =>
    cases t with
    | keyword k =>
      cases k with
      | or =>
        simp only [List.map_cons, Token.rename, Formula.disjuncts]
        refine h.conjunction.bind ts fun e ts => h.disjuncts.bind ts fun more ts => ?_
        simp [renameAll]
      | _ => rfl
    | _ => rfl

theorem conjunction_succ : Follows ρ (Formula.conjunction (n + 1)) (Expr.rename ρ) := by
  intro ts
  simp only [Formula.conjunction]
  refine h.inversion.bind ts fun first ts => h.conjuncts.bind ts fun more ts => ?_
  simp [rename_joined]

theorem conjuncts_succ : Follows ρ (Formula.conjuncts (n + 1)) (renameAll ρ) := by
  intro ts
  cases ts with
  | nil => rfl
  | cons t ts =>
    cases t with
    | keyword k =>
      cases k with
      | and =>
        simp only [List.map_cons, Token.rename, Formula.conjuncts]
        refine h.inversion.bind ts fun e ts => h.conjuncts.bind ts fun more ts => ?_
        simp [renameAll]
      | _ => rfl
    | _ => rfl

theorem inversion_succ : Follows ρ (Formula.inversion (n + 1)) (Expr.rename ρ) := by
  intro ts
  cases ts with
  | nil => exact h.comparison []
  | cons t ts =>
    have hother := h.comparison (t :: ts)
    cases t with
    | keyword k =>
      cases k with
      | not =>
        simp only [List.map_cons, Token.rename, Formula.inversion]
        refine h.inversion.bind ts fun e ts => ?_
        simp [Expr.rename]
      | _ => exact hother
    | _ => exact hother

theorem comparison_succ : Follows ρ (Formula.comparison (n + 1)) (Expr.rename ρ) := by
  intro ts
  simp only [Formula.comparison]
  refine (h.binary 0).bind ts fun left ts => h.comparisonLinks.bind ts fun links ts => ?_
  simp [rename_chained]

theorem comparisonLinks_succ : Follows ρ (Formula.comparisonLinks (n + 1)) (renameLinks ρ) := by
  intro ts
  simp only [Formula.comparisonLinks, comparisonAt_rename]
  cases comparisonAt ts with
  | none => simp [renameLinks]
  | some p =>
    obtain ⟨op, ts⟩ := p
    refine (h.binary 0).bind ts fun right ts => h.comparisonLinks.bind ts fun more ts => ?_
    simp [renameLinks]

theorem binary_succ (level : Nat) : Follows ρ (Formula.binary (n + 1) level) (Expr.rename ρ) := by
  intro ts
  simp only [Formula.binary]
  split
  · exact h.factor ts
  · exact (h.binary (level + 1)).bind ts fun left ts => h.operands level left ts

theorem operands_succ (level : Nat) (left : Expr) (ts : List Token) :
    Formula.operands (n + 1) level (left.rename ρ) (ts.map (Token.rename ρ)) =
      (Formula.operands (n + 1) level left ts).map
        (Prod.map (Expr.rename ρ) (List.map (Token.rename ρ))) := by
  cases ts with
  | nil => rfl
  | cons t ts =>
    simp only [List.map_cons, Formula.operands, operatorAt_rename]
    cases operatorAt level t with
    | none => rfl
    | some op =>
      refine (h.binary (level + 1)).bind ts fun right ts => ?_
      simpa [Expr.rename] using h.operands level (.binary op left right) ts

theorem factor_succ : Follows ρ (Formula.factor (n + 1)) (Expr.rename ρ) := by
  intro ts
  cases ts with
  | nil => rfl
  | cons t ts =>
    simp only [List.map_cons, Formula.factor, signAt_rename]
    cases signAt t with
    | some op =>
      refine h.factor.bind ts fun e ts => ?_
      simp [Expr.rename]
    | none =>
      refine h.primary.bind (t :: ts) fun base ts => ?_
      cases ts with
      | nil => rfl
      | cons t ts =>
        cases t with
        | symbol s =>
          cases s with
          | arith op =>
            cases op with
            | pow =>
              refine h.factor.bind ts fun exponent ts => ?_
              simp [Expr.rename]
            | _ => rfl
          | _ => rfl
        | _ => rfl

theorem primary_succ : Follows ρ (Formula.primary (n + 1)) (Expr.rename ρ) := by
  intro ts
  simp only [Formula.primary]
  exact h.atom.bind ts fun e ts => h.trailers e ts

theorem trailers_succ (e : Expr) (ts : List Token) :
    Formula.trailers (n + 1) (e.rename ρ) (ts.map (Token.rename ρ)) =
      (Formula.trailers (n + 1) e ts).map
        (Prod.map (Expr.rename ρ) (List.map (Token.rename ρ))) := by
  cases ts with
  | nil => rfl
  | cons t ts =>
    cases t with
    | symbol s =>
      cases s with
      | dot =>
        simp only [List.map_cons, Token.rename, Formula.trailers]
        cases ts with
        | nil => rfl
        | cons t ts =>
          cases t with
          | name id => simpa [Expr.rename, Token.rename] using h.trailers (.member e id) ts
          | _ => rfl
      | openParen =>
        simp only [List.map_cons, Token.rename, Formula.trailers]
        refine (h.arguments .plain).bind ts fun args ts => ?_
        simpa [Expr.rename, Arguments.rename]
          using h.trailers (.call e args.positional args.keywords) ts
      | openBracket =>
        simp only [List.map_cons, Token.rename, Formula.trailers]
        refine h.subscript.bind ts fun index ts => ?_
        simpa [Expr.rename] using h.trailers (.subscript e index) ts
      | _ => rfl
    | _ => rfl

theorem moreArguments_succ (stage : ArgumentStage) :
    Follows ρ (Formula.moreArguments (n + 1) stage) (Arguments.rename ρ) := by
  intro ts
  cases ts with
  | nil => rfl
  | cons t ts =>
    cases t with
    | symbol s =>
      cases s with
      | comma => exact h.arguments stage ts
      | closeParen =>
        simp [Formula.moreArguments, Token.rename, Arguments.rename, renameAll, renameKeywords]
      | _ => rfl
    | _ => rfl

theorem arguments_succ (stage : ArgumentStage) :
    Follows ρ (Formula.arguments (n + 1) stage) (Arguments.rename ρ) := by
  intro ts
  rcases starts_or_not .closeParen ts with ⟨ts, rfl⟩ | hclose
  · simp [Formula.arguments, Token.rename, Arguments.rename, renameAll, renameKeywords]
  rcases starts_or_not (.arith .mul) ts with ⟨ts, rfl⟩ | hmul
  · simp only [List.map_cons, Token.rename, Formula.arguments]
    split
    · rfl
    · refine h.expression.bind ts fun e ts => (h.moreArguments stage).bind ts fun rest ts => ?_
      simp [Arguments.rename, renameAll, Expr.rename]
  rcases starts_or_not (.arith .pow) ts with ⟨ts, rfl⟩ | hpow
  · simp only [List.map_cons, Token.rename, Formula.arguments]
    refine h.expression.bind ts fun e ts => (h.moreArguments .unpacked).bind ts fun rest ts => ?_
    simp [Arguments.rename, renameKeywords]
  by_cases hnamed : ∃ id us, ts = .name id :: .symbol .equals :: us
  · obtain ⟨id, ts, rfl⟩ := hnamed
    simp only [List.map_cons, Token.rename, Formula.arguments]
    refine h.expression.bind ts fun e ts => (h.moreArguments _).bind ts fun rest ts => ?_
    simp [Arguments.rename, renameKeywords]
  have hnamed' : ∀ id us, ts.map (Token.rename ρ) = .name id :: .symbol .equals :: us → False := by
    intro id us hus
    obtain ⟨t, rest, rfl, ht, hrest⟩ := List.map_eq_cons_iff.1 hus
    obtain ⟨u, rest, rfl, hu, -⟩ := List.map_eq_cons_iff.1 hrest
    rw [rename_eq_symbol] at hu
    cases t with
    | name x => exact hnamed ⟨x, rest, by rw [hu]⟩
    | _ => cases ht
  rw [Formula.arguments.eq_6 _ _ _ hclose hmul hpow fun id us hus => hnamed ⟨id, us, hus⟩,
    Formula.arguments.eq_6 _ _ _ (starts_not_rename hclose) (starts_not_rename hmul)
      (starts_not_rename hpow) hnamed']
  split
  · refine h.expression.bind ts fun e ts => (h.moreArguments stage).bind ts fun rest ts => ?_
    simp [Arguments.rename, renameAll]
  · rfl

theorem subscript_succ : Follows ρ (Formula.subscript (n + 1)) (Expr.rename ρ) := by
  intro ts
  simp only [Formula.subscript]
  refine h.index.bind ts fun first ts => ?_
  cases ts with
  | nil => rfl
  | cons t ts =>
    cases t with
    | symbol s =>
      cases s with
      | closeBracket => cases first <;> simp [Token.rename, Expr.rename, renameAll]
      | comma =>
        refine h.indices.bind ts fun more ts => ?_
        simp [Expr.rename, renameAll]
      | _ => rfl
    | _ => rfl

theorem indices_succ : Follows ρ (Formula.indices (n + 1)) (renameAll ρ) := by
  intro ts
  rcases starts_or_not .closeBracket ts with ⟨ts, rfl⟩ | hclose
  · simp [Formula.indices, Token.rename, renameAll]
  rw [Formula.indices.eq_3 _ _ hclose, Formula.indices.eq_3 _ _ (starts_not_rename hclose)]
  refine h.index.bind ts fun e ts => ?_
  cases ts with
  | nil => rfl
  | cons t ts =>
    cases t with
    | symbol s =>
      cases s with
      | closeBracket => simp [Token.rename, renameAll]
      | comma =>
        refine h.indices.bind ts fun more ts => ?_
        simp [renameAll]
      | _ => rfl
    | _ => rfl

theorem index_succ : Follows ρ (Formula.index (n + 1)) (Expr.rename ρ) := by
  intro ts
  rcases starts_or_not .colon ts with ⟨ts, rfl⟩ | hcolon
  · simpa [renameBound, Token.rename, Formula.index] using h.slice none ts
  rcases starts_or_not (.arith .mul) ts with ⟨ts, rfl⟩ | hmul
  · simp only [List.map_cons, Token.rename, Formula.index]
    refine h.expression.bind ts fun e ts => ?_
    simp [Expr.rename]
  rw [Formula.index.eq_4 _ _ hcolon hmul,
    Formula.index.eq_4 _ _ (starts_not_rename hcolon) (starts_not_rename hmul)]
  refine h.expression.bind ts fun e ts => ?_
  cases ts with
  | nil => rfl
  | cons t ts =>
    cases t with
    | symbol s =>
      cases s with
      | colon => simpa [renameBound, Token.rename] using h.slice (some e) ts
      | _ => rfl
    | _ => rfl

theorem slice_succ (lower : Option Expr) (ts : List Token) :
    Formula.slice (n + 1) (renameBound ρ lower) (ts.map (Token.rename ρ)) =
      (Formula.slice (n + 1) lower ts).map
        (Prod.map (Expr.rename ρ) (List.map (Token.rename ρ))) := by
  simp only [Formula.slice]
  refine h.bound.bind ts fun upper ts => ?_
  cases ts with
  | nil => simp [Expr.rename, renameBound]
  | cons t ts =>
    cases t with
    | symbol s =>
      cases s with
      | colon =>
        refine h.bound.bind ts fun step ts => ?_
        simp [Expr.rename]
      | _ => simp [Token.rename, Expr.rename, renameBound]
    | _ => simp [Token.rename, Expr.rename, renameBound]

theorem bound_succ : Follows ρ (Formula.bound (n + 1)) (renameBound ρ) := by
  intro ts
  simp only [Formula.bound, boundOmitted_rename]
  split
  · simp [renameBound]
  · refine h.expression.bind ts fun e ts => ?_
    simp [renameBound]

theorem atom_succ : Follows ρ (Formula.atom (n + 1)) (Expr.rename ρ) := by
  intro ts
  cases ts with
  | nil => rfl
  | cons t ts =>
    cases t with
    | text p =>
      simp only [List.map_cons, Token.rename, Formula.atom, textParts_rename, Prod.map_fst,
        Prod.map_snd, id_eq]
      cases joinedText p (textParts ts).1 <;> simp [Expr.rename]
    | symbol s =>
      cases s with
      | openParen => exact h.parenthesized ts
      | openBrace => exact h.braced ts
      | openBracket =>
        simp only [List.map_cons, Token.rename, Formula.atom]
        refine (h.items .closeBracket).bind ts fun es ts => ?_
        simp [Expr.rename]
      | ellipsis => simp [Formula.atom, Token.rename, Expr.rename]
      | _ => rfl
    | keyword k => cases k <;> simp [Formula.atom, Token.rename, Expr.rename]
    | name id => simp [Formula.atom, Token.rename, Expr.rename]
    | number c => simp [Formula.atom, Token.rename, Expr.rename]
    | lineEnd => rfl

theorem parenthesized_succ : Follows ρ (Formula.parenthesized (n + 1)) (Expr.rename ρ) := by
  intro ts
  rcases starts_or_not .closeParen ts with ⟨ts, rfl⟩ | hclose
  · simp [Formula.parenthesized, Token.rename, Expr.rename, renameAll]
  rw [Formula.parenthesized.eq_3 _ _ hclose,
    Formula.parenthesized.eq_3 _ _ (starts_not_rename hclose)]
  refine h.item.bind ts fun e ts => ?_
  cases ts with
  | nil => rfl
  | cons t ts =>
    cases t with
    | symbol s =>
      cases s with
      | closeParen => cases e <;> simp [Token.rename, Expr.rename]
      | comma =>
        refine (h.items .closeParen).bind ts fun es ts => ?_
        simp [Expr.rename, renameAll]
      | _ => rfl
    | _ => rfl

theorem braced_succ : Follows ρ (Formula.braced (n + 1)) (Expr.rename ρ) := by
  intro ts
  rcases starts_or_not .closeBrace ts with ⟨ts, rfl⟩ | hclose
  · simp [Formula.braced, Token.rename, Expr.rename, renameEntries]
  rcases starts_or_not (.arith .pow) ts with ⟨ts, rfl⟩ | hpow
  · simp only [List.map_cons, Token.rename, Formula.braced]
    refine (h.binary 0).bind ts fun e ts => h.moreEntries.bind ts fun es ts => ?_
    simp [Expr.rename, renameEntries, renameBound]
  rw [Formula.braced.eq_4 _ _ hclose hpow,
    Formula.braced.eq_4 _ _ (starts_not_rename hclose) (starts_not_rename hpow)]
  refine h.item.bind ts fun e ts => ?_
  cases ts with
  | nil => rfl
  | cons t ts =>
    cases t with
    | symbol s =>
      cases s with
      | closeBrace => simp [Token.rename, Expr.rename, renameAll]
      | comma =>
        refine (h.items .closeBrace).bind ts fun es ts => ?_
        simp [Expr.rename, renameAll]
      | colon =>
        cases e with
        | starred e => rfl
        | _ =>
          refine h.expression.bind ts fun value ts => h.moreEntries.bind ts fun es ts => ?_
          simp [Expr.rename, renameEntries, renameBound]
      | _ => rfl
    | _ => rfl

theorem entries_succ : Follows ρ (Formula.entries (n + 1)) (renameEntries ρ) := by
  intro ts
  rcases starts_or_not .closeBrace ts with ⟨ts, rfl⟩ | hclose
  · simp [Formula.entries, Token.rename, renameEntries]
  rcases starts_or_not (.arith .pow) ts with ⟨ts, rfl⟩ | hpow
  · simp only [List.map_cons, Token.rename, Formula.entries]
    refine (h.binary 0).bind ts fun e ts => h.moreEntries.bind ts fun es ts => ?_
    simp [renameEntries, renameBound]
  rw [Formula.entries.eq_4 _ _ hclose hpow,
    Formula.entries.eq_4 _ _ (starts_not_rename hclose) (starts_not_rename hpow)]
  refine h.expression.bind ts fun key ts => ?_
  cases ts with
  | nil => rfl
  | cons t ts =>
    cases t with
    | symbol s =>
      cases s with
      | colon =>
        refine h.expression.bind ts fun value ts => h.moreEntries.bind ts fun es ts => ?_
        simp [renameEntries, renameBound]
      | _ => rfl
    | _ => rfl

theorem moreEntries_succ : Follows ρ (Formula.moreEntries (n + 1)) (renameEntries ρ) := by
  intro ts
  cases ts with
  | nil => rfl
  | cons t ts =>
    cases t with
    | symbol s =>
      cases s with
      | comma => exact h.entries ts
      | closeBrace => simp [Formula.moreEntries, Token.rename, renameEntries]
      | _ => rfl
    | _ => rfl

theorem items_succ (close : Symbol) : Follows ρ (Formula.items (n + 1) close) (renameAll ρ) := by
  intro ts
  have hhead : ((ts.map (Token.rename ρ)).head? = some (.symbol close)) =
      (ts.head? = some (.symbol close)) := by
    cases ts <;> simp [rename_eq_symbol]
  simp only [Formula.items, hhead]
  split
  · cases ts <;> simp [renameAll]
  · refine h.item.bind ts fun e ts => ?_
    cases ts with
    | nil => rfl
    | cons t ts =>
      have hlast :
          (if t.rename ρ = .symbol close then
            some ([e.rename ρ], ts.map (Token.rename ρ)) else none) =
          (if t = .symbol close then some ([e], ts) else none).map
            (Prod.map (renameAll ρ) (List.map (Token.rename ρ))) := by
        simp only [rename_eq_symbol]
        split <;> simp [renameAll]
      cases t with
      | symbol s =>
        cases s with
        | comma =>
          refine (h.items close).bind ts fun es ts => ?_
          simp [renameAll]
        | _ => exact hlast
      | _ => exact hlast

theorem item_succ : Follows ρ (Formula.item (n + 1)) (Expr.rename ρ) := by
  intro ts
  cases ts with
  | nil => exact h.expression []
  | cons t ts =>
    have hother := h.expression (t :: ts)
    cases t with
    | symbol s =>
      cases s with
      | arith op =>
        cases op with
        | mul =>
          simp only [List.map_cons, Token.rename, Formula.item]
          refine (h.binary 0).bind ts fun e ts => ?_
          simp [Expr.rename]
        | _ => exact hother
      | _ => exact hother
    | _ => exact hother

theorem succ : AllFollow ρ (n + 1) where
  expression := h.expression_succ
  disjunction := h.disjunction_succ
  disjuncts := h.disjuncts_succ
  conjunction := h.conjunction_succ
  conjuncts := h.conjuncts_succ
  inversion := h.inversion_succ
  comparison := h.comparison_succ
  comparisonLinks := h.comparisonLinks_succ
  binary := h.binary_succ
  operands := h.operands_succ
  factor := h.factor_succ
  primary := h.primary_succ
  trailers := h.trailers_succ
  arguments := h.arguments_succ
  moreArguments := h.moreArguments_succ
  subscript := h.subscript_succ
  indices := h.indices_succ
  index := h.index_succ
  slice := h.slice_succ
  bound := h.bound_succ
  atom := h.atom_succ
  parenthesized := h.parenthesized_succ
  braced := h.braced_succ
  entries := h.entries_succ
  moreEntries := h.moreEntries_succ
  items := h.items_succ
  item := h.item_succ

end AllFollow

/-- All readers follow a renaming, however deep they descend. -/
theorem allFollow (ρ : String → String) (n : Nat) : AllFollow ρ n := by
  induction n with
  | zero => exact allFollow_zero
  | succ n ih => exact ih.succ

section Statements

variable {ρ : String → String}

def Statement.rename (ρ : String → String) : Statement → Statement
  | .assign target targets value => .assign (target.rename ρ) (renameAll ρ targets) (value.rename ρ)
  | .augmented target op value => .augmented (target.rename ρ) op (value.rename ρ)
  | .annotated target declared value =>
    .annotated (target.rename ρ) (declared.rename ρ) (renameBound ρ value)
  | .expression value => .expression (value.rename ρ)
  | .return value => .return (renameBound ρ value)
  | .delete target targets => .delete (target.rename ρ) (renameAll ρ targets)
  | .plain s => .plain s

mutual

theorem isTarget_rename : (e : Expr) → (e.rename ρ).isTarget = e.isTarget
  | .starred e => by
    have ih := isTarget_rename e
    cases e with
    | starred e => rfl
    | _ => exact ih
  | .list es | .tuple es => by simp [Expr.rename, Expr.isTarget, areTargets_rename es]
  | .name _ | .constant _ | .member .. | .subscript .. | .call .. | .binary .. | .unary ..
  | .bool .. | .compare ..
  | .incomplete .. | .set _ | .dict _ | .conditional .. | .slice .. | .other _
  | .holder .. => by simp [Expr.rename, Expr.isTarget]

theorem areTargets_rename : (es : List Expr) → areTargets (renameAll ρ es) = areTargets es
  | [] => by simp [renameAll]
  | e :: es => by simp [renameAll, areTargets, isTarget_rename e, areTargets_rename es]

end

mutual

theorem isDeletable_rename : (e : Expr) → (e.rename ρ).isDeletable = e.isDeletable
  | .list es | .tuple es => by simp [Expr.rename, Expr.isDeletable, areDeletable_rename es]
  | .name _ | .constant _ | .member .. | .subscript .. | .call .. | .binary .. | .unary ..
  | .bool .. | .compare ..
  | .incomplete .. | .set _ | .dict _ | .conditional .. | .starred _ | .slice .. | .other _
  | .holder .. => by
    simp [Expr.rename, Expr.isDeletable]

theorem areDeletable_rename : (es : List Expr) → areDeletable (renameAll ρ es) = areDeletable es
  | [] => by simp [renameAll]
  | e :: es => by simp [renameAll, areDeletable, isDeletable_rename e, areDeletable_rename es]

end

theorem isPlace_rename (e : Expr) : (e.rename ρ).isPlace = e.isPlace := by
  cases e <;> simp [Expr.rename, Expr.isPlace]

theorem endsStatement_rename (ts : List Token) :
    endsStatement (ts.map (Token.rename ρ)) = endsStatement ts := by
  cases ts with
  | nil => rfl
  | cons t ts =>
    cases t with
    | symbol s => cases s <;> rfl
    | _ => rfl

theorem bareItems_rename (n : Nat) (ts : List Token) :
    bareItems n (ts.map (Token.rename ρ)) =
      Prod.map (renameAll ρ) (List.map (Token.rename ρ)) (bareItems n ts) := by
  induction n generalizing ts with
  | zero => simp [bareItems, renameAll]
  | succ n ih =>
    cases ts with
    | nil => simp [bareItems, renameAll]
    | cons t ts =>
      cases t with
      | symbol s =>
        cases s with
        | comma =>
          simp only [List.map_cons, Token.rename, bareItems, (allFollow ρ n).item ts]
          cases item n ts with
          | none => simp [renameAll]
          | some p => simp [ih, renameAll]
        | _ => simp [bareItems, Token.rename, renameAll]
      | _ => simp [bareItems, Token.rename, renameAll]

theorem bareTuple_follows (n : Nat) : Follows ρ (bareTuple n) (Expr.rename ρ) := by
  intro ts
  simp only [bareTuple]
  refine (allFollow ρ n).item.bind ts fun e ts => ?_
  cases ts with
  | nil => rfl
  | cons t ts =>
    cases t with
    | symbol s =>
      cases s with
      | comma =>
        have hitems := bareItems_rename (ρ := ρ) n (.symbol .comma :: ts)
        simp only [List.map_cons, Token.rename] at hitems ⊢
        simp [hitems, Expr.rename, renameAll]
      | _ => rfl
    | _ => rfl

theorem assigned_rename (n : Nat) (ts : List Token) :
    assigned n (ts.map (Token.rename ρ)) = (assigned n ts).map fun (targets, value, ts) =>
      (renameAll ρ targets, value.rename ρ, ts.map (Token.rename ρ)) := by
  induction n generalizing ts with
  | zero => rfl
  | succ n ih =>
    simp only [assigned, bareTuple_follows n ts]
    cases bareTuple n ts with
    | none => rfl
    | some p =>
      obtain ⟨e, ts⟩ := p
      simp only [Option.map_some, Prod.map_apply, Option.bind_eq_bind, Option.bind_some]
      cases ts with
      | nil => simp [renameAll]
      | cons t ts =>
        cases t with
        | symbol s =>
          cases s with
          | equals =>
            simp only [List.map_cons, Token.rename, isTarget_rename, ih]
            split
            · cases assigned n ts <;> simp [renameAll]
            · rfl
          | _ => simp [Token.rename, renameAll]
        | _ => simp [Token.rename, renameAll]

theorem expressionStatement_follows (n : Nat) :
    Follows ρ (expressionStatement n) (Statement.rename ρ) := by
  intro ts
  simp only [expressionStatement]
  refine (bareTuple_follows n).bind ts fun e ts => ?_
  cases ts with
  | nil => rfl
  | cons t ts =>
    cases t with
    | symbol s =>
      cases s with
      | equals =>
        simp only [List.map_cons, Token.rename, isTarget_rename, assigned_rename]
        split
        · cases assigned n ts <;> simp [Statement.rename]
        · rfl
      | augment op =>
        simp only [List.map_cons, Token.rename, isPlace_rename]
        split
        · refine (bareTuple_follows n).bind ts fun value ts => ?_
          simp [Statement.rename]
        · rfl
      | colon =>
        simp only [List.map_cons, Token.rename, isPlace_rename]
        split
        · refine (allFollow ρ n).expression.bind ts fun declared ts => ?_
          cases ts with
          | nil => simp [Statement.rename, renameBound]
          | cons t ts =>
            cases t with
            | symbol s =>
              cases s with
              | equals =>
                refine (bareTuple_follows n).bind ts fun value ts => ?_
                simp [Statement.rename, renameBound]
              | _ => simp [Token.rename, Statement.rename, renameBound]
            | _ => simp [Token.rename, Statement.rename, renameBound]
        · rfl
      | _ => rfl
    | _ => rfl

theorem deleted_follows (n : Nat) : Follows ρ (deleted n) (renameAll ρ) := by
  induction n with
  | zero => exact fun ts => rfl
  | succ n ih =>
    intro ts
    simp only [deleted, endsStatement_rename]
    split
    · simp [renameAll]
    · refine (allFollow ρ n).expression.bind ts fun e ts => ?_
      simp only [isDeletable_rename]
      split
      · cases ts with
        | nil => simp [renameAll]
        | cons t ts =>
          cases t with
          | symbol s =>
            cases s with
            | comma =>
              refine ih.bind ts fun es ts => ?_
              simp [renameAll]
            | _ => simp [Token.rename, renameAll]
          | _ => simp [Token.rename, renameAll]
      · rfl

/-- Whether a reader that gives nothing but the remaining tokens follows the renaming. -/
def Passes (ρ : String → String) (read : List Token → Option (List Token)) : Prop :=
  ∀ ts, read (ts.map (Token.rename ρ)) = (read ts).map (List.map (Token.rename ρ))

theorem Passes.bind {read next : List Token → Option (List Token)} (hread : Passes ρ read)
    (hnext : Passes ρ next) : Passes ρ fun ts => (read ts).bind next := by
  intro ts
  simp only [hread ts]
  cases read ts with
  | none => rfl
  | some ts => exact hnext ts

theorem expressionBehind_passes {t : Token} (ht : ∀ u : Token, u.rename ρ = t ↔ u = t) (n : Nat) :
    Passes ρ (expressionBehind t n) := by
  intro ts
  have hhead : ((ts.map (Token.rename ρ)).head? = some t) = (ts.head? = some t) := by
    cases ts <;> simp [ht]
  simp only [expressionBehind, hhead, ← List.map_tail, (allFollow ρ n).expression ts.tail]
  split
  · cases expression n ts.tail <;> rfl
  · rfl

theorem namesOnly_passes : (ts : List Token) →
    namesOnly (ts.map (Token.rename ρ)) = (namesOnly ts).map (List.map (Token.rename ρ))
  | [] | [.name _] => rfl
  | .name _ :: t :: ts => by
    have ih := namesOnly_passes ts
    cases t with
    | symbol s =>
      cases s with
      | comma => exact ih
      | _ => rfl
    | _ => rfl
  | .keyword _ :: _ | .number _ :: _ | .text _ :: _ | .symbol _ :: _ | .lineEnd :: _ => rfl

theorem dottedName_passes : (ts : List Token) →
    dottedName (ts.map (Token.rename ρ)) = (dottedName ts).map (List.map (Token.rename ρ))
  | [] | [.name _] => rfl
  | .name _ :: t :: ts => by
    have ih := dottedName_passes ts
    cases t with
    | symbol s =>
      cases s with
      | dot => exact ih
      | _ => rfl
    | _ => rfl
  | .keyword _ :: _ | .number _ :: _ | .text _ :: _ | .symbol _ :: _ | .lineEnd :: _ => rfl

theorem renamed_passes : Passes ρ renamed := by
  intro ts
  cases ts with
  | nil => rfl
  | cons t ts =>
    cases t with
    | keyword k =>
      cases k with
      | as =>
        cases ts with
        | nil => rfl
        | cons t ts => cases t <;> rfl
      | _ => rfl
    | _ => rfl

theorem importedModules_passes (n : Nat) : Passes ρ (importedModules n) := by
  induction n with
  | zero => exact fun ts => rfl
  | succ n ih =>
    intro ts
    simp only [importedModules, dottedName_passes]
    cases dottedName ts with
    | none => rfl
    | some ts =>
      simp only [Option.map_some, Option.bind_eq_bind, Option.bind_some, renamed_passes ts]
      cases renamed ts with
      | none => rfl
      | some ts =>
        cases ts with
        | nil => rfl
        | cons t ts =>
          cases t with
          | symbol s =>
            cases s with
            | comma => exact ih ts
            | _ => rfl
          | _ => rfl

theorem importedNames_passes (closing : Bool) (n : Nat) : Passes ρ (importedNames closing n) := by
  induction n with
  | zero => exact fun ts => rfl
  | succ n ih =>
    intro ts
    cases ts with
    | nil => rfl
    | cons t ts =>
      cases t with
      | name id =>
        simp only [List.map_cons, Token.rename, importedNames, renamed_passes ts]
        cases renamed ts with
        | none => rfl
        | some ts =>
          cases ts with
          | nil => cases closing <;> rfl
          | cons t ts =>
            cases t with
            | symbol s =>
              cases s with
              | comma =>
                cases ts with
                | nil => exact ih []
                | cons u ts =>
                  have hmore := ih (u :: ts)
                  cases u with
                  | symbol s =>
                    cases s with
                    | closeParen => cases closing <;> rfl
                    | _ => exact hmore
                  | _ => exact hmore
              | _ => cases closing <;> rfl
            | _ => cases closing <;> rfl
      | _ => rfl

theorem importedPart_passes (n : Nat) : Passes ρ (importedPart n) := by
  intro ts
  cases ts with
  | nil => rfl
  | cons t ts =>
    cases t with
    | keyword k =>
      cases k with
      | «import» =>
        cases ts with
        | nil => exact importedNames_passes false n []
        | cons u ts =>
          have hbare := importedNames_passes (ρ := ρ) false n (u :: ts)
          cases u with
          | symbol s =>
            cases s with
            | arith op => cases op <;> first | rfl | exact hbare
            | openParen => exact importedNames_passes true n ts
            | _ => exact hbare
          | _ => exact hbare
      | _ => rfl
    | _ => rfl

theorem importFrom_passes (n : Nat) : Passes ρ (importFrom n) := by
  intro ts
  have hdots :
      (ts.map (Token.rename ρ)).dropWhile (fun t => t = .symbol .dot || t = .symbol .ellipsis) =
      (ts.dropWhile fun t => t = .symbol .dot || t = .symbol .ellipsis).map (Token.rename ρ) := by
    simp [List.dropWhile_map, Function.comp_def, rename_eq_symbol]
  simp only [importFrom, hdots, List.length_map, head?_rename_keyword]
  split
  · split
    · exact importedPart_passes n _
    · rfl
  · exact Passes.bind dottedName_passes (importedPart_passes n) _

theorem statement_follows (n : Nat) : Follows ρ (statement n) (Statement.rename ρ) := by
  intro ts
  cases ts with
  | nil => exact expressionStatement_follows n []
  | cons t ts =>
    have hother := expressionStatement_follows (ρ := ρ) n (t :: ts)
    cases t with
    | keyword k =>
      cases k with
      | pass | «break» | «continue» => rfl
      | «return» =>
        simp only [List.map_cons, Token.rename, statement, endsStatement_rename,
          bareTuple_follows n ts]
        split
        · simp [Statement.rename, renameBound]
        · cases bareTuple n ts <;> simp [Statement.rename, renameBound]
      | raise =>
        simp only [List.map_cons, Token.rename, statement, endsStatement_rename]
        split
        · rfl
        · refine (allFollow ρ n).expression.bind ts fun e ts => ?_
          have hfrom : ∀ u : Token, u.rename ρ = .keyword .from ↔ u = .keyword .from := by
            intro u
            cases u <;> simp [Token.rename]
          simp only [expressionBehind_passes hfrom n ts]
          cases expressionBehind (.keyword .from) n ts <;> rfl
      | assert =>
        simp only [List.map_cons, Token.rename, statement]
        refine (allFollow ρ n).expression.bind ts fun e ts => ?_
        simp only [expressionBehind_passes (fun _ => rename_eq_symbol) n ts]
        cases expressionBehind (.symbol .comma) n ts <;> rfl
      | del =>
        simp only [List.map_cons, Token.rename, statement]
        refine (deleted_follows n).bind ts fun es ts => ?_
        cases es <;> rfl
      | global =>
        simp only [List.map_cons, Token.rename, statement, namesOnly_passes ts]
        cases namesOnly ts <;> rfl
      | nonlocal =>
        simp only [List.map_cons, Token.rename, statement, namesOnly_passes ts]
        cases namesOnly ts <;> rfl
      | «import» =>
        simp only [List.map_cons, Token.rename, statement, importedModules_passes n ts]
        cases importedModules n ts <;> rfl
      | «from» =>
        simp only [List.map_cons, Token.rename, statement, importFrom_passes n ts]
        cases importFrom n ts <;> rfl
      | _ => exact hother
    | _ => exact hother

/-- Whole texts are read alike under any names. -/
theorem statements_rename (n : Nat) (ts : List Token) :
    statements n (ts.map (Token.rename ρ)) =
      (statements n ts).map (List.map (Statement.rename ρ)) := by
  induction n generalizing ts with
  | zero => rfl
  | succ n ih =>
    have hrest : ∀ s ts, (statements n (ts.map (Token.rename ρ))).map (s.rename ρ :: ·) =
        ((statements n ts).map (s :: ·)).map (List.map (Statement.rename ρ)) := by
      intro s ts
      rw [ih ts]
      cases statements n ts <;> rfl
    cases ts with
    | nil => rfl
    | cons t ts =>
      have hfirst := statement_follows (ρ := ρ) n (t :: ts)
      simp only [List.map_cons] at hfirst
      simp only [List.map_cons, statements, hfirst]
      cases statement n (t :: ts) with
      | none => rfl
      | some x =>
        obtain ⟨s, ts⟩ := x
        cases ts with
        | nil => rfl
        | cons t ts =>
          cases t with
          | lineEnd => exact hrest s ts
          | symbol y =>
            cases y with
            | semicolon =>
              cases ts with
              | nil => rfl
              | cons u ts =>
                cases u with
                | lineEnd => exact hrest s ts
                | _ => exact hrest s (_ :: ts)
            | _ => rfl
          | _ => rfl

end Statements

end TaxFlow.Formula

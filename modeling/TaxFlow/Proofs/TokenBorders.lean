import TaxFlow.Proofs.StatementWalk

/-!
# Tokens behind tokens

What has been read from tokens is read from them in front of other tokens too, if these begin with a
comma or with the bracket behind a list: no reader goes on into them. A deeper descent reads the
same, also where nothing follows.
-/
namespace TaxFlow.Formula

/-- Whether tokens begin with what follows an item of a list, if there are any. -/
def FollowItem (more : List Token) : Prop :=
  more = [] ∨ ∃ us, more = .symbol .comma :: us ∨ more = .symbol .closeBracket :: us

def Token.followsItem (t : Token) : Bool := t = .symbol .comma || t = .symbol .closeBracket

/-- Whether a reader takes the same in front of more tokens, when it may descend deeper by `k`. -/
def Extends {α : Type} (more : List Token) (k : Nat)
    (read : Nat → List Token → Option (α × List Token)) (n : Nat) :
    Prop :=
  ∀ {ts a rest}, read n ts = some (a, rest) → read (n + k) (ts ++ more) = some (a, rest ++ more)

section Borders

variable {more : List Token} (hmore : FollowItem more) {ts us : List Token} {t : Token}

include hmore

/-- What the tokens begin with, if it cannot follow an item, stands in front of the others. -/
theorem FollowItem.starts (h : ts ++ more = t :: us) (ht : t.followsItem = false) :
    ∃ vs, ts = t :: vs ∧ us = vs ++ more := by
  cases ts with
  | nil => rcases hmore with rfl | ⟨vs, rfl | rfl⟩ <;> cases h <;> cases ht
  | cons u vs =>
    cases h
    exact ⟨vs, rfl, rfl⟩

theorem FollowItem.not_starts (ht : t.followsItem = false) (h : ∀ us, ts = t :: us → False) :
    ∀ us, ts ++ more = t :: us → False := by
  intro us hus
  obtain ⟨vs, rfl, -⟩ := hmore.starts hus ht
  exact h vs rfl

/-- A name in front of the border is not followed by an equals sign there. -/
theorem FollowItem.not_starts_named (h : ∀ id us, ts = .name id :: .symbol .equals :: us → False) :
    ∀ id us, ts ++ more = .name id :: .symbol .equals :: us → False := by
  intro id us hus
  obtain ⟨vs, rfl, hvs⟩ := hmore.starts hus rfl
  obtain ⟨ws, rfl, -⟩ := hmore.starts hvs.symm rfl
  exact h id ws rfl

omit hmore in
theorem not_starts_of_ne_nil (hne : ts ≠ []) (h : ∀ us, ts = t :: us → False) :
    ∀ us, ts ++ more = t :: us → False := by
  cases ts with
  | nil => exact absurd rfl hne
  | cons u ts =>
    intro us hus
    cases hus
    exact h ts rfl

theorem textParts_append :
    textParts (ts ++ more) = ((textParts ts).1, (textParts ts).2 ++ more) := by
  induction ts with
  | nil => rcases hmore with rfl | ⟨us, rfl | rfl⟩ <;> rfl
  | cons t ts ih => cases t <;> simp [textParts, ih]

theorem comparisonAt_append :
    comparisonAt (ts ++ more) = (comparisonAt ts).map fun (op, us) => (op, us ++ more) := by
  cases ts with
  | nil => rcases hmore with rfl | ⟨us, rfl | rfl⟩ <;> rfl
  | cons t ts =>
    cases t with
    | keyword k =>
      cases ts with
      | nil => rcases hmore with rfl | ⟨us, rfl | rfl⟩ <;> cases k <;> rfl
      | cons u us =>
        cases u with
        | keyword j => cases k <;> cases j <;> rfl
        | _ => cases k <;> rfl
    | symbol s => cases s <;> rfl
    | _ => rfl

end Borders

theorem expression_nil (n : Nat) : expression n [] = none := by
  rw [Option.eq_none_iff_forall_ne_some]
  rintro ⟨e, rest⟩ h
  obtain ⟨used, hused, hwalk⟩ := (allTake n).expression h
  exact TakesOperand.used_ne_nil hwalk (List.append_eq_nil_iff.1 hused).1

theorem item_nil (n : Nat) : item n [] = none := by
  cases n with
  | zero => rfl
  | succ n => exact expression_nil n

theorem index_nil (n : Nat) : index n [] = none := by
  cases n with
  | zero => rfl
  | succ n => simp [index, expression_nil]

/-- What all readers take in front of more tokens. -/
structure AllExtend (more : List Token) (k n : Nat) : Prop where
  expression : Extends more k expression n
  disjunction : Extends more k disjunction n
  disjuncts : Extends more k disjuncts n
  conjunction : Extends more k conjunction n
  conjuncts : Extends more k conjuncts n
  inversion : Extends more k inversion n
  comparison : Extends more k comparison n
  comparisonLinks : Extends more k comparisonLinks n
  binary : ∀ level, Extends more k (binary · level) n
  operands : ∀ level left, Extends more k (operands · level left) n
  factor : Extends more k factor n
  primary : Extends more k primary n
  trailers : ∀ e, Extends more k (trailers · e) n
  arguments : ∀ stage, Extends more k (arguments · stage) n
  moreArguments : ∀ stage, Extends more k (moreArguments · stage) n
  subscript : Extends more k subscript n
  indices : Extends more k indices n
  index : Extends more k index n
  slice : ∀ lower, Extends more k (slice · lower) n
  bound : Extends more k bound n
  atom : Extends more k atom n
  parenthesized : Extends more k parenthesized n
  braced : Extends more k braced n
  entries : Extends more k entries n
  moreEntries : Extends more k moreEntries n
  items : ∀ close, Extends more k (items · close) n
  item : Extends more k item n

namespace AllExtend

variable {more : List Token} {k n : Nat} (h : AllExtend more k n)

include h

theorem expression_succ (hmore : FollowItem more) : Extends more k Formula.expression (n + 1) := by
  intro ts e rest hread
  rw [Nat.add_right_comm]
  simp only [Formula.expression, Option.bind_eq_bind, Option.bind_eq_some_iff, Prod.exists] at hread
  obtain ⟨body, us, hbody, hread⟩ := hread
  simp only [Formula.expression, h.disjunction hbody, Option.bind_eq_bind, Option.bind_some]
  split at hread
  · simp only [Option.bind_eq_some_iff, Prod.exists] at hread
    obtain ⟨test, vs, htest, hread⟩ := hread
    simp only [List.cons_append, h.disjunction htest, Option.bind_some]
    split at hread
    · simp only [Option.bind_eq_some_iff, Prod.exists] at hread
      obtain ⟨other, ws, hother, hread⟩ := hread
      cases hread
      simp [h.expression hother]
    · cases hread
  · rename_i hnot
    cases hread
    split
    · exact (hmore.not_starts rfl hnot _ ‹_›).elim
    · rfl

theorem disjunction_succ : Extends more k Formula.disjunction (n + 1) := by
  intro ts e rest hread
  rw [Nat.add_right_comm]
  simp only [Formula.disjunction, Option.bind_eq_bind, Option.bind_eq_some_iff,
    Prod.exists] at hread
  obtain ⟨first, us, hfirst, others, vs, hothers, hread⟩ := hread
  cases hread
  simp [Formula.disjunction, h.conjunction hfirst, h.disjuncts hothers]

theorem disjuncts_succ (hmore : FollowItem more) : Extends more k Formula.disjuncts (n + 1) := by
  intro ts es rest hread
  rw [Nat.add_right_comm]
  unfold Formula.disjuncts at hread
  split at hread
  · contradiction
  · cases ‹n + 1 = _›
    simp only [Option.bind_eq_bind, Option.bind_eq_some_iff, Prod.exists] at hread
    obtain ⟨first, us, hfirst, others, vs, hothers, hread⟩ := hread
    cases hread
    simp [Formula.disjuncts, h.conjunction hfirst, h.disjuncts hothers]
  · rename_i hnot
    cases ‹n + 1 = _›
    cases hread
    rw [Formula.disjuncts.eq_3 _ _ (hmore.not_starts rfl hnot)]

theorem conjunction_succ : Extends more k Formula.conjunction (n + 1) := by
  intro ts e rest hread
  rw [Nat.add_right_comm]
  simp only [Formula.conjunction, Option.bind_eq_bind, Option.bind_eq_some_iff,
    Prod.exists] at hread
  obtain ⟨first, us, hfirst, others, vs, hothers, hread⟩ := hread
  cases hread
  simp [Formula.conjunction, h.inversion hfirst, h.conjuncts hothers]

theorem conjuncts_succ (hmore : FollowItem more) : Extends more k Formula.conjuncts (n + 1) := by
  intro ts es rest hread
  rw [Nat.add_right_comm]
  unfold Formula.conjuncts at hread
  split at hread
  · contradiction
  · cases ‹n + 1 = _›
    simp only [Option.bind_eq_bind, Option.bind_eq_some_iff, Prod.exists] at hread
    obtain ⟨first, us, hfirst, others, vs, hothers, hread⟩ := hread
    cases hread
    simp [Formula.conjuncts, h.inversion hfirst, h.conjuncts hothers]
  · rename_i hnot
    cases ‹n + 1 = _›
    cases hread
    rw [Formula.conjuncts.eq_3 _ _ (hmore.not_starts rfl hnot)]

theorem inversion_succ (hmore : FollowItem more) : Extends more k Formula.inversion (n + 1) := by
  intro ts e rest hread
  rw [Nat.add_right_comm]
  unfold Formula.inversion at hread
  split at hread
  · contradiction
  · cases ‹n + 1 = _›
    simp only [Option.bind_eq_bind, Option.bind_eq_some_iff, Prod.exists] at hread
    obtain ⟨operand, us, hoperand, hread⟩ := hread
    cases hread
    simp [Formula.inversion, h.inversion hoperand]
  · rename_i hnot
    cases ‹n + 1 = _›
    rw [Formula.inversion.eq_3 _ _ (hmore.not_starts rfl hnot), h.comparison hread]

theorem comparison_succ : Extends more k Formula.comparison (n + 1) := by
  intro ts e rest hread
  rw [Nat.add_right_comm]
  simp only [Formula.comparison, Option.bind_eq_bind, Option.bind_eq_some_iff, Prod.exists] at hread
  obtain ⟨left, us, hleft, links, vs, hlinks, hread⟩ := hread
  cases hread
  simp [Formula.comparison, h.binary 0 hleft, h.comparisonLinks hlinks]

theorem comparisonLinks_succ (hmore : FollowItem more) :
    Extends more k Formula.comparisonLinks (n + 1) := by
  intro ts links rest hread
  rw [Nat.add_right_comm]
  simp only [Formula.comparisonLinks] at hread ⊢
  rw [comparisonAt_append hmore]
  split at hread
  · rename_i hop
    cases hread
    simp [hop]
  · rename_i op us hop
    simp only [Option.bind_eq_bind, Option.bind_eq_some_iff, Prod.exists] at hread
    obtain ⟨right, vs, hright, others, ws, hothers, hread⟩ := hread
    cases hread
    simp [hop, h.binary 0 hright, h.comparisonLinks hothers]

theorem binary_succ (level : Nat) : Extends more k (Formula.binary · level) (n + 1) := by
  intro ts e rest hread
  show Formula.binary (n + 1 + k) level (ts ++ more) = _
  rw [Nat.add_right_comm]
  simp only [Formula.binary] at hread ⊢
  split at hread
  next hlevel =>
    rw [if_pos hlevel]
    exact h.factor hread
  next hlevel =>
    simp only [Option.bind_eq_bind, Option.bind_eq_some_iff, Prod.exists] at hread
    obtain ⟨left, us, hleft, hread⟩ := hread
    simp [hlevel, h.binary _ hleft, h.operands _ _ hread]

theorem operands_succ (hmore : FollowItem more) (level : Nat) (left : Expr) :
    Extends more k (Formula.operands · level left) (n + 1) := by
  intro ts e rest hread
  show Formula.operands (n + 1 + k) level left (ts ++ more) = _
  rw [Nat.add_right_comm]
  cases ts with
  | nil =>
    cases hread
    rcases hmore with rfl | ⟨us, rfl | rfl⟩ <;> rfl
  | cons t ts =>
    simp only [List.cons_append, Formula.operands] at hread ⊢
    split at hread
    · cases hread
      rfl
    · simp only [Option.bind_eq_bind, Option.bind_eq_some_iff, Prod.exists] at hread
      obtain ⟨right, us, hright, hread⟩ := hread
      simp [h.binary _ hright, h.operands _ _ hread]

theorem factor_succ (hmore : FollowItem more) : Extends more k Formula.factor (n + 1) := by
  intro ts e rest hread
  rw [Nat.add_right_comm]
  cases ts with
  | nil => cases hread
  | cons t ts =>
    simp only [List.cons_append, Formula.factor] at hread ⊢
    split at hread
    · simp only [Option.bind_eq_bind, Option.bind_eq_some_iff, Prod.exists] at hread
      obtain ⟨operand, us, hoperand, hread⟩ := hread
      cases hread
      simp [h.factor hoperand]
    · simp only [Option.bind_eq_bind, Option.bind_eq_some_iff, Prod.exists] at hread
      obtain ⟨base, us, hbase, hread⟩ := hread
      have hbase' := h.primary hbase
      rw [List.cons_append] at hbase'
      simp only [hbase', Option.bind_eq_bind, Option.bind_some]
      split at hread
      · simp only [Option.bind_eq_some_iff, Prod.exists] at hread
        obtain ⟨exponent, vs, hexponent, hread⟩ := hread
        cases hread
        simp [h.factor hexponent]
      · rename_i hnot
        cases hread
        split
        · exact (hmore.not_starts rfl hnot _ ‹_›).elim
        · rfl

theorem primary_succ : Extends more k Formula.primary (n + 1) := by
  intro ts e rest hread
  rw [Nat.add_right_comm]
  simp only [Formula.primary, Option.bind_eq_bind, Option.bind_eq_some_iff, Prod.exists] at hread
  obtain ⟨base, us, hbase, hread⟩ := hread
  simp [Formula.primary, h.atom hbase, h.trailers _ hread]

theorem trailers_succ (hmore : FollowItem more) (e : Expr) :
    Extends more k (Formula.trailers · e) (n + 1) := by
  intro ts e' rest hread
  show Formula.trailers (n + 1 + k) e (ts ++ more) = _
  rw [Nat.add_right_comm]
  dsimp only at hread
  unfold Formula.trailers at hread
  split at hread
  · contradiction
  · cases ‹n + 1 = _›
    split at hread
    · simp [Formula.trailers, h.trailers _ hread]
    · cases hread
  · cases ‹n + 1 = _›
    simp only [Option.bind_eq_bind, Option.bind_eq_some_iff, Prod.exists] at hread
    obtain ⟨args, us, hargs, hread⟩ := hread
    simp [Formula.trailers, h.arguments _ hargs, h.trailers _ hread]
  · cases ‹n + 1 = _›
    simp only [Option.bind_eq_bind, Option.bind_eq_some_iff, Prod.exists] at hread
    obtain ⟨index, us, hindex, hread⟩ := hread
    simp [Formula.trailers, h.subscript hindex, h.trailers _ hread]
  · rename_i hdot hparen hbracket
    cases ‹n + 1 = _›
    cases hread
    rw [Formula.trailers.eq_6 _ _ _ (hmore.not_starts rfl hdot) (hmore.not_starts rfl hparen)
      (hmore.not_starts rfl hbracket)]

theorem arguments_succ (hmore : FollowItem more) (stage : ArgumentStage) :
    Extends more k (Formula.arguments · stage) (n + 1) := by
  intro ts args rest hread
  show Formula.arguments (n + 1 + k) stage (ts ++ more) = _
  rw [Nat.add_right_comm]
  dsimp only at hread
  unfold Formula.arguments at hread
  split at hread
  · contradiction
  · cases hread
    rfl
  · cases ‹n + 1 = _›
    split at hread
    next => cases hread
    next hstage =>
      simp only [Option.bind_eq_bind, Option.bind_eq_some_iff, Prod.exists] at hread
      obtain ⟨arg, us, harg, others, vs, hothers, hread⟩ := hread
      cases hread
      simp [Formula.arguments, hstage, h.expression harg, h.moreArguments _ hothers]
  · cases ‹n + 1 = _›
    simp only [Option.bind_eq_bind, Option.bind_eq_some_iff, Prod.exists] at hread
    obtain ⟨arg, us, harg, others, vs, hothers, hread⟩ := hread
    cases hread
    simp [Formula.arguments, h.expression harg, h.moreArguments _ hothers]
  · cases ‹n + 1 = _›
    simp only [Option.bind_eq_bind, Option.bind_eq_some_iff, Prod.exists] at hread
    obtain ⟨arg, us, harg, others, vs, hothers, hread⟩ := hread
    cases hread
    simp [Formula.arguments, h.expression harg, h.moreArguments _ hothers]
  · rename_i hclose hmul hpow hnamed
    cases ‹n + 1 = _›
    rw [Formula.arguments.eq_6 _ _ _ (hmore.not_starts rfl hclose) (hmore.not_starts rfl hmul)
      (hmore.not_starts rfl hpow) (hmore.not_starts_named hnamed)]
    split at hread
    next hstage =>
      simp only [Option.bind_eq_bind, Option.bind_eq_some_iff, Prod.exists] at hread
      obtain ⟨arg, us, harg, others, vs, hothers, hread⟩ := hread
      cases hread
      rw [if_pos hstage]
      simp [h.expression harg, h.moreArguments _ hothers]
    next => cases hread

theorem moreArguments_succ (stage : ArgumentStage) :
    Extends more k (Formula.moreArguments · stage) (n + 1) := by
  intro ts args rest hread
  show Formula.moreArguments (n + 1 + k) stage (ts ++ more) = _
  rw [Nat.add_right_comm]
  dsimp only at hread
  unfold Formula.moreArguments at hread
  split at hread
  · contradiction
  · cases ‹n + 1 = _›
    exact h.arguments _ hread
  · cases hread
    rfl
  · cases hread

theorem subscript_succ : Extends more k Formula.subscript (n + 1) := by
  intro ts e rest hread
  rw [Nat.add_right_comm]
  simp only [Formula.subscript, Option.bind_eq_bind, Option.bind_eq_some_iff, Prod.exists] at hread
  obtain ⟨first, us, hfirst, hread⟩ := hread
  simp only [Formula.subscript, h.index hfirst, Option.bind_eq_bind, Option.bind_some]
  split at hread
  · split at hread <;> cases hread <;> rfl
  · simp only [Option.bind_eq_some_iff, Prod.exists] at hread
    obtain ⟨others, vs, hothers, hread⟩ := hread
    cases hread
    simp [h.indices hothers]
  · cases hread

theorem indices_succ : Extends more k Formula.indices (n + 1) := by
  intro ts es rest hread
  rw [Nat.add_right_comm]
  unfold Formula.indices at hread
  split at hread
  · contradiction
  · cases hread
    rfl
  · rename_i hclose
    cases ‹n + 1 = _›
    simp only [Option.bind_eq_bind, Option.bind_eq_some_iff, Prod.exists] at hread
    obtain ⟨first, us, hfirst, hread⟩ := hread
    -- the bracket that may follow is the one that ends the reader, but an index takes a token in
    -- front of it
    rw [Formula.indices.eq_3 _ _
      (not_starts_of_ne_nil (fun hnil => by simp [hnil, index_nil] at hfirst) hclose)]
    simp only [h.index hfirst, Option.bind_eq_bind, Option.bind_some]
    split at hread
    · cases hread
      rfl
    · simp only [Option.bind_eq_some_iff, Prod.exists] at hread
      obtain ⟨others, vs, hothers, hread⟩ := hread
      cases hread
      simp [h.indices hothers]
    · cases hread

theorem index_succ (hmore : FollowItem more) : Extends more k Formula.index (n + 1) := by
  intro ts e rest hread
  rw [Nat.add_right_comm]
  unfold Formula.index at hread
  split at hread
  · contradiction
  · cases ‹n + 1 = _›
    exact h.slice _ hread
  · cases ‹n + 1 = _›
    simp only [Option.bind_eq_bind, Option.bind_eq_some_iff, Prod.exists] at hread
    obtain ⟨inner, us, hinner, hread⟩ := hread
    cases hread
    simp [Formula.index, h.expression hinner]
  · rename_i hcolon hmul
    cases ‹n + 1 = _›
    simp only [Option.bind_eq_bind, Option.bind_eq_some_iff, Prod.exists] at hread
    obtain ⟨lower, us, hlower, hread⟩ := hread
    rw [Formula.index.eq_4 _ _ (hmore.not_starts rfl hcolon) (hmore.not_starts rfl hmul)]
    simp only [h.expression hlower, Option.bind_eq_bind, Option.bind_some]
    split at hread
    · exact h.slice _ hread
    · rename_i hnot
      cases hread
      split
      · exact (hmore.not_starts rfl hnot _ ‹_›).elim
      · rfl

theorem slice_succ (hmore : FollowItem more) (lower : Option Expr) :
    Extends more k (Formula.slice · lower) (n + 1) := by
  intro ts e rest hread
  show Formula.slice (n + 1 + k) lower (ts ++ more) = _
  rw [Nat.add_right_comm]
  simp only [Formula.slice, Option.bind_eq_bind, Option.bind_eq_some_iff, Prod.exists] at hread
  obtain ⟨upper, us, hupper, hread⟩ := hread
  simp only [Formula.slice, h.bound hupper, Option.bind_eq_bind, Option.bind_some]
  split at hread
  · simp only [Option.bind_eq_some_iff, Prod.exists] at hread
    obtain ⟨step, vs, hstep, hread⟩ := hread
    cases hread
    simp [h.bound hstep]
  · rename_i hnot
    cases hread
    split
    · exact (hmore.not_starts rfl hnot _ ‹_›).elim
    · rfl

theorem bound_succ : Extends more k Formula.bound (n + 1) := by
  intro ts e rest hread
  rw [Nat.add_right_comm]
  cases ts with
  | nil => simp [Formula.bound, boundOmitted, expression_nil] at hread
  | cons t ts =>
    have hsame : boundOmitted (t :: (ts ++ more)) = boundOmitted (t :: ts) := by
      cases t with
      | symbol s => cases s <;> rfl
      | _ => rfl
    simp only [List.cons_append, Formula.bound, hsame] at hread ⊢
    split at hread
    next homitted =>
      cases hread
      rw [if_pos homitted, List.cons_append]
    next homitted =>
      simp only [Option.bind_eq_bind, Option.bind_eq_some_iff, Prod.exists] at hread
      obtain ⟨inner, us, hinner, hread⟩ := hread
      cases hread
      have hinner' := h.expression hinner
      rw [List.cons_append] at hinner'
      rw [if_neg homitted]
      simp [hinner']

theorem atom_succ (hmore : FollowItem more) : Extends more k Formula.atom (n + 1) := by
  intro ts e rest hread
  rw [Nat.add_right_comm]
  cases ts with
  | nil => cases hread
  | cons t ts =>
    simp only [List.cons_append, Formula.atom] at hread ⊢
    split at hread
    case h_7 p =>
      simp only [Option.map_eq_some_iff] at hread
      obtain ⟨text, htext, hread⟩ := hread
      cases hread
      simp [textParts_append hmore, htext]
    case h_8 => exact h.parenthesized hread
    case h_9 =>
      simp only [Option.bind_eq_bind, Option.bind_eq_some_iff, Prod.exists] at hread
      obtain ⟨inner, us, hinner, hread⟩ := hread
      cases hread
      simp [h.items _ hinner]
    case h_10 => exact h.braced hread
    case h_11 => cases hread
    all_goals
      cases hread
      rfl

theorem parenthesized_succ (hmore : FollowItem more) :
    Extends more k Formula.parenthesized (n + 1) := by
  intro ts e rest hread
  rw [Nat.add_right_comm]
  unfold Formula.parenthesized at hread
  split at hread
  · contradiction
  · cases hread
    rfl
  · rename_i hclose
    cases ‹n + 1 = _›
    simp only [Option.bind_eq_bind, Option.bind_eq_some_iff, Prod.exists] at hread
    obtain ⟨first, us, hfirst, hread⟩ := hread
    rw [Formula.parenthesized.eq_3 _ _ (hmore.not_starts rfl hclose)]
    simp only [h.item hfirst, Option.bind_eq_bind, Option.bind_some]
    split at hread
    · split at hread <;> cases hread
      simp only [List.cons_append]
    · simp only [Option.bind_eq_some_iff, Prod.exists] at hread
      obtain ⟨others, vs, hothers, hread⟩ := hread
      cases hread
      simp [h.items _ hothers]
    · cases hread

theorem braced_succ (hmore : FollowItem more) : Extends more k Formula.braced (n + 1) := by
  intro ts e rest hread
  rw [Nat.add_right_comm]
  unfold Formula.braced at hread
  split at hread
  · contradiction
  · cases hread
    rfl
  · cases ‹n + 1 = _›
    simp only [Option.bind_eq_bind, Option.bind_eq_some_iff, Prod.exists] at hread
    obtain ⟨first, us, hfirst, others, vs, hothers, hread⟩ := hread
    cases hread
    simp [Formula.braced, h.binary _ hfirst, h.moreEntries hothers]
  · rename_i hclose hpow
    cases ‹n + 1 = _›
    simp only [Option.bind_eq_bind, Option.bind_eq_some_iff, Prod.exists] at hread
    obtain ⟨first, us, hfirst, hread⟩ := hread
    rw [Formula.braced.eq_4 _ _ (hmore.not_starts rfl hclose) (hmore.not_starts rfl hpow)]
    simp only [h.item hfirst, Option.bind_eq_bind, Option.bind_some]
    split at hread
    · cases hread
      rfl
    · simp only [Option.bind_eq_some_iff, Prod.exists] at hread
      obtain ⟨others, vs, hothers, hread⟩ := hread
      cases hread
      simp [h.items _ hothers]
    · split at hread
      · cases hread
      · simp only [Option.bind_eq_some_iff, Prod.exists] at hread
        obtain ⟨value, vs, hvalue, others, ws, hothers, hread⟩ := hread
        cases hread
        simp [h.expression hvalue, h.moreEntries hothers]
    · cases hread

theorem entries_succ (hmore : FollowItem more) : Extends more k Formula.entries (n + 1) := by
  intro ts es rest hread
  rw [Nat.add_right_comm]
  unfold Formula.entries at hread
  split at hread
  · contradiction
  · cases hread
    rfl
  · cases ‹n + 1 = _›
    simp only [Option.bind_eq_bind, Option.bind_eq_some_iff, Prod.exists] at hread
    obtain ⟨first, us, hfirst, others, vs, hothers, hread⟩ := hread
    cases hread
    simp [Formula.entries, h.binary _ hfirst, h.moreEntries hothers]
  · rename_i hclose hpow
    cases ‹n + 1 = _›
    simp only [Option.bind_eq_bind, Option.bind_eq_some_iff, Prod.exists] at hread
    obtain ⟨key, us, hkey, hread⟩ := hread
    rw [Formula.entries.eq_4 _ _ (hmore.not_starts rfl hclose) (hmore.not_starts rfl hpow)]
    simp only [h.expression hkey, Option.bind_eq_bind, Option.bind_some]
    split at hread
    · simp only [Option.bind_eq_some_iff, Prod.exists] at hread
      obtain ⟨value, vs, hvalue, others, ws, hothers, hread⟩ := hread
      cases hread
      simp [h.expression hvalue, h.moreEntries hothers]
    · cases hread

theorem moreEntries_succ : Extends more k Formula.moreEntries (n + 1) := by
  intro ts es rest hread
  rw [Nat.add_right_comm]
  unfold Formula.moreEntries at hread
  split at hread
  · contradiction
  · cases ‹n + 1 = _›
    exact h.entries hread
  · cases hread
    rfl
  · cases hread

theorem items_succ (close : Symbol) : Extends more k (Formula.items · close) (n + 1) := by
  intro ts es rest hread
  show Formula.items (n + 1 + k) close (ts ++ more) = _
  rw [Nat.add_right_comm]
  -- without a token of its own, the reader would take the bracket that follows for its end
  cases ts with
  | nil => simp [Formula.items, item_nil] at hread
  | cons t ts =>
    simp only [List.cons_append, Formula.items, List.head?_cons, Option.some.injEq,
      List.tail_cons] at hread ⊢
    by_cases hclose : t = .symbol close
    · rw [if_pos hclose] at hread ⊢
      cases hread
      rfl
    · rw [if_neg hclose] at hread ⊢
      simp only [Option.bind_eq_bind, Option.bind_eq_some_iff, Prod.exists] at hread
      obtain ⟨first, us, hfirst, hread⟩ := hread
      have hfirst' := h.item hfirst
      rw [List.cons_append] at hfirst'
      simp only [hfirst', Option.bind_eq_bind, Option.bind_some]
      split at hread
      · simp only [Option.bind_eq_some_iff, Prod.exists] at hread
        obtain ⟨others, vs, hothers, hread⟩ := hread
        cases hread
        simp [h.items _ hothers]
      · rename_i u us hcomma
        split at hread
        · cases hread
          rw [List.cons_append]
          split <;> simp_all
        · cases hread
      · cases hread

theorem item_succ (hmore : FollowItem more) : Extends more k Formula.item (n + 1) := by
  intro ts e rest hread
  rw [Nat.add_right_comm]
  unfold Formula.item at hread
  split at hread
  · contradiction
  · cases ‹n + 1 = _›
    simp only [Option.bind_eq_bind, Option.bind_eq_some_iff, Prod.exists] at hread
    obtain ⟨inner, us, hinner, hread⟩ := hread
    cases hread
    simp [Formula.item, h.binary _ hinner]
  · rename_i hmul
    cases ‹n + 1 = _›
    rw [Formula.item.eq_3 _ _ (hmore.not_starts rfl hmul), h.expression hread]

theorem succ (hmore : FollowItem more) : AllExtend more k (n + 1) where
  expression := h.expression_succ hmore
  disjunction := h.disjunction_succ
  disjuncts := h.disjuncts_succ hmore
  conjunction := h.conjunction_succ
  conjuncts := h.conjuncts_succ hmore
  inversion := h.inversion_succ hmore
  comparison := h.comparison_succ
  comparisonLinks := h.comparisonLinks_succ hmore
  binary := h.binary_succ
  operands := h.operands_succ hmore
  factor := h.factor_succ hmore
  primary := h.primary_succ
  trailers := h.trailers_succ hmore
  arguments := h.arguments_succ hmore
  moreArguments := h.moreArguments_succ
  subscript := h.subscript_succ
  indices := h.indices_succ
  index := h.index_succ hmore
  slice := h.slice_succ hmore
  bound := h.bound_succ
  atom := h.atom_succ hmore
  parenthesized := h.parenthesized_succ hmore
  braced := h.braced_succ hmore
  entries := h.entries_succ hmore
  moreEntries := h.moreEntries_succ
  items := h.items_succ
  item := h.item_succ hmore

end AllExtend

end TaxFlow.Formula

import TaxFlow.Formula.Script
import TaxFlow.Proofs.Grouping

/-!
# Reading grouped expressions

An expression that needs no parentheses is read back from its tokens, whatever stops it. Every
reader needs at most 24 steps of descent for each token, less its strength.
-/
namespace TaxFlow.Formula

/-- The reader of expressions of a strength. -/
def readAt : (strength : Nat) → Nat → List Token → Option (Expr × List Token)
  | 0 => expression
  | 1 => disjunction
  | 2 => conjunction
  | 3 => inversion
  | 4 => comparison
  | 12 => factor
  | 13 => primary
  | k => fun n => binary n (k - 5)

theorem Stops.mono {j k : Nat} {ts : List Token} (hjk : j ≤ k) (h : Stops j ts) : Stops k ts :=
  fun t ht s hs => Nat.lt_of_lt_of_le (h t ht s hs) hjk

theorem Stops.cons {k : Nat} {t : Token} {ts : List Token} (h : ∀ s, t.strength = some s → s < k) :
    Stops k (t :: ts) := by
  intro t' ht s hs
  cases ht
  exact h s hs

/-- A token that continues expressions of at least this strength does not follow. -/
theorem Stops.ne {k s : Nat} {t : Token} {ts : List Token} (h : Stops k (t :: ts)) (hs : k ≤ s) :
    t.strength ≠ some s := by
  intro ht
  have hlt := h t rfl s ht
  omega

theorem operatorAt_eq {level : Nat} {t : Token} (hlevel : level ≤ 5)
    (ht : t.strength ≠ some (level + 5)) : operatorAt level t = none := by
  unfold operatorAt
  split
  next op =>
    rw [if_neg]
    intro h
    subst h
    cases op <;> simp_all [Token.strength, BinaryOp.strength]
  next => rfl

theorem operatorAt_self {op : BinaryOp} (hop : op ≠ .pow) :
    operatorAt (op.strength - 5) (.symbol (.arith op)) = some op := by
  cases op <;> simp_all [operatorAt, BinaryOp.strength]

section Loops

variable {n k : Nat} {rest : List Token}

theorem disjuncts_stop (h : Stops 1 rest) : disjuncts (n + 1) rest = some ([], rest) := by
  unfold disjuncts
  split
  · simp_all
  · exact absurd rfl (h.ne (Nat.le_refl 1))
  · simp_all

theorem conjuncts_stop (h : Stops 2 rest) : conjuncts (n + 1) rest = some ([], rest) := by
  unfold conjuncts
  split
  · simp_all
  · exact absurd rfl (h.ne (Nat.le_refl 2))
  · simp_all

theorem comparisonLinks_stop (h : Stops 4 rest) :
    comparisonLinks (n + 1) rest = some ([], rest) := by
  have hnone : comparisonAt rest = none := by
    unfold comparisonAt
    split <;> first | rfl | exact absurd rfl (h.ne (Nat.le_refl 4))
  simp [comparisonLinks, hnone]

theorem operands_stop {level : Nat} {e : Expr} (hlevel : level ≤ 5) (h : Stops (level + 5) rest) :
    operands (n + 1) level e rest = some (e, rest) := by
  cases rest with
  | nil => rfl
  | cons t ts => simp [operands, operatorAt_eq hlevel (h.ne (Nat.le_refl _))]

theorem trailers_stop {e : Expr} (h : Stops 13 rest) :
    trailers (n + 1) e rest = some (e, rest) := by
  unfold trailers
  split <;> first | rfl | exact absurd rfl (h.ne (Nat.le_refl 13)) | simp_all

end Loops

theorem readAt_binary {level : Nat} (hlevel : level ≤ 6) (n : Nat) (ts : List Token) :
    readAt (level + 5) n ts = binary n level ts := by
  match level, hlevel with
  | 0, _ | 1, _ | 2, _ | 3, _ | 4, _ | 5, _ | 6, _ => rfl

theorem readAt_zero (k : Nat) (ts : List Token) : readAt k 0 ts = none := by
  unfold readAt
  split <;> rfl

/-- What a reader has read is also read by the next weaker one, unless it is continued. -/
theorem readAt_weaker {k n : Nat} {t : Token} {ts rest : List Token} {e : Expr} (hk : k ≤ 12)
    (ht : t.opens (k + 1) = true) (hstop : Stops k rest)
    (h : readAt (k + 1) n (t :: ts) = some (e, rest)) :
    readAt k (n + 1) (t :: ts) = some (e, rest) := by
  cases n with
  | zero =>
    rw [readAt_zero] at h
    cases h
  | succ n =>
    by_cases hbinary : 5 ≤ k ∧ k ≤ 10
    · obtain ⟨level, rfl⟩ : ∃ level, k = level + 5 := ⟨k - 5, by omega⟩
      have hlevel : level ≤ 5 := by omega
      rw [Nat.add_right_comm, readAt_binary (by omega)] at h
      rw [readAt_binary (by omega), binary, if_neg (by simp [factorLevel]; omega), h]
      exact operands_stop hlevel hstop
    · match k, hk with
      | 0, _ =>
        have h : disjunction (n + 1) (t :: ts) = some (e, rest) := h
        show expression (n + 2) (t :: ts) = _
        simp only [expression, h, Option.bind_eq_bind, Option.bind_some]
        split
        · exact absurd rfl (hstop.ne (Nat.le_refl 0))
        · rfl
      | 1, _ =>
        have h : conjunction (n + 1) (t :: ts) = some (e, rest) := h
        show disjunction (n + 2) (t :: ts) = _
        simp [disjunction, h, disjuncts_stop hstop, joined]
      | 2, _ =>
        have h : inversion (n + 1) (t :: ts) = some (e, rest) := h
        show conjunction (n + 2) (t :: ts) = _
        simp [conjunction, h, conjuncts_stop hstop, joined]
      | 3, _ =>
        have h : comparison (n + 1) (t :: ts) = some (e, rest) := h
        show inversion (n + 2) (t :: ts) = _
        rw [inversion, h]
        intro _ ht'
        cases ht'
        cases ht
      | 4, _ =>
        have h : binary (n + 1) 0 (t :: ts) = some (e, rest) := h
        show comparison (n + 2) (t :: ts) = _
        simp [comparison, h, comparisonLinks_stop hstop, chained]
      | 11, _ =>
        have h : factor (n + 1) (t :: ts) = some (e, rest) := h
        show binary (n + 2) 6 (t :: ts) = _
        simp [binary, factorLevel, h]
      | 12, _ =>
        have h : primary (n + 1) (t :: ts) = some (e, rest) := h
        have hsign : signAt t = none := by
          unfold signAt
          split <;> first | rfl | cases ht
        show factor (n + 2) (t :: ts) = _
        simp only [factor, hsign, h, Option.bind_eq_bind, Option.bind_some]
        split
        · exact absurd rfl (hstop.ne (Nat.le_refl 12))
        · rfl

/-- Whether an expression is read back from its tokens by the reader of a strength. -/
def Reads (k : Nat) (e : Expr) : Prop :=
  ∀ n rest, Stops k rest → 24 * e.tokens.length ≤ n + k →
    readAt k n (e.tokens ++ rest) = some (e, rest)

theorem Expr.tokens_pos {e : Expr} {k : Nat} (h : e.fits k = true) : 0 < e.tokens.length := by
  obtain ⟨t, hhead, -⟩ := Expr.tokens_opens h
  obtain ⟨ts, hts⟩ := List.head?_eq_some_iff.1 hhead
  simp [hts]

/-- What is read with some strength is read with every smaller one. -/
theorem Reads.weaken {j k : Nat} {e : Expr} (hjk : j ≤ k) (hk : k ≤ 13) (hfits : e.fits k = true)
    (h : Reads k e) : Reads j e := by
  induction k with
  | zero =>
    obtain rfl : j = 0 := by omega
    exact h
  | succ k ih =>
    by_cases hj : j = k + 1
    · exact hj ▸ h
    · refine ih (by omega) (by omega) (Expr.fits_mono (Nat.le_succ k) hfits) ?_
      intro n rest hstop hn
      obtain ⟨t, hhead, ht⟩ := Expr.tokens_opens hfits
      obtain ⟨ts, hts⟩ : ∃ ts, e.tokens = t :: ts := List.head?_eq_some_iff.1 hhead
      obtain ⟨n, rfl⟩ : ∃ m, n = m + 1 := ⟨n - 1, by simp [hts] at hn; omega⟩
      have hread := h n rest (hstop.mono (Nat.le_succ k)) (by omega)
      rw [hts] at hread ⊢
      exact readAt_weaker (by omega) ht hstop hread

section Chains

variable {α : Type} {k : Nat} (loop : Nat → List Token → Option (List α × List Token))
    (link : α → Token)
  (operand : α → Expr)

/-- The tokens of operands behind linking tokens. -/
def chainTokens (as : List α) : List Token := as.flatMap fun a => link a :: (operand a).tokens

/-- The operand in front of a chain is stopped by the first linking token. -/
theorem Stops.chain {rest : List Token} (hrest : Stops k rest)
    (hlink : ∀ a, (link a).strength = some k)
    (as : List α) : Stops (k + 1) (chainTokens link operand as ++ rest) := by
  cases as with
  | nil => exact hrest.mono (Nat.le_succ k)
  | cons a as =>
    refine Stops.cons fun s hs => ?_
    rw [hlink a] at hs
    cases hs
    omega

/-- A loop reads a whole chain if each of its turns reads one operand. -/
theorem loop_reads (hstop : ∀ n rest, Stops k rest → loop (n + 1) rest = some ([], rest))
    (hturn : ∀ n a ts rest, readAt (k + 1) n ts = some (operand a, rest) →
      loop (n + 1) (link a :: ts) = (loop n rest).map fun (as, rest) => (a :: as, rest))
    (hlink : ∀ a, (link a).strength = some k) (as : List α)
    (hread : ∀ a ∈ as, Reads (k + 1) (operand a)) :
    ∀ n rest, Stops k rest → 24 * (chainTokens link operand as).length < n →
      loop n (chainTokens link operand as ++ rest) = some (as, rest) := by
  induction as with
  | nil =>
    intro n rest hrest hn
    obtain ⟨n, rfl⟩ : ∃ m, n = m + 1 := ⟨n - 1, by omega⟩
    exact hstop n rest hrest
  | cons a as ih =>
    intro n rest hrest hn
    obtain ⟨n, rfl⟩ : ∃ m, n = m + 1 := ⟨n - 1, by omega⟩
    have hchain : chainTokens link operand (a :: as) =
        link a :: ((operand a).tokens ++ chainTokens link operand as) := by simp [chainTokens]
    simp only [hchain, List.length_append, List.length_cons] at hn
    have ha := hread a List.mem_cons_self n _ (hrest.chain link operand hlink as) (by omega)
    have has := ih (fun b hb => hread b (List.mem_cons_of_mem a hb)) n rest hrest (by omega)
    rw [hchain, List.cons_append, List.append_assoc, hturn n a _ _ ha, has]
    rfl

/-- An operand with a chain behind it is read by a reader that joins what a loop has read. -/
theorem Reads.chain (join : Expr → List α → Expr)
    (hreader : ∀ n ts first more mid rest, readAt (k + 1) n ts = some (first, mid) →
      loop n mid = some (more, rest) → readAt k (n + 1) ts = some (join first more, rest))
    (hstop : ∀ n rest, Stops k rest → loop (n + 1) rest = some ([], rest))
    (hturn : ∀ n a ts rest, readAt (k + 1) n ts = some (operand a, rest) →
      loop (n + 1) (link a :: ts) = (loop n rest).map fun (as, rest) => (a :: as, rest))
    (hlink : ∀ a, (link a).strength = some k) (hk : k ≤ 13) {e : Expr} {as : List α}
    (hfits : e.fits (k + 1) = true) (he : Reads (k + 1) e)
    (has : ∀ a ∈ as, Reads (k + 1) (operand a))
    (htokens : (join e as).tokens = e.tokens ++ chainTokens link operand as) :
    Reads k (join e as) := by
  intro n rest hrest hn
  have hpos := Expr.tokens_pos hfits
  rw [htokens, List.length_append] at hn
  obtain ⟨n, rfl⟩ : ∃ m, n = m + 1 := ⟨n - 1, by omega⟩
  have hfirst := he n _ (hrest.chain link operand hlink as) (by omega)
  have hmore := loop_reads loop link operand hstop hturn hlink as has n rest hrest (by omega)
  rw [htokens, List.append_assoc]
  exact hreader n _ _ _ _ _ hfirst hmore

end Chains

theorem behind_eq (t : Token) (es : List Expr) : behind t es = chainTokens (fun _ => t) id es := by
  induction es with
  | nil => rfl
  | cons e es ih => simp [behind, chainTokens, ih]

theorem linked_eq (more : List (CompareOp × Expr)) :
    linked more = chainTokens (fun l => .symbol (.relation l.1)) Prod.snd more := by
  induction more with
  | nil => rfl
  | cons l more ih => simp [linked, chainTokens, ih]

theorem Reads.bool {op : BoolOp} {e a : Expr} {es : List Expr}
    (hfits : e.fits (op.strength + 1) = true)
    (he : Reads (op.strength + 1) e) (hes : ∀ b ∈ a :: es, Reads (op.strength + 1) b) :
    Reads op.strength (.bool op (e :: a :: es)) := by
  have htokens : (joined op e (a :: es)).tokens =
      e.tokens ++ chainTokens (fun _ => op.token) id (a :: es) := by
    simp [joined, Expr.tokens, separated, behind_eq]
  cases op with
  | or =>
    refine Reads.chain disjuncts (fun _ => .keyword .or) id (joined .or) ?_ (fun _ _ =>
      disjuncts_stop) ?_ (fun _ => rfl)
      (by decide) hfits he hes htokens
    · intro n ts first more mid rest (hfirst : conjunction n ts = _) hmore
      show disjunction (n + 1) ts = _
      simp [disjunction, hfirst, hmore]
    · intro n b ts rest (hb : conjunction n ts = _)
      simp only [disjuncts, hb, Option.bind_eq_bind, Option.bind_some]
      cases disjuncts n rest <;> rfl
  | and =>
    refine Reads.chain conjuncts (fun _ => .keyword .and) id (joined .and) ?_ (fun _ _ =>
      conjuncts_stop) ?_ (fun _ => rfl)
      (by decide) hfits he hes htokens
    · intro n ts first more mid rest (hfirst : inversion n ts = _) hmore
      show conjunction (n + 1) ts = _
      simp [conjunction, hfirst, hmore]
    · intro n b ts rest (hb : inversion n ts = _)
      simp only [conjuncts, hb, Option.bind_eq_bind, Option.bind_some]
      cases conjuncts n rest <;> rfl

theorem Reads.compare {a b : Expr} {op : CompareOp} {more : List (CompareOp × Expr)}
    (hfits : a.fits 5 = true)
    (ha : Reads 5 a) (hlinks : ∀ l ∈ (op, b) :: more, Reads 5 l.2) :
    Reads 4 (.compare a op b more) := by
  refine Reads.chain comparisonLinks (fun l => .symbol (.relation l.1)) Prod.snd chained ?_
    (fun _ _ => comparisonLinks_stop) ?_ (fun _ => rfl) (by decide) hfits ha hlinks ?_
  · intro n ts first more mid rest (hfirst : binary n 0 ts = _) hmore
    show comparison (n + 1) ts = _
    simp [comparison, hfirst, hmore]
  · intro n l ts rest (hl : binary n 0 ts = _)
    simp only [comparisonLinks, comparisonAt, hl, Option.bind_eq_bind, Option.bind_some]
    cases comparisonLinks n rest <;> rfl
  · simp [chained, Expr.tokens, linked_eq, chainTokens]

/-- Whether reading at a level of binary operators comes to the end of an expression and goes on
from there; what follows may continue it with the operators of the level. -/
def Leads (level : Nat) (e : Expr) : Prop :=
  ∀ n rest, Stops (level + 6) rest → 24 * e.tokens.length ≤ n + (level + 5) →
    ∃ m, n ≤ m + e.tokens.length ∧ binary n level (e.tokens ++ rest) = operands m level e rest

section Leads

variable {level : Nat} {e : Expr}

/-- A single operand of a level. -/
theorem Leads.of_reads (hlevel : level ≤ 5) (hfits : e.fits (level + 6) = true)
    (h : Reads (level + 6) e) : Leads level e := by
  intro n rest hstop hn
  have hpos := Expr.tokens_pos hfits
  obtain ⟨n, rfl⟩ : ∃ m, n = m + 1 := ⟨n - 1, by omega⟩
  have hread : readAt (level + 1 + 5) n _ = _ := h n rest hstop (by omega)
  rw [readAt_binary (by omega)] at hread
  refine ⟨n, by omega, ?_⟩
  rw [binary, if_neg (by simp only [factorLevel]; omega), hread]
  rfl

/-- One more operand of a level. -/
theorem Leads.binary {op : BinaryOp} {a b : Expr} (hop : op ≠ .pow) (ha : Leads (op.strength - 5) a)
    (hb : Reads (op.strength + 1) b) : Leads (op.strength - 5) (.binary op a b) := by
  have hlow : 5 ≤ op.strength ∧ op.strength ≤ 10 := by cases op <;> simp_all [BinaryOp.strength]
  intro n rest hstop hn
  have htokens : (Expr.binary op a b).tokens = a.tokens ++ .symbol (.arith op) :: b.tokens := by
    simp only [Expr.tokens]
  rw [htokens, List.length_append, List.length_cons] at hn ⊢
  have hnext : Stops (op.strength - 5 + 6) (.symbol (.arith op) :: (b.tokens ++ rest)) := by
    refine Stops.cons fun s hs => ?_
    cases hs
    omega
  obtain ⟨m, hm, hleft⟩ := ha n _ hnext (by omega)
  obtain ⟨m, rfl⟩ : ∃ l, m = l + 1 := ⟨m - 1, by omega⟩
  have hright := hb m rest (hstop.mono (by omega)) (by omega)
  rw [show op.strength + 1 = (op.strength - 5 + 1) + 5 by omega, readAt_binary (by omega)] at hright
  refine ⟨m, by omega, ?_⟩
  rw [List.append_assoc, List.cons_append, hleft, operands, operatorAt_self hop]
  simp only [hright, Option.bind_eq_bind, Option.bind_some]

/-- All operands of a level have been read if its operators do not continue. -/
theorem Leads.reads (hlevel : level ≤ 5) (hpos : 0 < e.tokens.length) (h : Leads level e) :
    Reads (level + 5) e := by
  intro n rest hstop hn
  obtain ⟨m, hm, hlead⟩ := h n rest (hstop.mono (by omega)) hn
  obtain ⟨m, rfl⟩ : ∃ l, m = l + 1 := ⟨m - 1, by omega⟩
  rw [readAt_binary (by omega), hlead, operands_stop hlevel hstop]

end Leads

/-- A sign is read in front of what it applies to. -/
theorem Reads.unary {op : UnaryOp} {e : Expr} (hop : op ≠ .not) (h : Reads 12 e) :
    Reads 12 (.unary op e) := by
  intro n rest hstop hn
  simp only [Expr.tokens, List.length_cons] at hn
  obtain ⟨n, rfl⟩ : ∃ m, n = m + 1 := ⟨n - 1, by omega⟩
  have hread : factor n _ = _ := h n rest hstop (by omega)
  have hsign : signAt op.token = some op := by cases op <;> simp_all [signAt, UnaryOp.token]
  show factor (n + 1) _ = _
  simp [Expr.tokens, factor, hsign, hread]

/-- Whether reading comes to the end of an expression that is no operation, and goes on from
there. -/
def LeadsPrimary (e : Expr) : Prop :=
  ∀ n rest, 24 * e.tokens.length ≤ n + 13 →
    ∃ m, n ≤ m + e.tokens.length ∧ primary n (e.tokens ++ rest) = trailers m e rest

theorem LeadsPrimary.reads {e : Expr} (hpos : 0 < e.tokens.length) (h : LeadsPrimary e) :
    Reads 13 e := by
  intro n rest hstop hn
  obtain ⟨m, hm, hlead⟩ := h n rest hn
  obtain ⟨m, rfl⟩ : ∃ l, m = l + 1 := ⟨m - 1, by omega⟩
  show primary n _ = _
  rw [hlead, trailers_stop hstop]

theorem LeadsPrimary.of_atom {e : Expr} (hpos : 0 < e.tokens.length)
    (h : ∀ n rest, 24 * e.tokens.length ≤ n + 14 → atom n (e.tokens ++ rest) = some (e, rest)) :
    LeadsPrimary e := by
  intro n rest hn
  obtain ⟨n, rfl⟩ : ∃ m, n = m + 1 := ⟨n - 1, by omega⟩
  refine ⟨n, by omega, ?_⟩
  simp [primary, h n rest (by omega)]

theorem LeadsPrimary.member {e : Expr} {name : String} (h : LeadsPrimary e) :
    LeadsPrimary (.member e name) := by
  intro n rest hn
  simp only [Expr.tokens, List.length_append, List.length_cons, List.length_nil] at hn ⊢
  obtain ⟨m, hm, hlead⟩ := h n (.symbol .dot :: .name name :: rest) (by omega)
  obtain ⟨m, rfl⟩ : ∃ l, m = l + 1 := ⟨m - 1, by omega⟩
  refine ⟨m, by omega, ?_⟩
  simp [hlead, trailers]

/-- What opens an expression is no mark of another kind of argument. -/
theorem arguments_eq {n : Nat} {t : Token} {ts : List Token} (ht : t.opens 0 = true)
    (hts : ts.head? ≠ some (.symbol .equals)) :
    arguments (n + 1) .plain (t :: ts) = (expression n (t :: ts)).bind fun (e, ts) =>
      (moreArguments n .plain ts).bind fun (rest, ts) =>
        some ({ rest with positional := e :: rest.positional }, ts) := by
  rw [arguments]
  · rfl
  · rintro _ ⟨⟩
    cases ht
  · rintro _ ⟨⟩
    cases ht
  · rintro _ ⟨⟩
    cases ht
  · rintro _ _ ⟨⟩
    exact hts rfl

theorem item_eq {n : Nat} {t : Token} {ts : List Token} (ht : t.opens 0 = true) :
    item (n + 1) (t :: ts) = expression n (t :: ts) := by
  rw [item]
  rintro _ ⟨⟩
  cases ht

/-- The tokens behind the first expression of a list that ends with a closing symbol. -/
theorem Stops.separator {s : Symbol} (hs : (Token.symbol s).strength = none) (es : List Expr)
    (rest : List Token) : Stops 0 (behind (.symbol .comma) es ++ .symbol s :: rest) := by
  cases es with
  | nil =>
    refine Stops.cons fun k hk => ?_
    rw [hs] at hk
    cases hk
  | cons e es =>
    simp only [behind, List.cons_append]
    exact Stops.cons fun k hk => by cases hk

theorem separated_cons (t : Token) (e : Expr) (es : List Expr) :
    behind t (e :: es) = t :: separated t (e :: es) := by
  simp [behind, separated]

/-- Arguments are read up to the closing parenthesis. -/
theorem arguments_read : (args : List Expr) → areFit 0 args = true → (∀ a ∈ args, Reads 0 a) →
    ∀ n rest, 24 * (separated (.symbol .comma) args).length < n →
      arguments n .plain (separated (.symbol .comma) args ++ .symbol .closeParen :: rest) =
        some (⟨args, []⟩, rest)
  | [], _, _, n, rest, hn => by
    obtain ⟨n, rfl⟩ : ∃ m, n = m + 1 := ⟨n - 1, by omega⟩
    simp [separated, arguments]
  | a :: args, hfits, hreads, n, rest, hn => by
    simp only [areFit, Bool.and_eq_true] at hfits
    simp only [separated, List.length_append] at hn
    have hpos := Expr.tokens_pos hfits.1
    obtain ⟨n, rfl⟩ : ∃ m, n = m + 2 := ⟨n - 2, by omega⟩
    have hread : expression (n + 1) _ = _ :=
      hreads a List.mem_cons_self (n + 1) _
        (Stops.separator (s := .closeParen) rfl args rest) (by omega)
    have hmore :
        moreArguments (n + 1) .plain (behind (.symbol .comma) args ++ .symbol .closeParen :: rest) =
        some (⟨args, []⟩, rest) := by
      cases args with
      | nil => simp [behind, moreArguments]
      | cons b args =>
        have ih :=
          arguments_read (b :: args) hfits.2 (fun c hc =>
            hreads c (List.mem_cons_of_mem a hc)) n rest
          (by simp only [separated_cons, List.length_cons] at hn; omega)
        rw [separated_cons, List.cons_append, moreArguments, ih]
    obtain ⟨t, hhead, ht⟩ := Expr.tokens_opens hfits.1
    obtain ⟨ts, hts⟩ := List.head?_eq_some_iff.1 hhead
    have hequals : (ts ++ (behind (.symbol .comma) args ++ .symbol .closeParen :: rest)).head? ≠
        some (.symbol .equals) := by
      have hmem := a.equals_not_mem
      rw [hts] at hmem
      cases ts with
      | nil => cases args <;> simp [behind]
      | cons u us => simpa [eq_comm] using fun h : u = .symbol .equals => hmem (by simp [h])
    rw [separated, List.append_assoc]
    rw [hts] at hread ⊢
    rw [List.cons_append, arguments_eq ht hequals]
    simp only [List.cons_append] at hread
    simp [hread, hmore]

/-- The items of a list are read up to the closing bracket. -/
theorem items_read : (es : List Expr) → areFit 0 es = true → (∀ e ∈ es, Reads 0 e) →
    ∀ n rest, 24 * (separated (.symbol .comma) es).length + 2 ≤ n →
      items n .closeBracket (separated (.symbol .comma) es ++ .symbol .closeBracket :: rest) =
        some (es, rest)
  | [], _, _, n, rest, hn => by
    obtain ⟨n, rfl⟩ : ∃ m, n = m + 1 := ⟨n - 1, by omega⟩
    simp [separated, items]
  | e :: es, hfits, hreads, n, rest, hn => by
    simp only [areFit, Bool.and_eq_true] at hfits
    simp only [separated, List.length_append] at hn
    have hpos := Expr.tokens_pos hfits.1
    obtain ⟨n, rfl⟩ : ∃ m, n = m + 2 := ⟨n - 2, by omega⟩
    have hread : expression n _ = _ :=
      hreads e List.mem_cons_self n _ (Stops.separator (s := .closeBracket) rfl es rest) (by omega)
    obtain ⟨t, hhead, ht⟩ := Expr.tokens_opens hfits.1
    obtain ⟨ts, hts⟩ := List.head?_eq_some_iff.1 hhead
    have hclose : t ≠ .symbol .closeBracket := by
      rintro rfl
      cases ht
    rw [separated, List.append_assoc]
    rw [hts, List.cons_append] at hread ⊢
    rw [items, if_neg (by simpa using hclose), item_eq ht, hread]
    cases es with
    | nil => simp [behind]
    | cons f es =>
      have ih :=
        items_read (f :: es) hfits.2 (fun c hc => hreads c (List.mem_cons_of_mem e hc)) (n + 1) rest
        (by simp only [separated_cons, List.length_cons] at hn; omega)
      simp [separated_cons, ih]

/-- An index is read up to the closing bracket. -/
theorem subscript_read {i : Expr} (hfits : i.fits 0 = true) (h : Reads 0 i) {n : Nat}
    (rest : List Token) (hn : 24 * i.tokens.length ≤ n) :
    subscript (n + 2) (i.tokens ++ .symbol .closeBracket :: rest) = some (i, rest) := by
  have hread : expression n _ = _ := h n _ (Stops.separator (s := .closeBracket) rfl [] rest) hn
  obtain ⟨t, hhead, ht⟩ := Expr.tokens_opens hfits
  obtain ⟨ts, hts⟩ := List.head?_eq_some_iff.1 hhead
  have hindex : index (n + 1) (i.tokens ++ .symbol .closeBracket :: rest) =
      some (i, .symbol .closeBracket :: rest) := by
    simp only [behind, List.nil_append] at hread
    rw [hts, List.cons_append] at hread ⊢
    rw [index]
    · simp [hread]
    · rintro _ ⟨⟩
      cases ht
    · rintro _ ⟨⟩
      cases ht
  simp only [subscript, hindex, Option.bind_eq_bind, Option.bind_some]
  cases i <;> first | rfl | simp [Expr.fits] at hfits

theorem LeadsPrimary.call {f : Expr} {args : List Expr} (h : LeadsPrimary f)
    (hfits : areFit 0 args = true)
    (hargs : ∀ a ∈ args, Reads 0 a) : LeadsPrimary (.call f args []) := by
  intro n rest hn
  simp only [Expr.tokens, List.length_append, List.length_cons, List.length_nil] at hn ⊢
  obtain ⟨m, hm, hlead⟩ :=
    h n (.symbol .openParen :: (separated (.symbol .comma) args ++ .symbol .closeParen :: rest))
      (by omega)
  obtain ⟨m, rfl⟩ : ∃ l, m = l + 1 := ⟨m - 1, by omega⟩
  refine ⟨m, by omega, ?_⟩
  simp [hlead, trailers, arguments_read args hfits hargs m rest (by omega)]

theorem LeadsPrimary.subscript {e i : Expr} (h : LeadsPrimary e) (hfits : i.fits 0 = true)
    (hi : Reads 0 i) : LeadsPrimary (.subscript e i) := by
  intro n rest hn
  simp only [Expr.tokens, List.length_append, List.length_cons, List.length_nil] at hn ⊢
  obtain ⟨m, hm, hlead⟩ :=
    h n (.symbol .openBracket :: (i.tokens ++ .symbol .closeBracket :: rest)) (by omega)
  obtain ⟨m, rfl⟩ : ∃ l, m = l + 3 := ⟨m - 3, by omega⟩
  refine ⟨m + 2, by omega, ?_⟩
  simp [hlead, trailers, subscript_read hfits hi rest (n := m) (by omega)]

theorem LeadsPrimary.list {es : List Expr} (hfits : areFit 0 es = true)
    (hes : ∀ e ∈ es, Reads 0 e) :
    LeadsPrimary (.list es) := by
  refine LeadsPrimary.of_atom (by simp [Expr.tokens]) fun n rest hn => ?_
  simp only [Expr.tokens, List.length_append, List.length_cons, List.length_nil] at hn
  obtain ⟨n, rfl⟩ : ∃ m, n = m + 1 := ⟨n - 1, by omega⟩
  simp [Expr.tokens, atom, items_read es hfits hes n rest (by omega)]

/-- How an expression is read back: with every strength that it fits; coming to its end at every
level of binary operators that it fits; and coming to its end as no operation if it fits there. -/
structure ReadsBack (e : Expr) : Prop where
  reads : ∀ k, e.fits k = true → Reads k e
  leads : ∀ level ≤ 5, e.fits (level + 5) = true → Leads level e
  primary : e.fits 13 = true → LeadsPrimary e

namespace ReadsBack

variable {e : Expr} {s : Nat}

/-- An expression that is read with its own strength, which is not that of a binary operator. -/
theorem of_reads (hs : s ≤ 4 ∨ 12 ≤ s) (hle : s ≤ 13)
    (hown : ∀ k, e.fits k = true → k ≤ s ∧ e.fits s = true) (h : e.fits s = true → Reads s e)
    (hprimary : e.fits 13 = true → LeadsPrimary e) : ReadsBack e := by
  refine ⟨?_, ?_, hprimary⟩
  · intro k hk
    exact (h (hown k hk).2).weaken (hown k hk).1 hle (hown k hk).2
  · intro level hlevel hfits
    obtain ⟨hs', hself⟩ := hown _ hfits
    have hnext : level + 6 ≤ s := by omega
    exact Leads.of_reads hlevel (Expr.fits_mono hnext hself) ((h hself).weaken hnext hle hself)

/-- An expression that is no operation. -/
theorem of_primary (hown : ∀ k, e.fits k = true → k ≤ 13 ∧ e.fits 13 = true)
    (h : e.fits 13 = true → LeadsPrimary e) : ReadsBack e :=
  of_reads (.inr (by decide)) (Nat.le_refl 13) hown (fun hfits =>
    (h hfits).reads (Expr.tokens_pos hfits)) h

/-- An operation with a sign, a comparison or a boolean operator. -/
theorem of_operation (hs : s ≤ 4 ∨ s = 12) (hown : ∀ k, e.fits k = true → k ≤ s ∧ e.fits s = true)
    (h : e.fits s = true → Reads s e) : ReadsBack e := by
  refine of_reads (by omega) (by omega) hown h fun hfits => ?_
  have hle := (hown 13 hfits).1
  omega

theorem binary {op : BinaryOp} {a b : Expr} (ha : ReadsBack a) (hb : ReadsBack b) :
    ReadsBack (.binary op a b) := by
  have hleads : ∀ k, (Expr.binary op a b).fits k = true → k ≤ op.strength ∧ 5 ≤ op.strength ∧
      op.strength ≤ 10 ∧ (Expr.binary op a b).fits op.strength = true ∧
      Leads (op.strength - 5) (.binary op a b) := by
    intro k h
    simp only [Expr.fits, Bool.and_eq_true, decide_eq_true_eq, bne_iff_ne] at h
    obtain ⟨⟨⟨hk, hop⟩, hfa⟩, hfb⟩ := h
    have hrange : 5 ≤ op.strength ∧ op.strength ≤ 10 := by cases op <;> simp_all [BinaryOp.strength]
    have hself : op.strength - 5 + 5 = op.strength := by omega
    refine ⟨hk, hrange.1, hrange.2, by simp [Expr.fits, hop, hfa, hfb], ?_⟩
    exact Leads.binary hop (ha.leads _ (by omega) (hself ▸ hfa)) (hb.reads _ hfb)
  have hreads : ∀ k, (Expr.binary op a b).fits k = true → Reads k (.binary op a b) := by
    intro k h
    obtain ⟨hk, hlow, hhigh, hself, hlead⟩ := hleads k h
    have hread := hlead.reads (by omega) (Expr.tokens_pos h)
    rw [Nat.sub_add_cancel hlow] at hread
    exact hread.weaken hk (by omega) hself
  refine ⟨hreads, ?_, ?_⟩
  · intro level hlevel h
    obtain ⟨hk, hlow, hhigh, hself, hlead⟩ := hleads _ h
    by_cases hop : op.strength = level + 5
    · rwa [hop] at hlead
    · have hnext := Expr.fits_mono (j := level + 6) (by omega) hself
      exact Leads.of_reads hlevel hnext (hreads _ hnext)
  · intro h
    obtain ⟨hk, hlow, hhigh, hself, hlead⟩ := hleads 13 h
    omega

end ReadsBack

mutual

theorem reads_back : (e : Expr) → ReadsBack e
  | .name id => by
    refine .of_primary (by simp [Expr.fits]) fun _ => .of_atom (by simp [Expr.tokens])
      fun n rest hn => ?_
    simp only [Expr.tokens, List.length_cons, List.length_nil] at hn
    obtain ⟨n, rfl⟩ : ∃ m, n = m + 1 := ⟨n - 1, by omega⟩
    simp [Expr.tokens, atom]
  | .constant c => by
    refine .of_primary (by simp [Expr.fits]) fun _ => .of_atom (by simp [Expr.tokens])
      fun n rest hn => ?_
    simp only [Expr.tokens, List.length_cons, List.length_nil] at hn
    obtain ⟨n, rfl⟩ : ∃ m, n = m + 1 := ⟨n - 1, by omega⟩
    simp [Expr.tokens, atom]
  | .member e name => by
    refine .of_primary (by simp +contextual [Expr.fits]) fun h => ?_
    simp only [Expr.fits, Bool.and_eq_true] at h
    exact .member ((reads_back e).primary h.2)
  | .subscript e i => by
    refine .of_primary (by simp +contextual [Expr.fits]) fun h => ?_
    simp only [Expr.fits, Bool.and_eq_true] at h
    exact .subscript ((reads_back e).primary h.1.2) h.2 ((reads_back i).reads 0 h.2)
  | .call f args keywords => by
    refine .of_primary (by simp +contextual [Expr.fits]) fun h => ?_
    simp only [Expr.fits, Bool.and_eq_true, List.isEmpty_iff] at h
    obtain ⟨⟨⟨-, hf⟩, hargs⟩, rfl⟩ := h
    exact .call ((reads_back f).primary hf) hargs (all_read 0 args hargs)
  | .binary op a b => .binary (reads_back a) (reads_back b)
  | .unary op e => by
    refine .of_operation (.inr rfl) (by simp +contextual [Expr.fits]) fun h => ?_
    simp only [Expr.fits, Bool.and_eq_true, bne_iff_ne] at h
    exact .unary h.1.2 ((reads_back e).reads 12 h.2)
  | .bool op es => by
    refine .of_operation (s := op.strength) (.inl (by cases op <;> decide))
      (by simp +contextual [Expr.fits])
      fun h => ?_
    simp only [Expr.fits, Bool.and_eq_true] at h
    obtain ⟨⟨-, hlength⟩, hes⟩ := h
    have hreads := all_read _ es hes
    match es, hlength with
    | e :: a :: es, _ =>
      simp only [areFit, Bool.and_eq_true] at hes
      exact .bool hes.1 (hreads e List.mem_cons_self) fun b hb =>
        hreads b (List.mem_cons_of_mem e hb)
  | .compare a op b more => by
    refine .of_operation (s := 4) (.inl (by decide)) (by simp +contextual [Expr.fits]) fun h => ?_
    simp only [Expr.fits, Bool.and_eq_true] at h
    obtain ⟨⟨⟨-, ha⟩, hb⟩, hmore⟩ := h
    refine .compare ha ((reads_back a).reads 5 ha) fun l hl => ?_
    rcases List.mem_cons.1 hl with rfl | hl
    · exact (reads_back b).reads 5 hb
    · exact links_read more hmore l hl
  | .list es => by
    refine .of_primary (by simp +contextual [Expr.fits]) fun h => ?_
    simp only [Expr.fits, Bool.and_eq_true] at h
    exact .list h.2 (all_read 0 es h.2)
  | .incomplete .. | .tuple _ | .set _ | .dict _ | .conditional .. | .starred _ | .slice ..
  | .other _ | .holder .. =>
    .of_primary (by simp [Expr.fits]) (by simp [Expr.fits])

theorem all_read (k : Nat) : (es : List Expr) → areFit k es = true → ∀ e ∈ es, Reads k e
  | [], _ => by simp
  | e :: es, h => by
    simp only [areFit, Bool.and_eq_true] at h
    intro a ha
    rcases List.mem_cons.1 ha with ha | ha
    · rw [ha]
      exact (reads_back e).reads k h.1
    · exact all_read k es h.2 a ha

theorem links_read :
    (more : List (CompareOp × Expr)) → linksFit more = true → ∀ l ∈ more, Reads 5 l.2
  | [], _ => by simp
  | (_, e) :: more, h => by
    simp only [linksFit, Bool.and_eq_true] at h
    intro l hl
    rcases List.mem_cons.1 hl with hl | hl
    · rw [hl]
      exact (reads_back e).reads 5 h.1
    · exact links_read more h.2 l hl

end

/-- What opens an expression is no word that begins another statement. -/
theorem statement_eq {n : Nat} {t : Token} {ts : List Token} (ht : t.opens 0 = true) :
    statement n (t :: ts) = expressionStatement n (t :: ts) := by
  cases t with
  | keyword word => cases ht
  | _ => rfl

/-- The tokens of a grouped expression are one item. -/
theorem item_tokens {e : Expr} (h : e.isGrouped = true) {depth : Nat}
    (hdepth : depthFor e.tokens ≤ depth + 1) :
    item depth e.tokens = some (e, []) := by
  obtain ⟨t, hhead, ht⟩ := Expr.tokens_opens h
  obtain ⟨ts, hts⟩ := List.head?_eq_some_iff.1 hhead
  obtain ⟨n, rfl⟩ : ∃ n, depth = n + 1 := ⟨depth - 1, by simp only [depthFor] at hdepth; omega⟩
  have hread :=
    (reads_back e).reads 0 h n [] (by simp [Stops]) (by simp only [depthFor] at hdepth; omega)
  rw [List.append_nil, hts] at hread
  rw [hts, item_eq ht]
  exact hread

/-- The tokens of a grouped expression are a single statement. -/
theorem statements_tokens {e : Expr} (h : e.isGrouped = true) {depth : Nat}
    (hdepth : depthFor e.tokens ≤ depth) :
    statements depth e.tokens = some [.expression e] := by
  obtain ⟨t, hhead, ht⟩ := Expr.tokens_opens h
  obtain ⟨ts, hts⟩ := List.head?_eq_some_iff.1 hhead
  obtain ⟨n, rfl⟩ : ∃ n, depth = n + 1 := ⟨depth - 1, by simp only [depthFor] at hdepth; omega⟩
  have hread := item_tokens h hdepth
  rw [hts] at hread ⊢
  have hstatement : statement n (t :: ts) = some (.expression e, []) := by
    simp [statement_eq ht, expressionStatement, bareTuple, hread]
  simp [statements, hstatement]

end TaxFlow.Formula

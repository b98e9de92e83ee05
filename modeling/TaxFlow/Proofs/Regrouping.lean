import TaxFlow.Proofs.Reading

/-!
# Regrouping by strength

Operands and operators in a row, without any grouping, and the expression that a row is read as: it
is cut at its weakest operators first. An expression that is written without parentheses is read as
its row regrouped.
-/
namespace TaxFlow.Formula

/-- The operators that stand between two operands. -/
inductive Infix where
  | bool (op : BoolOp)
  | relation (op : CompareOp)
  | arith (op : BinaryOp)
  deriving DecidableEq, Repr

namespace Infix

def strength : Infix → Nat
  | bool op => op.strength
  | relation _ => 4
  | arith op => op.strength

def token : Infix → Token
  | bool op => op.token
  | relation op => .symbol (.relation op)
  | arith op => .symbol (.arith op)

def relation? : Infix → Option CompareOp
  | relation op => some op
  | _ => none

end Infix

/-- Operands with operators between them. -/
structure Row where
  first : Expr
  more : List (Infix × Expr) := []
  deriving Repr

namespace Row

def tokens (r : Row) : List Token := r.first.tokens ++ chainTokens (·.1.token) Prod.snd r.more

/-- Two rows with an operator between them. -/
def join (r : Row) (op : Infix) (s : Row) : Row := ⟨r.first, r.more ++ (op, s.first) :: s.more⟩

/-- The rows between the operators of a strength. -/
def cut (k : Nat) (first : Expr) : List (Infix × Expr) → Row × List (Infix × Row)
  | [] => (⟨first, []⟩, [])
  | (op, e) :: more =>
    let (row, rows) := cut k e more
    if op.strength = k then (⟨first, []⟩, (op, row) :: rows)
    else (⟨first, (op, row.first) :: row.more⟩, rows)

/-- Operands of one strength as a single expression: binary operators are taken together from the
left, the others are one node. -/
def combine (left : Expr) : List (Infix × Expr) → Expr
  | [] => left
  | (.arith op, e) :: more => combine (.binary op left e) more
  | (.bool op, e) :: more => .bool op (left :: e :: more.map Prod.snd)
  | (.relation op, e) :: more =>
    .compare left op e (more.filterMap fun (o, e) => o.relation?.map fun op => (op, e))

/-- A row as an expression, cut at operators of the given strengths in turn. -/
def group : List Nat → Row → Expr
  | [], r => r.first
  | k :: ks, r =>
    let (row, rows) := cut k r.first r.more
    combine (row.group ks) (rows.map fun (op, r) => (op, r.group ks))

/-- Whether the operators of a row have some of the given strengths, and its operands none. -/
def Over (ks : List Nat) (r : Row) : Prop :=
  r.first.fits 12 = true ∧ ∀ l ∈ r.more, l.1.strength ∈ ks ∧ l.2.fits 12 = true

theorem tokens_join (r : Row) (op : Infix) (s : Row) :
    (r.join op s).tokens = r.tokens ++ op.token :: s.tokens := by
  simp [tokens, join, chainTokens]

theorem Over.join {ks : List Nat} {r s : Row} {op : Infix} (hr : r.Over ks) (hop : op.strength ∈ ks)
    (hs : s.Over ks) : (r.join op s).Over ks := by
  refine ⟨hr.1, fun l hl => ?_⟩
  simp only [Row.join, List.mem_append, List.mem_cons] at hl
  rcases hl with hl | rfl | hl
  · exact hr.2 l hl
  · exact ⟨hop, hs.1⟩
  · exact hs.2 l hl

/-- Cutting keeps the tokens. -/
theorem cut_tokens (k : Nat) (first : Expr) (more : List (Infix × Expr)) :
    (cut k first more).1.tokens ++ ((cut k first more).2.flatMap fun l => l.1.token :: l.2.tokens) =
      Row.tokens ⟨first, more⟩ := by
  induction more generalizing first with
  | nil => simp [cut, tokens, chainTokens]
  | cons l more ih =>
    obtain ⟨op, e⟩ := l
    have ih := ih e
    by_cases hop : op.strength = k
    · simp_all [cut, tokens, chainTokens]
    · simp_all [cut, tokens, chainTokens]

/-- The pieces of a row have no operators of the strength at which it is cut. -/
theorem cut_over {k : Nat} {ks : List Nat} {first : Expr} {more : List (Infix × Expr)}
    (h : Row.Over (k :: ks) ⟨first, more⟩) :
    (cut k first more).1.Over ks ∧ ∀ l ∈ (cut k first more).2, l.1.strength = k ∧ l.2.Over ks := by
  induction more generalizing first with
  | nil => exact ⟨⟨h.1, by simp [cut]⟩, by simp [cut]⟩
  | cons l more ih =>
    obtain ⟨op, e⟩ := l
    have hl := h.2 (op, e) List.mem_cons_self
    have hrest : Row.Over (k :: ks) ⟨e, more⟩ :=
      ⟨hl.2, fun l hm => h.2 l (List.mem_cons_of_mem _ hm)⟩
    obtain ⟨hrow, hrows⟩ := ih hrest
    by_cases hop : op.strength = k
    · simp only [cut, if_pos hop]
      refine ⟨⟨h.1, by simp⟩, ?_⟩
      intro l hm
      rcases List.mem_cons.1 hm with rfl | hm
      · exact ⟨hop, hrow⟩
      · exact hrows l hm
    · simp only [cut, if_neg hop]
      refine ⟨⟨h.1, ?_⟩, hrows⟩
      intro l hm
      rcases List.mem_cons.1 hm with rfl | hm
      · exact ⟨by simpa [hop] using hl.1, hrow.1⟩
      · exact hrow.2 l hm

section Combine

variable {k : Nat} {left : Expr} {more : List (Infix × Expr)}

theorem eq_bool {op : BoolOp} {o : Infix} (h : o.strength = op.strength) : o = .bool op := by
  cases o with
  | bool o => cases o <;> cases op <;> simp_all [Infix.strength, BoolOp.strength]
  | relation o => cases op <;> simp [Infix.strength, BoolOp.strength] at h
  | arith o =>
    cases o <;> cases op <;> simp [Infix.strength, BoolOp.strength, BinaryOp.strength] at h

theorem eq_relation {o : Infix} (h : o.strength = 4) : ∃ op, o = .relation op := by
  cases o with
  | relation o => exact ⟨o, rfl⟩
  | bool o => cases o <;> simp [Infix.strength, BoolOp.strength] at h
  | arith o => cases o <;> simp [Infix.strength, BinaryOp.strength] at h

theorem eq_arith {o : Infix} {op : BinaryOp} (h : o.strength = op.strength) :
    ∃ op, o = .arith op := by
  cases o with
  | arith o => exact ⟨o, rfl⟩
  | relation o => cases op <;> simp [Infix.strength, BinaryOp.strength] at h
  | bool o =>
    cases o <;> cases op <;> simp [Infix.strength, BoolOp.strength, BinaryOp.strength] at h

theorem exists_map_eq {α β : Type} {f : β → α} {as : List α} (h : ∀ a ∈ as, ∃ b, a = f b) :
    ∃ bs : List β, as = bs.map f := by
  induction as with
  | nil => exact ⟨[], rfl⟩
  | cons a as ih =>
    obtain ⟨b, rfl⟩ := h a List.mem_cons_self
    obtain ⟨bs, rfl⟩ := ih fun a ha => h a (List.mem_cons_of_mem _ ha)
    exact ⟨b :: bs, rfl⟩

/-- Operators of one strength are of one kind. -/
theorem one_kind (h : ∀ l ∈ more, l.1.strength = k) :
    more = [] ∨ (∃ op e es, k = BoolOp.strength op ∧ more = (e :: es).map fun e =>
      (Infix.bool op, e)) ∨
      (∃ (l : CompareOp × Expr) (ls : List (CompareOp × Expr)),
        k = 4 ∧ more = (l :: ls).map fun l => (Infix.relation l.1, l.2)) ∨
      ∃ ls : List (BinaryOp × Expr), more = ls.map fun l => (Infix.arith l.1, l.2) := by
  cases more with
  | nil => exact .inl rfl
  | cons l more =>
    obtain ⟨o, e⟩ := l
    have ho : o.strength = k := h (o, e) List.mem_cons_self
    have hmore : ∀ l ∈ more, l.1.strength = k := fun l hl => h l (List.mem_cons_of_mem _ hl)
    cases o with
    | bool op =>
      obtain ⟨es, rfl⟩ : ∃ es : List Expr, more = es.map fun e => (Infix.bool op, e) :=
        exists_map_eq fun l hl => ⟨l.2, Prod.ext (eq_bool ((hmore l hl).trans ho.symm)) rfl⟩
      exact .inr (.inl ⟨op, e, es, ho.symm, rfl⟩)
    | relation op =>
      obtain ⟨ls, rfl⟩ : ∃ ls : List (CompareOp × Expr), more = ls.map fun l =>
        (Infix.relation l.1, l.2) := by
        refine exists_map_eq fun l hl => ?_
        obtain ⟨op, hop⟩ := eq_relation ((hmore l hl).trans ho.symm)
        exact ⟨(op, l.2), Prod.ext hop rfl⟩
      exact .inr (.inr (.inl ⟨(op, e), ls, ho.symm, rfl⟩))
    | arith op =>
      obtain ⟨ls, rfl⟩ : ∃ ls : List (BinaryOp × Expr), more = ls.map fun l =>
        (Infix.arith l.1, l.2) := by
        refine exists_map_eq fun l hl => ?_
        obtain ⟨op, hop⟩ := eq_arith ((hmore l hl).trans ho.symm)
        exact ⟨(op, l.2), Prod.ext hop rfl⟩
      exact .inr (.inr (.inr ⟨(op, e) :: ls, rfl⟩))

theorem combine_bools (op : BoolOp) (left e : Expr) (es : List Expr) :
    combine left ((e :: es).map fun e => (Infix.bool op, e)) = .bool op (left :: e :: es) := by
  simp [combine, Function.comp_def]

theorem combine_relations (left : Expr) (l : CompareOp × Expr) (ls : List (CompareOp × Expr)) :
    combine left ((l :: ls).map fun l => (Infix.relation l.1, l.2)) = .compare left l.1 l.2 ls := by
  have hlinks : (ls.map fun l => (Infix.relation l.1, l.2)).filterMap
      (fun (o, e) => o.relation?.map fun op => (op, e)) = ls := by
    rw [List.filterMap_map]
    exact List.filterMap_some
  rw [List.map_cons, combine, hlinks]

/-- Combining keeps the tokens. -/
theorem combine_tokens (h : ∀ l ∈ more, l.1.strength = k) :
    (combine left more).tokens = left.tokens ++ chainTokens (·.1.token) Prod.snd more := by
  rcases one_kind h with rfl | ⟨op, e, es, -, rfl⟩ | ⟨l, ls, -, rfl⟩ | ⟨ls, rfl⟩
  · simp [combine, chainTokens]
  · rw [combine_bools]
    simp [Expr.tokens, separated, behind_eq, chainTokens, List.flatMap_map, Infix.token]
  · rw [combine_relations]
    simp [Expr.tokens, linked_eq, chainTokens, List.flatMap_map, Infix.token]
  · induction ls generalizing left with
    | nil => simp [combine, chainTokens]
    | cons l ls ih =>
      simp only [List.map_cons, combine]
      rw [ih fun l hl => h l (List.mem_cons_of_mem _ hl)]
      simp [Expr.tokens, chainTokens, Infix.token]

theorem linksFit_iff {ls : List (CompareOp × Expr)} :
    linksFit ls = true ↔ ∀ l ∈ ls, l.2.fits 5 = true := by
  induction ls with
  | nil => simp [linksFit]
  | cons l ls ih => simp [linksFit, ih]

theorem areFit_iff {es : List Expr} : areFit k es = true ↔ ∀ e ∈ es, e.fits k = true := by
  induction es with
  | nil => simp [areFit]
  | cons e es ih => simp [areFit, ih]

/-- Binary operators of one strength are taken together from the left. -/
theorem combine_ariths_fits {ls : List (BinaryOp × Expr)} (hk : k ≤ 10) (hleft : left.fits k = true)
    (h : ∀ l ∈ ls, l.1.strength = k ∧ l.2.fits (k + 1) = true) :
    (combine left (ls.map fun l => (Infix.arith l.1, l.2))).fits k = true := by
  induction ls generalizing left with
  | nil => exact hleft
  | cons l ls ih =>
    obtain ⟨rfl, hl⟩ := h l List.mem_cons_self
    have hop : l.1 ≠ .pow := by
      intro hpow
      simp [hpow, BinaryOp.strength] at hk
    refine ih ?_ fun l hl => h l (List.mem_cons_of_mem _ hl)
    simp [Expr.fits, hop, hleft, hl]

/-- Operands that fit above a strength are combined to an expression that fits there. -/
theorem combine_fits (hk : k ≤ 10) (hleft : left.fits (k + 1) = true)
    (h : ∀ l ∈ more, l.1.strength = k ∧ l.2.fits (k + 1) = true) :
    (combine left more).fits k = true := by
  rcases one_kind fun l hl => (h l hl).1 with rfl | ⟨op, e, es, rfl, rfl⟩ | ⟨l, ls, rfl,
    rfl⟩ | ⟨ls, rfl⟩
  · exact Expr.fits_mono (Nat.le_succ k) hleft
  · have hes : ∀ a ∈ left :: e :: es, a.fits (op.strength + 1) = true := by
      intro a ha
      rcases List.mem_cons.1 ha with rfl | ha
      · exact hleft
      · exact (h (.bool op, a) (List.mem_map.2 ⟨a, ha, rfl⟩)).2
    rw [combine_bools]
    simp [Expr.fits, areFit_iff.2 hes]
  · have hls : ∀ m ∈ l :: ls, m.2.fits 5 = true := fun m hm =>
      (h (.relation m.1, m.2) (List.mem_map.2 ⟨m, hm, rfl⟩)).2
    have hmore := linksFit_iff.2 fun m hm => hls m (List.mem_cons_of_mem l hm)
    rw [combine_relations]
    simp [Expr.fits, hleft, hls l List.mem_cons_self, hmore]
  · exact combine_ariths_fits hk (Expr.fits_mono (Nat.le_succ k) hleft) fun l hl =>
      h (.arith l.1, l.2) (List.mem_map.2 ⟨l, hl, rfl⟩)

end Combine

/-- A regrouped row has the tokens of the row, and needs no parentheses where its weakest operators
need none. -/
theorem group_spec :
    {ks : List Nat} → ks.Pairwise (· < ·) → (∀ k ∈ ks, k ≤ 10) → {r : Row} → r.Over ks →
    (r.group ks).tokens = r.tokens ∧ ∀ m ≤ 12, (∀ k ∈ ks, m ≤ k) → (r.group ks).fits m = true
  | [], _, _, r, h => by
    have hmore : r.more = [] := List.eq_nil_iff_forall_not_mem.2 fun l hl => by
      simpa using (h.2 l hl).1
    exact ⟨by simp [group, tokens, hmore, chainTokens], fun m hm _ => Expr.fits_mono hm h.1⟩
  | k :: ks, hsorted, hle, r, h => by
    obtain ⟨hfirst, hsorted⟩ := List.pairwise_cons.1 hsorted
    have hle' : ∀ j ∈ ks, j ≤ 10 := fun j hj => hle j (List.mem_cons_of_mem k hj)
    have hk : k ≤ 10 := hle k List.mem_cons_self
    obtain ⟨hrow, hrows⟩ := cut_over h
    have ih := fun {r : Row} (hr : r.Over ks) => group_spec hsorted hle' hr
    have hpieces : ∀ l ∈ (cut k r.first r.more).2.map fun (op, r) => (op, r.group ks),
        l.1.strength = k ∧ l.2.fits (k + 1) = true := by
      intro l hl
      obtain ⟨⟨op, s⟩, hs, rfl⟩ := List.mem_map.1 hl
      exact ⟨(hrows _ hs).1, (ih (hrows _ hs).2).2 _ (by omega) hfirst⟩
    constructor
    · have hkept : (chainTokens (·.1.token) Prod.snd
          ((cut k r.first r.more).2.map fun (op, r) => (op, r.group ks))) =
          (cut k r.first r.more).2.flatMap fun l => l.1.token :: l.2.tokens := by
        rw [chainTokens, List.flatMap_map, List.flatMap_def, List.flatMap_def]
        exact congrArg List.flatten (List.map_congr_left fun l hl => by rw [(ih (hrows l hl).2).1])
      rw [group, combine_tokens fun l hl => (hpieces l hl).1, (ih hrow).1, hkept, cut_tokens]
    · intro m hm hmk
      refine Expr.fits_mono (hmk k List.mem_cons_self) ?_
      exact combine_fits hk ((ih hrow).2 _ (by omega) hfirst) hpieces

end Row

mutual

/-- Whether an expression is built from operands by minus signs, arithmetic, single comparisons and
boolean operators, nested in any way. -/
def Expr.isOperationOn (operand : Expr → Bool) : Expr → Bool
  | .binary op a b => arithmetic.contains op && a.isOperationOn operand && b.isOperationOn operand
  | .unary op e => op == .minus && e.isOperationOn operand
  | .compare a op b more =>
    relations.contains op && more.isEmpty && a.isOperationOn operand && b.isOperationOn operand
  | .bool _ es => 2 ≤ es.length && areOperationsOn operand es
  | e => operand e

def areOperationsOn (operand : Expr → Bool) : List Expr → Bool
  | [] => true
  | e :: es => e.isOperationOn operand && areOperationsOn operand es

end

/-- The strengths of these operators. -/
def strengths : List Nat := [1, 2, 4, 9, 10]

mutual

/-- The row of an expression: signs belong to the first operand of what they apply to. -/
def Expr.row : Expr → Row
  | .binary op a b => a.row.join (.arith op) b.row
  | .unary op e => { e.row with first := .unary op e.row.first }
  | .compare a op b [] => a.row.join (.relation op) b.row
  | .bool op (e :: es) => rowBehind e.row op es
  | e => { first := e }

def rowBehind (r : Row) (op : BoolOp) : List Expr → Row
  | [] => r
  | e :: es => rowBehind (r.join (.bool op) e.row) op es

end

/-- The expression that is read where an expression is written without parentheses. -/
def Expr.regrouped (e : Expr) : Expr := e.row.group strengths

theorem row_spec_operand {e : Expr} (hrow : e.row = { first := e }) (h : e.fits 13 = true) :
    e.row.tokens = e.tokens ∧ e.row.Over strengths := by
  rw [hrow]
  exact ⟨by simp [Row.tokens, chainTokens], Expr.fits_mono (by decide) h, by simp⟩

mutual

/-- A row has the tokens of its expression. -/
theorem Expr.row_spec : (e : Expr) → e.isOperationOn (·.fits 13) = true →
    e.row.tokens = e.tokens ∧ e.row.Over strengths
  | .binary op a b, h => by
    simp only [Expr.isOperationOn, Bool.and_eq_true, List.contains_iff_mem] at h
    obtain ⟨hta, hoa⟩ := a.row_spec h.1.2
    obtain ⟨htb, hob⟩ := b.row_spec h.2
    have hop : op.strength ∈ strengths := by
      have hmem := h.1.1
      cases op <;> revert hmem <;> decide
    simp only [Expr.row, Row.tokens_join, hta, htb, Expr.tokens]
    exact ⟨rfl, hoa.join hop hob⟩
  | .unary op e, h => by
    simp only [Expr.isOperationOn, Bool.and_eq_true, beq_iff_eq] at h
    obtain ⟨rfl, h⟩ := h
    obtain ⟨ht, ho⟩ := e.row_spec h
    refine ⟨?_, by simpa [Expr.row, Expr.fits] using ho.1, by simpa [Expr.row] using ho.2⟩
    simp only [Row.tokens] at ht
    simp [Expr.row, Row.tokens, Expr.tokens, ← ht]
  | .compare a op b [], h => by
    simp only [Expr.isOperationOn, Bool.and_eq_true] at h
    obtain ⟨hta, hoa⟩ := a.row_spec h.1.2
    obtain ⟨htb, hob⟩ := b.row_spec h.2
    simp only [Expr.row, Row.tokens_join, hta, htb, Expr.tokens, linked, List.append_nil]
    exact ⟨rfl, hoa.join (by simp [Infix.strength, strengths]) hob⟩
  | .compare _ _ _ (_ :: _), h => by simp [Expr.isOperationOn] at h
  | .bool op [], h => by simp [Expr.isOperationOn] at h
  | .bool op (e :: es), h => by
    simp only [Expr.isOperationOn, areOperationsOn, Bool.and_eq_true] at h
    obtain ⟨ht, ho⟩ := e.row_spec h.2.1
    obtain ⟨htokens, hover⟩ := rowBehind_spec e.row op es ho h.2.2
    simp only [Expr.row, htokens, ht, Expr.tokens, separated]
    exact ⟨trivial, hover⟩
  | .name _, h => row_spec_operand (by simp [Expr.row]) (by simpa [Expr.isOperationOn] using h)
  | .constant _, h => row_spec_operand (by simp [Expr.row]) (by simpa [Expr.isOperationOn] using h)
  | .member .., h => row_spec_operand (by simp [Expr.row]) (by simpa [Expr.isOperationOn] using h)
  | .subscript ..,
      h => row_spec_operand (by simp [Expr.row]) (by simpa [Expr.isOperationOn] using h)
  | .call .., h => row_spec_operand (by simp [Expr.row]) (by simpa [Expr.isOperationOn] using h)
  | .list _, h => row_spec_operand (by simp [Expr.row]) (by simpa [Expr.isOperationOn] using h)
  | .incomplete .., h | .tuple _, h | .set _, h | .dict _, h | .conditional .., h | .starred _, h
  | .slice .., h
  | .other _, h | .holder .., h => by
    simp [Expr.isOperationOn, Expr.fits] at h

theorem rowBehind_spec (r : Row) (op : BoolOp) : (es : List Expr) → r.Over strengths →
    areOperationsOn (·.fits 13) es = true →
    (rowBehind r op es).tokens = r.tokens ++ behind op.token es ∧ (rowBehind r op es).Over strengths
  | [], hr, _ => by simpa [rowBehind, behind] using hr
  | e :: es, hr, h => by
    simp only [areOperationsOn, Bool.and_eq_true] at h
    obtain ⟨ht, ho⟩ := e.row_spec h.1
    have hop : (Infix.bool op).strength ∈ strengths := by cases op <;> decide
    obtain ⟨htokens, hover⟩ := rowBehind_spec (r.join (.bool op) e.row) op es (hr.join hop ho) h.2
    refine ⟨?_, by simpa only [rowBehind] using hover⟩
    simp [rowBehind, htokens, Row.tokens_join, ht, behind, Infix.token]

end

/-- A regrouped expression has the same tokens and needs no parentheses. -/
theorem Expr.regrouped_spec {e : Expr} (h : e.isOperationOn (·.fits 13) = true) :
    e.regrouped.tokens = e.tokens ∧ e.regrouped.isGrouped = true := by
  obtain ⟨htokens, hover⟩ := e.row_spec h
  have hsorted : strengths.Pairwise (· < ·) := by decide
  obtain ⟨hgroup, hfits⟩ := Row.group_spec hsorted (by decide) hover
  exact ⟨hgroup.trans htokens, hfits 0 (Nat.zero_le _) fun _ _ => Nat.zero_le _⟩

/-- An expression written without parentheses is read as its row regrouped. -/
theorem statements_regrouped {e : Expr} (h : e.isOperationOn (·.fits 13) = true) :
    statements (depthFor e.tokens) e.tokens = some [.expression e.regrouped] := by
  obtain ⟨htokens, hgrouped⟩ := Expr.regrouped_spec h
  rw [← htokens]
  exact statements_tokens hgrouped (Nat.le_refl _)

/-- Exactly the expressions that need no parentheses are read back as they were. -/
theorem Expr.regrouped_eq_self_iff {e : Expr} (h : e.isOperationOn (·.fits 13) = true) :
    e.regrouped = e ↔ e.isGrouped = true := by
  constructor
  · intro heq
    rw [← heq]
    exact (Expr.regrouped_spec h).2
  · intro hgrouped
    have hread := (statements_regrouped h).symm.trans (statements_tokens hgrouped (Nat.le_refl _))
    simpa using hread

end TaxFlow.Formula

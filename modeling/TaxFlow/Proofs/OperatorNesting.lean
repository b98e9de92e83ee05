import TaxFlow.Formula.Basic
import TaxFlow.Proofs.Phrases
import TaxFlow.Proofs.Regrouping

/-!
# Nesting of operators

Expressions are written without parentheses. What is written can always be read again; it is read as
the expression that was written exactly if that needs no parentheses.
-/
namespace TaxFlow.Formula

/-- The operands of formulas: names, and whole numbers that are not too long. -/
def isOperand : Expr → Bool
  | .name id => isPlainName id
  | .constant (.int n) => (Nat.toDigits 10 n).length ≤ maxIntegerDigits
  | _ => false

mutual

/-- Operations on operands are written without brackets. -/
theorem operation_spec : (e : Expr) → e.isOperationOn isOperand = true →
    e.isLegible = true ∧ e.isShort = true ∧ e.nesting = 0
  | .name id, h => by
    have hname : isPlainName id = true := by simpa [Expr.isOperationOn, isOperand] using h
    simp [Expr.isLegible, Expr.isShort, Expr.nesting, hname]
  | .constant (.int n), h => by
    have hn : (Nat.toDigits 10 n).length ≤ maxIntegerDigits := by
      simpa [Expr.isOperationOn, isOperand] using h
    simp [Expr.isLegible, Expr.isShort, Expr.nesting, hn]
  | .binary op a b, h => by
    simp only [Expr.isOperationOn, Bool.and_eq_true] at h
    obtain ⟨hla, hsa, hna⟩ := operation_spec a h.1.2
    obtain ⟨hlb, hsb, hnb⟩ := operation_spec b h.2
    simp only [Expr.isLegible, Expr.isShort, Expr.nesting, h.1.1, hla, hlb, hsa, hsb, hna, hnb]
    decide
  | .unary op e, h => by
    simp only [Expr.isOperationOn, Bool.and_eq_true] at h
    obtain ⟨hl, hs, hn⟩ := operation_spec e h.2
    simp [Expr.isLegible, Expr.isShort, Expr.nesting, h.1, hl, hs, hn]
  | .compare a op b more, h => by
    simp only [Expr.isOperationOn, Bool.and_eq_true] at h
    obtain ⟨hla, hsa, hna⟩ := operation_spec a h.1.2
    obtain ⟨hlb, hsb, hnb⟩ := operation_spec b h.2
    simp only [Expr.isLegible, Expr.isShort, Expr.nesting, h.1.1.1, h.1.1.2, hla, hlb, hsa,
      hsb, hna, hnb]
    decide
  | .bool op es, h => by
    simp only [Expr.isOperationOn, Bool.and_eq_true] at h
    obtain ⟨hl, hs, hn⟩ := operations_spec es h.2
    have hne : es.isEmpty = false := by cases es <;> simp at h ⊢
    simp [Expr.isLegible, Expr.isShort, Expr.nesting, hl, hs, hn, hne]
  | .constant (.float _), h | .constant (.imaginary _), h | .constant (.text ..), h
  | .constant (.bytes _), h
  | .constant .true, h | .constant .false, h | .constant .none, h | .constant .ellipsis, h
  | .constant (.other ..), h | .member .., h | .subscript .., h | .call .., h
  | .incomplete .., h | .list _, h
  | .tuple _, h | .set _, h | .dict _, h | .conditional .., h | .starred _, h
  | .slice .., h | .other _, h
  | .holder .., h => by simp [Expr.isOperationOn, isOperand] at h

theorem operations_spec : (es : List Expr) → areOperationsOn isOperand es = true →
    areLegible es = true ∧ areShort es = true ∧ nestingOf es = 0
  | [], _ => ⟨rfl, rfl, rfl⟩
  | e :: es, h => by
    simp only [areOperationsOn, Bool.and_eq_true] at h
    obtain ⟨hl, hs, hn⟩ := operation_spec e h.1
    obtain ⟨hls, hss, hns⟩ := operations_spec es h.2
    simp [areLegible, areShort, nestingOf, hl, hs, hn, hls, hss, hns]

end

/-- A reference is no operation. -/
theorem reference_fits (className : String) (constants : List (Option String)) (id : String) :
    (reference className constants id).fits 13 = true ∧
      (reference className constants id).isOperationOn (·.fits 13) = true := by
  unfold reference
  split
  · simp [Expr.fits, Expr.isOperationOn]
  · split <;> simp [Expr.fits, Expr.isOperationOn]

section MapNames

variable {f : String → Expr}

mutual

theorem isOperationOn_mapNames (hf : ∀ id, (f id).isOperationOn (·.fits 13) = true) : (e : Expr) →
    e.isOperationOn isOperand = true → (e.mapNames f).isOperationOn (·.fits 13) = true
  | .name id, _ => by simpa [Expr.mapNames] using hf id
  | .constant _, _ => by simp [Expr.mapNames, Expr.isOperationOn, Expr.fits]
  | .binary op a b, h => by
    simp only [Expr.isOperationOn, Bool.and_eq_true] at h
    simp only [Expr.mapNames, Expr.isOperationOn, h.1.1, isOperationOn_mapNames hf a h.1.2,
      isOperationOn_mapNames hf b h.2, Bool.and_self]
  | .unary op e, h => by
    simp only [Expr.isOperationOn, Bool.and_eq_true] at h
    simp only [Expr.mapNames, Expr.isOperationOn, h.1, isOperationOn_mapNames hf e h.2,
      Bool.and_self]
  | .compare a op b [], h => by
    simp only [Expr.isOperationOn, Bool.and_eq_true] at h
    simp only [Expr.mapNames, mapLinkNames, Expr.isOperationOn, h.1.1.1, List.isEmpty_nil,
      isOperationOn_mapNames hf a h.1.2, isOperationOn_mapNames hf b h.2, Bool.and_self]
  | .compare _ _ _ (_ :: _), h => by simp [Expr.isOperationOn] at h
  | .bool op es, h => by
    simp only [Expr.isOperationOn, Bool.and_eq_true] at h
    simp only [Expr.mapNames, Expr.isOperationOn, length_mapNamesOf, h.1,
      areOperationsOn_mapNamesOf hf es h.2, Bool.and_self]
  | .member .., h | .subscript .., h | .call .., h | .incomplete .., h | .list _, h | .tuple _, h
  | .set _, h | .dict _, h
  | .conditional .., h | .starred _, h | .slice .., h | .other _, h | .holder .., h => by
    simp [Expr.isOperationOn, isOperand] at h

theorem areOperationsOn_mapNamesOf (hf : ∀ id, (f id).isOperationOn (·.fits 13) = true) :
    (es : List Expr) →
    areOperationsOn isOperand es = true → areOperationsOn (·.fits 13) (mapNamesOf f es) = true
  | [], _ => rfl
  | e :: es, h => by
    simp only [areOperationsOn, Bool.and_eq_true] at h
    simp only [mapNamesOf, areOperationsOn, isOperationOn_mapNames hf e h.1,
      areOperationsOn_mapNamesOf hf es h.2, Bool.and_self]

end

end MapNames

/-- What is written for an expression can be read again, with every name as the reference it is
written as. The operators are grouped by their strength; so exactly the expressions that need no
parentheses are read as they were. -/
theorem operators_read_back {className : String} {scope : Scope}
    (hclass : isPlainName className = true)
    (hscope : scope.className = some className) {e : Expr} (he : e.isOperationOn isOperand = true) :
    ∃ text, Dialect.python.render scope (some e) = .ok text ∧
      statementsOf text.toList =
        .ok [.expression (e.mapNames (reference className scope.constants)).regrouped] ∧
      (statementsOf text.toList =
        .ok [.expression (e.mapNames (reference className scope.constants))] ↔
        e.isGrouped = true) := by
  obtain ⟨hidentifier, hnormal⟩ := isPlainName_iff.1 hclass
  obtain ⟨hlegible, hshort, hnesting⟩ := operation_spec e he
  have houtcome := phrase_words hidentifier hscope e hlegible
  rw [hshort, hnormal, hnesting] at houtcome
  obtain ⟨text, htext, hphrase⟩ := houtcome.render
  have hfits := reference_fits className scope.constants
  have hoperation := isOperationOn_mapNames (fun id => (hfits id).2) e he
  have hgrouped : (e.mapNames (reference className scope.constants)).isGrouped = e.isGrouped :=
    Expr.fits_mapNames (fun id => (hfits id).1) 0 (by decide) e
  have hread : statementsOf text.toList =
      .ok [.expression (e.mapNames (reference className scope.constants)).regrouped] :=
    hphrase.statementsOf_eq (Nat.zero_le _) (statements_regrouped hoperation)
  refine ⟨text, htext, hread, ?_⟩
  rw [hread, ← hgrouped, ← Expr.regrouped_eq_self_iff hoperation]
  simp

/-- A sum as a factor. -/
def sumAsFactor : Expr :=
  .binary .mul (.binary .add (.name "A") (.constant (.int 2))) (.unary .minus (.name "K"))

theorem sumAsFactor_read_back :
    let scope : Scope := ⟨some "Tax", [some "K"], []⟩
    let written : Expr := sumAsFactor.mapNames (reference "Tax" scope.constants)
    Dialect.python.render scope (some sumAsFactor) = .ok "self.A + 2 * -Tax.K" ∧
      sumAsFactor.isGrouped = false ∧
      statementsOf "self.A + 2 * -Tax.K".toList = .ok [.expression written.regrouped] ∧
      statementsOf "self.A + 2 * -Tax.K".toList ≠ .ok [.expression written] := by
  intro scope written
  have hclass : isPlainName "Tax" = true := by decide +kernel
  have hscope : scope.className = some "Tax" := rfl
  obtain ⟨text, htext, hread, hiff⟩ :=
    operators_read_back (e := sumAsFactor) hclass hscope (by decide +kernel)
  have hvalue : (Dialect.python.render scope (some sumAsFactor)).toOption =
      some "self.A + 2 * -Tax.K" := by
    decide +kernel
  rw [htext] at hvalue
  cases hvalue
  have hgrouped : sumAsFactor.isGrouped = false := by decide
  exact ⟨htext, hgrouped, hread, fun h => by simp [hiff.1 h] at hgrouped⟩

end TaxFlow.Formula

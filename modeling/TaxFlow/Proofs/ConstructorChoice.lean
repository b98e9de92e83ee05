import TaxFlow.Proofs.LibraryCalls

/-!
# The choice of a constructor

The support library constructs decimals from whole numbers and from floats by two functions. Which
of them a formula calls depends on its argument, but of an operation only the first operand counts:
a float that stands behind a whole number is not noticed. In all other cases the constructor fits
the argument.
-/
namespace TaxFlow

open Formula

namespace Formula

/-- Whether an expression is built by arithmetic from numbers and from names with the type of
numbers. -/
def Expr.isNumeric (types : TypeTable) : Expr → Bool
  | .constant (.int _) | .constant (.float _) => true
  | .name id => types.lookup (some id) == some "int64" || types.lookup (some id) == some "float64"
  | .binary op a b => arithmetic.contains op && a.isNumeric types && b.isNumeric types
  | _ => false

/-- Whether a float or a name with the type of floats stands anywhere in an arithmetic
expression. -/
def Expr.holdsFloat (types : TypeTable) : Expr → Bool
  | .constant (.float _) => true
  | .name id => types.lookup (some id) == some "float64"
  | .binary _ a b => a.holdsFloat types || b.holdsFloat types
  | _ => false

/-- The operand with which an arithmetic expression begins. -/
def Expr.firstOperand : Expr → Expr
  | .binary _ a _ => a.firstOperand
  | e => e

/-- Whether an expression stands for the construction of a decimal. -/
def Expr.isConstructor : Expr → Bool
  | .member _ m => m == "valueOf"
  | .name id => id == "BigDecimalConstructor"
  | _ => false

theorem Expr.holdsFloat_of_firstOperand {types : TypeTable} :
    (e : Expr) → e.firstOperand.holdsFloat types = true →
    e.holdsFloat types = true
  | .binary _ a _, h => by
    rw [Expr.firstOperand] at h
    rw [Expr.holdsFloat, Expr.holdsFloat_of_firstOperand a h, Bool.true_or]
  | .name _, h | .constant _, h => h
  | .member .., h | .subscript .., h | .call .., h | .unary .., h | .bool .., h | .compare .., h
  | .incomplete .., h | .list _, h | .tuple _, h | .set _, h | .dict _, h | .conditional .., h
  | .starred _, h
  | .slice .., h | .other _, h | .holder .., h => h

end Formula

namespace Dialect

/-- The constructor that fits an arithmetic expression. -/
def fittingConstructor (types : TypeTable) (e : Expr) : String :=
  if e.holdsFloat types then "NewFromFloat" else "NewFromInt"

theorem fittingConstructor_eq_iff {types : TypeTable} {a b : Expr} :
    fittingConstructor types a = fittingConstructor types b ↔
      a.holdsFloat types = b.holdsFloat types := by
  unfold fittingConstructor
  cases a.holdsFloat types <;> cases b.holdsFloat types <;> decide

/-- The constructor that is chosen is the one that fits the first operand. -/
theorem constructorFor_numeric {types : TypeTable} : (e : Expr) → e.isNumeric types = true →
    constructorFor types e = .ok (fittingConstructor types e.firstOperand)
  | .constant k, h => by
    cases k with
    | int _ | float _ => rfl
    | _ => cases h
  | .name id, h => by
    simp only [Expr.isNumeric, Bool.or_eq_true, beq_iff_eq] at h
    rcases h with h | h <;>
      simp [constructorFor, h, Expr.firstOperand, fittingConstructor, Expr.holdsFloat]
  | .binary op a b, h => by
    simp only [Expr.isNumeric, Bool.and_eq_true] at h
    exact constructorFor_numeric a h.1.2
  | .member .., h | .subscript .., h | .call .., h | .unary .., h | .bool .., h | .compare .., h
  | .incomplete .., h | .list _, h | .tuple _, h | .set _, h | .dict _, h | .conditional .., h
  | .starred _, h
  | .slice .., h | .other _, h | .holder .., h => by cases h

variable {d : Dialect} {scope : Scope}

/-- Arithmetic is written unless a whole number in it has no text. -/
theorem toCode_numeric_iff {types : TypeTable} : (e : Expr) → e.isNumeric types = true →
    ((∃ ws, d.toCode scope e = .ok ws) ↔ e.isShort = true)
  | .constant k, h => by
    cases k with
    | int n =>
      simp only [toCode, constantWord, Constant.isNumber, if_true, Constant.plainText, Expr.isShort,
        decide_eq_true_eq]
      by_cases hn : (Nat.toDigits 10 n).length ≤ maxIntegerDigits
      · simp [integerText_eq hn, hn, bind, Except.bind]
      · simp [integerText_eq_error hn, hn, bind, Except.bind]
    | float x =>
      simp [toCode, constantWord, Constant.isNumber, Constant.plainText, Expr.isShort,
        bind, Except.bind]
    | _ => cases h
  | .name id, h => by simp [toCode, Expr.isShort]
  | .binary op a b, h => by
    simp only [Expr.isNumeric, Bool.and_eq_true, List.contains_iff_mem] at h
    obtain ⟨⟨hop, ha⟩, hb⟩ := h
    obtain ⟨word, hword, -⟩ := binaryWord_ok hop
    rw [Expr.isShort, Bool.and_eq_true, ← toCode_numeric_iff a ha, ← toCode_numeric_iff b hb]
    constructor
    · rintro ⟨ws, h⟩
      rw [toCode] at h
      obtain ⟨left, hleft, h⟩ := bind_eq_ok h
      obtain ⟨_, -, h⟩ := bind_eq_ok h
      obtain ⟨right, hright, -⟩ := bind_eq_ok h
      exact ⟨⟨left, hleft⟩, ⟨right, hright⟩⟩
    · rintro ⟨⟨left, hleft⟩, ⟨right, hright⟩⟩
      refine ⟨left ++ [word] ++ right, ?_⟩
      rw [toCode, hleft, hword, hright]
      rfl
  | .member .., h | .subscript .., h | .call .., h | .unary .., h | .bool .., h | .compare .., h
  | .incomplete .., h | .list _, h | .tuple _, h | .set _, h | .dict _, h | .conditional .., h
  | .starred _, h
  | .slice .., h | .other _, h | .holder .., h => by cases h

/-- Both ways to construct a decimal are written as the constructor for whole numbers at first. -/
theorem toCode_constructor (hd : d.vocabulary = .mapped)
    (hconstructor : d.constructor = "NewFromInt") {f : Expr}
    (hf : f.isConstructor = true) : d.toCode scope f = .ok ["NewFromInt"] := by
  cases f with
  | member e m =>
    have hm : m = "valueOf" := by simpa [Expr.isConstructor] using hf
    subst hm
    rw [toCode_library_member hd]
    rfl
  | name id =>
    have hid : id = "BigDecimalConstructor" := by simpa [Expr.isConstructor] using hf
    simp [toCode, nameWord, hid, hconstructor]
  | _ => cases hf

/-- A construction is written with the constructor for its argument. -/
theorem toCode_construction (hd : d.vocabulary = .mapped)
    (hconstructor : d.constructor = "NewFromInt") {f e : Expr}
    (hf : f.isConstructor = true) {word : String} (hword : constructorFor scope.types e = .ok word)
    (keywords : List (Option String × Expr)) :
    d.toCode scope (.call f [e] keywords) = (d.toCode scope e).map fun inner =>
      [word, "("] ++ inner ++ [")"] := by
  rw [toCode_library_call hd, toCode_constructor hd hconstructor hf]
  have hshape : callShape scope.types ["NewFromInt"] [e] false = .ok ⟨[word], 1⟩ := by
    simp [callShape, hword, withLast, bind, Except.bind]
  simp only [bind, Except.bind, hshape, listWords]
  cases d.toCode scope e <;> rfl

end Dialect

open Dialect

/-- The constructor of a decimal is the one that fits the first operand of its argument. The
argument is written unless a whole number in it is too long, and the constructor fits the argument
as a whole exactly if no float stands behind a first operand that is none. -/
theorem constructor_fits_first_operand {g : Generator} (hgolang : g.target = .golang)
    (c : Chart) {f e : Expr}
    (hf : f.isConstructor = true) (he : e.isNumeric g.types = true)
    (keywords : List (Option String × Expr)) :
    (g.toCode c (some (.call f [e] keywords)) = (g.toCode c (some e)).map fun inner =>
      [fittingConstructor g.types e.firstOperand, "("] ++ inner ++ [")"]) ∧
    ((∃ inner, g.toCode c (some e) = .ok inner) ↔ e.isShort = true) ∧
    (e.isShort = true →
      (g.toCode c (some (.call f [e] keywords)) = (g.toCode c (some e)).map (fun inner =>
        [fittingConstructor g.types e, "("] ++ inner ++ [")"]) ↔
      (e.holdsFloat g.types = true → e.firstOperand.holdsFloat g.types = true))) := by
  have hvocabulary : (g.codeSettings c).dialect.vocabulary = .mapped := by
    simp [Generator.codeSettings, hgolang, Target.dialect, golang]
  have hconstructor : (g.codeSettings c).dialect.constructor = "NewFromInt" := by
    simp [Generator.codeSettings, hgolang, Target.dialect, golang]
  have hcall : g.toCode c (some (.call f [e] keywords)) = (g.toCode c (some e)).map fun inner =>
      [fittingConstructor g.types e.firstOperand, "("] ++ inner ++ [")"] :=
    toCode_construction hvocabulary hconstructor hf (constructorFor_numeric e he) keywords
  have hwritten : (∃ inner, g.toCode c (some e) = .ok inner) ↔ e.isShort = true :=
    toCode_numeric_iff e he
  refine ⟨hcall, hwritten, fun hshort => ?_⟩
  obtain ⟨inner, hinner⟩ := hwritten.2 hshort
  have hchoice : fittingConstructor g.types e.firstOperand = fittingConstructor g.types e ↔
      (e.holdsFloat g.types = true → e.firstOperand.holdsFloat g.types = true) := by
    rw [fittingConstructor_eq_iff]
    constructor
    · intro h hfloat
      rw [h, hfloat]
    · intro h
      exact Bool.eq_iff_iff.2 ⟨e.holdsFloat_of_firstOperand, h⟩
  rw [hcall, hinner, ← hchoice]
  simp [Except.map]

/-- `1 + 1.5` -/
def wholePlusFloat : Expr :=
  .binary .add (.constant (.int 1)) (.constant (.float (.finite false 6755399441055744 (-52))))

/-- The float behind a whole number is not noticed. -/
theorem wholePlusFloat_constructor :
    let g := Generator.new .golang {} bareChart
    let f : Expr := .member (.name "BigDecimal") "valueOf"
    g.target = .golang ∧ f.isConstructor = true ∧ wholePlusFloat.isNumeric g.types = true ∧
      wholePlusFloat.holdsFloat g.types = true ∧
      ∃ inner, g.toCode bareChart (some wholePlusFloat) = .ok inner ∧
        g.toCode bareChart (some (.call f [wholePlusFloat] [])) =
          .ok (["NewFromInt", "("] ++ inner ++ [")"]) := by
  intro g f
  obtain ⟨hcall, hwritten, -⟩ :=
    constructor_fits_first_operand (g := g) rfl bareChart (f := f) (e := wholePlusFloat) (by decide)
      (by decide) []
  obtain ⟨inner, hinner⟩ := hwritten.2 (by decide)
  refine ⟨rfl, by decide, by decide, by decide, inner, hinner, ?_⟩
  rw [hcall, hinner]
  rfl

end TaxFlow

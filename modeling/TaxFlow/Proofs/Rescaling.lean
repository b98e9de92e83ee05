import Mathlib.Data.Nat.Digits.Lemmas
import TaxFlow.Proofs.DecimalValues

/-!
# Setting a scale

A finite number whose scale is set is rounded exactly, once, and is refused exactly if its digits at
that scale are more than a result may have. What has been set once stays as it is.
-/
namespace TaxFlow.Decimal

/-- The digits of a number at another exponent. -/
def rescaledDigits (r : Rounding) (negative : Bool) (digits : ℕ) (exponent scale : ℤ) : ℕ :=
  if scale ≤ exponent then digits * Nat.pow 10 (exponent - scale).toNat
  else r.cut negative digits (scale - exponent).toNat

@[simp] theorem rescaledDigits_self (r : Rounding) (negative : Bool) (digits : ℕ) (scale : ℤ) :
    rescaledDigits r negative digits scale scale = digits := by
  simp [rescaledDigits]

/-- Digits that are too many before they are rounded are too many afterwards. -/
theorem pow_le_rescaledDigits (r : Rounding) (negative : Bool) {digits : ℕ} {exponent scale : ℤ}
    (hdigits : 0 < digits) (h : precision < digitCount digits + (exponent - scale)) :
    10 ^ precision ≤ rescaledDigits r negative digits exponent scale := by
  have hfirst := pow_le_of_pos hdigits
  unfold rescaledDigits
  split_ifs with hscale
  · calc 10 ^ precision ≤ 10 ^ (digitCount digits - 1 + (exponent - scale).toNat) :=
          Nat.pow_le_pow_right (by omega) (by omega)
      _ = 10 ^ (digitCount digits - 1) * 10 ^ (exponent - scale).toNat := Nat.pow_add ..
      _ ≤ _ := Nat.mul_le_mul_right _ hfirst
  · refine le_trans ?_ (le_cut r negative digits _)
    rw [Nat.le_div_iff_mul_le (by positivity), ← Nat.pow_add]
    exact (Nat.pow_le_pow_right (by omega) (by omega)).trans hfirst

/-- In a direction, the digits at another exponent are the rounded magnitude in units of that
exponent. -/
theorem rescaledDigits_eq (d : Direction) (negative : Bool) (digits : ℕ) (exponent scale : ℤ) :
    rescaledDigits d.rounding negative digits exponent scale =
      d.magnitude (digits * 10 ^ (exponent - scale)) := by
  unfold rescaledDigits
  split_ifs with h
  · obtain ⟨k, hk⟩ := Int.eq_ofNat_of_zero_le (show 0 ≤ exponent - scale by omega)
    have hcast : (digits : ℚ) * 10 ^ (exponent - scale) = (digits * 10 ^ k : ℕ) := by
      rw [hk, zpow_natCast]
      push_cast
      rfl
    rw [hcast, Direction.magnitude_natCast, hk, Int.toNat_natCast, Nat.pow_eq]
  · obtain ⟨k, hk⟩ := Int.eq_ofNat_of_zero_le (show 0 ≤ scale - exponent by omega)
    rw [Direction.cut_eq, hk, Int.toNat_natCast, show exponent - scale = -k by omega,
      zpow_neg, zpow_natCast, div_eq_mul_inv]

/-- A value that is rounded to so many places has the sign of the number and its digits there. -/
theorem whole_value (d : Direction) (negative : Bool) (digits : ℕ) (exponent : ℤ) (n : ℕ) :
    d.whole (signed negative digits * 10 ^ exponent * 10 ^ n) =
      signed negative (rescaledDigits d.rounding negative digits exponent (-n)) := by
  have hshift : (10 : ℚ) ^ (exponent - -n) = 10 ^ exponent * 10 ^ n := by
    rw [sub_neg_eq_add, zpow_add₀ (by norm_num), zpow_natCast]
  rw [rescaledDigits_eq, hshift, signed_eq_mul, mul_assoc, mul_assoc,
    d.whole_signed negative (by positivity)]

/-- A number of not too many digits, neither too large nor too small, is not changed. -/
theorem fitted_of_le {negative : Bool} {digits : ℕ} {exponent : ℤ} (hdigits : digits ≠ 0)
    (hcount : digitCount digits ≤ precision) (hmin : minExponent ≤ adjusted digits exponent)
    (hmax : adjusted digits exponent ≤ maxExponent) :
    fitted negative digits exponent = .ok (.finite negative digits exponent) := by
  rw [fitted, if_neg hdigits, if_neg (not_lt.2 hmax), if_neg (not_lt.2 hmin)]
  exact if_pos (Nat.sub_eq_zero_of_le hcount)

/-- A number at an exponent within the limits: its digits there, unless they are too many. -/
theorem rescaledFinite_eq (r : Rounding) (negative : Bool) (digits : ℕ) (exponent : ℤ) {scale : ℤ}
    (hmin : minExponent ≤ scale) (hmax : scale ≤ 0) :
    rescaledFinite r negative digits exponent scale =
      if precision < digitCount (rescaledDigits r negative digits exponent scale)
        then .error .invalidOperation
      else .ok (.finite negative (rescaledDigits r negative digits exponent scale) scale) := by
  have hrange : ¬(scale < tinyExponent ∨ maxExponent < scale) := by
    simp only [tinyExponent, minExponent, maxExponent, precision] at *
    omega
  by_cases hzero : digits = 0
  · subst hzero
    have hnone : rescaledDigits r negative 0 exponent scale = 0 := by simp [rescaledDigits]
    rw [rescaledFinite, if_neg hrange, if_pos rfl, hnone,
      if_neg (by simp [precision_lt_digitCount_iff])]
  · rw [rescaledFinite, if_neg hrange, if_neg hzero]
    by_cases hearly : precision < digitCount digits + (exponent - scale)
    · have hmany := pow_le_rescaledDigits r negative (Nat.pos_of_ne_zero hzero) hearly
      rw [if_pos hearly, if_pos ((precision_lt_digitCount_iff _).2 hmany)]
    · rw [if_neg hearly]
      change (if precision < digitCount (rescaledDigits r negative digits exponent scale) ∨
        maxExponent < adjusted (rescaledDigits r negative digits exponent scale) scale then _
        else fitted negative (rescaledDigits r negative digits exponent scale) scale) = _
      generalize rescaledDigits r negative digits exponent scale = rounded
      by_cases hmany : precision < digitCount rounded
      · rw [if_pos (.inl hmany), if_pos hmany]
      · have hadjusted : minExponent ≤ adjusted rounded scale ∧
            adjusted rounded scale ≤ maxExponent := by
          have := digitCount_pos rounded
          simp only [adjusted, minExponent, maxExponent, precision] at *
          omega
        rw [if_neg (not_or.2 ⟨hmany, not_lt.2 hadjusted.2⟩), if_neg hmany]
        by_cases hrounded : rounded = 0
        · have hclamp : min (max scale tinyExponent) maxExponent = scale := by
            simp only [tinyExponent, minExponent, maxExponent, precision] at *
            omega
          rw [hrounded, fitted, if_pos rfl, hclamp]
        · exact fitted_of_le hrounded (not_lt.1 hmany) hadjusted.1 hadjusted.2

theorem zeroWithPlaces_natCast {n : ℕ} (hn : n ≤ 999999) :
    zeroWithPlaces (.integer n) = .ok (.finite false 0 (-n)) := by
  have hsmall : n < Nat.pow 2 63 := by
    rw [Nat.pow_eq]
    omega
  simp [zeroWithPlaces, Operand.whole?, hsmall]

theorem apply_setScale (x : Decimal) {n : ℕ} (hn : n ≤ 999999) (d : Direction) :
    Operation.setScale.apply x [.integer n, d.constant.value] =
      Operation.ofDecimal (attempt (rescaled d.rounding x (.finite false 0 (-n)))) := by
  have hrescaled : x.rescaledTo (.integer n) d.constant.value =
      attempt (rescaled d.rounding x (.finite false 0 (-n))) := by
    rw [rescaledTo, zeroWithPlaces_natCast hn, d.roundingOf_constant]
    rfl
  exact congrArg Operation.ofDecimal hrescaled

/-- The scale of a finite number: its digits there, unless they are too many. -/
theorem apply_setScale_finite (negative : Bool) (digits : ℕ) (exponent : ℤ) {n : ℕ}
    (hn : n ≤ 999999) (d : Direction) :
    Operation.setScale.apply (.finite negative digits exponent) [.integer n, d.constant.value] =
      if precision < digitCount (rescaledDigits d.rounding negative digits exponent (-n)) then
        .error (.trouble .invalidOperation)
      else .ok (.decimal
        (.finite negative (rescaledDigits d.rounding negative digits exponent (-n)) (-n))) := by
  have hmin : minExponent ≤ -(n : ℤ) := by
    rw [minExponent]
    omega
  have hrescaled := rescaledFinite_eq d.rounding negative digits exponent hmin (by omega)
  rw [apply_setScale _ hn]
  change Operation.ofDecimal (attempt (rescaledFinite _ _ _ _ _)) = _
  rw [hrescaled]
  split_ifs <;> rfl

/-- Setting a scale fails exactly if the number, rounded exactly, has more digits than a result may
have. Otherwise the result is the number rounded exactly, with the exponent that belongs to the
scale, and setting the scale again, in either direction, changes nothing. -/
theorem setScale_rounds_exactly {x : Decimal} {v : ℚ} (hx : x.value? = some v) {n : ℕ}
    (hn : n ≤ 999999) (d : Direction) :
    let scaled := fun (y : Decimal) (d : Direction) =>
      Operation.setScale.apply y [.integer n, d.constant.value]
    let count := (Nat.digits 10 (d.whole (v * 10 ^ n)).natAbs).length
    (scaled x d = .error (.trouble .invalidOperation) ↔ 28 < count) ∧
      (count ≤ 28 → ∃ z : Decimal, scaled x d = .ok (.decimal z) ∧
        z.value? = some (d.atPlaces n v) ∧
        z.exponent? = some (-(n : ℤ)) ∧ ∀ d', scaled z d' = .ok (.decimal z)) := by
  intro scaled count
  cases x with
  | infinite negative => cases hx
  | nan negative signaling diagnosis => cases hx
  | finite negative digits exponent =>
    obtain rfl := Option.some.inj hx
    have hscaled := apply_setScale_finite negative digits exponent hn d
    have hwhole := whole_value d negative digits exponent n
    have hcount : 28 < count ↔
        precision < digitCount (rescaledDigits d.rounding negative digits exponent (-n)) := by
      simp only [count]
      rw [hwhole, natAbs_signed, Nat.lt_digits_length_iff (by norm_num),
        precision_lt_digitCount_iff, precision]
    constructor
    · simp only [scaled, hscaled, hcount]
      split_ifs with hmany <;> simp [hmany]
    · intro hfew
      have hfits := (not_congr hcount).1 (not_lt.2 hfew)
      refine ⟨_, hscaled.trans (if_neg hfits), ?_, rfl, fun d' => ?_⟩
      · rw [value?, Direction.atPlaces, hwhole, zpow_neg, zpow_natCast, div_eq_mul_inv]
      · have hagain :=
          apply_setScale_finite negative
            (rescaledDigits d.rounding negative digits exponent (-n)) (-n) hn d'
        rw [rescaledDigits_self] at hagain
        exact hagain.trans (if_neg hfits)

/-- The number `-9999999999999999999999999999.9` has 28 digits in front of the point: rounded toward
zero they are kept, and away from zero they become one more. -/
theorem nines_scaled :
    let x := Decimal.finite true (10 ^ 29 - 1) (-1)
    Operation.setScale.apply x [.integer 0, DecimalConstant.roundUp.value] =
      .error (.trouble .invalidOperation) ∧
      ∃ z : Decimal, Operation.setScale.apply x [.integer 0, DecimalConstant.roundDown.value] =
        .ok (.decimal z) ∧
        z.value? = some (-(10 ^ 28 - 1)) := by
  intro x
  have hx : x.value? = some (-(10 ^ 29 - 1) / 10) := by norm_num [x, value?, signed]
  have hup : Direction.up.whole (-(10 ^ 29 - 1) / 10 * 10 ^ 0) = -10 ^ 28 := by
    norm_num [Direction.whole]
  have hdown : Direction.down.whole (-(10 ^ 29 - 1) / 10 * 10 ^ 0) = -(10 ^ 28 - 1) := by
    norm_num [Direction.whole]
  refine ⟨(setScale_rounds_exactly hx (Nat.zero_le _) .up).1.2 ?_, ?_⟩
  · rw [hup, Nat.lt_digits_length_iff (by norm_num)]
    norm_num
  · have hfew :
        (Nat.digits 10 (Direction.down.whole (-(10 ^ 29 - 1) / 10 * 10 ^ 0)).natAbs).length ≤
          28 := by
      rw [hdown, Nat.digits_length_le_iff (by norm_num)]
      norm_num
    obtain ⟨z, hz, hvalue, -⟩ := (setScale_rounds_exactly hx (Nat.zero_le _) .down).2 hfew
    refine ⟨z, hz, ?_⟩
    rw [hvalue, Direction.atPlaces, hdown]
    norm_num

end TaxFlow.Decimal

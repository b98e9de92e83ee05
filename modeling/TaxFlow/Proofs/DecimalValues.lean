import Mathlib.Algebra.Order.Field.Power
import Mathlib.Algebra.Order.Floor.Semifield
import Mathlib.Data.Rat.Floor
import Mathlib.Tactic.Linarith
import Mathlib.Tactic.Positivity
import TaxFlow.Decimal.Worksheet

/-!
# Values of decimals

The rational number that a finite decimal stands for, and rounding of rational numbers toward zero
or away from it. Cutting off digits is such a rounding of the magnitude, however many digits are
cut.
-/
namespace TaxFlow.Decimal

/-- The rational number that a finite decimal stands for. -/
def value? : Decimal → Option ℚ
  | .finite negative digits exponent => some (signed negative digits * 10 ^ exponent)
  | _ => none

/-- The exponent of the last digit of a finite decimal. -/
def exponent? : Decimal → Option ℤ
  | .finite _ _ exponent => some exponent
  | _ => none

/-- A sign as a factor. -/
theorem signed_eq_mul (negative : Bool) (m : ℕ) :
    (signed negative m : ℚ) = signed negative 1 * m := by
  cases negative <;> simp [signed]

@[simp] theorem natAbs_signed (negative : Bool) (m : ℕ) : (signed negative m).natAbs = m := by
  cases negative <;> simp [signed]

theorem digitCount_pos (n : ℕ) : 0 < digitCount n := by
  by_contra h
  have := (digitCount_le_iff n 0).1 (by omega)
  omega

theorem precision_lt_digitCount_iff (n : ℕ) : precision < digitCount n ↔ 10 ^ precision ≤ n := by
  rw [← not_le, digitCount_le_iff, Nat.pow_eq, not_and, not_lt]
  exact ⟨fun h => h (by decide), fun h _ => h⟩

theorem lt_pow_digitCount (n : ℕ) : n < 10 ^ digitCount n :=
  ((digitCount_le_iff n (digitCount n)).1 le_rfl).2

theorem pow_le_of_pos {n : ℕ} (hn : 0 < n) : 10 ^ (digitCount n - 1) ≤ n := by
  by_contra hlt
  rw [not_le] at hlt
  have hcount := digitCount_pos n
  have hmany : digitCount n - 1 ≠ 0 := by
    intro hzero
    rw [hzero] at hlt
    omega
  have := (digitCount_le_iff n (digitCount n - 1)).2 ⟨by omega, hlt⟩
  omega

/-- The roundings that always go the same way. -/
inductive Direction where
  /-- Toward zero. -/
  | down
  /-- Away from zero. -/
  | up
  deriving DecidableEq, Repr

namespace Direction

/-- The name of a direction in calculations. -/
def constant : Direction → DecimalConstant
  | down => .roundDown
  | up => .roundUp

def rounding : Direction → Rounding
  | down => .down
  | up => .up

/-- A rational number rounded to a whole one. -/
def whole : Direction → ℚ → ℤ
  | down, q => if 0 ≤ q then ⌊q⌋ else ⌈q⌉
  | up, q => if 0 ≤ q then ⌈q⌉ else ⌊q⌋

/-- A rational number rounded to so many places behind the point. -/
def atPlaces (d : Direction) (places : ℕ) (q : ℚ) : ℚ := d.whole (q * 10 ^ places) / 10 ^ places

/-- A magnitude rounded to a whole number. -/
def magnitude : Direction → ℚ → ℕ
  | down, q => ⌊q⌋₊
  | up, q => ⌈q⌉₊

theorem roundingOf_constant (d : Direction) : roundingOf d.constant.value = .ok d.rounding := by
  cases d <;> rfl

theorem isBlank_constant (d : Direction) : d.constant.value.isBlank = false := by
  cases d <;> decide

theorem whole_of_nonneg (d : Direction) {q : ℚ} (hq : 0 ≤ q) : d.whole q = d.magnitude q := by
  cases d with
  | down => rw [whole, if_pos hq, magnitude, Int.natCast_floor_eq_floor hq]
  | up => rw [whole, if_pos hq, magnitude, Int.natCast_ceil_eq_ceil hq]

theorem whole_neg (d : Direction) (q : ℚ) : d.whole (-q) = -d.whole q := by
  rcases lt_trichotomy q 0 with hq | rfl | hq
  · cases d <;> simp [whole, hq.le, not_le.2 hq, Int.floor_neg, Int.ceil_neg]
  · cases d <;> simp [whole]
  · cases d <;> simp [whole, hq.le, not_le.2 hq, Int.floor_neg, Int.ceil_neg]

/-- Rounding keeps the sign and rounds the magnitude. -/
theorem whole_signed (d : Direction) (negative : Bool) {q : ℚ} (hq : 0 ≤ q) :
    d.whole (signed negative 1 * q) = signed negative (d.magnitude q) := by
  have hmagnitude := d.whole_of_nonneg hq
  cases negative with
  | false => simpa [signed] using hmagnitude
  | true => simpa [signed, whole_neg] using hmagnitude

@[simp] theorem magnitude_natCast (d : Direction) (m : ℕ) : d.magnitude m = m := by
  cases d <;> simp [magnitude]

theorem magnitude_le (d : Direction) {q : ℚ} {m : ℕ} (hq : q ≤ m) : d.magnitude q ≤ m := by
  cases d with
  | down => exact Nat.floor_le_of_le hq
  | up => exact Nat.ceil_le.2 hq

end Direction

/-- Cutting off more digits than there are leaves the quotient and the remainder of cutting off all
of them. -/
theorem cut_divisor (digits count : ℕ) :
    digits / Nat.pow 10 (min count (digitCount digits + 1)) = digits / 10 ^ count ∧
      digits % Nat.pow 10 (min count (digitCount digits + 1)) = digits % 10 ^ count := by
  rw [Nat.pow_eq]
  rcases le_total count (digitCount digits + 1) with hle | hle
  · rw [min_eq_left hle]
    exact ⟨rfl, rfl⟩
  · rw [min_eq_right hle]
    have hshort : digits < 10 ^ (digitCount digits + 1) :=
      (lt_pow_digitCount digits).trans (Nat.pow_lt_pow_right (by omega) (by omega))
    have hlong : digits < 10 ^ count := hshort.trans_le (Nat.pow_le_pow_right (by omega) hle)
    rw [Nat.div_eq_of_lt hshort, Nat.div_eq_of_lt hlong, Nat.mod_eq_of_lt hshort,
      Nat.mod_eq_of_lt hlong]
    exact ⟨rfl, rfl⟩

theorem le_cut (r : Rounding) (negative : Bool) (digits count : ℕ) :
    digits / 10 ^ count ≤ r.cut negative digits count := by
  rw [← (cut_divisor digits count).1, Rounding.cut]
  split
  · exact Nat.le_succ _
  · exact le_rfl

@[simp] theorem cut_zero (r : Rounding) (negative : Bool) (count : ℕ) :
    r.cut negative 0 count = 0 := by
  cases r <;> simp [Rounding.cut, Rounding.raises]

/-- Cutting off digits in a direction rounds the magnitude. -/
theorem Direction.cut_eq (d : Direction) (negative : Bool) (digits count : ℕ) :
    d.rounding.cut negative digits count = d.magnitude (digits / 10 ^ count) := by
  obtain ⟨hquotient, hremainder⟩ := cut_divisor digits count
  have hpos : (0 : ℚ) < 10 ^ count := by positivity
  have hsplit := Nat.div_add_mod' digits (10 ^ count)
  cases d with
  | down =>
    have hfloor := Nat.floor_div_eq_div (K := ℚ) digits (10 ^ count)
    push_cast at hfloor
    simp only [rounding, Rounding.cut, Rounding.raises, magnitude, hquotient, hfloor,
      Bool.false_eq_true, if_false]
  | up =>
    simp only [rounding, Rounding.cut, Rounding.raises, magnitude, hquotient, hremainder]
    by_cases hzero : digits % 10 ^ count = 0
    · have hexact : (digits : ℚ) / 10 ^ count = (digits / 10 ^ count : ℕ) := by
        rw [div_eq_iff hpos.ne']
        exact_mod_cast (by omega : digits = digits / 10 ^ count * 10 ^ count)
      rw [hexact, Nat.ceil_natCast]
      simp [hzero]
    · have hlt := Nat.mod_lt digits (show 10 ^ count > 0 by positivity)
      have hraised : digits < (digits / 10 ^ count + 1) * 10 ^ count := by
        rw [Nat.add_mul]
        omega
      rw [eq_comm, Nat.ceil_eq_iff (by simp [hzero])]
      simp only [hzero, ne_eq, not_false_eq_true, decide_true, if_true, Nat.add_sub_cancel]
      rw [lt_div_iff₀ hpos, div_le_iff₀ hpos]
      exact ⟨by exact_mod_cast (by omega : digits / 10 ^ count * 10 ^ count < digits),
        by exact_mod_cast hraised.le⟩

end TaxFlow.Decimal

import Mathlib.Tactic.FieldSimp
import TaxFlow.Proofs.Rescaling

/-!
# Rounded quotients

Dividing with a scale rounds twice: to the digits of a result, a half going to the even digit, and
then to the scale. For numbers that are not too large the first rounding neither reaches nor crosses
a multiple of the last place, so that the result is the exact quotient rounded once.
-/
namespace TaxFlow.Decimal

/-- The order of magnitude of digits at an exponent. -/
theorem pow_adjusted_le {digits : ℕ} {m : ℚ} (hm : ((10 ^ (digitCount digits - 1) : ℕ) : ℚ) ≤ m)
    (exponent : ℤ) :
    (10 : ℚ) ^ adjusted digits exponent ≤ m * 10 ^ exponent := by
  have hcount := digitCount_pos digits
  have hadjusted : adjusted digits exponent = ((digitCount digits - 1 : ℕ) : ℤ) + exponent := by
    rw [adjusted]
    omega
  rw [hadjusted, zpow_add₀ (by norm_num), zpow_natCast]
  push_cast at hm
  gcongr

theorem lt_pow_adjusted {digits : ℕ} {m : ℚ} (hm : m < digits + 1) (exponent : ℤ) :
    m * 10 ^ exponent < 10 ^ (adjusted digits exponent + 1) := by
  have hlast : ((digits + 1 : ℕ) : ℚ) ≤ (10 ^ digitCount digits : ℕ) := by
    exact_mod_cast lt_pow_digitCount digits
  have hadjusted : adjusted digits exponent + 1 = (digitCount digits : ℤ) + exponent := by
    rw [adjusted]
    omega
  rw [hadjusted, zpow_add₀ (by norm_num), zpow_natCast]
  push_cast at hlast
  have hlt := hm.trans_le hlast
  gcongr

/-- Cutting off digits with a half going to the even digit misses by at most half a unit. -/
theorem halfEven_cut (negative : Bool) {digits count : ℕ} (hcount : count ≤ digitCount digits) :
    2 * (Rounding.halfEven.cut negative digits count * 10 ^ count) ≤ 2 * digits + 10 ^ count ∧
      2 * digits ≤ 2 * (Rounding.halfEven.cut negative digits count * 10 ^ count) + 10 ^ count := by
  have hsplit := Nat.div_add_mod' digits (10 ^ count)
  have hlt := Nat.mod_lt digits (show 10 ^ count > 0 by positivity)
  simp only [Rounding.cut, Rounding.raises, Nat.pow_eq,
    min_eq_left (show count ≤ digitCount digits + 1 by omega)]
  split_ifs with hraises
  · have hhalf : 10 ^ count ≤ 2 * (digits % 10 ^ count) := by
      simp only [Bool.or_eq_true, decide_eq_true_eq, Bool.and_eq_true] at hraises
      omega
    rw [Nat.add_mul]
    omega
  · have hhalf : 2 * (digits % 10 ^ count) ≤ 10 ^ count := by
      simp only [Bool.or_eq_true, decide_eq_true_eq, not_or] at hraises
      omega
    omega

theorem halfEven_cut_near (negative : Bool) {digits count : ℕ} (hcount : count ≤ digitCount digits)
    (exponent : ℤ) :
    |(Rounding.halfEven.cut negative digits count : ℚ) * 10 ^ (exponent + count) - digits *
        10 ^ exponent| ≤
      10 ^ (exponent + count) / 2 := by
  obtain ⟨hhigh, hlow⟩ := halfEven_cut negative hcount
  have hhigh' : 2 * ((Rounding.halfEven.cut negative digits count : ℚ) * 10 ^ count) ≤
      2 * digits + 10 ^ count := by
    exact_mod_cast hhigh
  have hlow' : 2 * (digits : ℚ) ≤ 2 * (Rounding.halfEven.cut negative digits count * 10 ^ count) +
      10 ^ count := by
    exact_mod_cast hlow
  have hunit : (0 : ℚ) < 10 ^ exponent := by positivity
  have hmiss : |(Rounding.halfEven.cut negative digits count : ℚ) * 10 ^ count - digits| ≤
      10 ^ count / 2 := by
    rw [abs_le]
    constructor <;> linarith
  calc
    |(Rounding.halfEven.cut negative digits count : ℚ) * 10 ^ (exponent + count) - digits *
        10 ^ exponent|
      = |((Rounding.halfEven.cut negative digits count : ℚ) * 10 ^ count - digits) * 10 ^
        exponent| := by
        rw [zpow_add₀ (by norm_num), zpow_natCast]
        ring_nf
    _ = |(Rounding.halfEven.cut negative digits count : ℚ) * 10 ^ count - digits| * 10 ^
      exponent := by
        rw [abs_mul, abs_of_pos hunit]
    _ ≤ 10 ^ count / 2 * 10 ^ exponent := by gcongr
    _ = 10 ^ (exponent + count) / 2 := by
        rw [zpow_add₀ (by norm_num), zpow_natCast]
        ring

/-- Removing trailing zeros keeps the value. -/
theorem stripped_value (ideal : ℤ) (fuel digits : ℕ) (exponent : ℤ) :
    ((stripped ideal fuel digits exponent).1 : ℚ) * 10 ^ (stripped ideal fuel digits exponent).2 =
      digits * 10 ^ exponent := by
  induction fuel generalizing digits exponent with
  | zero => rfl
  | succ fuel ih =>
    rw [stripped]
    split_ifs with h
    · have hten : (digits : ℚ) = (digits / 10 : ℕ) * 10 := by
        exact_mod_cast (by omega : digits = digits / 10 * 10)
      rw [ih, zpow_add₀ (by norm_num), zpow_one, hten]
      ring
    · rfl

/-- A last digit that is raised from a zero or a five does not add a digit. -/
theorem pow_le_of_raised {q : ℕ} (hq : 10 ^ precision ≤ q) :
    10 ^ (digitCount (if q % 5 = 0 then q + 1 else q) - 1) ≤ q := by
  have hpos : 0 < q := lt_of_lt_of_le (by positivity) hq
  split_ifs with hfive
  · have hfirst := pow_le_of_pos (Nat.succ_pos q)
    have hmany := (precision_lt_digitCount_iff (q + 1)).2 (by omega)
    have hsome : 0 < precision := by decide
    obtain ⟨k, hk⟩ : ∃ k, digitCount (q + 1) - 1 = k + 1 := ⟨digitCount (q + 1) - 2, by omega⟩
    rw [Nat.succ_eq_add_one, hk, Nat.pow_succ] at hfirst
    rw [hk, Nat.pow_succ]
    omega
  · exact pow_le_of_pos hpos

/-- A numerator and a denominator that are shifted against each other until the quotient has more
digits than a result may have. -/
theorem shifted_quotient {c d : ℕ} (hc : 0 < c) (hd : 0 < d) :
    let shift : ℤ := (digitCount d : ℤ) - digitCount c + precision + 1
    let num := c * 10 ^ shift.toNat
    let den := d * 10 ^ (-shift).toNat
    (num : ℚ) / den = c / d * 10 ^ shift ∧ 10 ^ precision ≤ num / den := by
  intro shift num den
  have hten : (10 : ℚ) ≠ 0 := by norm_num
  have hpow : (10 : ℚ) ^ shift.toNat / 10 ^ (-shift).toNat = 10 ^ shift := by
    rw [← zpow_natCast, ← zpow_natCast, ← zpow_sub₀ hten]
    congr 1
    omega
  have hvalue : (num : ℚ) / den = c / d * 10 ^ shift := by
    rw [← hpow]
    push_cast [num, den]
    exact mul_div_mul_comm ..
  refine ⟨hvalue, ?_⟩
  have hden : 0 < den := by positivity
  have hcfirst : (10 : ℚ) ^ ((digitCount c : ℤ) - 1) ≤ c := by
    have hcount := digitCount_pos c
    have hfirst : ((10 ^ (digitCount c - 1) : ℕ) : ℚ) ≤ c := by exact_mod_cast pow_le_of_pos hc
    push_cast at hfirst
    rwa [← zpow_natCast, Nat.cast_sub hcount, Nat.cast_one] at hfirst
  have hdlast : (d : ℚ) ≤ 10 ^ (digitCount d : ℤ) := by
    rw [zpow_natCast]
    exact_mod_cast (lt_pow_digitCount d).le
  have hdpos : (0 : ℚ) < d := by exact_mod_cast hd
  rw [Nat.le_div_iff_mul_le hden]
  have hratio : (10 : ℚ) ^ precision ≤ num / den := by
    calc
      (10 : ℚ) ^ precision = 10 ^ ((digitCount c : ℤ) - 1) / 10 ^ (digitCount d : ℤ) *
        10 ^ shift := by
          rw [← zpow_sub₀ hten, ← zpow_add₀ hten, ← zpow_natCast]
          congr 1
          omega
      _ ≤ c / d * 10 ^ shift := by gcongr
      _ = num / den := hvalue.symm
  rw [le_div_iff₀ (by exact_mod_cast hden)] at hratio
  exact_mod_cast hratio

/-- Digits that stand for a magnitude of the same order: they are exact, or more than a result may
have and miss it by less than a unit of the last one. -/
structure Approximates (digits : ℕ) (exponent : ℤ) (x : ℚ) : Prop where
  first : 10 ^ adjusted digits exponent ≤ x
  last : x < 10 ^ (adjusted digits exponent + 1)
  miss : digits * 10 ^ exponent = x ∨ precision < digitCount digits ∧
    |digits * 10 ^ exponent - x| < 10 ^ exponent

theorem approximates_self {digits : ℕ} (hdigits : 0 < digits) (exponent : ℤ) :
    Approximates digits exponent (digits * 10 ^ exponent) :=
  ⟨pow_adjusted_le (by exact_mod_cast pow_le_of_pos hdigits) exponent,
    lt_pow_adjusted (by linarith) exponent, .inl rfl⟩

theorem approximates_raised {q : ℕ} {r : ℚ} (hq : 10 ^ precision ≤ q) (hlow : q < r)
    (hhigh : r < q + 1)
    (exponent : ℤ) :
    Approximates (if q % 5 = 0 then q + 1 else q) exponent (r * 10 ^ exponent) := by
  have hfirst := pow_le_of_raised hq
  have hraised : q ≤ (if q % 5 = 0 then q + 1 else q) ∧
      (if q % 5 = 0 then q + 1 else q) ≤ q + 1 := by
    split_ifs <;> omega
  generalize (if q % 5 = 0 then q + 1 else q) = raised at hfirst hraised ⊢
  have hlast : (q : ℚ) ≤ raised ∧ (raised : ℚ) ≤ q + 1 := by exact_mod_cast hraised
  have hmany := (precision_lt_digitCount_iff raised).2 (hq.trans hraised.1)
  refine ⟨pow_adjusted_le (le_trans (by exact_mod_cast hfirst) hlow.le) exponent,
    lt_pow_adjusted (by linarith) exponent, .inr ⟨hmany, ?_⟩⟩
  have hmiss : |(raised : ℚ) - r| < 1 := by
    rw [abs_lt]
    constructor <;> linarith
  have hunit : (0 : ℚ) < 10 ^ exponent := by positivity
  rw [← sub_mul, abs_mul, abs_of_pos hunit]
  exact mul_lt_of_lt_one_left hunit hmiss

/-- A quotient before it is fitted. -/
theorem quotient_approximates {c d : ℕ} (hc : 0 < c) (hd : 0 < d) (e f : ℤ) :
    Approximates (quotient c e d f).1 (quotient c e d f).2 (c * 10 ^ e / (d * 10 ^ f)) := by
  obtain ⟨hvalue, hmany⟩ := shifted_quotient hc hd
  rw [quotient]
  simp only [Nat.pow_eq]
  set shift : ℤ := (digitCount d : ℤ) - digitCount c + precision + 1
  set num := c * 10 ^ shift.toNat
  set den := d * 10 ^ (-shift).toNat
  have hten : (10 : ℚ) ≠ 0 := by norm_num
  have hden : 0 < den := by positivity
  have hdenpos : (0 : ℚ) < den := by exact_mod_cast hden
  have hx : (c : ℚ) * 10 ^ e / (d * 10 ^ f) = num / den * 10 ^ (e - f - shift) := by
    rw [hvalue, zpow_sub₀ hten, zpow_sub₀ hten]
    field_simp
  rw [hx]
  have hsplit := Nat.div_add_mod' num den
  by_cases hexact : num % den = 0
  · have hnum : (num : ℚ) / den = (num / den : ℕ) := by
      rw [div_eq_iff hdenpos.ne']
      exact_mod_cast (by omega : num = num / den * den)
    have hstripped := stripped_value (e - f) (digitCount (num / den)) (num / den) (e - f - shift)
    rw [if_neg (not_not.2 hexact), hnum, ← hstripped]
    apply approximates_self
    by_contra hzero
    have hquotient : (0 : ℚ) < (num / den : ℕ) * 10 ^ (e - f - shift) := by
      have : 0 < num / den := lt_of_lt_of_le (by positivity) hmany
      positivity
    rw [← hstripped, Nat.eq_zero_of_not_pos hzero] at hquotient
    simp at hquotient
  · rw [if_pos hexact]
    have hlt := Nat.mod_lt num hden
    apply approximates_raised hmany
    · rw [lt_div_iff₀ hdenpos]
      exact_mod_cast (by omega : num / den * den < num)
    · rw [div_lt_iff₀ hdenpos]
      exact_mod_cast (by rw [Nat.add_mul]; omega : num < (num / den + 1) * den)

theorem Approximates.ne_zero {digits : ℕ} {exponent : ℤ} {x : ℚ}
    (h : Approximates digits exponent x) : digits ≠ 0 := by
  rintro rfl
  obtain ⟨hlow, -, hexact | ⟨hmany, -⟩⟩ := h
  · have : (0 : ℚ) < 10 ^ adjusted 0 exponent := by positivity
    rw [← hexact] at hlow
    simp at hlow
    linarith
  · rw [precision_lt_digitCount_iff] at hmany
    simp at hmany

/-- Fitting a number of too many digits rounds it. Digits that are all carried are written with the
next exponent. -/
theorem fitted_of_lt (negative : Bool) {digits : ℕ} {exponent : ℤ}
    (hcount : precision < digitCount digits)
    (hmin : minExponent ≤ adjusted digits exponent)
    (hmax : adjusted digits exponent < maxExponent) :
    ∃ c e, fitted negative digits exponent = .ok (.finite negative c e) ∧ (c : ℚ) * 10 ^ e =
      (Rounding.halfEven.cut negative digits (digitCount digits - precision) : ℤ) *
        10 ^ (exponent + (digitCount digits - precision : ℕ)) := by
  have hdigits : digits ≠ 0 := by
    rintro rfl
    simp [precision_lt_digitCount_iff] at hcount
  have hexcess : digitCount digits - precision ≠ 0 := Nat.sub_ne_zero_of_lt hcount
  have hcut := (halfEven_cut negative (Nat.sub_le (digitCount digits) precision)).1
  have hlast := lt_pow_digitCount digits
  rw [fitted, if_neg hdigits, if_neg (not_lt.2 hmax.le), if_neg (not_lt.2 hmin)]
  simp only [if_neg hexcess]
  have hpow : 10 ^ digitCount digits = 10 ^ precision * 10 ^ (digitCount digits - precision) := by
    rw [← Nat.pow_add]
    congr 1
    omega
  generalize Rounding.halfEven.cut negative digits (digitCount digits - precision) = cut at hcut ⊢
  have hle : cut ≤ 10 ^ precision := by
    by_contra hlt
    have hmany := Nat.mul_le_mul_right (10 ^ (digitCount digits - precision)) (not_le.1 hlt)
    have hunit : 0 < 10 ^ (digitCount digits - precision) := by positivity
    rw [Nat.succ_mul] at hmany
    omega
  by_cases hcarry : cut = Nat.pow 10 precision
  · have hfirst : digitCount (Nat.pow 10 (precision - 1)) ≤ precision :=
      (digitCount_le_iff _ _).2 (by decide)
    have hadjusted : ¬maxExponent < adjusted (Nat.pow 10 (precision - 1))
        (exponent + (digitCount digits - precision : ℕ) + 1) := by
      simp only [adjusted] at *
      omega
    simp only [if_pos hcarry, if_neg hadjusted]
    refine ⟨_, _, rfl, ?_⟩
    rw [hcarry, zpow_add₀ (by norm_num), zpow_one]
    norm_num [precision]
    ring
  · have hfew : digitCount cut ≤ precision :=
      (digitCount_le_iff _ _).2 ⟨by decide, by rw [Nat.pow_eq] at *; omega⟩
    have hadjusted :
    ¬maxExponent < adjusted cut (exponent + (digitCount digits - precision : ℕ)) := by
      simp only [adjusted] at *
      omega
    simp only [if_neg hcarry, if_neg hadjusted]
    exact ⟨_, _, rfl, by rw [Int.cast_natCast]⟩

/-- Whether a value is close enough to another one to be rounded alike: it is the same, or it is a
number of units that are small beside them and misses the other one by less than a unit. -/
def Near (v x : ℚ) : Prop :=
  v = x ∨ ∃ m k : ℤ, v = m * 10 ^ k ∧ |v - x| < 10 ^ k ∧ 10 ^ 27 * 10 ^ k ≤ x

/-- A fitted number is near the exact one. -/
theorem Approximates.fitted_near {digits : ℕ} {exponent : ℤ} {x : ℚ}
    (h : Approximates digits exponent x)
    (hmin : minExponent ≤ adjusted digits exponent) (hmax : adjusted digits exponent < maxExponent)
    (negative : Bool) :
    ∃ c e, fitted negative digits exponent = .ok (.finite negative c e) ∧ Near (c * 10 ^ e) x := by
  have hdigits := h.ne_zero
  obtain ⟨hlow, -, hmiss⟩ := h
  by_cases hcount : precision < digitCount digits
  · obtain ⟨c, e, hfitted, hvalue⟩ := fitted_of_lt negative hcount hmin hmax
    refine ⟨c, e, hfitted, .inr ⟨_, _, hvalue, ?_, ?_⟩⟩
    · have hcut := halfEven_cut_near negative (Nat.sub_le (digitCount digits) precision) exponent
      have hunit : (10 : ℚ) ^ exponent * 10 ≤
        10 ^ (exponent + (digitCount digits - precision : ℕ)) := by
        rw [← zpow_add_one₀ (by norm_num)]
        exact zpow_le_zpow_right₀ (by norm_num) (by omega)
      have hunitpos : (0 : ℚ) < 10 ^ exponent := by positivity
      have hsource : |(digits : ℚ) * 10 ^ exponent - x| < 10 ^ exponent := by
        rcases hmiss with hexact | ⟨-, hmiss⟩
        · rwa [hexact, sub_self, abs_zero]
        · exact hmiss
      rw [hvalue, Int.cast_natCast]
      exact (abs_sub_le _ ((digits : ℚ) * 10 ^ exponent) x).trans_lt (by linarith)
    · have hadjusted :
          ((27 : ℕ) : ℤ) + (exponent + (digitCount digits - precision : ℕ)) =
            adjusted digits exponent := by
        rw [adjusted, precision] at *
        omega
      rwa [← zpow_natCast, ← zpow_add₀ (by norm_num), hadjusted]
  · rcases hmiss with hexact | ⟨hmany, -⟩
    · exact ⟨digits, exponent, fitted_of_le hdigits (not_lt.1 hcount) hmin hmax.le, .inl hexact⟩
    · exact absurd hmany hcount

/-- Two magnitudes are rounded alike if no whole number separates them. -/
theorem Direction.magnitude_congr (d : Direction) {u w : ℚ} (hu : 0 ≤ u) (hw : 0 ≤ w)
    (hlow : ∀ t : ℕ, t ≤ u ↔ t ≤ w) (hhigh : ∀ t : ℕ, u ≤ t ↔ w ≤ t) :
    d.magnitude u = d.magnitude w := by
  cases d with
  | down =>
    apply eq_of_forall_le_iff
    intro t
    rw [magnitude, magnitude, Nat.le_floor_iff hu, Nat.le_floor_iff hw, hlow]
  | up =>
    apply eq_of_forall_ge_iff
    intro t
    rw [magnitude, magnitude, Nat.ceil_le, Nat.ceil_le, hhigh]

/-- No whole number separates `m / p` from `a / b` if they differ by less than `1 / p`, and `p` is
the larger denominator. -/
theorem magnitude_quotient (d : Direction) {m p a b : ℕ} (hb : 0 < b) (hp : b < p)
    (hlow : a * p < m * b + b)
    (hhigh : m * b < a * p + b) : d.magnitude (m / p) = d.magnitude (a / b) := by
  have hbpos : (0 : ℚ) < b := by exact_mod_cast hb
  have hppos : (0 : ℚ) < p := by exact_mod_cast hb.trans hp
  apply d.magnitude_congr (by positivity) (by positivity)
  · intro t
    rw [le_div_iff₀ hppos, le_div_iff₀ hbpos]
    norm_cast
    constructor
    · intro hm
      by_contra ha
      nlinarith
    · intro ha
      by_contra hm
      nlinarith
  · intro t
    rw [div_le_iff₀ hppos, div_le_iff₀ hbpos]
    norm_cast
    constructor
    · intro hm
      by_contra ha
      nlinarith
    · intro ha
      by_contra hm
      nlinarith

/-- Units that are small beside a denominator are places behind the point, more than the denominator
has digits. -/
theorem exists_places {k : ℤ} {n b : ℕ} (hb : 0 < b) (hunit : (b : ℚ) * (10 ^ k * 10 ^ n) < 1) :
    ∃ j : ℕ, b < 10 ^ j ∧ (10 : ℚ) ^ k * 10 ^ n * 10 ^ j = 1 := by
  have hten : (10 : ℚ) ≠ 0 := by norm_num
  rw [← zpow_natCast, ← zpow_add₀ hten] at hunit ⊢
  obtain ⟨j, hj⟩ : ∃ j : ℕ, k + n = -j := by
    refine ⟨(-(k + n)).toNat, ?_⟩
    by_contra hpos
    have hb' : (1 : ℚ) ≤ b := by exact_mod_cast hb
    have hone : (1 : ℚ) ≤ 10 ^ (k + n) := one_le_zpow₀ (by norm_num) (by omega)
    nlinarith
  refine ⟨j, ?_, ?_⟩
  · rw [hj, zpow_neg, zpow_natCast, ← div_eq_mul_inv, div_lt_one (by positivity)] at hunit
    exact_mod_cast hunit
  · rw [hj, ← zpow_natCast, ← zpow_add₀ hten, neg_add_cancel, zpow_zero]

/-- A number of units that misses a quotient by less than a unit, with both over a common
denominator. -/
theorem abs_sub_lt_of_units {m k : ℤ} {x : ℚ} {n j a b : ℕ} (hb : 0 < b)
    (hmiss : |m * 10 ^ k - x| < 10 ^ k)
    (hpow : (10 : ℚ) ^ k * 10 ^ n * 10 ^ j = 1) (hx : x * 10 ^ n = a / b) :
    |(m : ℚ) * b - a * 10 ^ j| < b := by
  have hbpos : (0 : ℚ) < b := by exact_mod_cast hb
  have hfactor : (0 : ℚ) < 10 ^ n * 10 ^ j * b := by positivity
  rw [eq_div_iff hbpos.ne'] at hx
  have hscaled : (m : ℚ) * b - a * 10 ^ j = (m * 10 ^ k - x) * (10 ^ n * 10 ^ j * b) := by
    calc
      (m : ℚ) * b - a * 10 ^ j = m * b * (10 ^ k * 10 ^ n * 10 ^ j) - x * 10 ^ n * b * 10 ^ j := by
          rw [hpow, hx, mul_one]
      _ = (m * 10 ^ k - x) * (10 ^ n * 10 ^ j * b) := by ring
  calc |(m : ℚ) * b - a * 10 ^ j| = |m * 10 ^ k - x| * (10 ^ n * 10 ^ j * b) := by
        rw [hscaled, abs_mul, abs_of_pos hfactor]
    _ < 10 ^ k * (10 ^ n * 10 ^ j * b) := by gcongr
    _ = 10 ^ k * 10 ^ n * 10 ^ j * b := by ring
    _ = b := by rw [hpow, one_mul]

/-- A near value is rounded to the same number of places as the exact one, if that is a quotient of
numbers that are not too large. -/
theorem Near.magnitude_eq {v x : ℚ} (h : Near v x) (d : Direction) {n a b : ℕ} (hb : 0 < b)
    (ha : a < 10 ^ 27)
    (hx : x * 10 ^ n = a / b) : d.magnitude (v * 10 ^ n) = d.magnitude (x * 10 ^ n) := by
  rcases h with rfl | ⟨m, k, rfl, hmiss, hsmall⟩
  · rfl
  have hbpos : (0 : ℚ) < b := by exact_mod_cast hb
  have hunit : (b : ℚ) * (10 ^ k * 10 ^ n) < 1 := by
    have hlarge : (a : ℚ) < 10 ^ 27 := by exact_mod_cast ha
    have hsmall' : 10 ^ 27 * (10 ^ k * 10 ^ n) ≤ (a : ℚ) / b := by
      rw [← hx, ← mul_assoc]
      gcongr
    rw [le_div_iff₀ hbpos] at hsmall'
    linarith
  obtain ⟨j, hp, hpow⟩ := exists_places hb hunit
  obtain ⟨hlow, hhigh⟩ := abs_lt.1 (abs_sub_lt_of_units hb hmiss hpow hx)
  have hlow' : (a : ℤ) * 10 ^ j < m * b + b := by
    exact_mod_cast (by linarith : (a : ℚ) * 10 ^ j < m * b + b)
  have hhigh' : m * b < (a : ℤ) * 10 ^ j + b := by
    exact_mod_cast (by linarith : (m : ℚ) * b < a * 10 ^ j + b)
  have hm : 0 ≤ m := by
    by_contra hneg
    have : (0 : ℤ) ≤ a * 10 ^ j := by positivity
    nlinarith
  lift m to ℕ using hm
  have hv : ((m : ℤ) : ℚ) * 10 ^ k * 10 ^ n = m / (10 ^ j : ℕ) := by
    rw [eq_div_iff (by positivity)]
    push_cast
    rw [mul_assoc, mul_assoc, ← mul_assoc (10 ^ k : ℚ), hpow, mul_one]
  rw [hv, hx]
  apply magnitude_quotient d hb hp
  · exact_mod_cast hlow'
  · exact_mod_cast hhigh'

/-- Setting the scale of a number that is near a quotient rounds the quotient. -/
theorem setScale_of_near {q : ℕ} {k : ℤ} {x : ℚ} (h : Near (q * 10 ^ k) x) (negative : Bool)
    (d : Direction)
    {n a b : ℕ} (hn : n ≤ 27) (hb : 0 < b) (ha : a < 10 ^ 27) (hx : x * 10 ^ n = a / b) :
    Operation.setScale.apply (.finite negative q k) [.integer n, d.constant.value] =
      .ok (.decimal (.finite negative (d.magnitude (x * 10 ^ n)) (-n))) := by
  have hdigits : rescaledDigits d.rounding negative q k (-n) = d.magnitude (x * 10 ^ n) := by
    rw [rescaledDigits_eq, sub_neg_eq_add, zpow_add₀ (by norm_num), zpow_natCast, ← mul_assoc]
    exact h.magnitude_eq d hb ha hx
  have hbound : x * 10 ^ n ≤ (10 ^ 27 : ℕ) := by
    rw [hx]
    exact (div_le_self (by positivity) (by exact_mod_cast hb)).trans (by exact_mod_cast ha.le)
  have hfew : ¬precision < digitCount (d.magnitude (x * 10 ^ n)) := by
    rw [precision_lt_digitCount_iff, not_le]
    exact (d.magnitude_le hbound).trans_lt (by decide)
  have hscaled := apply_setScale_finite negative q k (show n ≤ 999999 by omega) d
  rwa [hdigits, if_neg hfew] at hscaled

/-- A quotient to so many places is the quotient with its scale set. -/
theorem quotientWith_eq {x y z : Decimal} {o : Operand} (ho : o.number? = some y)
    (h : x.divide y = .ok z) {n : ℕ} (hn : n ≤ 999999) (d : Direction) :
    x.quotientWith o (.integer n) d.constant.value =
      attempt (rescaled d.rounding z (.finite false 0 (-n))) := by
  rw [quotientWith, d.isBlank_constant, Bool.and_false, if_neg (by decide),
    zeroWithPlaces_natCast hn, d.roundingOf_constant]
  simp only [withNumber, ho, h]
  rfl

theorem apply_divide {x y z : Decimal} (h : x.divide y = .ok z) {n : ℕ} (hn : n ≤ 999999)
    (d : Direction) :
    Operation.divide.apply x [.decimal y, .integer n, d.constant.value] =
      Operation.setScale.apply z [.integer n, d.constant.value] := by
  rw [apply_setScale z hn]
  exact congrArg Operation.ofDecimal (quotientWith_eq rfl h hn d)

theorem abs_signed (negative : Bool) (m : ℕ) : |(signed negative m : ℚ)| = m := by
  cases negative <;> simp [signed]

theorem signed_div (m n : Bool) : (signed m 1 : ℚ) / signed n 1 = signed (m != n) 1 := by
  cases m <;> cases n <;> simp [signed]

theorem magnitude_of_value {negative : Bool} {c : ℕ} {e a : ℤ} {s : ℕ}
    (h : (signed negative c : ℚ) * 10 ^ e = a / 10 ^ s) : (c : ℚ) * 10 ^ e = a.natAbs / 10 ^ s := by
  have hpow : (0 : ℚ) < 10 ^ e := by positivity
  have hscale : (0 : ℚ) < 10 ^ s := by positivity
  have habs := congrArg abs h
  rwa [abs_mul, abs_signed, abs_of_pos hpow, abs_div, abs_of_pos hscale, ← Int.cast_abs,
    ← Nat.cast_natAbs] at habs

/-- A quotient of moderate size is near the exact one, with the sign of the operands. -/
theorem divide_near (m n : Bool) (c : ℕ) {d : ℕ} (hd : 0 < d) (e f : ℤ) {x : ℚ}
    (hx : x = c * 10 ^ e / (d * 10 ^ f)) (hlow : 0 < x → (10 : ℚ) ^ (-27 : ℤ) < x)
    (hhigh : x < 10 ^ (27 : ℤ)) :
    ∃ c' e', divide (.finite m c e) (.finite n d f) = .ok (.finite (m != n) c' e') ∧
      Near (c' * 10 ^ e') x := by
  subst hx
  have hdivide : divide (.finite m c e) (.finite n d f) = if c = 0 then fitted (m != n) 0 (e - f)
      else fitted (m != n) (quotient c e d f).1 (quotient c e d f).2 := by
    change (if d = 0 then _ else if c = 0 then _ else fitted (m != n) (quotient c e d f).1
      (quotient c e d f).2) = _
    rw [if_neg hd.ne']
    rfl
  rw [hdivide]
  by_cases hc : c = 0
  · rw [if_pos hc, fitted, if_pos rfl]
    exact ⟨0, _, rfl, .inl (by simp [hc])⟩
  · rw [if_neg hc]
    have hcpos := Nat.pos_of_ne_zero hc
    have happroximates := quotient_approximates hcpos hd e f
    have hlarge := (zpow_lt_zpow_iff_right₀ (by norm_num)).1 (happroximates.first.trans_lt hhigh)
    have hsmall :=
      (zpow_lt_zpow_iff_right₀ (by norm_num)).1 ((hlow (by positivity)).trans happroximates.last)
    apply happroximates.fitted_near
    · rw [minExponent]
      omega
    · rw [maxExponent]
      omega

theorem moderate_quotient {a b : ℕ} (ha : a < 10 ^ 27) (hb : 0 < b) (hb' : b < 10 ^ 27) :
    (0 < (a : ℚ) / b → (10 : ℚ) ^ (-27 : ℤ) < a / b) ∧ (a : ℚ) / b < 10 ^ (27 : ℤ) := by
  have hbpos : (0 : ℚ) < b := by exact_mod_cast hb
  constructor
  · intro hpos
    have haone : (1 : ℚ) ≤ a := by
      have hne : a ≠ 0 := by
        rintro rfl
        simp at hpos
      exact_mod_cast Nat.one_le_iff_ne_zero.2 hne
    rw [lt_div_iff₀ hbpos]
    refine lt_of_lt_of_le ?_ haone
    rw [zpow_neg, inv_mul_lt_iff₀ (by positivity), mul_one]
    exact_mod_cast hb'
  · calc (a : ℚ) / b ≤ a := div_le_self (by positivity) (by exact_mod_cast hb)
      _ < 10 ^ (27 : ℤ) := by exact_mod_cast ha

/-- The quotient of two decimals of one scale, by sign and magnitude. -/
theorem quotient_of_values {m m' : Bool} {c c' : ℕ} {e f a b : ℤ} {s : ℕ}
    (hx : (signed m c : ℚ) * 10 ^ e = a / 10 ^ s) (hy : (signed m' c' : ℚ) * 10 ^ f = b / 10 ^ s) :
    (a.natAbs : ℚ) / b.natAbs = c * 10 ^ e / (c' * 10 ^ f) ∧
      (a : ℚ) / b = signed (m != m') 1 * (a.natAbs / b.natAbs) := by
  have hscale : (10 : ℚ) ^ s ≠ 0 := by positivity
  have hratio : (a.natAbs : ℚ) / b.natAbs = c * 10 ^ e / (c' * 10 ^ f) := by
    rw [magnitude_of_value hx, magnitude_of_value hy, div_div_div_cancel_right₀ hscale]
  refine ⟨hratio, ?_⟩
  rw [hratio, ← div_div_div_cancel_right₀ hscale, ← hx, ← hy, signed_eq_mul,
    signed_eq_mul m', ← signed_div]
  ring

/-- Dividing with a scale rounds twice, and still gives the exact quotient rounded once, if the
dividend in units of the last place and the divisor are below `10 ^ 27`. -/
theorem divide_rounds_exactly {x y : Decimal} {a b : ℤ} {s n : ℕ}
    (hx : x.value? = some ((a : ℚ) / 10 ^ s))
    (hy : y.value? = some ((b : ℚ) / 10 ^ s)) (hn : n ≤ 27) (ha : |a| * 10 ^ n < 10 ^ 27)
    (hb : 0 < |b|) (hb' : |b| < 10 ^ 27) (d : Direction) :
    ∃ z : Decimal, Operation.divide.apply x [.decimal y, .integer n, d.constant.value] =
      .ok (.decimal z) ∧
      z.value? = some (d.atPlaces n ((a : ℚ) / b)) := by
  cases x with
  | infinite negative => cases hx
  | nan negative signaling diagnosis => cases hx
  | finite m c e =>
    cases y with
    | infinite negative => cases hy
    | nan negative signaling diagnosis => cases hy
    | finite m' c' f =>
      rw [Int.abs_eq_natAbs] at ha hb hb'
      replace hy := Option.some.inj hy
      obtain ⟨hratio, hquotient⟩ := quotient_of_values (Option.some.inj hx) hy
      have hdivisor : 0 < b.natAbs := by omega
      have hdigits : 0 < c' := by
        by_contra hzero
        have hvalue := magnitude_of_value hy
        rw [Nat.eq_zero_of_not_pos hzero, Nat.cast_zero, zero_mul] at hvalue
        exact absurd hvalue (by positivity)
      have hplaces : (a.natAbs : ℚ) / b.natAbs * 10 ^ n = (a.natAbs * 10 ^ n : ℕ) / b.natAbs := by
        push_cast
        ring
      have hdividend : a.natAbs * 10 ^ n < 10 ^ 27 := by exact_mod_cast ha
      have hunits : a.natAbs < 10 ^ 27 :=
        (Nat.le_mul_of_pos_right _ (by positivity)).trans_lt hdividend
      obtain ⟨hlow, hhigh⟩ := moderate_quotient hunits hdivisor (by exact_mod_cast hb')
      obtain ⟨q, k, hdivide, hnear⟩ := divide_near m m' c hdigits e f hratio hlow hhigh
      have hscaled := setScale_of_near hnear (m != m') d hn hdivisor hdividend hplaces
      refine ⟨_, (apply_divide hdivide (by omega) d).trans hscaled, ?_⟩
      rw [value?, Direction.atPlaces, hquotient, mul_assoc, d.whole_signed _ (by positivity),
        zpow_neg, zpow_natCast, ← div_eq_mul_inv]

/-- The quotient of `-(10 ^ 27 - 2)` and `10 ^ 27 - 1` differs from `-1` only in the last of 27
digits. -/
theorem almostOne_divided :
    let divided := fun d : Direction => Operation.divide.apply (.finite true (10 ^ 27 - 2) 0)
      [.decimal (.finite false (10 ^ 27 - 1) 0), .integer 0, d.constant.value]
    (∃ z : Decimal, divided .down = .ok (.decimal z) ∧ z.value? = some 0) ∧
      ∃ z : Decimal, divided .up = .ok (.decimal z) ∧ z.value? = some (-1) := by
  intro divided
  have hx : (Decimal.finite true (10 ^ 27 - 2) 0).value? =
      some (((-(10 ^ 27 - 2) : ℤ) : ℚ) / 10 ^ 0) := by
    norm_num [value?, signed]
  have hy : (Decimal.finite false (10 ^ 27 - 1) 0).value? =
      some (((10 ^ 27 - 1 : ℤ) : ℚ) / 10 ^ 0) := by
    norm_num [value?, signed]
  have hrounded :=
    divide_rounds_exactly hx hy (Nat.zero_le _) (by norm_num) (by norm_num) (by norm_num)
  have hdown : Direction.down.atPlaces 0 (((-(10 ^ 27 - 2) : ℤ) : ℚ) / (10 ^ 27 - 1 : ℤ)) = 0 := by
    norm_num [Direction.atPlaces, Direction.whole]
  have hup : Direction.up.atPlaces 0 (((-(10 ^ 27 - 2) : ℤ) : ℚ) / (10 ^ 27 - 1 : ℤ)) = -1 := by
    norm_num [Direction.atPlaces, Direction.whole]
  exact ⟨hdown ▸ hrounded .down, hup ▸ hrounded .up⟩

end TaxFlow.Decimal

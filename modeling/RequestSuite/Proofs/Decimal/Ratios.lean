import Mathlib.Algebra.Order.Field.Power
import Mathlib.Algebra.Order.Field.Rat
import Mathlib.Data.Int.Log
import Mathlib.Data.Rat.Floor
import Mathlib.Tactic.FieldSimp
import Mathlib.Tactic.Linarith
import Mathlib.Tactic.NormNum
import Mathlib.Tactic.Positivity
import Mathlib.Tactic.Ring
import RequestSuite.Decimal.Binary64

/-! What is computed from a ratio, told by its value alone: the powers of two and of ten below it,
and the natural number nearest to it. -/
namespace RequestSuite.Decimal

namespace Ratio

def value (x : Ratio) : ℚ := x.num / x.den

theorem valuePositive {x : Ratio} (num : 0 < x.num) (den : 0 < x.den) : 0 < x.value := by
  rw [value]
  positivity

theorem scaledDen {base : Nat} (positive : 0 < base) (significand : Nat) (exponent : Int) :
    0 < (ofScaled base significand exponent).den := by
  rw [ofScaled]
  split
  · exact Nat.pow_pos positive
  · exact Nat.one_pos

theorem scaledNum {base significand : Nat} (positive : 0 < base) (exponent : Int) :
    (ofScaled base significand exponent).num = 0 ↔ significand = 0 := by
  have filled : Nat.pow base exponent.toNat ≠ 0 := (Nat.pow_pos positive).ne'
  rw [ofScaled]
  split
  · rfl
  · exact mul_eq_zero_iff_right filled

theorem scaledValue {base : Nat} (positive : 0 < base) (significand : Nat) (exponent : Int) :
    (ofScaled base significand exponent).value = significand * (base : ℚ) ^ exponent := by
  have filled : (base : ℚ) ≠ 0 := by positivity
  rw [ofScaled]
  split
  · rename_i negative
    obtain ⟨n, same⟩ := Int.eq_ofNat_of_zero_le (Int.neg_nonneg_of_nonpos (Int.le_of_lt negative))
    have exponent' : exponent = -(n : Int) := by omega
    rw [exponent', zpow_neg, zpow_natCast, ← div_eq_mul_inv]
    simp [value]
  · rename_i positive
    obtain ⟨n, rfl⟩ := Int.eq_ofNat_of_zero_le (Int.not_lt.1 positive)
    simp [value]

theorem divValue {x y : Ratio} : (x.div y).value = x.value / y.value := by
  simp only [div, value, Nat.cast_mul]
  rw [div_div_div_eq]

theorem leValue {x y : Ratio} (left : 0 < x.den) (right : 0 < y.den) :
    x.le y = true ↔ x.value ≤ y.value := by
  have left' : (0 : ℚ) < x.den := by exact_mod_cast left
  have right' : (0 : ℚ) < y.den := by exact_mod_cast right
  rw [le, decide_eq_true_eq, value, value, div_le_div_iff₀ left' right']
  exact_mod_cast Iff.rfl

theorem powerLe {x : Ratio} (num : 0 < x.num) (den : 0 < x.den) {base : Nat} (large : 1 < base)
    (k : Int) : (ofScaled base 1 k).le x = true ↔ k ≤ Int.log base x.value := by
  have positive : 0 < base := by omega
  rw [leValue (scaledDen positive 1 k) den, scaledValue positive, Nat.cast_one, one_mul]
  exact Int.zpow_le_iff_le_log large (valuePositive num den)

theorem log2Value {x : Ratio} (num : 0 < x.num) (den : 0 < x.den) :
    x.log2 = Int.log 2 x.value := by
  have numLow : (2 : ℚ) ^ (x.num.log2 : Int) ≤ x.num := by
    exact_mod_cast Nat.log2_self_le num.ne'
  have numHigh : (x.num : ℚ) < 2 ^ (x.num.log2 + 1 : Int) := by
    exact_mod_cast Nat.lt_log2_self
  have denLow : (2 : ℚ) ^ (x.den.log2 : Int) ≤ x.den := by
    exact_mod_cast Nat.log2_self_le den.ne'
  have denHigh : (x.den : ℚ) < 2 ^ (x.den.log2 + 1 : Int) := by
    exact_mod_cast Nat.lt_log2_self
  have filled : (0 : ℚ) < x.den := by exact_mod_cast den
  have low : (x.num.log2 : Int) - x.den.log2 - 1 ≤ Int.log 2 x.value := by
    rw [← Int.zpow_le_iff_le_log (by decide) (valuePositive num den), value, le_div_iff₀ filled]
    calc ((2 : Nat) : ℚ) ^ ((x.num.log2 : Int) - x.den.log2 - 1) * x.den
        ≤ 2 ^ ((x.num.log2 : Int) - x.den.log2 - 1) * 2 ^ (x.den.log2 + 1 : Int) := by
          push_cast; gcongr
      _ = 2 ^ (x.num.log2 : Int) := by rw [← zpow_add₀ (by norm_num)]; congr 1; ring
      _ ≤ x.num := numLow
  have high : Int.log 2 x.value < (x.num.log2 : Int) - x.den.log2 + 1 := by
    rw [← Int.lt_zpow_iff_log_lt (by decide) (valuePositive num den), value, div_lt_iff₀ filled]
    calc (x.num : ℚ) < 2 ^ (x.num.log2 + 1 : Int) := numHigh
      _ = 2 ^ ((x.num.log2 : Int) - x.den.log2 + 1) * 2 ^ (x.den.log2 : Int) := by
        rw [← zpow_add₀ (by norm_num)]; congr 1; ring
      _ ≤ ((2 : Nat) : ℚ) ^ ((x.num.log2 : Int) - x.den.log2 + 1) * x.den := by
        push_cast; gcongr
  have test := powerLe num den (by decide : 1 < 2) ((x.num.log2 : Int) - x.den.log2)
  rw [log2]
  split <;> rename_i found
  · have := test.1 found
    omega
  · have := mt test.2 found
    omega

/- The logarithm of two is close enough to 30103 / 100000 for all exponents of binary numbers. -/
theorem guessAbove : ∀ n < 1075,
    10 ^ (n * 30103 / 100000) ≤ 2 ^ n * 10 ∧ 2 ^ (n + 1) ≤ 10 ^ (n * 30103 / 100000 + 2) := by
  decide +kernel

theorem guessBelow : ∀ n < 1075,
    2 ^ n ≤ 10 ^ ((n * 30103 + 99999) / 100000 + 1) ∧
      10 ^ ((n * 30103 + 99999) / 100000) ≤ 50 * 2 ^ n := by
  decide +kernel

theorem guessClose {k : Int} (low : -1075 < k) (high : k < 1075) :
    (10 : ℚ) ^ (k * 30103 / 100000 - 1) ≤ 2 ^ k ∧
      (2 : ℚ) ^ (k + 1) ≤ 10 ^ (k * 30103 / 100000 + 2) := by
  obtain positive | negative := Int.le_total 0 k
  · obtain ⟨n, rfl⟩ := Int.eq_ofNat_of_zero_le positive
    have guess : (n : Int) * 30103 / 100000 = ((n * 30103 / 100000 : Nat) : Int) := by omega
    obtain ⟨below, above⟩ := guessAbove n (by omega)
    rw [guess]
    constructor
    · rw [zpow_sub₀ (by norm_num), zpow_one, div_le_iff₀ (by norm_num)]
      exact_mod_cast below
    · exact_mod_cast above
  · obtain ⟨n, same⟩ := Int.eq_ofNat_of_zero_le (Int.neg_nonneg_of_nonpos negative)
    obtain rfl : k = -(n : Int) := by omega
    have guess : -(n : Int) * 30103 / 100000 =
        -(((n * 30103 + 99999) / 100000 : Nat) : Int) := by omega
    obtain ⟨below, above⟩ := guessBelow n (by omega)
    rw [guess]
    constructor
    · rw [← neg_add', zpow_neg, zpow_neg, inv_le_inv₀ (by positivity) (by positivity)]
      exact_mod_cast below
    · rw [zpow_add₀ (by norm_num), zpow_add₀ (by norm_num), zpow_neg, zpow_neg,
        inv_mul_le_iff₀ (by positivity), ← div_eq_inv_mul, ← mul_div_assoc,
        le_div_iff₀ (by positivity)]
      have above' : (10 : ℚ) ^ ((n * 30103 + 99999) / 100000) ≤ 50 * 2 ^ n := by
        exact_mod_cast above
      simp only [zpow_natCast]
      norm_num only [zpow_one]
      linarith only [above']

theorem log10Value {x : Ratio} (num : 0 < x.num) (den : 0 < x.den)
    (low : -1075 < Int.log 2 x.value) (high : Int.log 2 x.value < 1075) :
    x.log10 = Int.log 10 x.value := by
  have positive := valuePositive num den
  obtain ⟨below, above⟩ := guessClose low high
  have least : Int.log 2 x.value * 30103 / 100000 - 1 ≤ Int.log 10 x.value := by
    rw [← Int.zpow_le_iff_le_log (by decide) positive]
    exact below.trans (Int.zpow_log_le_self (by decide) positive)
  have most : Int.log 10 x.value < Int.log 2 x.value * 30103 / 100000 + 2 := by
    rw [← Int.lt_zpow_iff_log_lt (by decide) positive]
    exact (Int.lt_zpow_succ_log_self (by decide) x.value).trans_le above
  have test := powerLe num den (by decide : 1 < 10)
  rw [log10, log2Value num den]
  split
  · rename_i found
    have := (test _).1 found
    omega
  · rename_i missed
    have := mt (test _).2 missed
    split <;> rename_i found
    · have := (test _).1 found
      omega
    · have := mt (test _).2 found
      omega

structure IsNearest (v : ℚ) (n : Nat) : Prop where
  near : |v - n| ≤ 1 / 2
  even : |v - n| = 1 / 2 → n % 2 = 0

theorem nearestUnique {v : ℚ} {n m : Nat} (one : IsNearest v n) (other : IsNearest v m) :
    n = m := by
  by_contra different
  wlog less : n < m generalizing n m
  · exact this other one (Ne.symm different) (by omega)
  have gap : (n : ℚ) + 1 ≤ m := by exact_mod_cast less
  obtain ⟨below, above⟩ := abs_le.1 one.near
  obtain ⟨below', above'⟩ := abs_le.1 other.near
  have middle : v = n + 1 / 2 := by linarith
  have next : (m : ℚ) = n + 1 := by linarith
  have next' : m = n + 1 := by exact_mod_cast next
  have evenOne := one.even (by rw [middle]; norm_num)
  have evenOther := other.even (by rw [middle, next]; norm_num)
  omega

theorem nearestDown {n : Nat} {part : ℚ} (start : 0 ≤ part) (small : part < 1 / 2) :
    IsNearest (n + part) n := by
  constructor <;> rw [add_sub_cancel_left, abs_of_nonneg start]
  · exact small.le
  · exact fun half => absurd half small.ne

theorem nearestUp {n : Nat} {part : ℚ} (large : 1 / 2 < part) (ends : part < 1) :
    IsNearest (n + part) (n + 1) := by
  have short : |(n : ℚ) + part - (n + 1 : Nat)| < 1 / 2 := by
    rw [abs_lt]
    push_cast
    constructor <;> linarith
  exact ⟨short.le, fun half => absurd half short.ne⟩

theorem nearestMiddle (n : Nat) : IsNearest (n + 1 / 2) (if n % 2 = 1 then n + 1 else n) := by
  split
  · constructor
    · push_cast
      norm_num
    · intro
      omega
  · constructor
    · norm_num
    · intro
      omega

theorem nearestIs {x : Ratio} (den : 0 < x.den) : IsNearest x.value x.nearest := by
  have filled : (0 : ℚ) < x.den := by exact_mod_cast den
  have parts : x.value = (x.num / x.den : Nat) + ((x.num % x.den : Nat) : ℚ) / x.den := by
    have whole : ((x.num / x.den : Nat) : ℚ) * x.den + (x.num % x.den : Nat) = x.num := by
      exact_mod_cast Nat.div_add_mod' x.num x.den
    rw [value, ← whole, add_div, mul_div_cancel_right₀ _ filled.ne']
  rw [parts]
  obtain less | same | more := lt_trichotomy (2 * (x.num % x.den)) x.den
  · have down : x.nearest = x.num / x.den := by simp [nearest, less.le.not_gt, less.ne]
    rw [down]
    refine nearestDown (by positivity) ?_
    rw [div_lt_div_iff₀ filled two_pos]
    exact_mod_cast (by omega : x.num % x.den * 2 < 1 * x.den)
  · have half : ((x.num % x.den : Nat) : ℚ) / x.den = 1 / 2 := by
      rw [div_eq_div_iff filled.ne' two_ne_zero]
      exact_mod_cast (by omega : x.num % x.den * 2 = 1 * x.den)
    have middle : x.nearest =
        if x.num / x.den % 2 = 1 then x.num / x.den + 1 else x.num / x.den := by
      simp [nearest, same]
    rw [half, middle]
    exact nearestMiddle _
  · have up : x.nearest = x.num / x.den + 1 := by simp [nearest, more]
    rw [up]
    refine nearestUp ?_ ?_
    · rw [div_lt_div_iff₀ two_pos filled]
      exact_mod_cast (by omega : 1 * x.den < x.num % x.den * 2)
    · rw [div_lt_one filled]
      exact_mod_cast Nat.mod_lt x.num den

theorem nearestScaled {v unit : ℚ} (positive : 0 < unit) {n : Nat}
    (nearest : IsNearest (v / unit) n) : |v - n * unit| ≤ unit / 2 := by
  calc |v - n * unit| = |v / unit - n| * unit := by
        rw [← abs_of_pos positive, ← abs_mul, abs_of_pos positive, sub_mul,
          div_mul_cancel₀ _ positive.ne']
    _ ≤ 1 / 2 * unit := by gcongr; exact nearest.near
    _ = unit / 2 := by ring

theorem nearestIn {base : Nat} (positive : 0 < base) {x : Ratio} (den : 0 < x.den) (k : Int) :
    IsNearest (x.value / (base : ℚ) ^ k) (x.div (ofScaled base 1 k)).nearest := by
  have scaled : 0 < (x.div (ofScaled base 1 k)).den :=
    Nat.mul_pos den (Nat.pos_of_ne_zero (mt (scaledNum positive k).1 one_ne_zero))
  have nearest := nearestIs scaled
  rwa [divValue, scaledValue positive, Nat.cast_one, one_mul] at nearest

end Ratio

end RequestSuite.Decimal

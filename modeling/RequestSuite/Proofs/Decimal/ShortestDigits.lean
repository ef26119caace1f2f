import Mathlib.Algebra.Order.Floor.Semifield
import RequestSuite.Decimal.Shortest
import RequestSuite.Proofs.Decimal.Rounding

/-! The shortest decimal of a binary number reads as the number. -/
namespace RequestSuite.Decimal.Scientific
open Ratio

def value (x : Scientific) : ℚ := x.digits * (10 : ℚ) ^ x.exponent

theorem ratioDen (x : Scientific) : 0 < x.ratio.den := scaledDen (by decide) _ _

theorem ratioValue (x : Scientific) : x.ratio.value = x.value := scaledValue (by decide) _ _

theorem ratioNum {x : Scientific} : 0 < x.ratio.num ↔ 0 < x.digits := by
  rw [Nat.pos_iff_ne_zero, Nat.pos_iff_ne_zero, ratio, Ne, scaledNum (by decide)]

theorem readCongr {x y : Scientific} (same : x.value = y.value) :
    Binary64.ofRatio? x.ratio = Binary64.ofRatio? y.ratio :=
  Binary64.ofRatioCongr x.ratioDen y.ratioDen (by rw [ratioValue, ratioValue, same])

theorem readsAsSome {x : Scientific} {y : Binary64} (filled : 0 < x.digits) :
    x.readsAs y = true ↔ Binary64.ofRatio? x.ratio = some y.unsigned := by
  rw [readsAs]
  cases reads : Binary64.ofRatio? x.ratio with
  | none => simp
  | some z =>
    have plain := (Binary64.readingOf (ratioNum.2 filled) x.ratioDen reads).unsigned
    obtain ⟨negative, significand, exponent⟩ := z
    obtain rfl : negative = false := plain
    simp [Binary64.unsigned]

theorem neighbourIff {v : Ratio} {g : Int} {n : Scientific} :
    n ∈ neighbours v g ↔ n.exponent = g ∧
      (n.digits = ⌊v.value / 10 ^ g⌋₊ ∨ n.digits = ⌊v.value / 10 ^ g⌋₊ + 1) := by
  have low : (v.div (ofScaled 10 1 g)).num / (v.div (ofScaled 10 1 g)).den =
      ⌊v.value / 10 ^ g⌋₊ := by
    have same : v.value / 10 ^ g = (v.div (ofScaled 10 1 g)).value := by
      rw [divValue, scaledValue (by decide), Nat.cast_one, one_mul]
      rfl
    rw [same, Ratio.value, Nat.floor_div_natCast, Nat.floor_natCast]
  have split (digits : Nat) : n = ⟨digits, g⟩ ↔ n.exponent = g ∧ n.digits = digits := by
    cases n
    simp [and_comm]
  rw [neighbours]
  simp only [low]
  split <;> simp only [List.mem_cons, List.not_mem_nil, or_false, split] <;> tauto

theorem neighbourOf {v : Ratio} {n : Scientific}
    (near : |v.value - n.value| < 10 ^ n.exponent) : n ∈ neighbours v n.exponent := by
  have unit : (0 : ℚ) < 10 ^ n.exponent := by positivity
  obtain ⟨low, high⟩ := abs_lt.1 near
  rw [Scientific.value] at low high
  have floor : ⌊v.value / 10 ^ n.exponent⌋₊ ≤ v.value / 10 ^ n.exponent :=
    Nat.floor_le (by unfold Ratio.value; positivity)
  have next : v.value / 10 ^ n.exponent < ⌊v.value / 10 ^ n.exponent⌋₊ + 1 :=
    Nat.lt_floor_add_one _
  have scaled : v.value = v.value / 10 ^ n.exponent * 10 ^ n.exponent :=
    (div_mul_cancel₀ _ unit.ne').symm
  refine neighbourIff.2 ⟨rfl, ?_⟩
  generalize v.value / 10 ^ n.exponent = q at *
  generalize (10 : ℚ) ^ n.exponent = u at *
  rw [scaled] at low high
  have up : (n.digits : ℚ) < q + 1 := by nlinarith
  have down : q - 1 < n.digits := by nlinarith
  have most : n.digits < ⌊q⌋₊ + 2 := by
    have : (n.digits : ℚ) < ⌊q⌋₊ + 2 := by linarith
    exact_mod_cast this
  have least : ⌊q⌋₊ < n.digits + 1 := by
    have : (⌊q⌋₊ : ℚ) < n.digits + 1 := by linarith
    exact_mod_cast this
  omega

theorem searchFinds {value : Binary64} {top : Int} {hit : Scientific} {used count goal : Nat}
    (first : used ≤ goal) (last : goal < used + count)
    (around : hit ∈ neighbours value.magnitude (top - goal)) (reads : hit.readsAs value = true) :
    ∃ k ≤ goal, search value top used count ∈ neighbours value.magnitude (top - k) ∧
      (search value top used count).readsAs value = true := by
  induction count generalizing used with
  | zero => omega
  | succ count ih =>
    rw [search]
    split
    · rename_i found same
      exact ⟨used, first, List.mem_of_find?_eq_some same,
        List.find?_some (p := fun n => readsAs n value) same⟩
    · rename_i missed
      have other : used ≠ goal := by
        rintro rfl
        exact List.find?_eq_none.1 missed hit around reads
      exact ih (by omega) (by omega)

theorem dropZerosValue (digits : Nat) (exponent : Int) (fuel : Nat) :
    (dropZeros digits exponent fuel).value = value ⟨digits, exponent⟩ := by
  induction fuel generalizing digits exponent with
  | zero => rfl
  | succ fuel ih =>
    rw [dropZeros]
    split
    · rename_i more
      simp only [Bool.and_eq_true, decide_eq_true_eq] at more
      have tenfold : ((digits / 10 : Nat) : ℚ) * 10 = digits := by
        exact_mod_cast Nat.div_mul_cancel (Nat.dvd_of_mod_eq_zero more.1)
      rw [ih, value, value, zpow_add_one₀ (by norm_num), ← tenfold]
      ring
    · rfl

theorem dropZerosPositive {digits : Nat} (filled : 0 < digits) (exponent : Int) (fuel : Nat) :
    0 < (dropZeros digits exponent fuel).digits := by
  induction fuel generalizing digits exponent with
  | zero => exact filled
  | succ fuel ih =>
    rw [dropZeros]
    split
    · rename_i more
      simp only [Bool.and_eq_true, decide_eq_true_eq] at more
      exact ih (by omega) _
    · exact filled

theorem dropZerosLast {digits fuel : Nat} (filled : 0 < digits) (short : digits < 10 ^ fuel)
    (exponent : Int) : (dropZeros digits exponent fuel).digits % 10 ≠ 0 := by
  induction fuel generalizing digits exponent with
  | zero => omega
  | succ fuel ih =>
    rw [dropZeros]
    split <;> rename_i more
    · simp only [Bool.and_eq_true, decide_eq_true_eq] at more
      exact ih (by omega) (by omega) _
    · intro zero
      exact more (by simp [zero, filled.ne'])

theorem valueUnique {x y : Scientific} (left : x.digits % 10 ≠ 0) (right : y.digits % 10 ≠ 0)
    (same : x.value = y.value) : x = y := by
  wlog less : x.exponent ≤ y.exponent generalizing x y
  · exact (this right left same.symm (by omega)).symm
  obtain ⟨k, more⟩ := Int.le.dest less
  rw [value, value, ← more, zpow_add₀ (by norm_num), mul_left_comm,
    mul_comm (x.digits : ℚ), mul_right_inj' (by positivity)] at same
  have same' : x.digits = y.digits * 10 ^ k := by exact_mod_cast same
  obtain rfl | further := Nat.eq_zero_or_pos k
  · rw [pow_zero, mul_one] at same'
    cases x
    cases y
    simp_all
  · obtain ⟨k, rfl⟩ := Nat.exists_eq_succ_of_ne_zero further.ne'
    rw [same', pow_succ, ← mul_assoc, Nat.mul_mod_left] at left
    exact absurd rfl left

theorem sizePositive {y : Binary64} (filled : 0 < y.significand) : 0 < y.size := by
  have filled' : (0 : ℚ) < y.significand := by exact_mod_cast filled
  unfold Binary64.size
  positivity

theorem log10Size {y : Binary64} (formed : y.Formed) (filled : 0 < y.significand) :
    y.magnitude.log10 = Int.log 10 y.size := by
  have num : 0 < y.magnitude.num :=
    Nat.pos_of_ne_zero (mt (scaledNum two_pos y.exponent).1 filled.ne')
  have den : 0 < y.magnitude.den := scaledDen two_pos _ _
  have positive := sizePositive filled
  have below : ((2 : Nat) : ℚ) ^ y.exponent ≤ y.size := by
    have one : (1 : ℚ) ≤ y.significand := by exact_mod_cast filled
    calc ((2 : Nat) : ℚ) ^ y.exponent = 1 * 2 ^ y.exponent := (one_mul _).symm
      _ ≤ y.size := mul_le_mul_of_nonneg_right one (by positivity)
  have above : y.size < ((2 : Nat) : ℚ) ^ (53 + y.exponent) := by
    have short : (y.significand : ℚ) < 2 ^ 53 := by exact_mod_cast formed.short
    calc y.size < 2 ^ (53 : Int) * 2 ^ y.exponent := mul_lt_mul_of_pos_right short (by positivity)
      _ = ((2 : Nat) : ℚ) ^ (53 + y.exponent) := (zpow_add₀ two_ne_zero _ _).symm
  have least := (Int.zpow_le_iff_le_log (by decide) positive).1 below
  have most := (Int.lt_zpow_iff_log_lt (by decide) positive).1 above
  have low := formed.least
  have high := formed.most
  rw [log10Value num den] <;> rw [Binary64.magnitudeValue]
  · omega
  · omega

theorem closeReadsAs {x : Scientific} {y : Binary64} (formed : y.Formed)
    (filled : 0 < y.significand) (close : |x.value - y.size| < y.size / 2 ^ 54) :
    x.readsAs y = true := by
  have positive : 0 < x.digits := by
    refine Nat.pos_of_ne_zero fun none => ?_
    have size := sizePositive filled
    rw [value, none, Nat.cast_zero, zero_mul, zero_sub, abs_neg, abs_of_pos size] at close
    linarith
  rw [readsAsSome positive]
  refine Binary64.closeReads formed filled ?_ x.ratioDen
  rwa [ratioValue]

/- Sixteen digits after the first are enough for the nearer neighbour to read as the number. -/
theorem nearReads {y : Binary64} (formed : y.Formed) (filled : 0 < y.significand) :
    ∃ hit ∈ neighbours y.magnitude (Int.log 10 y.size - (16 : Nat)), hit.readsAs y = true := by
  have positive := sizePositive filled
  have top : (10 : ℚ) ^ Int.log 10 y.size ≤ y.size := Int.zpow_log_le_self (by decide) positive
  have small : 10 ^ (Int.log 10 y.size - (16 : Nat)) / 2 < y.size / 2 ^ 54 := by
    rw [zpow_sub₀ (by norm_num), zpow_natCast]
    linarith
  generalize Int.log 10 y.size - (16 : Nat) = g at *
  have unit : (0 : ℚ) < 10 ^ g := by positivity
  have nearest := nearestIn (x := y.magnitude) (by decide : 0 < 10) (scaledDen two_pos _ _) g
  have close := nearestScaled unit nearest
  generalize (y.magnitude.div (ofScaled 10 1 g)).nearest = m at close
  have around : (⟨m, g⟩ : Scientific) ∈ neighbours y.magnitude g :=
    neighbourOf (n := ⟨m, g⟩) (close.trans_lt (half_lt_self unit))
  rw [Binary64.magnitudeValue, abs_sub_comm] at close
  have reads : (⟨m, g⟩ : Scientific).readsAs y = true :=
    closeReadsAs formed filled (close.trans_lt small)
  exact ⟨⟨m, g⟩, around, reads⟩

theorem ofBinaryFrom {y : Binary64} (formed : y.Formed) (filled : 0 < y.significand) {goal : Nat}
    (near : goal ≤ 16) {hit : Scientific}
    (around : hit ∈ neighbours y.magnitude (Int.log 10 y.size - goal))
    (reads : hit.readsAs y = true) :
    ∃ found : Scientific, Int.log 10 y.size - goal ≤ found.exponent ∧ 0 < found.digits ∧
      found.readsAs y = true ∧ (ofBinary y).value = found.value ∧ 0 < (ofBinary y).digits ∧
      (ofBinary y).digits % 10 ≠ 0 := by
  have some : y.isZero = false := by simpa [Binary64.isZero] using filled.ne'
  obtain ⟨k, sooner, beside, reads'⟩ := searchFinds (Nat.zero_le goal) (by omega : goal < 0 + 17)
    around reads
  rw [ofBinary, some, if_neg Bool.false_ne_true, log10Size formed filled]
  generalize search y (Int.log 10 y.size) 0 17 = found at *
  obtain ⟨exponent, digits⟩ := neighbourIff.1 beside
  have positive : 0 < found.digits := by
    refine Nat.pos_of_ne_zero fun none => ?_
    have zero : Binary64.ofRatio? found.ratio = .some Binary64.zero := by
      rw [Binary64.ofRatio?, if_pos (Nat.eq_zero_of_not_pos (mt ratioNum.1 none.not_gt))]
    simp [readsAs, zero, Binary64.zero, filled.ne] at reads'
  have short : found.digits < 10 ^ 18 := by
    have ratio : y.size / 10 ^ (Int.log 10 y.size - k) < 10 ^ 17 := by
      rw [div_lt_iff₀ (by positivity), ← zpow_natCast, ← zpow_add₀ (by norm_num)]
      refine (Int.lt_zpow_succ_log_self (b := 10) (by decide) y.size).trans_le ?_
      exact zpow_le_zpow_right₀ (by norm_num) (by omega)
    have floor : ⌊y.size / 10 ^ (Int.log 10 y.size - k)⌋₊ < 10 ^ 17 := by
      refine (Nat.floor_lt (div_nonneg (sizePositive filled).le (by positivity))).2 ?_
      exact_mod_cast ratio
    rw [Binary64.magnitudeValue] at digits
    omega
  exact ⟨found, by omega, positive, reads', dropZerosValue _ _ _, dropZerosPositive positive _ _,
    dropZerosLast positive short _⟩

theorem ofBinaryReads {y : Binary64} (formed : y.Formed) (filled : 0 < y.significand) :
    0 < (ofBinary y).digits ∧ (ofBinary y).readsAs y = true := by
  obtain ⟨hit, around, reads⟩ := nearReads formed filled
  obtain ⟨found, -, positive, reads', same, positive', -⟩ :=
    ofBinaryFrom formed filled le_rfl around reads
  refine ⟨positive', ?_⟩
  rw [readsAsSome positive', readCongr same, (readsAsSome positive).1 reads']

theorem valueRescaled (x : Scientific) {g : Int} (lower : g ≤ x.exponent) :
    x.value = value ⟨x.digits * 10 ^ (x.exponent - g).toNat, g⟩ := by
  obtain ⟨k, more⟩ := Int.le.dest lower
  have shift : (x.exponent - g).toNat = k := by omega
  rw [value, value, shift, ← more, zpow_add₀ (by norm_num), zpow_natCast]
  push_cast
  ring

theorem valueApart {x y : Scientific} {g : Int} (left : g ≤ x.exponent) (right : g ≤ y.exponent)
    (near : |x.value - y.value| < 10 ^ g) : x.value = y.value := by
  rw [x.valueRescaled left, y.valueRescaled right] at near ⊢
  generalize x.digits * 10 ^ (x.exponent - g).toNat = n at *
  generalize y.digits * 10 ^ (y.exponent - g).toNat = m at *
  have unit : (0 : ℚ) < 10 ^ g := by positivity
  have less : |((n : Int) - m : ℚ)| < 1 := by
    rw [value, value, ← sub_mul, abs_mul, abs_of_pos unit] at near
    simpa using (mul_lt_iff_lt_one_left unit).1 near
  have less' : |(n : Int) - m| < 1 := by exact_mod_cast less
  have same : n = m := by
    have zero := Int.abs_lt_one_iff.1 less'
    omega
  rw [same]

structure Short (x : Scientific) : Prop where
  last : x.digits % 10 ≠ 0
  short : x.digits < 10 ^ 15
  normal : (2 : ℚ) ^ (-1022 : Int) ≤ x.value

theorem readsReading {x : Scientific} (filled : 0 < x.digits) {y : Binary64}
    (reads : x.readsAs y = true) : Binary64.Reading x.value y.unsigned := by
  have reading := Binary64.readingOf (ratioNum.2 filled) x.ratioDen ((readsAsSome filled).1 reads)
  rwa [ratioValue] at reading

theorem readNear {x : Scientific} (filled : 0 < x.digits) {y : Binary64}
    (reads : x.readsAs y = true) : |x.value - y.size| ≤ 2 ^ y.exponent / 2 := by
  obtain ⟨-, -, near, least, -⟩ := readsReading filled reads
  refine near.trans (div_le_div_of_nonneg_right ?_ zero_le_two)
  exact zpow_le_zpow_right₀ one_le_two least

theorem readsApart {x z : Scientific} (left : 0 < x.digits) (right : 0 < z.digits) {y : Binary64}
    (reads : x.readsAs y = true) (reads' : z.readsAs y = true) :
    |x.value - z.value| ≤ 2 ^ y.exponent := by
  have near := readNear left reads
  have near' := readNear right reads'
  rw [abs_sub_comm] at near'
  linarith [abs_sub_le x.value y.size z.value]

namespace Short

variable {x : Scientific} (short : x.Short)
include short

theorem filled : 0 < x.digits := by
  have last := short.last
  omega

theorem positive : 0 < x.value := lt_of_lt_of_le (by positivity) short.normal

theorem bound : x.value + 10 ^ x.exponent ≤ 10 ^ x.exponent * 10 ^ 15 := by
  have less : (x.digits : ℚ) + 1 ≤ 10 ^ 15 := by exact_mod_cast short.short
  have unit : (0 : ℚ) < 10 ^ x.exponent := by positivity
  rw [value]
  nlinarith

variable {y : Binary64} (reads : x.readsAs y = true)
include reads

theorem gap : 2 ^ y.exponent ≤ x.value / 2 ^ 51 := by
  have most := (readsReading short.filled reads).most
  calc (2 : ℚ) ^ y.exponent ≤ 2 ^ (Binary64.grid x.value + 1) :=
        zpow_le_zpow_right₀ one_le_two most
    _ = 2 ^ Binary64.grid x.value * 2 := zpow_add_one₀ two_ne_zero _
    _ ≤ x.value / 2 ^ 52 * 2 := by gcongr; exact Binary64.unitSmall short.normal
    _ = x.value / 2 ^ 51 := by ring

theorem close : |x.value - y.size| ≤ x.value / 2 ^ 52 := by
  have near := readNear short.filled reads
  have unit := short.gap reads
  linarith

theorem readFilled : 0 < y.significand := by
  have close := short.close reads
  have positive := short.positive
  refine Nat.pos_of_ne_zero fun none => ?_
  rw [Binary64.size, none, Nat.cast_zero, zero_mul, sub_zero, abs_of_pos positive] at close
  linarith

theorem top : Int.log 10 y.size < x.exponent + 15 := by
  have close := (abs_le.1 (short.close reads)).1
  have bound := short.bound
  have unit : (0 : ℚ) < 10 ^ x.exponent := by positivity
  refine (Int.lt_zpow_iff_log_lt (by decide) (sizePositive (short.readFilled reads))).1 ?_
  calc y.size ≤ x.value + x.value / 2 ^ 52 := by linarith
    _ < 10 ^ x.exponent * 10 ^ 15 := by linarith
    _ = (10 : ℚ) ^ (x.exponent + 15) := (zpow_add₀ (by norm_num) _ 15).symm

/- The grid on which the search meets the decimal at the latest. -/
theorem meets : ∃ goal ≤ 16, Int.log 10 y.size - (goal : Nat) ≤ x.exponent ∧
    x.value / 2 ^ 51 < 10 ^ (Int.log 10 y.size - (goal : Nat)) := by
  have top := short.top reads
  obtain beyond | within := Int.lt_or_le (Int.log 10 y.size) x.exponent
  · refine ⟨0, Nat.zero_le _, by omega, ?_⟩
    have close := (abs_le.1 (short.close reads)).2
    have next := Int.lt_zpow_succ_log_self (b := 10) (by decide) y.size
    rw [Nat.cast_ofNat, zpow_add_one₀ (by norm_num)] at next
    have positive := short.positive
    rw [Nat.cast_zero, sub_zero]
    linarith
  · obtain ⟨goal, same⟩ := Int.le.dest within
    have bound := short.bound
    have unit : (0 : ℚ) < 10 ^ x.exponent := by positivity
    have grid : Int.log 10 y.size - goal = x.exponent := by omega
    refine ⟨goal, by omega, grid.le, ?_⟩
    rw [grid]
    linarith

theorem comesBack : ofBinary y = x := by
  have close := short.close reads
  obtain ⟨-, ⟨small, least, most, full⟩, -⟩ := readsReading short.filled reads
  have formed : y.Formed := ⟨small, least, most, full⟩
  obtain ⟨goal, near, lower, fine⟩ := short.meets reads
  have rescaled := x.valueRescaled lower
  generalize x.digits * 10 ^ (x.exponent - (Int.log 10 y.size - goal)).toNat = n at *
  have filled : 0 < n := by
    refine Nat.pos_of_ne_zero fun none => short.positive.ne' ?_
    rw [rescaled, value, none, Nat.cast_zero, zero_mul]
  have around : (⟨n, Int.log 10 y.size - goal⟩ : Scientific) ∈
      neighbours y.magnitude (Int.log 10 y.size - goal) := by
    refine neighbourOf (n := ⟨n, Int.log 10 y.size - goal⟩) ?_
    rw [Binary64.magnitudeValue, ← rescaled, abs_sub_comm]
    linarith [short.positive]
  have hit : (⟨n, Int.log 10 y.size - goal⟩ : Scientific).readsAs y = true := by
    rw [readsAsSome filled, ← readCongr rescaled, (readsAsSome short.filled).1 reads]
  obtain ⟨found, coarser, foundFilled, foundReads, same, -, last⟩ :=
    ofBinaryFrom formed (short.readFilled reads) near around hit
  have apart : |found.value - x.value| < 10 ^ (Int.log 10 y.size - (goal : Nat)) :=
    ((readsApart foundFilled short.filled foundReads reads).trans (short.gap reads)).trans_lt fine
  refine valueUnique last short.last ?_
  rw [same, valueApart coarser lower apart]

end Short

end RequestSuite.Decimal.Scientific

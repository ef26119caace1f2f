import RequestSuite.Proofs.Decimal.Ratios

/-! Rounding to a binary number, told by the value that is rounded: the exponent of the result, how
near it is, and which values read as a given number. The shortcut for decimals far out of the range
changes no result. -/
namespace RequestSuite.Decimal.Binary64
open Ratio

def grid (v : ℚ) : Int := max (Int.log 2 v - 52) (-1074)

/- A significand of 54 bits is a power of two and loses its last one. -/
def carry (significand : Nat) (exponent : Int) : Binary64 :=
  if significand = 2 ^ 53 then ⟨false, 2 ^ 52, exponent + 1⟩ else ⟨false, significand, exponent⟩

def finite? (x : Binary64) : Option Binary64 := if x.exponent > 971 then none else some x

def size (x : Binary64) : ℚ := x.significand * (2 : ℚ) ^ x.exponent

def unsigned (x : Binary64) : Binary64 := { x with negative := false }

structure Formed (x : Binary64) : Prop where
  short : x.significand < 2 ^ 53
  least : -1074 ≤ x.exponent
  most : x.exponent ≤ 971
  full : 2 ^ 52 ≤ x.significand ∨ x.exponent = -1074

theorem magnitudeValue (x : Binary64) : x.magnitude.value = x.size := by
  rw [magnitude, scaledValue two_pos]
  rfl

theorem gridAbove {v : ℚ} (positive : 0 < v) : v < (2 : ℚ) ^ (grid v + 53) := by
  have log := (Int.lt_zpow_iff_log_lt (b := 2) (by decide) positive (x := grid v + 53)).2
    (by unfold grid; omega)
  exact_mod_cast log

theorem gridBelow {v : ℚ} (positive : 0 < v) (normal : -1074 < grid v) :
    (2 : ℚ) ^ (grid v + 52) ≤ v := by
  have log := (Int.zpow_le_iff_le_log (b := 2) (by decide) positive (x := grid v + 52)).2
    (by unfold grid at *; omega)
  exact_mod_cast log

theorem gridIs {v : ℚ} {e : Int} (least : -1074 ≤ e) (above : v < (2 : ℚ) ^ (e + 53))
    (positive : 0 < v) (below : (2 : ℚ) ^ (e + 52) ≤ v ∨ e = -1074) : grid v = e := by
  have most := (Int.lt_zpow_iff_log_lt (b := 2) (by decide) positive (x := e + 53)).1
    (by exact_mod_cast above)
  unfold grid
  obtain below | rfl := below
  · have least := (Int.zpow_le_iff_le_log (b := 2) (by decide) positive (x := e + 52)).1
      (by exact_mod_cast below)
    omega
  · omega

theorem ofRatioIs {x : Ratio} (num : 0 < x.num) (den : 0 < x.den) {n : Nat}
    (nearest : IsNearest (x.value / 2 ^ grid x.value) n) :
    ofRatio? x = finite? (carry n (grid x.value)) := by
  have exponent : max (x.log2 - 52) (-1074) = grid x.value := by rw [log2Value num den, grid]
  have same : (x.div (ofScaled 2 1 (grid x.value))).nearest = n :=
    nearestUnique (nearestIn two_pos den _) nearest
  rw [ofRatio?, if_neg num.ne', exponent]
  obtain full | full : n = 0x20000000000000 ∨ n ≠ 0x20000000000000 := em _ <;>
    simp [same, carry, finite?, full]

theorem roundedNearest {x : Ratio} (num : 0 < x.num) (den : 0 < x.den) :
    ∃ n, IsNearest (x.value / 2 ^ grid x.value) n ∧
      ofRatio? x = finite? (carry n (grid x.value)) :=
  ⟨_, nearestIn two_pos den _, ofRatioIs num den (nearestIn two_pos den _)⟩

theorem valueZero {x : Ratio} (den : 0 < x.den) : x.value = 0 ↔ x.num = 0 := by
  have filled : (x.den : ℚ) ≠ 0 := by exact_mod_cast den.ne'
  rw [value, div_eq_zero_iff, or_iff_left filled]
  exact_mod_cast Iff.rfl

theorem ofRatioCongr {x y : Ratio} (left : 0 < x.den) (right : 0 < y.den)
    (same : x.value = y.value) : ofRatio? x = ofRatio? y := by
  by_cases zero : x.num = 0
  · have zero' : y.num = 0 := (valueZero right).1 (same ▸ (valueZero left).2 zero)
    rw [ofRatio?, ofRatio?, if_pos zero, if_pos zero']
  · have filled : y.num ≠ 0 := by
      rwa [Ne, ← valueZero right, ← same, valueZero left]
    obtain ⟨n, nearest, reads⟩ := roundedNearest (Nat.pos_of_ne_zero filled) right
    rw [reads]
    rw [← same] at nearest ⊢
    exact ofRatioIs (Nat.pos_of_ne_zero zero) left nearest

theorem carrySize (n : Nat) (e : Int) : (carry n e).size = n * (2 : ℚ) ^ e := by
  unfold carry
  split
  · rename_i full
    rw [size, full, zpow_add₀ two_ne_zero]
    push_cast
    ring
  · rfl

theorem carryExponent (n : Nat) (e : Int) :
    e ≤ (carry n e).exponent ∧ (carry n e).exponent ≤ e + 1 := by
  unfold carry
  split
  · exact ⟨Int.le_add_one le_rfl, le_rfl⟩
  · exact ⟨le_rfl, Int.le_add_one le_rfl⟩

theorem carryUnsigned (n : Nat) (e : Int) : (carry n e).negative = false := by
  unfold carry
  split <;> rfl

theorem finiteSome {x y : Binary64} : finite? x = some y ↔ x = y ∧ x.exponent ≤ 971 := by
  unfold finite?
  split <;> rename_i large
  · simp [large.not_ge]
  · simp [not_lt.1 large]

theorem carryFormed {n : Nat} {e : Int} (short : n ≤ 2 ^ 53) (least : -1074 ≤ e)
    (full : 2 ^ 52 ≤ n ∨ e = -1074) (most : (carry n e).exponent ≤ 971) : (carry n e).Formed := by
  unfold carry at *
  split <;> rename_i carried
  · rw [if_pos carried] at most
    exact ⟨Nat.pow_lt_pow_right one_lt_two (by decide), least.trans (Int.le_add_one le_rfl), most,
      .inl le_rfl⟩
  · rw [if_neg carried] at most
    exact ⟨short.lt_of_ne carried, least, most, full⟩

theorem nearestShort {v : ℚ} (positive : 0 < v) {n : Nat} (nearest : IsNearest (v / 2 ^ grid v) n) :
    n ≤ 2 ^ 53 ∧ (2 ^ 52 ≤ n ∨ grid v = -1074) := by
  obtain ⟨low, high⟩ := abs_le.1 nearest.near
  have unit : (0 : ℚ) < 2 ^ grid v := by positivity
  constructor
  · have above : v / 2 ^ grid v < 2 ^ 53 := by
      rw [div_lt_iff₀ unit]
      calc v < 2 ^ (grid v + 53) := gridAbove positive
        _ = 2 ^ 53 * 2 ^ grid v := by rw [zpow_add₀ two_ne_zero, mul_comm]; rfl
    have less : (n : ℚ) < 2 ^ 53 + 1 := by linarith
    have less' : n < 2 ^ 53 + 1 := by exact_mod_cast less
    omega
  · obtain normal | least := (le_max_right (Int.log 2 v - 52) (-1074)).lt_or_eq
    · left
      have below : 2 ^ 52 ≤ v / 2 ^ grid v := by
        rw [le_div_iff₀ unit]
        calc 2 ^ 52 * 2 ^ grid v = (2 : ℚ) ^ (grid v + 52) := by
              rw [zpow_add₀ two_ne_zero, mul_comm]; rfl
          _ ≤ v := gridBelow positive normal
      have more : (2 : ℚ) ^ 52 - 1 < n := by linarith
      have more' : 2 ^ 52 < n + 1 := by exact_mod_cast sub_lt_iff_lt_add.1 more
      omega
    · exact .inr least.symm

def Rounds (v : ℚ) (y : Binary64) : Prop :=
  v = 0 ∧ y = zero ∨
    v ≠ 0 ∧ ∃ n, IsNearest (v / 2 ^ grid v) n ∧ carry n (grid v) = y ∧ y.exponent ≤ 971

theorem roundsIff {x : Ratio} (den : 0 < x.den) {y : Binary64} :
    ofRatio? x = some y ↔ Rounds x.value y := by
  by_cases none : x.num = 0
  · have zero_ : x.value = 0 := (valueZero den).2 none
    rw [ofRatio?, if_pos none, Option.some.injEq, Rounds, and_iff_right zero_, eq_comm]
    simp [zero_]
  · have filled : x.value ≠ 0 := mt (valueZero den).1 none
    have num := Nat.pos_of_ne_zero none
    rw [Rounds, and_iff_right filled, or_iff_right fun zero => filled zero.1]
    constructor
    · intro reads
      obtain ⟨n, nearest, same⟩ := roundedNearest num den
      obtain ⟨rfl, most⟩ := finiteSome.1 (same.symm.trans reads)
      exact ⟨n, nearest, rfl, most⟩
    · rintro ⟨n, nearest, rfl, most⟩
      rw [ofRatioIs num den nearest, finiteSome]
      exact ⟨rfl, most⟩

structure Reading (v : ℚ) (y : Binary64) : Prop where
  unsigned : y.negative = false
  formed : y.Formed
  near : |v - y.size| ≤ 2 ^ grid v / 2
  least : grid v ≤ y.exponent
  most : y.exponent ≤ grid v + 1

theorem readingOf {x : Ratio} (num : 0 < x.num) (den : 0 < x.den) {y : Binary64}
    (reads : ofRatio? x = some y) : Reading x.value y := by
  obtain ⟨n, nearest, same⟩ := roundedNearest num den
  obtain ⟨rfl, most⟩ := finiteSome.1 (same.symm.trans reads)
  obtain ⟨short, full⟩ := nearestShort (valuePositive num den) nearest
  refine ⟨carryUnsigned n _, carryFormed short (le_max_right _ _) full most, ?_,
    (carryExponent n _).1, (carryExponent n _).2⟩
  rw [carrySize]
  exact nearestScaled (by positivity) nearest

theorem unitSmall {v : ℚ} (normal : (2 : ℚ) ^ (-1022 : Int) ≤ v) : 2 ^ grid v ≤ v / 2 ^ 52 := by
  have positive : 0 < v := lt_of_lt_of_le (by positivity) normal
  have log := (Int.zpow_le_iff_le_log (b := 2) (by decide) positive).1 (by exact_mod_cast normal)
  have exponent : grid v = Int.log 2 v - 52 := max_eq_left (by omega)
  rw [le_div_iff₀ (by positivity), exponent, ← zpow_natCast, ← zpow_add₀ two_ne_zero,
    Nat.cast_ofNat, sub_add_cancel]
  exact Int.zpow_log_le_self (by decide) positive

theorem closeNearest {v u : ℚ} (unit : 0 < u) {n : Nat} (close : |v - n * u| < u / 2) :
    IsNearest (v / u) n := by
  have less : |v / u - n| < 1 / 2 := by
    rw [← mul_lt_mul_iff_of_pos_right unit, ← abs_of_pos unit, ← abs_mul, abs_of_pos unit, sub_mul,
      div_mul_cancel₀ _ unit.ne']
    linarith only [close]
  exact ⟨less.le, fun half => absurd half less.ne⟩

theorem readsAt {x : Ratio} (den : 0 < x.den) (positive : 0 < x.value) {e : Int}
    (exponent : grid x.value = e) {n : Nat} (close : |x.value - n * 2 ^ e| < 2 ^ e / 2) :
    ofRatio? x = finite? (carry n e) := by
  subst exponent
  have num : 0 < x.num := Nat.pos_of_ne_zero fun none => positive.ne' ((valueZero den).2 none)
  exact ofRatioIs num den (closeNearest (by positivity) close)

theorem powerAbove (e : Int) (k : Nat) [k.AtLeastTwo] :
    (2 : ℚ) ^ (e + (OfNat.ofNat k : Int)) = 2 ^ e * 2 ^ (OfNat.ofNat k : Nat) := by
  rw [zpow_add₀ two_ne_zero]
  rfl

section Close

variable {x : Ratio} {y : Binary64} (formed : y.Formed) (filled : 0 < y.significand)
  (close : |x.value - y.size| < y.size / 2 ^ 54)
include formed filled close

theorem closeBounds : 0 < x.value ∧ x.value < 2 ^ (y.exponent + 53) := by
  obtain ⟨low, high⟩ := abs_lt.1 close
  have unit : (0 : ℚ) < 2 ^ y.exponent := by positivity
  have one : (1 : ℚ) ≤ y.significand := by exact_mod_cast filled
  have short : (y.significand : ℚ) + 1 ≤ 2 ^ 53 := by exact_mod_cast formed.short
  rw [size] at low high
  constructor
  · nlinarith
  · rw [powerAbove y.exponent 53]
    nlinarith

variable (den : 0 < x.den)
include den

theorem closeInside (inside : 2 ^ (y.exponent + 52) ≤ x.value ∨ y.exponent = -1074) :
    ofRatio? x = some y.unsigned := by
  obtain ⟨positive, above⟩ := closeBounds formed filled close
  have exponent : grid x.value = y.exponent := gridIs formed.least above positive inside
  have unit : (0 : ℚ) < 2 ^ y.exponent := by positivity
  have short : (y.significand : ℚ) + 1 ≤ 2 ^ 53 := by exact_mod_cast formed.short
  have half : y.size / 2 ^ 54 ≤ 2 ^ y.exponent / 2 := by
    rw [size]
    nlinarith
  rw [readsAt den positive exponent (close.trans_le half), carry, if_neg formed.short.ne]
  exact finiteSome.2 ⟨rfl, formed.most⟩

/- Just below a power of two, where the unit is half as large. -/
theorem closeBelow (less : x.value < 2 ^ (y.exponent + 52)) (normal : y.exponent ≠ -1074) :
    ofRatio? x = some y.unsigned := by
  obtain ⟨positive, -⟩ := closeBounds formed filled close
  have unit : (0 : ℚ) < 2 ^ y.exponent := by positivity
  have top : y.significand = 2 ^ 52 := by
    by_contra other
    have more : (2 : ℚ) ^ 52 + 1 ≤ y.significand := by
      exact_mod_cast (formed.full.resolve_right normal).lt_of_ne (Ne.symm other)
    have low := (abs_lt.1 close).1
    rw [powerAbove y.exponent 52] at less
    rw [size] at low
    nlinarith
  have half : (2 : ℚ) ^ (y.exponent - 1) = 2 ^ y.exponent / 2 := zpow_sub_one₀ two_ne_zero _
  have same : y.size = ((2 ^ 53 : Nat) : ℚ) * 2 ^ (y.exponent - 1) := by
    rw [size, top, half]
    push_cast
    ring
  rw [same] at close
  have least := formed.least
  have exponent : grid x.value = y.exponent - 1 := by
    refine gridIs (by omega) ?_ positive (.inl ?_)
    · rwa [sub_add_eq_add_sub, add_sub_assoc]
    · have low := (abs_lt.1 close).1
      rw [powerAbove _ 52]
      push_cast at low
      rw [half] at low ⊢
      linarith
  have near : |x.value - (2 ^ 53 : Nat) * 2 ^ (y.exponent - 1)| < 2 ^ (y.exponent - 1) / 2 := by
    refine close.trans_le (le_of_eq ?_)
    push_cast
    ring
  rw [readsAt den positive exponent near, carry, if_pos rfl, sub_add_cancel, ← top]
  exact finiteSome.2 ⟨rfl, formed.most⟩

theorem closeReads : ofRatio? x = some y.unsigned := by
  by_cases inside : 2 ^ (y.exponent + 52) ≤ x.value ∨ y.exponent = -1074
  · exact closeInside formed filled close den inside
  · obtain ⟨less, normal⟩ := not_or.1 inside
    exact closeBelow formed filled close den (not_le.1 less) normal

end Close

theorem digitsBound {n : Nat} (filled : 0 < n) :
    (10 : ℚ) ^ ((Nat.toDigits 10 n).length - 1 : Int) ≤ n ∧
      (n : ℚ) < 10 ^ ((Nat.toDigits 10 n).length : Int) := by
  have some : 0 < (Nat.toDigits 10 n).length := Nat.length_toDigits_pos
  have above := (Nat.length_toDigits_le_iff (b := 10) (n := n) (by decide) some).1 le_rfl
  refine ⟨?_, by exact_mod_cast above⟩
  obtain ⟨k, same⟩ := Nat.exists_eq_add_of_lt some
  have exponent : ((Nat.toDigits 10 n).length - 1 : Int) = (k : Nat) := by omega
  rw [exponent]
  obtain rfl | more := Nat.eq_zero_or_pos k
  · exact_mod_cast filled
  · have below := mt (Nat.length_toDigits_le_iff (b := 10) (n := n) (by decide) more).2 (by omega)
    exact_mod_cast not_lt.1 below

theorem powersApart {k : Int} (positive : 0 ≤ k) : (2 : ℚ) ^ (3 * k) ≤ 10 ^ k := by
  rw [zpow_mul]
  exact zpow_le_zpow_left₀ positive (by norm_num) (by norm_num)

theorem hugeReads {x : Ratio} (num : 0 < x.num) (den : 0 < x.den)
    (huge : (10 : ℚ) ^ (400 : Int) ≤ x.value) : ofRatio? x = none := by
  obtain ⟨n, -, reads⟩ := roundedNearest num den
  have far : ((2 : Nat) : ℚ) ^ (3 * 400 : Int) ≤ x.value := (powersApart (by decide)).trans huge
  have log := (Int.zpow_le_iff_le_log (by decide) (valuePositive num den)).1 far
  have beyond : (carry n (grid x.value)).exponent > 971 := by
    refine lt_of_lt_of_le ?_ (carryExponent n _).1
    unfold grid
    omega
  rw [reads, finite?, if_pos beyond]

theorem tinyReads {x : Ratio} (num : 0 < x.num) (den : 0 < x.den)
    (tiny : x.value < (10 : ℚ) ^ (-400 : Int)) : ofRatio? x = some zero := by
  have positive := valuePositive num den
  have near : x.value < ((2 : Nat) : ℚ) ^ (-(3 * 400) : Int) := by
    refine tiny.trans_le ?_
    rw [zpow_neg, zpow_neg]
    exact inv_anti₀ (by positivity) (powersApart (by decide))
  have log := (Int.lt_zpow_iff_log_lt (by decide) positive).1 near
  have exponent : grid x.value = -1074 := by
    unfold grid
    omega
  have below : |x.value - (0 : Nat) * 2 ^ (-1074 : Int)| < 2 ^ (-1074 : Int) / 2 := by
    rw [Nat.cast_zero, zero_mul, sub_zero, abs_of_pos positive]
    calc x.value < 2 ^ (-(3 * 400) : Int) := near
      _ ≤ (2 : ℚ) ^ (-1074 - 1 : Int) := zpow_le_zpow_right₀ one_le_two (by decide)
      _ = 2 ^ (-1074 : Int) / 2 := zpow_sub_one₀ two_ne_zero _
  rw [readsAt den positive exponent below]
  rfl

/- The powers that are not computed change nothing. -/
theorem ofDecimalRatio (digits : Nat) (exponent : Int) :
    ofDecimal? digits exponent = ofRatio? (ofScaled 10 digits exponent) := by
  have ten : 0 < 10 := by decide
  rw [ofDecimal?]
  obtain rfl | filled := Nat.eq_zero_or_pos digits
  · rw [if_pos rfl, ofRatio?, if_pos ((scaledNum ten exponent).2 rfl)]
  have num : 0 < (ofScaled 10 digits exponent).num :=
    Nat.pos_of_ne_zero (mt (scaledNum ten exponent).1 filled.ne')
  have den := scaledDen ten digits exponent
  have value : (ofScaled 10 digits exponent).value = digits * (10 : ℚ) ^ exponent :=
    scaledValue ten digits exponent
  obtain ⟨least, most⟩ := digitsBound filled
  rw [if_neg filled.ne']
  dsimp only
  split
  · rename_i large
    refine (hugeReads num den ?_).symm
    calc (10 : ℚ) ^ (400 : Int)
        ≤ 10 ^ (((Nat.toDigits 10 digits).length - 1 : Int) + exponent) :=
          zpow_le_zpow_right₀ (by norm_num) (by omega)
      _ = 10 ^ ((Nat.toDigits 10 digits).length - 1 : Int) * 10 ^ exponent :=
          zpow_add₀ (by norm_num) _ _
      _ ≤ digits * 10 ^ exponent := by gcongr
      _ = _ := value.symm
  · split
    · rename_i small
      refine (tinyReads num den ?_).symm
      calc (ofScaled 10 digits exponent).value = digits * 10 ^ exponent := value
        _ < 10 ^ ((Nat.toDigits 10 digits).length : Int) * 10 ^ exponent := by gcongr
        _ = 10 ^ (((Nat.toDigits 10 digits).length : Int) + exponent) :=
          (zpow_add₀ (by norm_num) _ _).symm
        _ ≤ 10 ^ (-400 : Int) := zpow_le_zpow_right₀ (by norm_num) (by omega)
    · rfl

theorem largestBeyond : (10 : ℚ) ^ (308 : Int) ≤ (2 ^ 53 - 1) * 2 ^ (971 : Int) := by
  have close : (10 : ℚ) ^ (59 : Int) ≤ 2 ^ (196 : Int) := by norm_num
  calc (10 : ℚ) ^ (308 : Int) = 10 ^ (13 : Int) * (10 ^ (59 : Int)) ^ (5 : Int) := by
        rw [← zpow_mul, ← zpow_add₀ (by norm_num)]
        rfl
    _ ≤ 10 ^ (13 : Int) * (2 ^ (196 : Int)) ^ (5 : Int) := by
        gcongr
        exact zpow_le_zpow_left₀ (by decide) (by positivity) close
    _ = 10 ^ (13 : Int) * 2 ^ (9 : Int) * 2 ^ (971 : Int) := by
        rw [← zpow_mul, mul_assoc, ← zpow_add₀ two_ne_zero]
        rfl
    _ ≤ (2 ^ 53 - 1) * 2 ^ (971 : Int) := by
        gcongr
        norm_num

theorem leastNormal : (2 : ℚ) ^ (-1022 : Int) ≤ 10 ^ (-307 : Int) := by
  rw [zpow_neg, zpow_neg]
  refine inv_anti₀ (by positivity) ?_
  calc (10 : ℚ) ^ (307 : Int) = 10 ^ (308 : Int) / 10 := zpow_sub_one₀ (by norm_num) 308
    _ ≤ 2 ^ (53 : Int) * 2 ^ (971 : Int) / 2 ^ (2 : Int) := by
        gcongr
        · exact largestBeyond.trans (by gcongr; norm_num)
        · norm_num
    _ = 2 ^ (1022 : Int) := by
        rw [← zpow_add₀ two_ne_zero, ← zpow_sub₀ two_ne_zero]
        rfl

theorem readsWithin {x : Ratio} (num : 0 < x.num) (den : 0 < x.den)
    (small : x.value ≤ (2 ^ 53 - 1) * 2 ^ (971 : Int)) : ∃ y, ofRatio? x = some y := by
  have positive := valuePositive num den
  obtain ⟨n, nearest, reads⟩ := roundedNearest num den
  refine ⟨carry n (grid x.value), reads.trans (finiteSome.2 ⟨rfl, ?_⟩)⟩
  have below : x.value < ((2 : Nat) : ℚ) ^ (1024 : Int) := by
    refine small.trans_lt ?_
    calc (2 ^ 53 - 1 : ℚ) * 2 ^ (971 : Int) < 2 ^ (53 : Int) * 2 ^ (971 : Int) := by
          gcongr
          norm_num
      _ = 2 ^ (1024 : Int) := (zpow_add₀ two_ne_zero _ _).symm
  have log := (Int.lt_zpow_iff_log_lt (by decide) positive).1 below
  obtain top | less : grid x.value = 971 ∨ grid x.value < 971 := by
    unfold grid
    omega
  · rw [top] at nearest ⊢
    have scaled : x.value / 2 ^ (971 : Int) ≤ 2 ^ 53 - 1 := (div_le_iff₀ (by positivity)).2 small
    have short : (n : ℚ) < 2 ^ 53 := by linarith [(abs_le.1 nearest.near).1]
    have short' : n < 2 ^ 53 := by exact_mod_cast short
    rw [carry, if_neg short'.ne]
  · exact (carryExponent n _).2.trans less

end RequestSuite.Decimal.Binary64

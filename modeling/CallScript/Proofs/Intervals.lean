import CallScript.Number.Shortest
import CallScript.Proofs.Unsigned
import Mathlib.Algebra.Order.Field.Power
import Mathlib.Data.Rat.Cast.Order
import Mathlib.Tactic.FieldSimp
import Mathlib.Tactic.Linarith
import Mathlib.Tactic.Positivity
import Mathlib.Tactic.Ring

/-! The reals that round to a floating-point number. A number is determined by its sign, its mantissa and its
exponent; the intervals of different mantissas and exponents have no point in common; and the grid of seventeen
decimal places below the first one has a point in each of them. So the shortest digits are always found, and they
belong to one number only. -/
namespace CallScript.Number

/- Mantissas and exponents of numbers: the mantissa is full unless the exponent is the lowest one. -/
structure Ranged (mantissa : Nat) (exponent : Int) : Prop where
  size : mantissa < 2 ^ 53
  low : -1074 ≤ exponent
  high : exponent ≤ 971
  full : exponent = -1074 ∨ 2 ^ 52 ≤ mantissa

theorem partsRanged {x : Float} {negative : Bool} {mantissa : Nat} {exponent : Int}
    (same : parts x = .finite negative mantissa exponent) : Ranged mantissa exponent := by
  rw [parts, partsOfBits] at same
  have fraction : x.toBits.toNat % Nat.pow 2 fractionBits < 2 ^ 52 := Nat.mod_lt _ (by decide)
  have scale : x.toBits.toNat / Nat.pow 2 fractionBits % Nat.pow 2 11 < 2 ^ 11 := Nat.mod_lt _ (by decide)
  have implicit : Nat.pow 2 fractionBits = 2 ^ 52 := rfl
  split at same
  · split at same <;> cases same
  · rename_i top
    have below : x.toBits.toNat / Nat.pow 2 fractionBits % Nat.pow 2 11 ≠ 2047 := by simpa using top
    split at same
    · cases same
      exact ⟨by omega, by decide, by decide, .inl rfl⟩
    · rename_i bottom
      have above : x.toBits.toNat / Nat.pow 2 fractionBits % Nat.pow 2 11 ≠ 0 := by simpa using bottom
      cases same
      refine ⟨by omega, ?_, ?_, .inr (by omega)⟩ <;>
      · rw [Int.ofNat_eq_natCast]
        omega

def ofFields (negative : Bool) (scale fraction : Nat) : Parts :=
  if scale == 2047 then
    if fraction == 0 then .infinite negative else .undefined
  else if scale == 0 then .finite negative fraction lowestExponent
  else .finite negative (2 ^ 52 + fraction) (Int.ofNat scale - 1075)

theorem fieldsInjective {negative negative' : Bool} {scale scale' fraction fraction' : Nat} (small : fraction < 2 ^ 52)
    (small' : fraction' < 2 ^ 52) (same : ofFields negative scale fraction = ofFields negative' scale' fraction')
    (defined : ofFields negative scale fraction ≠ .undefined) :
    negative = negative' ∧ scale = scale' ∧ fraction = fraction' := by
  grind [ofFields, lowestExponent]

theorem bitsFields (bits : Nat) :
    partsOfBits bits = ofFields (bits / 2 ^ 63 % 2 == 1) (bits / 2 ^ 52 % 2 ^ 11) (bits % 2 ^ 52) := rfl

theorem bitsInjective {a b : Nat} (first : a < 2 ^ 64) (second : b < 2 ^ 64) (same : partsOfBits a = partsOfBits b)
    (defined : partsOfBits a ≠ .undefined) : a = b := by
  rw [bitsFields] at same defined
  rw [bitsFields] at same
  obtain ⟨sign, scale, fraction⟩ := fieldsInjective (Nat.mod_lt a (by decide)) (Nat.mod_lt b (by decide)) same defined
  have sign : a / 2 ^ 63 % 2 = 1 ↔ b / 2 ^ 63 % 2 = 1 := by
    rw [← beq_iff_eq, sign, beq_iff_eq]
  omega

theorem partsInjective {x y : Float} (same : parts x = parts y) (defined : parts x ≠ .undefined) : x = y := by
  have bits : x.toBits.toNat = y.toBits.toNat := bitsInjective x.toBits.toNat_lt y.toBits.toNat_lt same defined
  exact sameBits (UInt64.toNat_inj.mp bits)

section Values

variable {mantissa : Nat} {exponent : Int}

def value (mantissa : Nat) (exponent : Int) : ℚ := mantissa * 2 ^ exponent

theorem toNatPower (base : ℚ) {power : Int} (up : 0 ≤ power) : base ^ power.toNat = base ^ power := by
  conv_rhs => rw [← Int.toNat_of_nonneg up]
  exact (zpow_natCast base _).symm

theorem negNatPower (base : ℚ) {power : Int} (down : ¬ 0 ≤ power) :
    base ^ (-power).toNat = (base ^ power)⁻¹ := by
  rw [toNatPower base (by omega), zpow_neg]

theorem raisedFraction (base : Nat) (some : 0 < base) (num den : Nat) (power : Int) (positive : 0 < den) :
    let raised : Nat × Nat := if 0 ≤ power then (num * Nat.pow base power.toNat, den)
      else (num, den * Nat.pow base (-power).toNat)
    0 < raised.2 ∧ (raised.1 : ℚ) / raised.2 = num / den * (base : ℚ) ^ power := by
  intro raised
  have pos : (0 : ℚ) < base := by exact_mod_cast some
  by_cases up : 0 ≤ power
  · simp only [raised, if_pos up]
    refine ⟨positive, ?_⟩
    change ((num * base ^ power.toNat : Nat) : ℚ) / den = _
    push_cast
    rw [toNatPower _ up]
    ring
  · simp only [raised, if_neg up]
    refine ⟨Nat.mul_pos positive (Nat.pow_pos some), ?_⟩
    change (num : ℚ) / ((den * base ^ (-power).toNat : Nat) : ℚ) = _
    push_cast
    rw [negNatPower _ up]
    field_simp

theorem loweredFraction (base : Nat) (some : 0 < base) (num den : Nat) (power : Int) (positive : 0 < den) :
    let lowered : Nat × Nat := if 0 ≤ power then (num, den * Nat.pow base power.toNat)
      else (num * Nat.pow base (-power).toNat, den)
    0 < lowered.2 ∧ (lowered.1 : ℚ) / lowered.2 = num / den / (base : ℚ) ^ power := by
  intro lowered
  have pos : (0 : ℚ) < base := by exact_mod_cast some
  by_cases up : 0 ≤ power
  · simp only [lowered, if_pos up]
    refine ⟨Nat.mul_pos positive (Nat.pow_pos some), ?_⟩
    change (num : ℚ) / ((den * base ^ power.toNat : Nat) : ℚ) = _
    push_cast
    rw [toNatPower _ up]
    field_simp
  · simp only [lowered, if_neg up]
    refine ⟨positive, ?_⟩
    change ((num * base ^ (-power).toNat : Nat) : ℚ) / den = _
    push_cast
    rw [negNatPower _ up]
    field_simp

theorem magnitudeValue (mantissa : Nat) (exponent : Int) :
    0 < (magnitude mantissa exponent).2 ∧
      ((magnitude mantissa exponent).1 : ℚ) / (magnitude mantissa exponent).2 = value mantissa exponent := by
  have raised := raisedFraction 2 (by decide) mantissa 1 exponent (by decide)
  simp only [Nat.one_mul, Nat.cast_one, div_one] at raised
  exact raised

def place (exponent : Int) (candidate : Nat) (power : Int) : ℚ := 4 * (candidate * 10 ^ power) / 2 ^ exponent

theorem containsPlace (range : Interval) (exponent : Int) (candidate : Nat) (power : Int) :
    range.contains exponent candidate power = true ↔
      if range.closed = true then range.low ≤ place exponent candidate power ∧ place exponent candidate power ≤ range.high
      else range.low < place exponent candidate power ∧ place exponent candidate power < range.high := by
  obtain ⟨positive, decimal⟩ := raisedFraction 10 (by decide) candidate 1 power (by decide)
  simp only [Nat.one_mul, Nat.cast_one, div_one, Nat.cast_ofNat] at positive decimal
  unfold Interval.contains
  revert positive decimal
  generalize (if 0 ≤ power then (candidate * Nat.pow 10 power.toNat, 1) else (candidate, Nat.pow 10 (-power).toNat)) =
    fraction
  intro positive decimal
  obtain ⟨positive', binary⟩ := loweredFraction 2 (by decide) (fraction.1 * 4) fraction.2 exponent positive
  revert positive' binary
  dsimp only
  generalize (if 0 ≤ exponent then (fraction.1 * 4, fraction.2 * Nat.pow 2 exponent.toNat)
    else (fraction.1 * 4 * Nat.pow 2 (-exponent).toNat, fraction.2)) = quarters
  intro positive' binary
  have pos : (0 : ℚ) < quarters.2 := by exact_mod_cast positive'
  have located : place exponent candidate power = quarters.1 / quarters.2 := by
    rw [binary, place, ← decimal]
    push_cast
    ring
  rw [located]
  split
  · rw [Bool.and_eq_true, decide_eq_true_eq, decide_eq_true_eq, le_div_iff₀ pos, div_le_iff₀ pos]
    exact_mod_cast Iff.rfl
  · rw [Bool.and_eq_true, decide_eq_true_eq, decide_eq_true_eq, lt_div_iff₀ pos, div_lt_iff₀ pos]
    exact_mod_cast Iff.rfl

end Values

section Intervals

variable {m m' : Nat} {e e' : Int}

theorem intervalHigh (m : Nat) (e : Int) : (roundingInterval m e).high = 4 * m + 2 := rfl

theorem intervalLow (positive : 0 < m) (e : Int) : ((roundingInterval m e).low : ℚ) =
    if m = 2 ^ 52 ∧ -1074 < e then 4 * (m : ℚ) - 1 else 4 * m - 2 := by
  have low : (roundingInterval m e).low = if m = 2 ^ 52 ∧ -1074 < e then 4 * m - 1 else 4 * m - 2 := by
    rw [roundingInterval]
    refine if_congr ?_ rfl rfl
    rw [Bool.and_eq_true, beq_iff_eq, decide_eq_true_eq]
    exact Iff.rfl
  rw [low]
  split
  · push_cast [show 1 ≤ 4 * m by omega]
    rfl
  · push_cast [show 2 ≤ 4 * m by omega]
    rfl

structure Inside (m : Nat) (e : Int) (t : ℚ) : Prop where
  low : (if m = 2 ^ 52 ∧ -1074 < e then 4 * (m : ℚ) - 1 else 4 * m - 2) ≤ t
  high : t ≤ 4 * m + 2
  strict : m % 2 = 1 → 4 * (m : ℚ) - 2 < t ∧ t < 4 * m + 2

theorem containsInside (positive : 0 < m) {candidate : Nat} {power : Int}
    (contains : (roundingInterval m e).contains e candidate power = true) : Inside m e (place e candidate power) := by
  have least : 4 * (m : ℚ) - 2 ≤ if m = 2 ^ 52 ∧ -1074 < e then 4 * (m : ℚ) - 1 else 4 * m - 2 := by
    split <;> linarith
  have closed : (roundingInterval m e).closed = (m % 2 == 0) := rfl
  rw [containsPlace, intervalLow positive, intervalHigh, closed] at contains
  push_cast at contains
  split at contains
  · rename_i even
    exact ⟨contains.1, contains.2, fun odd => absurd (beq_iff_eq.mp even) (by omega)⟩
  · exact ⟨contains.1.le, contains.2.le, fun _ => ⟨least.trans_lt contains.1, contains.2⟩⟩

theorem sameExponent {t : ℚ} (first : Inside m e t) (second : Inside m' e t) : ¬ m < m' := by
  intro less
  have next : (m : ℚ) + 1 ≤ m' := by exact_mod_cast less
  have low : 4 * (m' : ℚ) - 2 ≤ t := le_trans (by split <;> linarith) second.low
  have same : (m' : ℚ) = m + 1 := by linarith [first.high]
  have follows : m' = m + 1 := by exact_mod_cast same
  rcases Nat.mod_two_eq_zero_or_one m with even | odd
  · linarith [(second.strict (by omega)).1, first.high]
  · linarith [(first.strict odd).2, low]

/- Two numbers of different exponents: that of the larger one has a full mantissa, and at the least of these its
interval begins where that of the largest mantissa below ends. -/
theorem otherExponent {v : ℚ} (ranged : Ranged m e) (ranged' : Ranged m' e') (first : Inside m e (4 * v / 2 ^ e))
    (second : Inside m' e' (4 * v / 2 ^ e')) : ¬ e < e' := by
  intro less
  obtain ⟨k, rfl⟩ : ∃ k : Nat, e' = e + 1 + k := ⟨(e' - e - 1).toNat, by omega⟩
  have full : 2 ^ 52 ≤ m' := ranged'.full.resolve_left (by have := ranged.low; omega)
  have scaled : 4 * v / 2 ^ e = 4 * v / 2 ^ (e + 1 + (k : ℤ)) * (2 * 2 ^ k) := by
    rw [zpow_add₀ (by norm_num), zpow_add₀ (by norm_num), zpow_one, zpow_natCast]
    field_simp
  generalize 4 * v / 2 ^ (e + 1 + (k : ℤ)) = t at second scaled
  rw [scaled] at first
  have power : (1 : ℚ) ≤ 2 ^ k := one_le_pow₀ (by norm_num)
  have size : (m : ℚ) + 1 ≤ 2 ^ 53 := by exact_mod_cast ranged.size
  have least : 2 ^ 54 - 1 ≤ t := by
    have low := second.low
    split at low
    · rename_i bottom
      rw [bottom.1] at low
      push_cast at low
      linarith
    · rename_i other
      have more : 2 ^ 52 + 1 ≤ m' := by
        have distinct : m' ≠ 2 ^ 52 := fun same => other ⟨same, by have := ranged.low; omega⟩
        omega
      have more : (2 : ℚ) ^ 52 + 1 ≤ m' := by exact_mod_cast more
      linarith
  have twice : 2 ^ 55 - 2 ≤ t * (2 * 2 ^ k) := by nlinarith
  have largest : m = 2 ^ 53 - 1 := by
    have close : (2 : ℚ) ^ 53 ≤ m + 1 := by linarith [first.high]
    have close : 2 ^ 53 ≤ m + 1 := by exact_mod_cast close
    have := ranged.size
    omega
  have strict := (first.strict (by omega)).2
  rw [largest] at strict
  push_cast at strict
  linarith

theorem intervalsApart {v : ℚ} (ranged : Ranged m e) (ranged' : Ranged m' e') (first : Inside m e (4 * v / 2 ^ e))
    (second : Inside m' e' (4 * v / 2 ^ e')) : m = m' ∧ e = e' := by
  have same : e = e' := le_antisymm (not_lt.mp (otherExponent ranged' ranged second first))
    (not_lt.mp (otherExponent ranged ranged' first second))
  subst same
  exact ⟨le_antisymm (not_lt.mp (sameExponent second first)) (not_lt.mp (sameExponent first second)), rfl⟩

end Intervals

section Grids

variable {m : Nat} {e power : Int}

theorem lowestInside (positive : 0 < m) {candidate : Nat}
    (contains : (roundingInterval m e).contains e candidate power = true) : 0 < candidate := by
  have inside := (containsInside positive contains).low
  have some : (1 : ℚ) ≤ m := by exact_mod_cast positive
  have above : 0 < place e candidate power := lt_of_lt_of_le (by split <;> linarith) inside
  by_contra none
  rw [place, Nat.eq_zero_of_not_pos none] at above
  simp at above

theorem gridInside {n : Nat} (found : gridPoint m e power = some n) :
    (roundingInterval m e).contains e n power = true := by
  rw [gridPoint] at found
  dsimp only at found
  split at found
  · cases found
    assumption
  · split at found
    · cases found
      assumption
    · split at found
      · cases found
        assumption
      · cases found

theorem roundedNear (a : Nat) {b : Nat} (positive : 0 < b) : |(roundHalfEven a b : ℚ) - a / b| ≤ 1 / 2 := by
  have whole : b * (a / b) + a % b = a := Nat.div_add_mod a b
  have rest : a % b < b := Nat.mod_lt a positive
  have near : 2 * (b * roundHalfEven a b) ≤ 2 * a + b ∧ 2 * a ≤ 2 * (b * roundHalfEven a b) + b := by
    have next : b * (a / b + 1) = b * (a / b) + b := Nat.mul_succ ..
    rw [roundHalfEven]
    repeat' split
    all_goals omega
  have pos : (0 : ℚ) < b := by exact_mod_cast positive
  have above : (2 : ℚ) * (b * roundHalfEven a b) ≤ 2 * a + b := by exact_mod_cast near.1
  have below : (2 : ℚ) * a ≤ 2 * (b * roundHalfEven a b) + b := by exact_mod_cast near.2
  have apart : (roundHalfEven a b : ℚ) - a / b = (b * roundHalfEven a b - a) / b := by field_simp
  rw [apart, abs_div, abs_of_pos pos, div_le_iff₀ pos, abs_le]
  constructor <;> linarith

theorem closeContained (positive : 0 < m) {candidate : Nat} (close : |place e candidate power - 4 * m| < 1) :
    (roundingInterval m e).contains e candidate power = true := by
  obtain ⟨below, above⟩ := abs_lt.mp close
  have low : ((roundingInterval m e).low : ℚ) < place e candidate power := by
    rw [intervalLow positive]
    split <;> linarith
  have high : place e candidate power < (roundingInterval m e).high := by
    rw [intervalHigh]
    push_cast
    linarith
  rw [containsPlace]
  split
  · exact ⟨low.le, high.le⟩
  · exact ⟨low, high⟩

theorem gridHas (ranged : Ranged m e) (positive : 0 < m) (fine : 10 ^ power * 10 ^ 17 ≤ value m e) :
    ∃ n, gridPoint m e power = some n := by
  obtain ⟨pos, worth⟩ := magnitudeValue m e
  obtain ⟨pos', grid⟩ := loweredFraction 10 (by decide) (magnitude m e).1 (magnitude m e).2 power pos
  rw [gridPoint]
  dsimp only
  unfold overPowerOfTen
  revert pos' grid
  generalize (if 0 ≤ power then ((magnitude m e).1, (magnitude m e).2 * Nat.pow 10 power.toNat)
    else ((magnitude m e).1 * Nat.pow 10 (-power).toNat, (magnitude m e).2)) = cells
  intro pos' grid
  refine ⟨roundHalfEven cells.1 cells.2, if_pos (closeContained positive ?_)⟩
  have near := roundedNear cells.1 pos'
  have unit : (0 : ℚ) < 10 ^ power / 2 ^ e := by positivity
  have small : (10 : ℚ) ^ power / 2 ^ e * 10 ^ 17 < 2 ^ 53 := by
    have size : (m : ℚ) < 2 ^ 53 := by exact_mod_cast ranged.size
    rw [div_mul_eq_mul_div, div_lt_iff₀ (by positivity)]
    exact fine.trans_lt (by rw [value]; gcongr)
  have moved : place e (roundHalfEven cells.1 cells.2) power - 4 * m =
      4 * (10 ^ power / 2 ^ e) * (roundHalfEven cells.1 cells.2 - cells.1 / cells.2) := by
    rw [grid, worth, place, value]
    push_cast
    field_simp
  rw [moved, abs_mul, abs_of_pos (by positivity)]
  nlinarith

end Grids

section Point

/- The logarithm that the guess is made with is a little too large. -/
theorem guessedLogarithm : ∀ n < 1100,
    10 ^ (n * 30103 / 100000) ≤ 2 ^ n * 100 ∧ 2 ^ n ≤ 10 ^ ((n * 30103 + 99999) / 100000) := by
  decide +kernel

theorem guessLow {scale : Int} (low : -1100 < scale) (high : scale < 1100) :
    (10 : ℚ) ^ (scale * 30103 / 100000 - 2) ≤ 2 ^ scale := by
  obtain ⟨n, rfl | rfl⟩ := Int.eq_nat_or_neg scale
  · have guessed : (10 : ℚ) ^ (n * 30103 / 100000) ≤ 2 ^ n * 100 := by
      exact_mod_cast (guessedLogarithm n (by omega)).1
    have floor : (n : Int) * 30103 / 100000 = (n * 30103 / 100000 : Nat) := by omega
    rw [floor, zpow_sub₀ (by norm_num), zpow_natCast, zpow_natCast, div_le_iff₀ (by positivity)]
    exact guessed.trans (by norm_num)
  · have guessed : (2 : ℚ) ^ n ≤ 10 ^ ((n * 30103 + 99999) / 100000) := by
      exact_mod_cast (guessedLogarithm n (by omega)).2
    have floor : -(n : Int) * 30103 / 100000 = -((n * 30103 + 99999) / 100000 : Nat) := by omega
    calc (10 : ℚ) ^ (-(n : Int) * 30103 / 100000 - 2)
        ≤ 10 ^ (-(n : Int) * 30103 / 100000) := zpow_le_zpow_right₀ (by norm_num) (by omega)
      _ = (10 ^ ((n * 30103 + 99999) / 100000))⁻¹ := by rw [floor, zpow_neg, zpow_natCast]
      _ ≤ (2 ^ n)⁻¹ := inv_anti₀ (by positivity) guessed
      _ = 2 ^ (-(n : Int)) := by rw [zpow_neg, zpow_natCast]

theorem quotientScale {num den : Nat} (some : 0 < num) (some' : 0 < den) :
    (2 : ℚ) ^ ((num.log2 : Int) - den.log2 - 1) ≤ num / den := by
  have low : (2 : ℚ) ^ num.log2 ≤ num := by exact_mod_cast Nat.log2_self_le some.ne'
  have high : (den : ℚ) ≤ 2 ^ (den.log2 + 1) := by exact_mod_cast Nat.lt_log2_self.le
  have pos : (0 : ℚ) < den := by exact_mod_cast some'
  rw [sub_sub, zpow_sub₀ (by norm_num), zpow_natCast]
  exact div_le_div₀ (by positivity) low pos (by exact_mod_cast high)

theorem seekHolds {above : Int → Bool} (holds : Int → Prop)
    (next : ∀ k, above k = false → holds (k + 1)) (steps : Nat)
    {k : Int} (start : holds k) : holds (decimalPoint.seek above steps k) := by
  induction steps generalizing k with
  | zero => exact start
  | succ steps ih =>
    rw [decimalPoint.seek]
    split
    · exact start
    · rename_i below
      exact ih (next k (Bool.eq_false_iff.mpr below))

theorem pointLow {num den : Nat} (some : 0 < num) (some' : 0 < den) (small : num.log2 < 1100)
    (small' : den.log2 < 1099) : (10 : ℚ) ^ (decimalPoint num den - 1) ≤ num / den := by
  rw [decimalPoint]
  refine seekHolds (fun k => (10 : ℚ) ^ (k - 1) ≤ num / den) (fun k below => ?_) 8 ?_
  · obtain ⟨positive, lowered⟩ := loweredFraction 10 (by decide) num den k some'
    have least : (10 : ℚ) ^ k ≤ num / den := by
      rw [← one_le_div (by positivity), ← Nat.cast_ofNat (n := 10), ← lowered, one_le_div (by exact_mod_cast positive)]
      split at below
      · rename_i up
        rw [if_pos up]
        exact_mod_cast not_lt.mp (of_decide_eq_false below)
      · rename_i down
        rw [if_neg down]
        exact_mod_cast not_lt.mp (of_decide_eq_false below)
    rwa [add_sub_cancel_right]
  · refine le_trans ?_ (quotientScale some some')
    rw [sub_sub, Int.ofNat_eq_natCast, Int.ofNat_eq_natCast]
    exact guessLow (by omega) (by omega)

end Point

section Found

variable {m : Nat} {e point : Int}

theorem magnitudeScale (ranged : Ranged m e) (positive : 0 < m) :
    (magnitude m e).1.log2 < 1100 ∧ (magnitude m e).2.log2 < 1099 := by
  have low := ranged.low
  have high := ranged.high
  rw [magnitude]
  split
  · have size : (m * 2 ^ e.toNat).log2 < 53 + e.toNat := by
      rw [Nat.log2_lt (Nat.mul_pos positive (Nat.pow_pos (by decide))).ne', Nat.pow_add]
      exact Nat.mul_lt_mul_of_pos_right ranged.size (by positivity)
    have one : Nat.log2 1 = 0 := rfl
    exact ⟨size.trans (by omega), by rw [one]; decide⟩
  · have size : m.log2 < 53 := (Nat.log2_lt positive.ne').mpr ranged.size
    have unit : (2 ^ (-e).toNat).log2 < 1099 := by
      rw [Nat.log2_two_pow]
      omega
    exact ⟨size.trans (by decide), unit⟩

def stripped (n : Nat) (power : Int) : Decimal :=
  ⟨((digitsOf n).reverse.dropWhile (· == 0)).reverse, power + (digitsOf n).length⟩

theorem seekFound (left : Nat) {count : Nat} (last : ∃ n, gridPoint m e (point - (count + left : Nat)) = some n) :
    ∃ n power, gridPoint m e power = some n ∧ shortest.seek m e point (left + 1) count = stripped n power := by
  have here {n left count : Nat} (found : gridPoint m e (point - count) = some n) :
      shortest.seek m e point (left + 1) count = stripped n (point - count) := by
    rw [shortest.seek, Int.ofNat_eq_natCast, found]
    rw [stripped, Decimal.mk.injEq]
    exact ⟨rfl, by rw [Int.ofNat_eq_natCast]; omega⟩
  induction left generalizing count with
  | zero =>
    obtain ⟨n, found⟩ := last
    exact ⟨n, _, found, here found⟩
  | succ left ih =>
    rcases found : gridPoint m e (point - count) with _ | n
    · have later : shortest.seek m e point (left + 1 + 1) count = shortest.seek m e point (left + 1) (count + 1) := by
        rw [shortest.seek, Int.ofNat_eq_natCast, found]
      have next : count + 1 + left = count + (left + 1) := by omega
      rw [later]
      exact ih (by rwa [next])
    · exact ⟨n, _, found, here found⟩

theorem shortestFound (ranged : Ranged m e) (positive : 0 < m) :
    ∃ n power, gridPoint m e power = some n ∧ shortest m e = stripped n power := by
  obtain ⟨pos, worth⟩ := magnitudeValue m e
  obtain ⟨scale, scale'⟩ := magnitudeScale ranged positive
  have some : 0 < (magnitude m e).1 := by
    rw [magnitude]
    split
    · exact Nat.mul_pos positive (Nat.pow_pos (by decide))
    · exact positive
  have low := pointLow some pos scale scale'
  rw [worth] at low
  have fine (point : Int) : (10 : ℚ) ^ (point - (1 + 17 : Nat)) * 10 ^ 17 = 10 ^ (point - 1) := by
    rw [← zpow_natCast, ← zpow_add₀ (by norm_num)]
    congr 1
    omega
  exact seekFound 17 (gridHas ranged positive ((fine _).trans_le low))

end Found

end CallScript.Number

import CallScript.Proofs.Unsigned

/-! Which integers are too large for a floating-point number. An integer has its exponent from its binary digits, and
rounding raises it by one at most. So whether there is a nearest number is decided among the integers with 1024
digits, by the way that these are rounded. -/
namespace CallScript.Number

theorem roundsUp {a b q : Nat} (positive : 0 < b) (below : a < (q + 1) * b) (odd : q % 2 = 1) :
    roundHalfEven a b = q + 1 ↔ (2 * q + 1) * b ≤ 2 * a := by
  have whole : b * (a / b) + a % b = a := Nat.div_add_mod a b
  have rest : a % b < b := Nat.mod_lt a positive
  have most : a / b ≤ q := Nat.le_of_lt_succ (Nat.div_lt_of_lt_mul (by rwa [Nat.mul_comm] at below))
  have split : (2 * q + 1) * b = 2 * (b * q) + b := by ring
  rw [roundHalfEven, split]
  rcases Nat.lt_or_eq_of_le most with less | same
  · have under : b * (a / b) + b ≤ b * q := by
      rw [← Nat.mul_succ]
      exact Nat.mul_le_mul_left b less
    split
    · omega
    · split
      · omega
      · split <;> omega
  · rw [same] at whole ⊢
    split
    · omega
    · split
      · omega
      · rw [if_neg (by rw [odd]; decide)]
        omega

theorem wholeExponent {n : Nat} (some : n ≠ 0) :
    Nat.pow 2 53 ≤ (scaled n 1 (n.log2 - 53)).1 / (scaled n 1 (n.log2 - 53)).2 ∧
      (scaled n 1 (n.log2 - 53)).1 / (scaled n 1 (n.log2 - 53)).2 < Nat.pow 2 54 := by
  have guessed := @scaledGuess n 1 Nat.one_pos (n.log2 - 53) (by simp)
  rw [scaledBoth] at guessed ⊢
  dsimp only at guessed ⊢
  have positive : 0 < 1 * 2 ^ ((n.log2 : Int) - 53).toNat := by positivity
  refine ⟨(Nat.le_div_iff_mul_le positive).mpr ?_, (Nat.div_lt_iff_lt_mul positive).mpr guessed⟩
  calc Nat.pow 2 53 * (1 * 2 ^ ((n.log2 : Int) - 53).toNat)
      = 2 ^ (53 + ((n.log2 : Int) - 53).toNat) := by rw [Nat.one_mul, Nat.pow_add]
    _ = 2 ^ (n.log2 + (-((n.log2 : Int) - 53)).toNat) := by congr 1; omega
    _ = 2 ^ n.log2 * 2 ^ (-((n.log2 : Int) - 53)).toNat := Nat.pow_add ..
    _ ≤ n * 2 ^ (-((n.log2 : Int) - 53)).toNat := Nat.mul_le_mul_right _ (Nat.log2_self_le some)

theorem wholeNearest {n : Nat} (some : n ≠ 0) (negative : Bool) : nearest? negative n 1 = none ↔
    highestExponent < (if roundHalfEven (scaled n 1 (n.log2 - 52)).1 (scaled n 1 (n.log2 - 52)).2 =
      Nat.pow 2 (fractionBits + 1) then (n.log2 : Int) - 51 else n.log2 - 52) := by
  obtain ⟨long, short⟩ := wholeExponent some
  have start : max (Int.ofNat n.log2 - Int.ofNat (Nat.log2 1) - Int.ofNat fractionBits - 1) lowestExponent =
      n.log2 - 53 := by
    have one : Nat.log2 1 = 0 := rfl
    simp only [one, fractionBits, lowestExponent, Int.ofNat_eq_natCast]
    omega
  have exponent : (if Nat.pow 2 (fractionBits + 2) ≤
        (scaled n 1 (n.log2 - 53)).1 / (scaled n 1 (n.log2 - 53)).2 then (n.log2 : Int) - 53 + 2
      else if Nat.pow 2 (fractionBits + 1) ≤
        (scaled n 1 (n.log2 - 53)).1 / (scaled n 1 (n.log2 - 53)).2 then (n.log2 : Int) - 53 + 1
      else n.log2 - 53) = n.log2 - 52 :=
    (if_neg (Nat.not_le.mpr short)).trans ((if_pos long).trans (by omega))
  rw [nearest?, if_neg (by simpa using some)]
  dsimp only
  rw [start, exponent]
  by_cases up : roundHalfEven (scaled n 1 (n.log2 - 52)).1 (scaled n 1 (n.log2 - 52)).2 =
      Nat.pow 2 (fractionBits + 1)
  · rw [if_pos up, if_pos (beq_iff_eq.mpr up), show (n.log2 : Int) - 52 + 1 = n.log2 - 51 by omega]
    simp only [ite_eq_left_iff, reduceCtorEq, imp_false, not_not]
  · rw [if_neg up, if_neg (fun same => up (beq_iff_eq.mp same))]
    simp only [ite_eq_left_iff, reduceCtorEq, imp_false, not_not]

theorem wholeRounded {n : Nat} (some : n ≠ 0) (negative : Bool) : nearest? negative n 1 = none ↔
    1023 < n.log2 ∨ n.log2 = 1023 ∧ roundHalfEven n (2 ^ 971) = Nat.pow 2 (fractionBits + 1) := by
  rw [wholeNearest some]
  unfold highestExponent
  by_cases edge : n.log2 = 1023
  · rw [edge, scaledBoth, show (-(((1023 : Nat) : Int) - 52)).toNat = 0 from rfl,
      show (((1023 : Nat) : Int) - 52).toNat = 971 from rfl, Nat.pow_zero, Nat.mul_one, Nat.one_mul]
    split
    · rename_i up
      exact iff_of_true (by decide) (.inr ⟨rfl, up⟩)
    · rename_i down
      refine iff_of_false (by decide) ?_
      rintro (more | ⟨-, up⟩)
      · exact Nat.lt_irrefl _ more
      · exact down up
  · split <;> omega

/- An integer is too large from the middle between the largest number and the next power of two on. -/
theorem tooLarge (n : Int) : ofInt? n = none ↔ 2 ^ 1024 ≤ n.natAbs + 2 ^ 970 := by
  rw [ofInt?]
  generalize n.natAbs = m
  obtain ⟨unit, named⟩ : ∃ unit : Nat, unit = 2 ^ 970 := ⟨_, rfl⟩
  have positive : 0 < unit := by
    rw [named]
    positivity
  have scale : (2 : Nat) ^ 971 = 2 * unit := by rw [named, ← Nat.pow_succ']
  have limit : (2 : Nat) ^ 1024 = 2 ^ 54 * unit := by rw [named, ← Nat.pow_add]
  rw [limit, ← named]
  by_cases some : m = 0
  · subst some
    exact iff_of_false (fun fails => nomatch fails) (by omega)
  have lower : 2 ^ m.log2 ≤ m := Nat.log2_self_le some
  have upper : m < 2 ^ (m.log2 + 1) := Nat.lt_log2_self
  rw [wholeRounded some, scale]
  rcases Nat.lt_trichotomy m.log2 1023 with less | same | more
  · have small : m < 2 ^ 53 * unit := by
      rw [named, ← pow_add]
      exact upper.trans_le (pow_le_pow_right₀ one_le_two less)
    exact iff_of_false (by omega) (by omega)
  · have below : m < 2 ^ 54 * unit := by
      rw [named, ← pow_add]
      exact upper.trans_le (pow_le_pow_right₀ one_le_two (by omega))
    have rounded := roundsUp (q := 2 ^ 53 - 1) (a := m) (Nat.mul_pos Nat.two_pos positive) (by omega) rfl
    have edge : 1023 < m.log2 ∨ m.log2 = 1023 ∧ roundHalfEven m (2 * unit) = Nat.pow 2 (fractionBits + 1) ↔
        roundHalfEven m (2 * unit) = 2 ^ 53 - 1 + 1 :=
      ⟨fun | .inl more => absurd same (Nat.ne_of_gt more) | .inr ⟨_, up⟩ => up, fun up => .inr ⟨same, up⟩⟩
    exact edge.trans (rounded.trans (by omega))
  · have large : 2 ^ 54 * unit ≤ m := by
      rw [named, ← pow_add]
      exact (pow_le_pow_right₀ one_le_two (by omega)).trans lower
    exact iff_of_true (.inl more) (by omega)

end CallScript.Number

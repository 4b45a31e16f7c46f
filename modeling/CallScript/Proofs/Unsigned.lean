import CallScript.Number.Reading
import Mathlib.Tactic.NormNum
import Mathlib.Tactic.Positivity
import Mathlib.Tactic.Ring

/-! Numbers without a sign. What is assembled from a sign, a mantissa and an exponent keeps its bits, so that
its sign can be read off them; whatever is read from digits without a sign is no negative number. Of two
such numbers, those that compare equal are the same. -/
namespace CallScript.Number

open Float.Model (Format)
open Float.Model.UnpackedFloat (Sign unpackSign unpackExponent unpackMantissa packComponents)

section Packing

variable (b : BitVec 64)

def signField : BitVec 1 := @unpackSign Format.binary64 b

def scaleField : BitVec 11 := @unpackExponent Format.binary64 b

def fractionField : BitVec 52 := @unpackMantissa Format.binary64 b

theorem scaleFieldNat : (scaleField b).toNat = b.toNat / 2 ^ 52 % 2 ^ 11 := by
  simp [scaleField, unpackExponent, BitVec.extractLsb_toNat, Nat.shiftRight_eq_div_pow]

theorem fractionFieldNat : (fractionField b).toNat = b.toNat % 2 ^ 52 := by
  simp [fractionField, unpackMantissa, BitVec.extractLsb_toNat, Nat.shiftRight_eq_div_pow]

theorem signFieldNat : (signField b).toNat = b.toNat / 2 ^ 63 % 2 := by
  unfold signField unpackSign
  simp [BitVec.extractLsb_toNat, Nat.shiftRight_eq_div_pow]

theorem fieldsJoined :
    packComponents Format.binary64 (Sign.ofBitVec (signField b)) (scaleField b) (fractionField b) = b := by
  have sign : (Sign.ofBitVec (signField b)).toBitVec = signField b := by
    generalize signField b = v
    revert v
    decide
  have range := b.isLt
  rw [packComponents, sign]
  apply BitVec.eq_of_toNat_eq
  rw [BitVec.toNat_append, BitVec.toNat_append, ← Nat.shiftLeft_add_eq_or_of_lt (fractionField b).isLt,
    ← Nat.shiftLeft_add_eq_or_of_lt (scaleField b).isLt, signFieldNat, scaleFieldNat, fractionFieldNat,
    Nat.shiftLeft_eq, Nat.shiftLeft_eq]
  norm_num
  omega

theorem packedFields {s : BitVec 11} {f : BitVec 52} (scale : scaleField b = s) (fraction : fractionField b = f) :
    packComponents Format.binary64 (Sign.ofBitVec (signField b)) s f = b := by
  subst scale fraction
  exact fieldsJoined b

theorem withImplicit (f : BitVec 52) : (1#1 ++ f).toNat = 2 ^ 52 + f.toNat := by
  rw [BitVec.toNat_append, ← Nat.shiftLeft_add_eq_or_of_lt f.isLt]
  rfl

theorem packedSmall {s : Sign} {m : Nat} (pos : 0 < m) (small : m < 2 ^ 52) {e : Int} (lowest : e = lowestExponent) :
    Float.Model.UnpackedFloat.pack Format.binary64 (.finite s m e pos) =
      packComponents Format.binary64 s 0#11 (BitVec.ofNat 52 m) := by
  have digits : m.log2 < 52 := (Nat.log2_lt (Nat.ne_of_gt pos)).mpr small
  subst lowest
  unfold Float.Model.UnpackedFloat.pack
  change (if 2 ^ 11 ≤ (-1074 + 1023 + 52 : Int).toNat + 1 then _ else if m.log2 + 1 = 53 then _ else _) = _
  rw [if_neg (by decide), if_neg (by omega)]

theorem packedLarge {s : Sign} {m : Nat} (pos : 0 < m) (low : 2 ^ 52 ≤ m) (high : m < 2 ^ 53) {e : Int} {k : Nat}
    (scale : e = k - 1075) (finite : k < 2047) :
    Float.Model.UnpackedFloat.pack Format.binary64 (.finite s m e pos) =
      packComponents Format.binary64 s (BitVec.ofNat 11 k) (BitVec.ofNat 52 m) := by
  have digits : m.log2 = 52 := by
    have atLeast := (Nat.le_log2 (Nat.ne_of_gt pos)).mpr low
    have below := (Nat.log2_lt (Nat.ne_of_gt pos)).mpr high
    omega
  have biased : (e + 1023 + 52).toNat = k := by omega
  unfold Float.Model.UnpackedFloat.pack
  change (if 2 ^ 11 ≤ (e + 1023 + 52).toNat + 1 then _ else if m.log2 + 1 = 53 then _ else _) = _
  rw [biased, if_neg (by omega), if_pos (by omega)]
  change packComponents Format.binary64 s (BitVec.ofNat 11 (e + 1023 + 52).toNat) _ = _
  rw [biased]

theorem packKeeps (defined : scaleField b = -1#11 → fractionField b = 0#52) :
    Float.Model.UnpackedFloat.pack Format.binary64 (Float.Model.UnpackedFloat.unpack Format.binary64 b) = b := by
  have scaleBound := (scaleField b).isLt
  have fractionBound := (fractionField b).isLt
  unfold Float.Model.UnpackedFloat.unpack
  change Float.Model.UnpackedFloat.pack Format.binary64 (if scaleField b = -1#11 then
    if fractionField b = 0#52 then .infinity (Sign.ofBitVec (signField b)) else .notANumber
    else if scaleField b = 0#11 then
      if _h : fractionField b = 0#52 then .zero (Sign.ofBitVec (signField b))
      else .finite (Sign.ofBitVec (signField b)) (fractionField b).toNat _ _
    else .finite (Sign.ofBitVec (signField b)) (1#1 ++ fractionField b).toNat _ _) = b
  by_cases top : scaleField b = -1#11
  · rw [if_pos top, if_pos (defined top)]
    exact packedFields b top (defined top)
  · rw [if_neg top]
    by_cases low : scaleField b = 0#11
    · rw [if_pos low]
      by_cases none : fractionField b = 0#52
      · rw [dif_pos none]
        exact packedFields b low none
      · rw [dif_neg none]
        have least : ((scaleField b).toNat : Int) = 0 := by rw [low]; rfl
        refine (packedSmall _ fractionBound ?_).trans (packedFields b low ?_)
        · change ((scaleField b).toNat : Int) - (1023 + 52) + 1 = lowestExponent
          rw [least]
          rfl
        · rw [BitVec.ofNat_toNat, BitVec.setWidth_eq]
    · rw [if_neg low]
      have range : (scaleField b).toNat < 2047 := by
        have other : (scaleField b).toNat ≠ 2047 := fun same => top (BitVec.eq_of_toNat_eq same)
        omega
      have mantissa := withImplicit (fractionField b)
      refine (packedLarge _ (by omega) (by omega) rfl range).trans (packedFields b ?_ ?_)
      · rw [BitVec.ofNat_toNat, BitVec.setWidth_eq]
      · apply BitVec.eq_of_toNat_eq
        rw [BitVec.toNat_ofNat, mantissa]
        omega

end Packing

theorem keptBits {b : BitVec 64} (defined : partsOfBits b.toNat ≠ .undefined) :
    Float.Model.UnpackedFloat.pack Format.binary64 (Float.Model.UnpackedFloat.unpack Format.binary64 b) = b := by
  refine packKeeps b (fun top => BitVec.eq_of_toNat_eq ?_)
  have scale : b.toNat / 2 ^ 52 % 2 ^ 11 = 2047 := by
    rw [← scaleFieldNat, top]
    rfl
  rw [fractionFieldNat]
  by_contra other
  refine defined ?_
  change (if b.toNat / 2 ^ 52 % 2 ^ 11 == 2047 then
    if b.toNat % 2 ^ 52 == 0 then _ else Parts.undefined else _) = _
  rw [if_pos (by simpa using scale), if_neg (by simpa using other)]

theorem bitsKept {bits : Nat} (range : bits < 2 ^ 64) (defined : partsOfBits bits ≠ .undefined) :
    parts (Float.ofBits (UInt64.ofNat bits)) = partsOfBits bits := by
  have value : (UInt64.ofNat bits).toBitVec.toNat = bits := Nat.mod_eq_of_lt range
  have kept := keptBits (b := (UInt64.ofNat bits).toBitVec) (by rwa [value])
  have same : (Float.ofBits (UInt64.ofNat bits)).toBits.toNat = bits := (congrArg BitVec.toNat kept).trans value
  rw [parts, same]

/- A number that is no negative one, a zero without a sign among them. -/
def Unsigned (x : Float) : Prop :=
  isUndefined x = false ∧ isNegative x = false

theorem bitsUnsigned {bits : Nat} (range : bits ≤ 2047 * 2 ^ 52) : Unsigned (Float.ofBits (UInt64.ofNat bits)) := by
  have sign : (bits / Nat.pow 2 63 % 2 == 1) = false := by
    rw [beq_eq_false_iff_ne]
    change bits / 2 ^ 63 % 2 ≠ 1
    omega
  have shape : partsOfBits bits = .infinite false ∨ ∃ m e, partsOfBits bits = .finite false m e := by
    rw [partsOfBits]
    simp only [sign]
    split
    · rename_i top
      have scale : bits / 2 ^ 52 % 2 ^ 11 = 2047 := beq_iff_eq.mp top
      rw [if_pos (by change (bits % 2 ^ 52 == 0) = true; rw [beq_iff_eq]; omega)]
      exact .inl rfl
    · split <;> exact .inr ⟨_, _, rfl⟩
  have defined : partsOfBits bits ≠ .undefined := by
    rcases shape with same | ⟨m, e, same⟩ <;> simp [same]
  have kept := bitsKept (by omega) defined
  rcases shape with same | ⟨m, e, same⟩ <;> simp [Unsigned, isUndefined, isNegative, kept, same]

theorem zeroUnsigned : Unsigned (zero false) := bitsUnsigned (Nat.zero_le _)

theorem infinityUnsigned : Unsigned (infinity false) := bitsUnsigned (by decide)

theorem assembleUnsigned {mantissa : Nat} {exponent : Int} (small : mantissa < 2 ^ 53)
    (finite : exponent ≤ highestExponent) : Unsigned (assemble false mantissa exponent) := by
  have scale : (exponent + 1075).toNat ≤ 2046 := by
    rw [highestExponent] at finite
    omega
  have whole : (exponent + 1075).toNat * 2 ^ 52 ≤ 2046 * 2 ^ 52 := Nat.mul_le_mul_right _ scale
  have place : Nat.pow 2 fractionBits = 2 ^ 52 := rfl
  have plus : signBit false = 0 := rfl
  rw [assemble, place, plus]
  split <;> exact bitsUnsigned (by omega)

theorem finishUnsigned {mantissa : Nat} {exponent : Int} (small : mantissa < 2 ^ 53) :
    Unsigned ((if highestExponent < exponent then none else some (assemble false mantissa exponent)).getD
      (infinity false)) := by
  split
  · exact infinityUnsigned
  · exact assembleUnsigned small (by omega)

section Rounding

variable {num den : Nat}

theorem scaledBoth (num den : Nat) (exponent : Int) :
    scaled num den exponent = (num * 2 ^ (-exponent).toNat, den * 2 ^ exponent.toNat) := by
  rw [scaled]
  split
  · rename_i up
    rw [show (-exponent).toNat = 0 by omega, Nat.pow_zero, Nat.mul_one]
    rfl
  · rename_i down
    rw [show exponent.toNat = 0 by omega, Nat.pow_zero, Nat.mul_one]
    rfl

theorem scaledGuess (some : 0 < den) {exponent : Int}
    (above : (num.log2 : Int) - den.log2 - 53 ≤ exponent) :
    (scaled num den exponent).1 < 2 ^ 54 * (scaled num den exponent).2 := by
  rw [scaledBoth]
  calc num * 2 ^ (-exponent).toNat
      < 2 ^ (num.log2 + 1) * 2 ^ (-exponent).toNat :=
        Nat.mul_lt_mul_of_pos_right Nat.lt_log2_self (by positivity)
    _ = 2 ^ (num.log2 + 1 + (-exponent).toNat) := (Nat.pow_add ..).symm
    _ ≤ 2 ^ (54 + (den.log2 + exponent.toNat)) := Nat.pow_le_pow_right (by decide) (by omega)
    _ = 2 ^ 54 * (2 ^ den.log2 * 2 ^ exponent.toNat) := by rw [Nat.pow_add, Nat.pow_add]
    _ ≤ 2 ^ 54 * (den * 2 ^ exponent.toNat) :=
        Nat.mul_le_mul_left _ (Nat.mul_le_mul_right _ (Nat.log2_self_le (Nat.ne_of_gt some)))

theorem scaledHalves {bound : Nat} {exponent : Int}
    (below : (scaled num den exponent).1 < 2 * bound * (scaled num den exponent).2) :
    (scaled num den (exponent + 1)).1 < bound * (scaled num den (exponent + 1)).2 := by
  rw [scaledBoth] at below ⊢
  dsimp only at below ⊢
  by_cases up : 0 ≤ exponent
  · rw [show (-(exponent + 1)).toNat = (-exponent).toNat by omega,
      show (exponent + 1).toNat = exponent.toNat + 1 by omega, Nat.pow_succ]
    calc num * 2 ^ (-exponent).toNat
        < 2 * bound * (den * 2 ^ exponent.toNat) := below
      _ = bound * (den * (2 ^ exponent.toNat * 2)) := by ring
  · rw [show (-exponent).toNat = (-(exponent + 1)).toNat + 1 by omega, Nat.pow_succ,
      show exponent.toNat = (exponent + 1).toNat by omega] at below
    refine Nat.lt_of_mul_lt_mul_left (a := 2) ?_
    calc 2 * (num * 2 ^ (-(exponent + 1)).toNat)
        = num * (2 ^ (-(exponent + 1)).toNat * 2) := by ring
      _ < 2 * bound * (den * 2 ^ (exponent + 1).toNat) := below
      _ = 2 * (bound * (den * 2 ^ (exponent + 1).toNat)) := by ring

theorem roundedAtMost {a b bound : Nat} (below : a < bound * b) : roundHalfEven a b ≤ bound := by
  have quotient : a / b < bound := Nat.div_lt_of_lt_mul (by rwa [Nat.mul_comm] at below)
  rw [roundHalfEven]
  split
  · omega
  · split
    · omega
    · split <;> omega

theorem raisedFits (some : 0 < den) {start : Int} (above : (num.log2 : Int) - den.log2 - 53 ≤ start) {a b : Nat}
    (first : scaled num den start = (a, b)) :
    let exponent := if Nat.pow 2 (fractionBits + 1) ≤ a / b then start + 1 else start
    let exponent := if Nat.pow 2 (fractionBits + 2) ≤ a / b then start + 2 else exponent
    (scaled num den exponent).1 < 2 ^ 53 * (scaled num den exponent).2 := by
  have guessed := scaledGuess some above
  have positive : 0 < (scaled num den start).2 := by
    rw [scaledBoth]
    positivity
  rw [first] at guessed positive
  have small : ¬ Nat.pow 2 (fractionBits + 2) ≤ a / b :=
    Nat.not_le.mpr (Nat.div_lt_of_lt_mul (by rwa [Nat.mul_comm] at guessed))
  intro exponent
  rw [if_neg small]
  by_cases long : Nat.pow 2 (fractionBits + 1) ≤ a / b
  · rw [show exponent = start + 1 from if_pos long]
    exact scaledHalves (by rw [first]; exact guessed)
  · rw [show exponent = start from if_neg long]
    dsimp only
    rw [first]
    exact (Nat.div_lt_iff_lt_mul positive).mp (Nat.not_le.mp long)

theorem nearestUnsigned (some : 0 < den) : Unsigned (nearest false num den) := by
  rw [nearest, nearest?]
  split
  · exact zeroUnsigned
  · dsimp only
    generalize started : max (Int.ofNat num.log2 - _ - _ - 1) lowestExponent = start
    have above : (num.log2 : Int) - den.log2 - 53 ≤ start := by
      simp only [fractionBits, Int.ofNat_eq_natCast] at started
      omega
    rcases first : scaled num den start with ⟨a, b⟩
    have fits := raisedFits some above first
    dsimp only at fits ⊢
    generalize (if Nat.pow 2 (fractionBits + 2) ≤ a / b then _ else _) = exponent at fits ⊢
    have rounded := roundedAtMost fits
    split
    · exact finishUnsigned (by change 2 ^ 52 < 2 ^ 53; decide)
    · rename_i other
      have short : roundHalfEven (scaled num den exponent).1 (scaled num den exponent).2 ≠ 2 ^ 53 :=
        fun same => other (beq_iff_eq.mpr same)
      exact finishUnsigned (by omega)

end Rounding

theorem decimalUnsigned (mantissa count : Nat) (exponent : Int) :
    Unsigned (ofDecimal false mantissa count exponent) := by
  unfold ofDecimal
  split
  · exact zeroUnsigned
  · split
    · exact infinityUnsigned
    · split
      · exact zeroUnsigned
      · split
        · exact nearestUnsigned Nat.one_pos
        · exact nearestUnsigned (Nat.pow_pos (by decide))

theorem readDecimalUnsigned {cs : List Char} {x : Float} (read : readDecimal? false cs = some x) : Unsigned x := by
  rw [readDecimal?] at read
  dsimp only at read
  split at read
  -- with a point and without one
  all_goals
    split at read
    · cases read
    · split at read
      · cases read
        exact decimalUnsigned ..
      · split at read
        · split at read
          · cases read
          · cases read
            exact decimalUnsigned ..
        · cases read

structure Plain (c : Char) : Prop where
  blank : Text.isBlank c = false
  underscore : c ≠ '_'
  minus : c ≠ '-'
  plus : c ≠ '+'
  letter : c.toLower ≠ 'n'

theorem digitPlace {c : Char} (digit : Text.isDigit c = true) :
    48 ≤ c.toNat ∧ c.toNat ≤ 57 ∨
      128 ≤ c.toNat ∧ ∃ first ∈ Text.digitZeros, first ≤ c.toNat ∧ c.toNat < first + 10 := by
  simp only [Text.isDigit, Text.digitValue?] at digit
  split at digit
  · rename_i ascii
    exact .inl (by simpa using ascii)
  · split at digit
    · cases digit
    · rename_i above
      obtain ⟨_, found⟩ := Option.isSome_iff_exists.mp digit
      obtain ⟨first, among, -⟩ := Option.map_eq_some_iff.mp found
      exact .inr ⟨by omega, first, List.mem_of_find?_eq_some among, by simpa using List.find?_some among⟩

theorem zerosApart : ∀ first ∈ Text.digitZeros, 32 < first ∧ first + 10 ≤ 0x85 ∨
    0xa0 < first ∧ first + 10 ≤ 0x1680 ∨ 0x1680 < first ∧ first + 10 ≤ 0x2000 ∨
    0x205f < first ∧ first + 10 ≤ 0x3000 ∨ 0x3000 < first := by
  decide

theorem digitPlain {c : Char} (digit : Text.isDigit c = true) : Plain c := by
  have place := digitPlace digit
  have other (d : Char) (ascii : d.toNat < 128) (noDigit : ¬(48 ≤ d.toNat ∧ d.toNat ≤ 57)) : c ≠ d := by
    rintro rfl
    rcases place with digit | ⟨above, -⟩
    · exact noDigit digit
    · omega
  refine ⟨?_, other _ (by decide) (by decide), other _ (by decide) (by decide), other _ (by decide) (by decide), ?_⟩
  · have apart : c.toNat ≤ 57 ∧ 48 ≤ c.toNat ∨ ∃ first ∈ Text.digitZeros, first ≤ c.toNat ∧ c.toNat < first + 10 :=
      place.imp (fun ⟨low, high⟩ => ⟨high, low⟩) And.right
    simp only [Text.isBlank, Bool.or_eq_false_iff, Bool.and_eq_false_imp, decide_eq_true_eq,
      decide_eq_false_iff_not, beq_eq_false_iff_ne]
    rcases apart with ascii | ⟨first, among, low, high⟩
    · omega
    · have apart := zerosApart first among
      omega
  · unfold Char.toLower
    split
    · rename_i upper
      rw [ge_iff_le, UInt32.le_iff_toNat_le, UInt32.le_iff_toNat_le] at upper
      have code : 65 ≤ c.toNat ∧ c.toNat ≤ 90 := upper
      omega
    · exact other _ (by decide) (by decide)

theorem pointPlain : Plain '.' := by
  constructor <;> decide

section Reading

variable {c : Char} {rest : List Char}

theorem trimPlain (plain : Plain c) : ∃ more, Text.trim (c :: rest) = c :: more := by
  rw [Text.trim, Text.trimStart, List.dropWhile_cons, plain.blank, Text.trimEnd]
  simp only [Bool.false_eq_true, if_false, List.reverse_cons, List.dropWhile_append]
  split
  · exact ⟨[], by simp [plain.blank]⟩
  · exact ⟨_, List.reverse_append⟩

theorem dropPlain (plain : Plain c) {after : Bool} {cs : List Char}
    (dropped : dropUnderscores after (c :: rest) = some cs) : ∃ more, cs = c :: more := by
  rw [dropUnderscores] at dropped
  · obtain ⟨more, -, same⟩ := Option.map_eq_some_iff.mp dropped
    exact ⟨more, same.symm⟩
  · rintro d more rfl
    exact absurd rfl plain.underscore
  · rintro rfl
    exact absurd rfl plain.underscore

theorem takeSignPlain (plain : Plain c) : takeSign (c :: rest) = (false, c :: rest) := by
  rw [takeSign]
  · rintro _ ⟨⟩
    exact plain.minus rfl
  · rintro _ ⟨⟩
    exact plain.plus rfl

theorem readFloatUnsigned {s : String} {x : Float} (chars : s.toList = c :: rest) (plain : Plain c)
    (read : readFloat s = .ok x) : Unsigned x := by
  obtain ⟨more, trimmed⟩ : ∃ more, Text.trim (c :: rest) = c :: more := trimPlain plain
  rw [readFloat, chars, trimmed] at read
  dsimp only at read
  split at read
  · cases read
  · rename_i cs dropped
    obtain ⟨digits, rfl⟩ := dropPlain plain dropped
    rw [takeSignPlain plain] at read
    dsimp only at read
    split at read
    · cases read
      exact infinityUnsigned
    · split at read
      · rename_i word
        have first : c.toLower = 'n' := (List.cons.inj (beq_iff_eq.mp word)).1
        exact absurd first plain.letter
      · split at read
        · rename_i found
          cases read
          exact readDecimalUnsigned found
        · cases read

theorem readIntegerUnsigned {s : String} {n : Int} (chars : s.toList = c :: rest) (plain : Plain c)
    (read : readInteger s = .ok n) : 0 ≤ n := by
  obtain ⟨more, trimmed⟩ : ∃ more, Text.trim (c :: rest) = c :: more := trimPlain plain
  rw [readInteger, chars, trimmed, takeSignPlain plain] at read
  dsimp only at read
  split at read
  · cases read
  · split at read
    · cases read
    · split at read
      · cases read
      · cases read
        exact Int.natCast_nonneg _

end Reading

section Equality

theorem sameBits {x y : Float} (bits : x.toBits = y.toBits) : x = y := by
  obtain ⟨⟨a, valid⟩⟩ := x
  obtain ⟨⟨b, valid'⟩⟩ := y
  cases (bits : a = b)
  rfl

theorem unsignedDefined {x : Float} (unsigned : Unsigned x) : parts x ≠ .undefined := by
  intro undefined
  have defined : isUndefined x = false := unsigned.1
  rw [isUndefined, undefined] at defined
  cases defined

theorem signSet {x : Float} (set : x.toBits.toNat / 2 ^ 63 % 2 = 1) : ¬ Unsigned x := by
  rintro ⟨defined, plus⟩
  have negative : (x.toBits.toNat / Nat.pow 2 63 % 2 == 1) = true := beq_iff_eq.mpr set
  have shape : parts x = .undefined ∨ parts x = .infinite true ∨ ∃ m e, parts x = .finite true m e := by
    rw [parts, partsOfBits]
    simp only [negative]
    split
    · split
      · exact .inr (.inl rfl)
      · exact .inl rfl
    · split <;> exact .inr (.inr ⟨_, _, rfl⟩)
  rcases shape with same | same | ⟨m, e, same⟩ <;> simp [isUndefined, isNegative, same] at defined plus

theorem unsignedField {x : Float} (unsigned : Unsigned x) :
    Sign.ofBitVec (signField x.toBits.toBitVec) = .positive := by
  have bit : x.toBits.toNat / 2 ^ 63 % 2 ≠ 1 := fun set => signSet set unsigned
  have zero : signField x.toBits.toBitVec = 0#1 := by
    apply BitVec.eq_of_toNat_eq
    rw [signFieldNat]
    change x.toBits.toNat / 2 ^ 63 % 2 = 0
    omega
  rw [zero]
  rfl

theorem unpackedZero {b : BitVec 64} {s : Sign} (zero : Float.Model.UnpackedFloat.unpack Format.binary64 b = .zero s) :
    s = Sign.ofBitVec (signField b) := by
  unfold Float.Model.UnpackedFloat.unpack at zero
  change (if scaleField b = -1#11 then
    if fractionField b = 0#52 then .infinity (Sign.ofBitVec (signField b)) else .notANumber
    else if scaleField b = 0#11 then
      if _h : fractionField b = 0#52 then .zero (Sign.ofBitVec (signField b))
      else .finite (Sign.ofBitVec (signField b)) (fractionField b).toNat _ _
    else .finite (Sign.ofBitVec (signField b)) (1#1 ++ fractionField b).toNat _ _ : Float.Model.UnpackedFloat) =
      .zero s at zero
  by_cases top : scaleField b = -1#11
  · rw [if_pos top] at zero
    by_cases whole : fractionField b = 0#52
    · rw [if_pos whole] at zero
      cases zero
    · rw [if_neg whole] at zero
      cases zero
  · rw [if_neg top] at zero
    by_cases low : scaleField b = 0#11
    · rw [if_pos low] at zero
      by_cases none : fractionField b = 0#52
      · rw [dif_pos none] at zero
        cases zero
        rfl
      · rw [dif_neg none] at zero
        cases zero
    · rw [if_neg low] at zero
      cases zero

theorem comparedSigns {s s' : Sign} (same : compare s s' = .eq) : s = s' := by
  cases s <;> cases s' <;> first | rfl | exact absurd same (by decide)

theorem comparedSame {u v : Float.Model.UnpackedFloat} (same : u.compare v = some .eq) :
    u = v ∨ ∃ s s', u = .zero s ∧ v = .zero s' := by
  have sizes {e e' : Int} {m m' : Nat} (same : (compare e e').then (compare m m') = .eq) : e = e' ∧ m = m' := by
    simpa [Ordering.then_eq_eq] using same
  cases u with
  | infinity s =>
    cases v with
    | infinity s' => exact .inl (congrArg _ (comparedSigns (Option.some.inj same)))
    | notANumber | zero | finite => cases s <;> cases same
  | notANumber => cases v <;> cases same
  | zero s =>
    cases v with
    | infinity s' | finite s' => cases s' <;> cases same
    | notANumber => cases same
    | zero s' => exact .inr ⟨_, _, rfl, rfl⟩
  | finite s m e positive =>
    cases v with
    | infinity s' => cases s <;> cases s' <;> cases same
    | notANumber | zero => cases s <;> cases same
    | finite s' m' e' positive' =>
      cases s <;> cases s'
      · obtain ⟨rfl, rfl⟩ := sizes (Ordering.swap_eq_eq.mp (Option.some.inj same))
        exact .inl rfl
      · cases same
      · cases same
      · obtain ⟨rfl, rfl⟩ := sizes (Option.some.inj same)
        exact .inl rfl

theorem equalUnsigned {x y : Float} (unsigned : Unsigned x) (unsigned' : Unsigned y) (same : (x == y) = true) :
    x = y := by
  have compared : x.toModel.unpack.compare y.toModel.unpack = some .eq := beq_iff_eq.mp same
  have unpacked : x.toModel.unpack = y.toModel.unpack := by
    rcases comparedSame compared with same | ⟨s, s', zero, zero'⟩
    · exact same
    · rw [zero, zero', unpackedZero zero, unpackedZero zero']
      exact congrArg _ ((unsignedField unsigned).trans (unsignedField unsigned').symm)
  have bits : x.toBits.toBitVec = y.toBits.toBitVec := by
    rw [← keptBits (unsignedDefined unsigned), ← keptBits (unsignedDefined unsigned')]
    exact congrArg _ unpacked
  exact sameBits (UInt64.toBitVec_inj.mp bits)

end Equality

end CallScript.Number

import Mathlib

/-!
Whole numbers as doubles.

A whole number becomes the nearest double, the even one of two that are equally near: `nearest`.
Up to 53 binary digits that is the number itself. A double that holds a whole number keeps it when
it is multiplied by one, and gives it back up to the limit of 64 bits. Main statement:
`toNat_ofNat_mul_one`.
-/

set_option autoImplicit false

namespace Datebook.Double

open Float.Model Float.Model.UnpackedFloat

/-- `n / 2 ^ k` rounded to the nearest whole number, the even one of two that are equally near. -/
def halfEven (n k : Nat) : Nat :=
  if 2 * (n % 2 ^ k) < 2 ^ k then n / 2 ^ k
  else if 2 ^ k < 2 * (n % 2 ^ k) then n / 2 ^ k + 1
  else n / 2 ^ k + n / 2 ^ k % 2

/-- The whole number that a double holds for `n`: 53 binary digits and zeros. -/
def nearest (n : Nat) : Nat :=
  halfEven n (n.log2 - 52) * 2 ^ (n.log2 - 52)

theorem halfEven_zero (n : Nat) : halfEven n 0 = n := by
  simp [halfEven, Nat.mod_one]

theorem log2_mul_two_pow {n : Nat} (positive : 0 < n) (zeros : Nat) :
    (n * 2 ^ zeros).log2 = n.log2 + zeros := by
  induction zeros with
  | zero => rw [Nat.pow_zero, Nat.mul_one, Nat.add_zero]
  | succ zeros ih =>
    have rest : n * 2 ^ zeros ≠ 0 := Nat.ne_of_gt (Nat.mul_pos positive (Nat.two_pow_pos zeros))
    rw [Nat.pow_succ, ← Nat.mul_assoc, Nat.mul_comm _ 2, Nat.log2_two_mul rest, ih, Nat.add_assoc]

theorem nearest_of_lt {n : Nat} (short : n < 0x20_0000_0000_0000) : nearest n = n := by
  have digits : n.log2 - 52 = 0 := by
    by_cases zero : n = 0
    · rw [zero]
      rfl
    · have : n.log2 < 53 := (Nat.log2_lt zero).mpr short
      omega
  rw [nearest, digits, halfEven_zero]
  omega

-- With 54 binary digits an odd number lies halfway between two that a double holds.
example : nearest 0x20_0000_0000_0001 = 0x20_0000_0000_0000 := by
  decide

section

variable (n k : Nat)

/-- A mantissa that gave up its last `k` binary digits. -/
def shifted : ExtendedMantissa :=
  ExtendedMantissa.mk n false false >>> k

/-- The last digit given up is the round bit; the sticky bit says whether another was set. -/
theorem shifted_succ :
    shifted n (k + 1) = ⟨n / 2 ^ (k + 1), n / 2 ^ k % 2 != 0, n % 2 ^ k != 0⟩ := by
  induction k with
  | zero => simp [shifted, HShiftRight.hShiftRight, Nat.repeat, ExtendedMantissa.shiftRightOne,
      Nat.mod_one]
  | succ k ih =>
    show (shifted n (k + 1)).shiftRightOne = _
    have sticky : (n / 2 ^ k % 2 != 0 || n % 2 ^ k != 0) = (n % 2 ^ (k + 1) != 0) := by
      have unit : 0 < 2 ^ k := Nat.two_pow_pos k
      rw [Nat.mod_pow_succ]
      rcases Nat.mod_two_eq_zero_or_one (n / 2 ^ k) with digit | digit <;> simp [digit]
    rw [ih, ExtendedMantissa.shiftRightOne, sticky, Nat.div_div_eq_div_mul, ← Nat.pow_succ]

theorem mantissa_shifted : (shifted n k).mantissa = n / 2 ^ k := by
  cases k with
  | zero => exact (Nat.div_one n).symm
  | succ k => rw [shifted_succ]

/-- The digits given up decide how the mantissa is rounded. -/
theorem roundedMantissa_shifted : (shifted n k).roundedMantissa = halfEven n k := by
  cases k with
  | zero =>
    rw [halfEven_zero]
    rfl
  | succ k =>
    have low : n % 2 ^ k < 2 ^ k := Nat.mod_lt n (Nat.two_pow_pos k)
    have rest : n % 2 ^ (k + 1) = n % 2 ^ k + 2 ^ k * (n / 2 ^ k % 2) := Nat.mod_pow_succ
    have whole : 2 ^ (k + 1) = 2 ^ k * 2 := Nat.pow_succ 2 k
    rw [shifted_succ, halfEven, rest, whole]
    generalize n / (2 ^ k * 2) = q
    by_cases exact : n % 2 ^ k = 0
    · rcases Nat.mod_two_eq_zero_or_one (n / 2 ^ k) with digit | digit
      · rw [exact, digit, if_pos (by omega)]
        rfl
      · rw [exact, digit, if_neg (by omega), if_neg (by omega)]
        rfl
    · have sticky : (n % 2 ^ k != 0) = true := bne_iff_ne.mpr exact
      rcases Nat.mod_two_eq_zero_or_one (n / 2 ^ k) with digit | digit
      · rw [digit, sticky, if_pos (by omega)]
        rfl
      · rw [digit, sticky, if_neg (by omega), if_pos (by omega)]
        rfl

theorem div_le_halfEven : n / 2 ^ k ≤ halfEven n k := by
  rw [halfEven]
  split
  · omega
  · split <;> omega

theorem halfEven_le : halfEven n k ≤ n / 2 ^ k + 1 := by
  rw [halfEven]
  split
  · omega
  · split <;> omega

/-- Zeros in front of the point are given up as they came. -/
theorem halfEven_mul_two_pow (zeros : Nat) :
    halfEven (n * 2 ^ zeros) (k + zeros) = halfEven n k := by
  have unit : 0 < 2 ^ zeros := Nat.two_pow_pos zeros
  have quotient : n * 2 ^ zeros / 2 ^ (k + zeros) = n / 2 ^ k := by
    rw [Nat.pow_add, Nat.mul_div_mul_right _ _ unit]
  have rest : 2 * (n * 2 ^ zeros % 2 ^ (k + zeros)) = 2 * (n % 2 ^ k) * 2 ^ zeros := by
    rw [Nat.pow_add, Nat.mul_mod_mul_right, Nat.mul_assoc]
  rw [halfEven, halfEven, quotient, rest, Nat.pow_add]
  simp only [Nat.mul_lt_mul_right unit]

end

/-- A double of 53 binary digits, or zero, whose value is that of a number over `2 ^ 52`. -/
inductive Holds : UnpackedFloat → Nat → Prop
  | zero : Holds (.zero .positive) 0
  | normal {digits scale : Nat} {positive : 0 < digits} (long : digits.log2 = 52)
    (bounded : scale ≤ 1023) :
    Holds (.finite .positive digits (scale - 52) positive) (digits * 2 ^ scale)

theorem log2_eq_iff {digits : Nat} : digits.log2 = 52 ↔
    0x10_0000_0000_0000 ≤ digits ∧ digits < 0x20_0000_0000_0000 := by
  by_cases zero : digits = 0
  · rw [zero]
    decide
  · exact Nat.log2_eq_iff zero

theorem targetExponent_eq (total : Int) :
    Format.binary64.targetExponent total = max (total - 53) (-1074) :=
  rfl

/-- What has as many digits as fit is not shifted. -/
theorem shiftToTargetExponent_fit {m : Nat} {e : Int} (fits : m.log2 ≤ 52) (deep : -1074 ≤ e) :
    shiftToTargetExponent Format.binary64 m e .exact = (shifted m 0, e) := by
  have amount : (Format.binary64.targetExponent (totalExponent m e) - e).toNat = 0 := by
    rw [targetExponent_eq, totalExponent]
    omega
  rw [shiftToTargetExponent, shiftToExponent, amount]
  exact congrArg (Prod.mk _) (Int.add_zero e)

theorem shiftToTargetExponent_long {m : Nat} {e : Int} (long : 52 ≤ m.log2)
    (deep : -1074 ≤ e + (m.log2 - 52 : Nat)) :
    shiftToTargetExponent Format.binary64 m e .exact =
      (shifted m (m.log2 - 52), e + (m.log2 - 52 : Nat)) := by
  have amount : (Format.binary64.targetExponent (totalExponent m e) - e).toNat = m.log2 - 52 := by
    rw [targetExponent_eq, totalExponent]
    omega
  rw [shiftToTargetExponent, shiftToExponent, amount]
  rfl

/-- The digits that are left when 53 of them are kept. -/
theorem div_two_pow_log2 {m : Nat} (long : 52 ≤ m.log2) :
    0x10_0000_0000_0000 ≤ m / 2 ^ (m.log2 - 52) ∧
      m / 2 ^ (m.log2 - 52) < 0x20_0000_0000_0000 := by
  have unit : 0 < 2 ^ (m.log2 - 52) := Nat.two_pow_pos _
  have least : 2 ^ m.log2 ≤ m := Nat.log2_self_le (fun zero => by rw [zero] at long; cases long)
  have most : m < 2 ^ (m.log2 + 1) := Nat.lt_log2_self
  have length : m.log2 = 52 + (m.log2 - 52) := by omega
  have lengthSucc : m.log2 + 1 = 53 + (m.log2 - 52) := by omega
  rw [length, Nat.pow_add] at least
  rw [lengthSucc, Nat.pow_add] at most
  exact ⟨(Nat.le_div_iff_mul_le unit).mpr least, (Nat.div_lt_iff_lt_mul unit).mpr most⟩

section

variable {m : Nat} {e place : Int}

theorem roundWithAccuracy_long (long : 52 ≤ m.log2) (deep : -1074 ≤ place)
    (moved : e + (m.log2 - 52 : Nat) = place) :
    roundWithAccuracy Format.binary64 .positive m e .exact =
      let last := shiftToTargetExponent Format.binary64 (halfEven m (m.log2 - 52)) place .exact
      if none : last.1.mantissa = 0 then .zero .positive
      else .finite .positive last.1.mantissa last.2 (Nat.pos_of_ne_zero none) := by
  rw [roundWithAccuracy, shiftToTargetExponent_long long (by omega), moved,
    ← roundedMantissa_shifted]

/-- Rounding that does not carry into a digit more. -/
theorem roundWithAccuracy_short (long : 52 ≤ m.log2) (deep : -1074 ≤ place)
    (moved : e + (m.log2 - 52 : Nat) = place)
    (short : halfEven m (m.log2 - 52) < 0x20_0000_0000_0000) :
    ∃ positive, roundWithAccuracy Format.binary64 .positive m e .exact =
      .finite .positive (halfEven m (m.log2 - 52)) place positive := by
  have lower := div_le_halfEven m (m.log2 - 52)
  have digits := div_two_pow_log2 long
  rw [roundWithAccuracy_long long deep moved]
  generalize halfEven m (m.log2 - 52) = r at lower short
  have fits : r.log2 = 52 := log2_eq_iff.mpr ⟨by omega, short⟩
  rw [shiftToTargetExponent_fit (by omega) deep]
  have kept : (shifted r 0).mantissa ≠ 0 := by
    show r ≠ 0
    omega
  exact ⟨Nat.pos_of_ne_zero kept, dif_neg kept⟩

end

/-- Rounding to 53 binary digits. When it carries into a digit more, they are a one and zeros. -/
theorem holds_round {m scale : Nat} {e : Int} (long : 52 ≤ m.log2)
    (moved : e + (m.log2 - 52 : Nat) = scale - 52) (bounded : scale ≤ 1022) :
    Holds (roundWithAccuracy Format.binary64 .positive m e .exact)
      (halfEven m (m.log2 - 52) * 2 ^ scale) := by
  have lower := div_le_halfEven m (m.log2 - 52)
  have upper := halfEven_le m (m.log2 - 52)
  have digits := div_two_pow_log2 long
  by_cases short : halfEven m (m.log2 - 52) < 0x20_0000_0000_0000
  · obtain ⟨positive, rounded⟩ := roundWithAccuracy_short long (by omega) moved short
    rw [rounded]
    exact .normal (log2_eq_iff.mpr ⟨by omega, short⟩) (by omega)
  · have carried : halfEven m (m.log2 - 52) = 0x20_0000_0000_0000 := by omega
    have digit : (0x20_0000_0000_0000 : Nat).log2 - 52 = 1 := by decide
    have kept : (shifted 0x20_0000_0000_0000 1).mantissa ≠ 0 := by decide
    have fits : (0x10_0000_0000_0000 : Nat).log2 = 52 := by decide
    have held : Holds (.finite .positive 0x10_0000_0000_0000 ((scale + 1 : Nat) - 52) (by decide))
        (0x10_0000_0000_0000 * 2 ^ (scale + 1)) :=
      .normal fits (by omega)
    have value : 0x10_0000_0000_0000 * 2 ^ (scale + 1) = 0x20_0000_0000_0000 * 2 ^ scale := by
      rw [Nat.pow_succ]
      omega
    have next : ((scale + 1 : Nat) : Int) - 52 = scale - 52 + 1 := by omega
    rw [value, next] at held
    rw [roundWithAccuracy_long long (by omega) moved, carried,
      shiftToTargetExponent_long (by decide) (by omega), digit]
    dsimp only
    rw [dif_neg kept]
    exact held

/-- A double is read back from its bits. -/
theorem Holds.unpack_pack {u : UnpackedFloat} {value : Nat} (holds : Holds u value) :
    (Float.Model.pack u).unpack = u := by
  cases holds with
  | zero => rfl
  | @normal digits scale positive long bounded =>
    obtain ⟨least, most⟩ := log2_eq_iff.mp long
    have biased : ((scale - 52 : Int) + (1023 : Nat) + (52 : Nat)).toNat = scale + 1023 := by omega
    have packed : UnpackedFloat.pack Format.binary64
        (.finite .positive digits (scale - 52) positive) =
          packComponents Format.binary64 .positive (BitVec.ofNat 11 (scale + 1023))
            (BitVec.ofNat 52 digits) := by
      show (if 2 ^ 11 ≤ ((scale - 52 : Int) + (1023 : Nat) + (52 : Nat)).toNat + 1 then _
        else if digits.log2 + 1 = 53 then _ else _) = _
      rw [if_neg (by omega), if_pos (by omega)]
      show packComponents Format.binary64 .positive
        (BitVec.ofNat 11 ((scale - 52 : Int) + (1023 : Nat) + (52 : Nat)).toNat) _ = _
      rw [biased]
    have exponent : (BitVec.ofNat 11 (scale + 1023)).toNat = scale + 1023 := by
      rw [BitVec.toNat_ofNat]
      omega
    have mantissa : (1#1 ++ BitVec.ofNat 52 digits).toNat = digits := by
      rw [BitVec.toNat_append, ← Nat.shiftLeft_add_eq_or_of_lt (BitVec.isLt _), BitVec.toNat_ofNat]
      show 0x10_0000_0000_0000 + digits % 0x10_0000_0000_0000 = digits
      omega
    show UnpackedFloat.unpack Format.binary64 (UnpackedFloat.pack Format.binary64 _) = _
    rw [packed, UnpackedFloat.unpack]
    simp only [unpackMantissa_packComponents, unpackExponent_packComponents,
      unpackSign_packComponents, Sign.ofBitVec_toBitVec]
    have finite : BitVec.ofNat 11 (scale + 1023) ≠ -1#11 := by
      intro same
      have full := congrArg BitVec.toNat same
      rw [exponent] at full
      have : (-1#11).toNat = 2047 := rfl
      omega
    have normal : BitVec.ofNat 11 (scale + 1023) ≠ 0#11 := by
      intro same
      have empty := congrArg BitVec.toNat same
      rw [exponent] at empty
      have : (0#11).toNat = 0 := rfl
      omega
    rw [if_neg finite, if_neg normal]
    have place : ((scale + 1023 : Nat) : Int) - (Format.binary64.exponentBias +
        Format.binary64.mantissaBitsWithoutImplicit) = scale - 52 := by
      show ((scale + 1023 : Nat) : Int) - ((1023 : Nat) + (52 : Nat)) = scale - 52
      omega
    simp only [mantissa, exponent, place]

/-- One, as the digits of a double. -/
def one : UnpackedFloat :=
  .finite .positive 0x10_0000_0000_0000 (-52) (by decide)

theorem one_eq : (1.0 : Float) = .ofModel (.pack one) :=
  rfl

theorem Holds.mul_one {u : UnpackedFloat} {value : Nat} (holds : Holds u value) :
    u.mul Format.binary64 one = u := by
  cases holds with
  | zero => rfl
  | @normal digits scale positive long bounded =>
    have length : (digits * 2 ^ 52).log2 - 52 = 52 := by
      rw [log2_mul_two_pow positive, long]
    have exact : halfEven (digits * 2 ^ 52) 52 = digits :=
      (halfEven_mul_two_pow digits 0 52).trans (halfEven_zero digits)
    have moved : (scale - 52 + -52 : Int) + ((digits * 2 ^ 52).log2 - 52 : Nat) = scale - 52 := by
      omega
    obtain ⟨_, rounded⟩ := roundWithAccuracy_short (m := digits * 2 ^ 52) (by omega) (by omega)
      moved (by rw [length, exact]; exact (log2_eq_iff.mp long).2)
    have unit : (0x10_0000_0000_0000 : Nat) = 2 ^ 52 := by decide
    rw [one, UnpackedFloat.mul, unit]
    show roundWithAccuracy Format.binary64 .positive (digits * 2 ^ 52) (scale - 52 + -52) .exact = _
    simp only [rounded, length, exact]

/-- Dropping what is behind the point of a whole number drops nothing. -/
theorem roundToInt_eq {digits scale n : Nat}
    (whole : digits * 2 ^ scale = n * 0x10_0000_0000_0000) :
    roundToInt .positive digits (scale - 52) = n := by
  have unit : (0x10_0000_0000_0000 : Nat) = 2 ^ 52 := by decide
  rw [unit] at whole
  show (((shifted (digits <<< ((scale - 52 : Int) - 0).toNat)
    (0 - ((scale - 52 : Int) - ((scale - 52 : Int) - 0).toNat)).toNat).mantissa : Nat) : Int) = n
  rw [mantissa_shifted, Nat.shiftLeft_eq]
  by_cases large : 52 ≤ scale
  · have up : ((scale - 52 : Int) - 0).toNat = scale - 52 := by omega
    have down : (0 - ((scale - 52 : Int) - (scale - 52 : Nat))).toNat = 0 := by omega
    have split : scale = (scale - 52) + 52 := by omega
    rw [split, Nat.pow_add, ← Nat.mul_assoc] at whole
    have value : digits * 2 ^ (scale - 52) = n :=
      Nat.eq_of_mul_eq_mul_right (Nat.two_pow_pos 52) whole
    rw [up, down, value, Nat.pow_zero, Nat.div_one]
  · have up : ((scale - 52 : Int) - 0).toNat = 0 := by omega
    have down : (0 - ((scale - 52 : Int) - (0 : Nat))).toNat = 52 - scale := by omega
    have split : 52 = (52 - scale) + scale := by omega
    have value : digits = n * 2 ^ (52 - scale) := by
      apply Nat.eq_of_mul_eq_mul_right (Nat.two_pow_pos scale)
      rw [whole, Nat.mul_assoc, ← Nat.pow_add, ← split]
    rw [up, down, Nat.pow_zero, Nat.mul_one, value, Nat.mul_div_cancel _ (Nat.two_pow_pos _)]

theorem toNat_ofNatClamp (n : Nat) :
    (UInt64.ofNatClamp n).toNat = min n (0x1_0000_0000_0000_0000 - 1) := by
  rw [UInt64.ofNatClamp]
  split
  · rename_i fits
    have : n < 0x1_0000_0000_0000_0000 := fits
    rw [UInt64.toNat_ofNatLT]
    omega
  · rename_i long
    have : ¬n < 0x1_0000_0000_0000_0000 := long
    rw [UInt64.toNat_ofNatLT]
    show 0x1_0000_0000_0000_0000 - 1 = _
    omega

/-- The whole number that a double holds is read back up to the limit of 64 bits. -/
theorem Holds.toUInt64 {u : UnpackedFloat} {value n : Nat} (holds : Holds u value)
    (whole : value = n * 0x10_0000_0000_0000) :
    u.toUInt64.toNat = min n (0x1_0000_0000_0000_0000 - 1) := by
  rw [UnpackedFloat.toUInt64, toNat_ofNatClamp]
  cases holds with
  | zero =>
    obtain rfl : n = 0 := by omega
    rfl
  | @normal digits scale positive long bounded =>
    show min (roundToInt .positive digits (scale - 52)).toNat _ = _
    rw [roundToInt_eq whole, Int.toNat_natCast]

/-- A number that is short of 53 binary digits gets zeros behind the point. -/
theorem holds_short {n : Nat} (positive : 0 < n) (short : n.log2 ≤ 52) :
    Holds (roundWithAccuracy Format.binary64 .positive (n * 2 ^ (52 - n.log2))
      (0 - (52 - n.log2 : Nat)) .exact) (n * 0x10_0000_0000_0000) := by
  have length : (n * 2 ^ (52 - n.log2)).log2 = 52 := by
    rw [log2_mul_two_pow positive]
    omega
  have moved : (0 - (52 - n.log2 : Nat) : Int) + ((n * 2 ^ (52 - n.log2)).log2 - 52 : Nat) =
      n.log2 - 52 := by
    omega
  have holds := holds_round (Nat.le_of_eq length.symm) moved (by omega)
  have unit : (0x10_0000_0000_0000 : Nat) = 2 ^ 52 := by decide
  have split : 52 - n.log2 + n.log2 = 52 := by omega
  rw [length, halfEven_zero, Nat.mul_assoc, ← Nat.pow_add, split, ← unit] at holds
  exact holds

/-- A number of more binary digits than 53 is rounded to as many. -/
theorem holds_long {n : Nat} (long : 52 ≤ n.log2) (bounded : n.log2 ≤ 1022) :
    Holds (roundWithAccuracy Format.binary64 .positive (n * 2 ^ 53) (-53) .exact)
      (nearest n * 0x10_0000_0000_0000) := by
  have positive : 0 < n := Nat.pos_of_ne_zero (fun zero => by rw [zero] at long; cases long)
  have length : (n * 2 ^ 53).log2 = n.log2 + 53 := log2_mul_two_pow positive 53
  have moved : (-53 : Int) + ((n * 2 ^ 53).log2 - 52 : Nat) = n.log2 - 52 := by omega
  have holds := holds_round (show 52 ≤ (n * 2 ^ 53).log2 by omega) moved bounded
  have unit : (0x10_0000_0000_0000 : Nat) = 2 ^ 52 := by decide
  have zeros : (n * 2 ^ 53).log2 - 52 = n.log2 - 52 + 53 := by omega
  have split : n.log2 = n.log2 - 52 + 52 := by omega
  rw [zeros, halfEven_mul_two_pow] at holds
  rw [nearest, unit, Nat.mul_assoc, ← Nat.pow_add, ← split]
  exact holds

/-- Multiplied by one, a double stays the same. -/
theorem Holds.mul_one_eq {u : UnpackedFloat} {value : Nat} (holds : Holds u value) :
    Float.ofModel (.pack u) * 1.0 = .ofModel (.pack u) := by
  have unit : (Float.Model.pack one).unpack = one := rfl
  rw [one_eq]
  show Float.ofModel (.pack (.mul _ (Float.Model.pack u).unpack (Float.Model.pack one).unpack)) = _
  rw [holds.unpack_pack, unit, holds.mul_one]

theorem ofNat_eq_of_lt {n : Nat} (short : n < 0x20_0000_0000_0000) :
    Float.ofNat n = Float.ofModel (.pack (UnpackedFloat.ofNat Format.binary64 n)) * 1.0 := by
  have word : n.toUInt64.toNat = n := by
    show n % 0x1_0000_0000_0000_0000 = n
    omega
  show Float.ofScientific n false 0 = _
  rw [Float.ofScientific, dif_pos ⟨short, by decide⟩]
  show Float.ofModel (.pack (UnpackedFloat.ofNat Format.binary64 n.toUInt64.toNat)) * 1.0 = _
  rw [word]

theorem ofNat_eq_of_le {n : Nat} (long : 0x20_0000_0000_0000 ≤ n) :
    Float.ofNat n = .ofModel (.pack
      (roundWithAccuracy Format.binary64 .positive (n * 2 ^ 53) (-53) .exact)) := by
  have short : ¬(n < 2 ^ 53 ∧ 0 ≤ 22) := by
    rintro ⟨short, _⟩
    exact absurd short (Nat.not_lt.mpr long)
  have zeros : n <<< 53 * 10 ^ 0 = n * 2 ^ 53 := by
    rw [Nat.shiftLeft_eq, Nat.pow_zero, Nat.mul_one]
  show Float.ofScientific n false 0 = _
  rw [Float.ofScientific, dif_neg short]
  show Float.ofModel (.pack (UnpackedFloat.ofScientific Format.binary64 n 0)) = _
  have model : UnpackedFloat.ofScientific Format.binary64 n 0 =
      roundWithAccuracy Format.binary64 .positive (n <<< 53 * 10 ^ 0) (-53) .exact := by
    have some : n ≠ 0 := by omega
    have shallow : ¬(0 : Int) < -((2 ^ Format.binary64.exponentBits : Int) + n.log2) := by
      have : (0 : Int) ≤ 2 ^ Format.binary64.exponentBits := by decide
      omega
    rw [UnpackedFloat.ofScientific, dif_neg some, if_neg (by decide), if_neg shallow,
      if_pos (by decide)]
    rfl
  rw [model, zeros]

/-- The double that a whole number becomes holds the nearest one. -/
theorem ofNat_holds {n : Nat} (bounded : n < 0x1_0000_0000_0000_0000 * 0x1_0000_0000_0000_0000) :
    ∃ u, Float.ofNat n = .ofModel (.pack u) ∧ Holds u (nearest n * 0x10_0000_0000_0000) := by
  by_cases short : n < 0x20_0000_0000_0000
  · have holds : Holds (UnpackedFloat.ofNat Format.binary64 n)
        (nearest n * 0x10_0000_0000_0000) := by
      rw [nearest_of_lt short]
      by_cases none : n = 0
      · rw [none]
        exact .zero
      · have length : n.log2 < 53 := (Nat.log2_lt none).mpr short
        have ordered : compare (n : Int) 0 = .gt := Int.compare_eq_gt.mpr (by omega)
        have target : (0 - Format.binary64.targetExponent (totalExponent n 0)).toNat =
            52 - n.log2 := by
          rw [targetExponent_eq, totalExponent]
          omega
        rw [UnpackedFloat.ofNat, UnpackedFloat.ofInt, UnpackedFloat.normalize, ordered]
        show Holds (roundWithAccuracy Format.binary64 .positive
          (n <<< (0 - Format.binary64.targetExponent (totalExponent n 0)).toNat)
          (0 - (0 - Format.binary64.targetExponent (totalExponent n 0)).toNat) .exact) _
        rw [target, Nat.shiftLeft_eq]
        exact holds_short (by omega) (by omega)
    exact ⟨_, (ofNat_eq_of_lt short).trans holds.mul_one_eq, holds⟩
  · have many : n ≠ 0 := by omega
    have least : 53 ≤ n.log2 := (Nat.le_log2 many).mpr (Nat.not_lt.mp short)
    have most : n.log2 < 128 := (Nat.log2_lt many).mpr bounded
    exact ⟨_, ofNat_eq_of_le (Nat.not_lt.mp short), holds_long (by omega) (by omega)⟩

/-- A whole number that is turned into a double, multiplied by one and turned back is the nearest
double, up to the limit of 64 bits. -/
theorem toNat_ofNat_mul_one {n : Nat}
    (bounded : n < 0x1_0000_0000_0000_0000 * 0x1_0000_0000_0000_0000) :
    (Float.ofNat n * 1.0).toUInt64.toNat = min (nearest n) (0x1_0000_0000_0000_0000 - 1) := by
  obtain ⟨u, made, holds⟩ := ofNat_holds bounded
  rw [made, holds.mul_one_eq]
  show (Float.Model.pack u).unpack.toUInt64.toNat = _
  rw [holds.unpack_pack, holds.toUInt64 rfl]

end Datebook.Double

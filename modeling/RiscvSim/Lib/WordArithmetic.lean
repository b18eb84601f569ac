import Mathlib.Algebra.Order.Ring.Abs
import Mathlib.Tactic.Linarith
import Mathlib.Tactic.Positivity
import Mathlib.Tactic.Ring

/-!
# Multiplication and division of machine words

The double-width product of two words, cut into its two halves, and the total
division of the instruction sets that do not trap: a division by zero gives
the quotient with all bits set and leaves the dividend as the remainder, and
the one signed quotient that does not fit is the dividend itself.

* **`toInt_mul_highHalf`**, **`toNat_mul_highHalf`**: the two halves make up the product.
* **`divSigned_mul_add_remSigned`**, **`divUnsigned_mul_add_remUnsigned`**: the
  division equation, in every case.
-/

namespace RiscvSim

namespace Lib

variable {w : Nat}

/-! ### Double-width products -/

/-- The upper half of a product of `w + w` bits. -/
def upperHalf (product : BitVec (w + w)) : BitVec w :=
  (product.sshiftRight w).setWidth w

theorem toNat_upperHalf (p : BitVec (w + w)) : (upperHalf p).toNat = p.toNat / 2 ^ w := by
  have hlt : p.toNat / 2 ^ w < 2 ^ w := by
    rw [Nat.div_lt_iff_lt_mul (Nat.two_pow_pos w), ← Nat.pow_add]
    exact p.isLt
  have hset : upperHalf p = p.extractLsb' w w := by
    unfold upperHalf
    ext i hi
    rw [BitVec.getElem_setWidth, BitVec.getLsbD_sshiftRight, BitVec.getElem_extractLsb']
    simp [show i < w + w by omega, show w + i < w + w by omega]
  rw [hset, BitVec.extractLsb'_toNat, Nat.shiftRight_eq_div_pow, Nat.mod_eq_of_lt hlt]

/-- The two halves of a word, read as natural numbers. -/
theorem toNat_upperHalf_mul_add (p : BitVec (w + w)) :
    (upperHalf p).toNat * 2 ^ w + (p.setWidth w).toNat = p.toNat := by
  rw [toNat_upperHalf, BitVec.toNat_setWidth]
  exact Nat.div_add_mod' p.toNat (2 ^ w)

/-- A word is not negative when its upper half is not. -/
theorem toNat_upperHalf_lt_iff (p : BitVec (w + w)) :
    2 * (upperHalf p).toNat < 2 ^ w ↔ 2 * p.toNat < 2 ^ (w + w) := by
  have hp : (upperHalf p).toNat * 2 ^ w + (p.setWidth w).toNat = p.toNat :=
    toNat_upperHalf_mul_add p
  have hlow : (p.setWidth w).toNat < 2 ^ w := (p.setWidth w).isLt
  rw [← hp, Nat.pow_add]
  rcases w with _ | k
  · have hzero : (upperHalf p).toNat = 0 := Nat.lt_one_iff.mp (upperHalf p).isLt
    omega
  · rw [Nat.pow_succ] at hlow ⊢
    have hsquare : 2 ^ k * 2 * (2 ^ k * 2) = 2 * (2 ^ k * (2 ^ k * 2)) := by ring
    generalize (p.setWidth (k + 1)).toNat = low at hlow ⊢
    generalize (upperHalf p).toNat = high at *
    constructor
    · intro h
      have hle : high + 1 ≤ 2 ^ k := by omega
      have := Nat.mul_le_mul_right (2 ^ k * 2) hle
      rw [Nat.add_mul] at this
      omega
    · intro h
      by_contra hge
      have hle : 2 ^ k ≤ high := by omega
      have := Nat.mul_le_mul_right (2 ^ k * 2) hle
      omega

/-- The two halves of a word, the upper one and the word read as signed numbers. -/
theorem toInt_upperHalf_mul_add (p : BitVec (w + w)) :
    (upperHalf p).toInt * 2 ^ w + (p.setWidth w).toNat = p.toInt := by
  have hp : ((upperHalf p).toNat : Int) * 2 ^ w + (p.setWidth w).toNat = p.toNat := by
    exact_mod_cast toNat_upperHalf_mul_add p
  rw [BitVec.toInt_eq_toNat_cond, BitVec.toInt_eq_toNat_cond, ← hp]
  by_cases h : 2 * (upperHalf p).toNat < 2 ^ w
  · rw [if_pos h, if_pos ((toNat_upperHalf_lt_iff p).mp h)]
  · rw [if_neg h, if_neg (mt (toNat_upperHalf_lt_iff p).mpr h)]
    push_cast
    ring

/-- A product of bounded factors fits in twice the width. -/
theorem bmod_mul_eq {x y : Int} (hx : -2 ^ w ≤ 2 * x) (hx' : 2 * x < 2 ^ w) (hy : -2 ^ w < y)
    (hy' : y < 2 ^ w) : (x * y).bmod (2 ^ (w + w)) = x * y := by
  have hpow : ((2 ^ (w + w) : Nat) : Int) = 2 ^ w * 2 ^ w := by
    push_cast
    exact Int.pow_add 2 w w
  have habs : |2 * (x * y)| < 2 ^ w * 2 ^ w := by
    rw [← mul_assoc, abs_mul]
    exact mul_lt_mul_of_le_of_lt_of_nonneg_of_pos (abs_le.mpr ⟨hx, hx'.le⟩)
      (abs_lt.mpr ⟨hy, hy'⟩) (abs_nonneg y) (by positivity)
  obtain ⟨hlow, hhigh⟩ := abs_lt.mp habs
  apply Int.bmod_eq_of_le_mul_two
  · rw [hpow]
    omega
  · rw [hpow]
    omega

theorem toInt_signExtend_double (a : BitVec w) : (a.signExtend (w + w)).toInt = a.toInt :=
  BitVec.toInt_signExtend_of_le (Nat.le_add_left w w)

theorem toNat_setWidth_double (b : BitVec w) : (b.setWidth (w + w)).toNat = b.toNat := by
  rw [BitVec.toNat_setWidth]
  exact Nat.mod_eq_of_lt (Nat.lt_of_lt_of_le b.isLt (Nat.pow_le_pow_right (by decide) (by omega)))

theorem setWidth_signExtend_double (a : BitVec w) : (a.signExtend (w + w)).setWidth w = a := by
  ext i hi
  rw [BitVec.getElem_setWidth, BitVec.getLsbD_signExtend]
  simp [show i < w + w by omega, hi]

theorem setWidth_setWidth_double (b : BitVec w) : (b.setWidth (w + w)).setWidth w = b := by
  ext i hi
  rw [BitVec.getElem_setWidth, BitVec.getLsbD_setWidth]
  simp [show i < w + w by omega, hi]

/-- **The signed product**: the upper half of the product and the product of the words. -/
theorem toInt_mul_upperHalf (a b : BitVec w) :
    (upperHalf (a.signExtend (w + w) * b.signExtend (w + w))).toInt * 2 ^ w + (a * b).toNat =
      a.toInt * b.toInt := by
  have hlow : (a.signExtend (w + w) * b.signExtend (w + w)).setWidth w = a * b := by
    rw [BitVec.setWidth_mul _ _ (Nat.le_add_left w w), setWidth_signExtend_double,
      setWidth_signExtend_double]
  have hb : -2 ^ w < b.toInt := by
    have := b.le_two_mul_toInt
    have : (0 : Int) < 2 ^ w := by positivity
    omega
  have hb' : b.toInt < 2 ^ w := by
    have := b.two_mul_toInt_lt
    have : (0 : Int) < 2 ^ w := by positivity
    omega
  rw [← hlow, toInt_upperHalf_mul_add, BitVec.toInt_mul, toInt_signExtend_double,
    toInt_signExtend_double]
  exact bmod_mul_eq a.le_two_mul_toInt a.two_mul_toInt_lt hb hb'

/-- **The product of a signed and an unsigned word.** -/
theorem toInt_toNat_mul_upperHalf (a b : BitVec w) :
    (upperHalf (a.signExtend (w + w) * b.setWidth (w + w))).toInt * 2 ^ w + (a * b).toNat =
      a.toInt * b.toNat := by
  have hlow : (a.signExtend (w + w) * b.setWidth (w + w)).setWidth w = a * b := by
    rw [BitVec.setWidth_mul _ _ (Nat.le_add_left w w), setWidth_signExtend_double,
      setWidth_setWidth_double]
  have hb : (b.toNat : Int) < 2 ^ w := by exact_mod_cast b.isLt
  have hb' : -2 ^ w < (b.toNat : Int) := by
    have : (0 : Int) < 2 ^ w := by positivity
    omega
  have hfactors : (a.signExtend (w + w) * b.setWidth (w + w)).toInt =
      (a.toInt * b.toNat).bmod (2 ^ (w + w)) := by
    rw [BitVec.toInt_mul, toInt_signExtend_double, BitVec.toInt_eq_toNat_bmod (b.setWidth _),
      toNat_setWidth_double, Int.mul_bmod_bmod]
  rw [← hlow, toInt_upperHalf_mul_add, hfactors]
  exact bmod_mul_eq a.le_two_mul_toInt a.two_mul_toInt_lt hb' hb

/-- **The unsigned product**: the upper half of the product and the product of the words. -/
theorem toNat_mul_upperHalf (a b : BitVec w) :
    (upperHalf (a.setWidth (w + w) * b.setWidth (w + w))).toNat * 2 ^ w + (a * b).toNat =
      a.toNat * b.toNat := by
  have hlow : (a.setWidth (w + w) * b.setWidth (w + w)).setWidth w = a * b := by
    rw [BitVec.setWidth_mul _ _ (Nat.le_add_left w w), setWidth_setWidth_double,
      setWidth_setWidth_double]
  have hlt : a.toNat * b.toNat < 2 ^ (w + w) := by
    rw [Nat.pow_add]
    exact Nat.mul_lt_mul'' a.isLt b.isLt
  rw [← hlow, toNat_upperHalf_mul_add, BitVec.toNat_mul, toNat_setWidth_double,
    toNat_setWidth_double, Nat.mod_eq_of_lt hlt]

/-! ### Total division -/

/-- Signed division: all ones for a zero divisor, the dividend for the quotient
that does not fit. -/
def divSigned (a b : BitVec w) : BitVec w :=
  if b = 0#w then BitVec.allOnes w
  else if a = BitVec.intMin w ∧ b = -1#w then a
  else BitVec.ofInt w (a.toInt.tdiv b.toInt)

/-- Signed remainder: the dividend for a zero divisor, zero for the quotient
that does not fit. -/
def remSigned (a b : BitVec w) : BitVec w :=
  if b = 0#w then a
  else if a = BitVec.intMin w ∧ b = -1#w then 0#w
  else BitVec.ofInt w (a.toInt.tmod b.toInt)

/-- Unsigned division: all ones for a zero divisor. -/
def divUnsigned (a b : BitVec w) : BitVec w :=
  if b = 0#w then BitVec.allOnes w else BitVec.ofNat w (a.toNat / b.toNat)

/-- Unsigned remainder: the dividend for a zero divisor. -/
def remUnsigned (a b : BitVec w) : BitVec w :=
  if b = 0#w then a else BitVec.ofNat w (a.toNat % b.toNat)

@[simp] theorem divSigned_zero (a : BitVec w) : divSigned a 0#w = BitVec.allOnes w :=
  if_pos rfl

@[simp] theorem remSigned_zero (a : BitVec w) : remSigned a 0#w = a :=
  if_pos rfl

@[simp] theorem divUnsigned_zero (a : BitVec w) : divUnsigned a 0#w = BitVec.allOnes w :=
  if_pos rfl

@[simp] theorem remUnsigned_zero (a : BitVec w) : remUnsigned a 0#w = a :=
  if_pos rfl

theorem divSigned_of_ne {a b : BitVec w} (hb : b ≠ 0#w) : divSigned a b = a.sdiv b := by
  unfold divSigned
  rw [if_neg hb]
  split
  · rename_i h
    rw [h.1, h.2, BitVec.intMin_sdiv_neg_one]
  · apply BitVec.eq_of_toInt_eq
    rw [BitVec.toInt_ofInt, BitVec.toInt_sdiv]

theorem remSigned_of_ne {a b : BitVec w} (hb : b ≠ 0#w) : remSigned a b = a.srem b := by
  unfold remSigned
  rw [if_neg hb]
  have hrem : a.srem b = BitVec.ofInt w (a.toInt.tmod b.toInt) := by
    rw [← BitVec.toInt_srem, BitVec.ofInt_toInt]
  split
  · rename_i h
    have hdvd : b.toInt ∣ a.toInt := by
      rw [h.2, BitVec.neg_one_eq_allOnes, BitVec.toInt_allOnes]
      split
      · exact ⟨-a.toInt, by ring⟩
      · rename_i hw
        obtain rfl : w = 0 := by omega
        rw [BitVec.eq_nil a]
        exact Int.dvd_refl 0
    exact (BitVec.srem_zero_of_dvd hdvd).symm
  · exact hrem.symm

theorem divUnsigned_of_ne {a b : BitVec w} (hb : b ≠ 0#w) : divUnsigned a b = a / b := by
  unfold divUnsigned
  rw [if_neg hb]
  apply BitVec.eq_of_toNat_eq
  rw [BitVec.toNat_udiv, BitVec.toNat_ofNat]
  exact Nat.mod_eq_of_lt (Nat.lt_of_le_of_lt (Nat.div_le_self _ _) a.isLt)

theorem remUnsigned_of_ne {a b : BitVec w} (hb : b ≠ 0#w) : remUnsigned a b = a % b := by
  unfold remUnsigned
  rw [if_neg hb]
  apply BitVec.eq_of_toNat_eq
  rw [BitVec.toNat_umod, BitVec.toNat_ofNat]
  exact Nat.mod_eq_of_lt (Nat.lt_of_le_of_lt (Nat.mod_le _ _) a.isLt)

/-- **The signed division equation** holds for every dividend and divisor. -/
theorem divSigned_mul_add_remSigned (a b : BitVec w) : divSigned a b * b + remSigned a b = a := by
  by_cases hb : b = 0#w
  · simp [hb]
  · rw [divSigned_of_ne hb, remSigned_of_ne hb]
    apply BitVec.eq_of_toInt_eq
    rw [BitVec.toInt_add, BitVec.toInt_mul, BitVec.toInt_sdiv, BitVec.toInt_srem,
      Int.bmod_mul_bmod, Int.bmod_add_bmod, Int.tdiv_mul_add_tmod, BitVec.toInt_bmod_cancel]

/-- **The unsigned division equation** holds for every dividend and divisor. -/
theorem divUnsigned_mul_add_remUnsigned (a b : BitVec w) :
    divUnsigned a b * b + remUnsigned a b = a := by
  by_cases hb : b = 0#w
  · simp [hb]
  · rw [divUnsigned_of_ne hb, remUnsigned_of_ne hb]
    apply BitVec.eq_of_toNat_eq
    rw [BitVec.toNat_add, BitVec.toNat_mul, BitVec.toNat_udiv, BitVec.toNat_umod, Nat.mod_add_mod,
      Nat.div_add_mod', Nat.mod_eq_of_lt a.isLt]

end Lib

end RiscvSim

import RiscvSim.Lib.Rv64i

/-!
# Splitting a number into upper and lower immediates

A 32-bit number is built by LUI or AUIPC and ADDI: the upper twenty bits are
rounded to the nearest, so that the rest is a signed number of twelve bits.

* **`join_parts_iff`**: the parts of a 64-bit number give it back exactly when it
  is in the range of the two instructions.
-/

namespace RiscvSim

namespace Lib

namespace Rv64i

/-- The upper part, rounded. -/
def upperPart (x : BitVec 64) : BitVec 32 :=
  ((x + 0x800#64).sshiftRight 12).setWidth 32

/-- What an upper immediate stands for. -/
def upperValue (hi : BitVec 32) : BitVec 64 :=
  (hi <<< 12).signExtend 64

def lowerPart (x : BitVec 64) : BitVec 32 :=
  (x - upperValue (upperPart x)).setWidth 32

/-- The numbers LUI and ADDI reach. -/
def IsSplit (x : Int) : Prop :=
  -2 ^ 31 - 2 ^ 11 ≤ x ∧ x < 2 ^ 31 - 2 ^ 11

instance (x : Int) : Decidable (IsSplit x) :=
  inferInstanceAs (Decidable (_ ∧ _))

theorem upperImmediate_setWidth (hi : BitVec 32) :
    upperImmediate (hi.setWidth 20) = upperValue hi := by
  have h : hi.setWidth 20 ++ 0#12 = hi <<< 12 := by
    refine BitVec.eq_of_getLsbD_eq fun i hi => Eq.trans BitVec.getLsbD_append ?_
    simp only [BitVec.getLsbD_shiftLeft, BitVec.getLsbD_setWidth, BitVec.getLsbD_zero]
    by_cases hlt : i < 12
    · simp [hlt]
    · have : i - 12 < 20 := by omega
      simp [hlt, this, hi]
  unfold upperImmediate upperValue
  exact congrArg (BitVec.signExtend 64) h

/-- The remainder that a balanced modulus leaves. -/
theorem exists_bmod (x : Int) {m : Nat} (hm : 0 < m) :
    ∃ k, x.bmod m = x + m * k ∧ -m ≤ 2 * x.bmod m ∧ 2 * x.bmod m < m := by
  refine ⟨-(x.bdiv m), ?_, ?_, ?_⟩
  · rw [Int.mul_neg, ← Int.sub_eq_add_neg]
    exact Int.bmod_eq_self_sub_mul_bdiv x m
  · have := Int.le_bmod (x := x) hm
    omega
  · have := Int.bmod_lt (x := x) hm
    omega

theorem toInt_setWidth_of_le {v w : Nat} (h : v ≤ w) (x : BitVec w) :
    (x.setWidth v).toInt = x.toInt.bmod (2 ^ v) := by
  rw [BitVec.toInt_setWidth, BitVec.toInt_eq_toNat_bmod,
    Int.bmod_bmod_of_dvd (Nat.pow_dvd_pow 2 h)]

theorem toInt_upperPart (x : BitVec 64) :
    (upperPart x).toInt = ((x.toInt + 2048).bmod (2 ^ 64) / 4096).bmod (2 ^ 32) := by
  unfold upperPart
  rw [toInt_setWidth_of_le (by decide), BitVec.toInt_sshiftRight, BitVec.toInt_add,
    Int.shiftRight_eq_div_pow]
  rfl

theorem toInt_upperValue (hi : BitVec 32) :
    (upperValue hi).toInt = (hi.toInt * 4096).bmod (2 ^ 32) := by
  unfold upperValue
  rw [BitVec.toInt_signExtend_of_le (by decide), BitVec.shiftLeft_eq_mul_twoPow, BitVec.toInt_mul]
  rfl

/-- A number of twelve bits survives the sign extension. -/
theorem signExtend_setWidth_iff (y : BitVec 64) :
    (y.setWidth 12).signExtend 64 = y ↔ -2048 ≤ y.toInt ∧ y.toInt < 2048 := by
  rw [← BitVec.toInt_inj, BitVec.toInt_signExtend_of_le (by decide),
    toInt_setWidth_of_le (by decide)]
  obtain ⟨k, hk, hlow, hhigh⟩ := exists_bmod y.toInt (m := 2 ^ 12) (by decide)
  omega

/-- **The parts give the number back** exactly when it is in the range of the
two instructions. -/
theorem join_parts_iff (x : BitVec 64) :
    upperImmediate ((upperPart x).setWidth 20) + ((lowerPart x).setWidth 12).signExtend 64 = x ↔
      IsSplit x.toInt := by
  have hlower : (lowerPart x).setWidth 12 = (x - upperValue (upperPart x)).setWidth 12 :=
    BitVec.setWidth_setWidth_of_le _ (by decide)
  have hjoin : upperValue (upperPart x) + ((lowerPart x).setWidth 12).signExtend 64 = x ↔
      ((x - upperValue (upperPart x)).setWidth 12).signExtend 64 =
        x - upperValue (upperPart x) := by
    rw [hlower, BitVec.add_comm, ← BitVec.eq_sub_iff_add_eq]
  rw [upperImmediate_setWidth, hjoin, signExtend_setWidth_iff, BitVec.toInt_sub, toInt_upperValue,
    toInt_upperPart]
  have hlow := x.le_toInt
  have hhigh := x.toInt_lt
  generalize x.toInt = o at *
  obtain ⟨a, ha, ha'⟩ := exists_bmod (o + 2048) (m := 2 ^ 64) (by decide)
  generalize (o + 2048).bmod (2 ^ 64) = s at *
  obtain ⟨b, hb, hb'⟩ := exists_bmod (s / 4096) (m := 2 ^ 32) (by decide)
  generalize (s / 4096).bmod (2 ^ 32) = q at *
  obtain ⟨c, hc, hc'⟩ := exists_bmod (q * 4096) (m := 2 ^ 32) (by decide)
  generalize (q * 4096).bmod (2 ^ 32) = u at *
  obtain ⟨d, hd, hd'⟩ := exists_bmod (o - u) (m := 2 ^ 64) (by decide)
  generalize (o - u).bmod (2 ^ 64) = y at *
  unfold IsSplit
  omega

/-- The lower part is a signed number of twelve bits, whatever the number is. -/
theorem toInt_lowerPart_bounds (x : BitVec 64) :
    -2048 ≤ (lowerPart x).toInt ∧ (lowerPart x).toInt ≤ 2047 := by
  unfold lowerPart
  rw [toInt_setWidth_of_le (by decide), BitVec.toInt_sub, toInt_upperValue, toInt_upperPart]
  generalize x.toInt = o
  obtain ⟨a, ha, -⟩ := exists_bmod (o + 2048) (m := 2 ^ 64) (by decide)
  generalize (o + 2048).bmod (2 ^ 64) = s at *
  obtain ⟨b, hb, -⟩ := exists_bmod (s / 4096) (m := 2 ^ 32) (by decide)
  generalize (s / 4096).bmod (2 ^ 32) = q at *
  obtain ⟨c, hc, -⟩ := exists_bmod (q * 4096) (m := 2 ^ 32) (by decide)
  generalize (q * 4096).bmod (2 ^ 32) = u at *
  obtain ⟨d, hd, -⟩ := exists_bmod (o - u) (m := 2 ^ 64) (by decide)
  generalize (o - u).bmod (2 ^ 64) = y at *
  obtain ⟨e, he, he'⟩ := exists_bmod y (m := 2 ^ 32) (by decide)
  omega

/-- The lower part has the low bits of the number. -/
theorem setWidth_lowerPart (x : BitVec 64) : (lowerPart x).setWidth 12 = x.setWidth 12 := by
  have hupper : (upperValue (upperPart x)).setWidth 12 = 0#12 := by
    refine BitVec.eq_of_getLsbD_eq fun i hi => ?_
    unfold upperValue
    rw [BitVec.getLsbD_setWidth, BitVec.getLsbD_signExtend, BitVec.getLsbD_shiftLeft]
    have h64 : i < 64 := by omega
    have h32 : i < 32 := by omega
    simp [hi, h64, h32]
  have hsum : x.setWidth 12 =
      (x - upperValue (upperPart x)).setWidth 12 + (upperValue (upperPart x)).setWidth 12 := by
    rw [← BitVec.setWidth_add _ _ (by decide), BitVec.sub_add_cancel]
  unfold lowerPart
  rw [BitVec.setWidth_setWidth_of_le _ (by decide), hsum, hupper, BitVec.add_zero]

/-- The low bits of a distance are those of its target. -/
theorem signExtend_distance_iff (target pc : BitVec 64) :
    ((target - pc).setWidth 12).signExtend 64 = target ↔
      pc.setWidth 12 = 0#12 ∧ -2048 ≤ target.toInt ∧ target.toInt < 2048 := by
  have hsum : target.setWidth 12 = (target - pc).setWidth 12 + pc.setWidth 12 := by
    rw [← BitVec.setWidth_add _ _ (by decide), BitVec.sub_add_cancel]
  rw [← signExtend_setWidth_iff]
  constructor
  · intro h
    have hlow : target.setWidth 12 = (target - pc).setWidth 12 := by
      have hwidth : (((target - pc).setWidth 12).signExtend 64).setWidth 12 =
          (target - pc).setWidth 12 := by
        refine BitVec.eq_of_getLsbD_eq fun i hi => ?_
        have h64 : i < 64 := by omega
        rw [BitVec.getLsbD_setWidth, BitVec.getLsbD_signExtend]
        simp only [hi, h64, decide_true, Bool.true_and, if_true]
      rw [← hwidth, h]
    refine ⟨?_, by rw [hlow, h]⟩
    rw [hlow] at hsum
    exact BitVec.add_right_eq_self.mp hsum.symm
  · rintro ⟨hpc, htarget⟩
    rw [hpc, BitVec.add_zero] at hsum
    rw [← hsum, htarget]

/-- An immediate of twelve bits. -/
theorem signExtend_ofInt {x : Int} (hlow : -2048 ≤ x) (hhigh : x ≤ 2047) :
    ((BitVec.ofInt 32 x).setWidth 12).signExtend 64 = BitVec.ofInt 64 x := by
  rw [← BitVec.toInt_inj, BitVec.toInt_signExtend_of_le (by decide),
    toInt_setWidth_of_le (by decide), BitVec.toInt_ofInt, BitVec.toInt_ofInt,
    Int.bmod_eq_of_le (n := x) (m := 2 ^ 32) (by omega) (by omega),
    Int.bmod_eq_of_le (n := x) (m := 2 ^ 12) (by omega) (by omega),
    Int.bmod_eq_of_le (n := x) (m := 2 ^ 64) (by omega) (by omega)]

/-- The upper part of an integer. -/
theorem upperPart_ofInt {x : Int} (hlow : -2 ^ 62 ≤ x) (hhigh : x < 2 ^ 62) :
    upperPart (BitVec.ofInt 64 x) = BitVec.ofInt 32 ((x + 2 ^ 11) / 2 ^ 12) := by
  rw [← BitVec.toInt_inj, toInt_upperPart, BitVec.toInt_ofInt, BitVec.toInt_ofInt,
    Int.bmod_eq_of_le (n := x) (by omega) (by omega),
    Int.bmod_eq_of_le (n := x + 2048) (by omega) (by omega)]
  rfl

/-- The lower part of an integer. -/
theorem lowerPart_ofInt {x : Int} (hlow : -2 ^ 62 ≤ x) (hhigh : x < 2 ^ 62) :
    lowerPart (BitVec.ofInt 64 x) = BitVec.ofInt 32 (x - (x + 2 ^ 11) / 2 ^ 12 * 2 ^ 12) := by
  unfold lowerPart
  rw [← BitVec.toInt_inj, toInt_setWidth_of_le (by decide), BitVec.toInt_sub, toInt_upperValue,
    upperPart_ofInt hlow hhigh, BitVec.toInt_ofInt, BitVec.toInt_ofInt, BitVec.toInt_ofInt,
    Int.bmod_eq_of_le (n := x) (by omega) (by omega)]
  generalize (x + 2 ^ 11) / 2 ^ 12 = u
  obtain ⟨b, hb, -⟩ := exists_bmod u (m := 2 ^ 32) (by decide)
  generalize u.bmod (2 ^ 32) = q at *
  obtain ⟨c, hc, -⟩ := exists_bmod (q * 4096) (m := 2 ^ 32) (by decide)
  generalize (q * 4096).bmod (2 ^ 32) = v at *
  obtain ⟨d, hd, -⟩ := exists_bmod (x - v) (m := 2 ^ 64) (by decide)
  generalize (x - v).bmod (2 ^ 64) = y at *
  obtain ⟨e, he, he'⟩ := exists_bmod y (m := 2 ^ 32) (by decide)
  obtain ⟨f, hf, hf'⟩ := exists_bmod (x - u * 2 ^ 12) (m := 2 ^ 32) (by decide)
  omega

/-! ### The two instructions -/

section Pairs

variable (s : State) {rd : BitVec 5} (upper : BitVec 20) (lower : BitVec 12)

theorem exec_lui_addi (hrd : rd ≠ 0#5) :
    [Instruction.lui rd upper, .immediate .addi rd rd lower].foldl Instruction.exec s =
      { s with
        pc := s.pc + 4#64 * 2#64
        x := s.x.write rd (upperImmediate upper + lower.signExtend 64) } := by
  show ((s.next rd (upperImmediate upper)).next rd
    ((s.x.write rd (upperImmediate upper)).read rd + lower.signExtend 64)) = _
  rw [s.x.read_write_self hrd]
  unfold State.next
  rw [Registers.write_write, BitVec.add_assoc]
  rfl

theorem exec_auipc_addi (hrd : rd ≠ 0#5) :
    [Instruction.auipc rd upper, .immediate .addi rd rd lower].foldl Instruction.exec s =
      { s with
        pc := s.pc + 4#64 * 2#64
        x := s.x.write rd (s.pc + upperImmediate upper + lower.signExtend 64) } := by
  show ((s.next rd (s.pc + upperImmediate upper)).next rd
    ((s.x.write rd (s.pc + upperImmediate upper)).read rd + lower.signExtend 64)) = _
  rw [s.x.read_write_self hrd]
  unfold State.next
  rw [Registers.write_write, BitVec.add_assoc s.pc 4#64]
  rfl

end Pairs

end Rv64i

end Lib

end RiscvSim

import Mathlib.Tactic.IntervalCases
import RiscvSim.Vm.VmBase

/-!
# Immediates

What the immediate generator makes of the fields of a word: `sign_extend` is
the sign extension of the low bits (`signExtendBits_eq`), and each format has
its immediate in the fields the manual gives it.
-/

namespace RiscvSim

theorem xor_twoPow_of_clear {x : BitVec 32} {k : Nat} (h : x.getLsbD k = false) :
    x ^^^ BitVec.twoPow 32 k = x + BitVec.twoPow 32 k := by
  have hbit : ∀ i (hi : i < 32), k = i → x[i] = false := by
    rintro i hi rfl
    rwa [← BitVec.getLsbD_eq_getElem hi]
  rw [BitVec.add_eq_or_of_and_eq_zero]
  · ext i hi
    simp only [BitVec.getElem_or, BitVec.getElem_xor, BitVec.getElem_twoPow]
    by_cases hk : k = i
    · simp [hk, hbit i hi hk]
    · simp [Ne.symm hk]
  · ext i hi
    simp only [BitVec.getElem_and, BitVec.getElem_twoPow, BitVec.getElem_zero]
    by_cases hk : k = i
    · simp [hbit i hi hk]
    · simp [Ne.symm hk]

theorem xor_twoPow_of_set {x : BitVec 32} {k : Nat} (h : x.getLsbD k = true) :
    x ^^^ BitVec.twoPow 32 k = x - BitVec.twoPow 32 k := by
  have hclear : (x ^^^ BitVec.twoPow 32 k).getLsbD k = false := by
    have hk : k < 32 := BitVec.lt_of_getLsbD h
    simp [h, hk]
  have hback := xor_twoPow_of_clear hclear
  rw [BitVec.xor_assoc, BitVec.xor_self, BitVec.xor_zero] at hback
  rw [BitVec.eq_sub_iff_add_eq, ← hback]

theorem signExtendBits_eq {n : Nat} (hn : 0 < n) (hn32 : n ≤ 32) {x : BitVec 32}
    (hx : x.toNat < 2 ^ n) : signExtendBits x n = (x.setWidth n).signExtend 32 := by
  have hmsb : (x.setWidth n).msb = x.getLsbD (n - 1) := by
    rw [BitVec.msb_eq_getLsbD_last, BitVec.getLsbD_setWidth]
    simp [show n - 1 < n by omega]
  show (x ^^^ BitVec.twoPow 32 (n - 1)) - BitVec.twoPow 32 (n - 1) = _
  by_cases hbit : x.getLsbD (n - 1) = true
  · rw [xor_twoPow_of_set hbit]
    have hhalf : 2 ^ n = 2 ^ (n - 1) + 2 ^ (n - 1) := by
      rw [← Nat.two_mul, ← Nat.pow_succ']
      congr 1
      omega
    have hle : 2 ^ n ≤ 2 ^ 32 := Nat.pow_le_pow_right (by omega) hn32
    have hge : 2 ^ (n - 1) ≤ x.toNat := by
      exact Nat.ge_two_pow_of_testBit hbit
    have hm : (BitVec.twoPow 32 (n - 1)).toNat = 2 ^ (n - 1) := by
      rw [BitVec.toNat_twoPow, Nat.mod_eq_of_lt]
      omega
    apply BitVec.eq_of_toNat_eq
    rw [BitVec.toNat_signExtend, hmsb, if_pos hbit]
    simp only [BitVec.toNat_sub, hm, BitVec.toNat_setWidth, Nat.mod_eq_of_lt hx]
    omega
  · have hclear := Bool.eq_false_iff.mpr hbit
    rw [xor_twoPow_of_clear hclear, BitVec.add_sub_cancel,
      BitVec.signExtend_eq_setWidth_of_msb_false (hmsb.trans hclear)]
    apply BitVec.eq_of_toNat_eq
    rw [BitVec.toNat_setWidth, BitVec.toNat_setWidth, Nat.mod_eq_of_lt hx,
      Nat.mod_eq_of_lt x.isLt]

/-- `sign_extend` of a field. -/
theorem signExtendBits_setWidth {n : Nat} (hn : 0 < n) (hn32 : n ≤ 32) (x : BitVec n) :
    signExtendBits (x.setWidth 32) n = x.signExtend 32 := by
  have hle : 2 ^ n ≤ 2 ^ 32 := Nat.pow_le_pow_right (by omega) hn32
  have hwidth : (x.setWidth 32).toNat = x.toNat := by
    rw [BitVec.toNat_setWidth, Nat.mod_eq_of_lt]
    have := x.isLt
    omega
  rw [signExtendBits_eq hn hn32 (hwidth ▸ x.isLt)]
  congr 1
  apply BitVec.eq_of_toNat_eq
  rw [BitVec.toNat_setWidth, hwidth, Nat.mod_eq_of_lt x.isLt]

/-- A field as the offset added to an address. -/
theorem offset64_signExtend {n : Nat} (hn32 : n ≤ 32) (x : BitVec n) :
    offset64 (x.signExtend 32) = x.signExtend 64 := by
  apply BitVec.eq_of_toInt_eq
  unfold offset64
  rw [BitVec.toInt_signExtend_of_le (by decide), BitVec.toInt_signExtend_of_le hn32,
    BitVec.toInt_signExtend_of_le (by omega)]

/-- The opcodes with an I-type immediate. -/
def IsITypeOpcode (opcode : BitVec 7) : Prop :=
  opcode = 0b0010011#7 ∨ opcode = 0b0000011#7 ∨ opcode = 0b1100111#7

theorem immGenerator_of_iType {w : BitVec 32} (h : IsITypeOpcode (opcodeOf w)) :
    immGenerator w = (w.extractLsb' 20 12).signExtend 32 := by
  have hfield : (w >>> 20) &&& 0xFFF#32 = (w.extractLsb' 20 12).setWidth 32 := by
    ext i hi
    simp only [BitVec.getElem_and, BitVec.getElem_ushiftRight, BitVec.getElem_setWidth,
      BitVec.getLsbD_extractLsb']
    interval_cases i <;> simp
  have himm : immGenerator w = signExtendBits ((w >>> 20) &&& 0xFFF#32) 12 := by
    unfold immGenerator
    rcases h with h | h | h <;> rw [h] <;> rfl
  rw [himm, hfield, signExtendBits_setWidth (by decide) (by decide)]

/-- The immediate of a store. -/
theorem immGenerator_of_sType {w : BitVec 32} (h : opcodeOf w = 0b0100011#7) :
    immGenerator w = (w.extractLsb' 25 7 ++ w.extractLsb' 7 5).signExtend 32 := by
  have hfield : ((w >>> 7) &&& 0x1F#32) ||| (((w >>> 25) &&& 0x7F#32) <<< 5) =
      (w.extractLsb' 25 7 ++ w.extractLsb' 7 5).setWidth 32 := by
    ext i hi
    simp only [BitVec.getElem_or, BitVec.getElem_and, BitVec.getElem_ushiftRight,
      BitVec.getElem_shiftLeft, BitVec.getElem_setWidth, BitVec.getLsbD_append,
      BitVec.getLsbD_extractLsb']
    interval_cases i <;> simp
  have himm : immGenerator w = signExtendBits
      (((w >>> 7) &&& 0x1F#32) ||| (((w >>> 25) &&& 0x7F#32) <<< 5)) 12 := by
    unfold immGenerator
    rw [h]
    rfl
  rw [himm, hfield]
  exact signExtendBits_setWidth (by decide) (by decide) _

/-- The immediate of a conditional branch. -/
theorem immGenerator_of_bType {w : BitVec 32} (h : opcodeOf w = 0b1100011#7) :
    immGenerator w = (w.extractLsb' 31 1 ++ w.extractLsb' 7 1 ++ w.extractLsb' 25 6
      ++ w.extractLsb' 8 4 ++ 0#1).signExtend 32 := by
  have hfield : (((w >>> 8) &&& 0xF#32)
      ||| (((w >>> 25) &&& 0x3F#32) <<< 4)
      ||| (((w >>> 7) &&& 0x1#32) <<< 10)
      ||| (((w >>> 31) &&& 0x1#32) <<< 11)) <<< 1 =
      (w.extractLsb' 31 1 ++ w.extractLsb' 7 1 ++ w.extractLsb' 25 6
        ++ w.extractLsb' 8 4 ++ 0#1).setWidth 32 := by
    ext i hi
    simp only [BitVec.getElem_or, BitVec.getElem_and, BitVec.getElem_ushiftRight,
      BitVec.getElem_shiftLeft, BitVec.getElem_setWidth, BitVec.getLsbD_append,
      BitVec.getLsbD_extractLsb']
    interval_cases i <;> simp
  have himm : immGenerator w = signExtendBits ((((w >>> 8) &&& 0xF#32)
      ||| (((w >>> 25) &&& 0x3F#32) <<< 4)
      ||| (((w >>> 7) &&& 0x1#32) <<< 10)
      ||| (((w >>> 31) &&& 0x1#32) <<< 11)) <<< 1) 13 := by
    unfold immGenerator
    rw [h]
    rfl
  rw [himm, hfield]
  exact signExtendBits_setWidth (by decide) (by decide) _

/-- The immediate of JAL. -/
theorem immGenerator_of_jType {w : BitVec 32} (h : opcodeOf w = 0b1101111#7) :
    immGenerator w = (w.extractLsb' 31 1 ++ w.extractLsb' 12 8 ++ w.extractLsb' 20 1
      ++ w.extractLsb' 21 10 ++ 0#1).signExtend 32 := by
  have hfield : (((w >>> 21) &&& 0x3FF#32)
      ||| (((w >>> 20) &&& 0x1#32) <<< 10)
      ||| (((w >>> 12) &&& 0xFF#32) <<< 11)
      ||| (((w >>> 31) &&& 0x1#32) <<< 19)) <<< 1 =
      (w.extractLsb' 31 1 ++ w.extractLsb' 12 8 ++ w.extractLsb' 20 1
        ++ w.extractLsb' 21 10 ++ 0#1).setWidth 32 := by
    ext i hi
    simp only [BitVec.getElem_or, BitVec.getElem_and, BitVec.getElem_ushiftRight,
      BitVec.getElem_shiftLeft, BitVec.getElem_setWidth, BitVec.getLsbD_append,
      BitVec.getLsbD_extractLsb']
    interval_cases i <;> simp
  have himm : immGenerator w = signExtendBits ((((w >>> 21) &&& 0x3FF#32)
      ||| (((w >>> 20) &&& 0x1#32) <<< 10)
      ||| (((w >>> 12) &&& 0xFF#32) <<< 11)
      ||| (((w >>> 31) &&& 0x1#32) <<< 19)) <<< 1) 21 := by
    unfold immGenerator
    rw [h]
    rfl
  rw [himm, hfield]
  exact signExtendBits_setWidth (by decide) (by decide) _

/-- The immediate of LUI and AUIPC, moved up again. -/
theorem shiftLeft_immGenerator_of_uType {w : BitVec 32}
    (h : opcodeOf w = 0b0110111#7 ∨ opcodeOf w = 0b0010111#7) :
    immGenerator w <<< 12 = w.extractLsb' 12 20 ++ 0#12 := by
  have himm : immGenerator w = (w &&& 0xFFFFF000#32) >>> 12 := by
    unfold immGenerator
    rcases h with h | h <;> rw [h] <;> rfl
  rw [himm]
  refine BitVec.eq_of_getLsbD_eq fun i hi => (Eq.trans ?_ BitVec.getLsbD_append.symm)
  simp only [BitVec.getLsbD_shiftLeft, BitVec.getLsbD_ushiftRight, BitVec.getLsbD_and,
    BitVec.getLsbD_extractLsb']
  interval_cases i <;> simp

end RiscvSim

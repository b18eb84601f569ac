import Mathlib.Data.List.TakeWhile
import RiscvSim.Assembler.ParserState

/-!
# Operands

The text the parser puts into a unit, and what the code generator reads from it.

* **`immediateOf_truncated_toText`**: a printed immediate is read back.
* **`exists_registerNumber`**: every name the lexer takes for a general-purpose
  register has a number.
-/

namespace RiscvSim

open Lib

/-! ### Immediates -/

/-- A text without zero characters that fits is kept. -/
theorem truncated_eq_self {size : Nat} {value : String} (hzero : '\x00' ∉ value.toList)
    (hlength : value.toList.length ≤ size) : truncated size value = value := by
  have htake : value.toList.takeWhile (· ≠ '\x00') = value.toList := by
    refine List.takeWhile_eq_self_iff.mpr fun c hc => decide_eq_true ?_
    rintro rfl
    exact hzero hc
  unfold truncated
  rw [htake, List.take_of_length_le hlength, String.ofList_toList]

theorem toList_toText (value : Int) : (toText value).toList = toDecimal value :=
  String.toList_ofList

theorem zero_notMem_toDecimal (value : Int) : '\x00' ∉ toDecimal value := by
  have hdigits : '\x00' ∉ Nat.toDigits 10 value.natAbs := fun h =>
    absurd (isDigitOf_of_mem_toDigits h) (by decide)
  unfold toDecimal
  split
  · rw [List.mem_cons]
    rintro (h | h)
    · exact absurd h (by decide)
    · exact hdigits h
  · exact hdigits

/-- A number of `64` bits has at most nineteen digits, and a sign. -/
theorem length_toDecimal_le {value : Int} (hlow : -2 ^ 63 ≤ value) (hhigh : value < 2 ^ 63) :
    (toDecimal value).length ≤ 20 := by
  have hdigits : (Nat.toDigits 10 value.natAbs).length ≤ 19 := by
    rw [Nat.length_toDigits_le_iff (by decide) (by decide)]
    omega
  unfold toDecimal
  split
  · rw [List.length_cons]
    omega
  · omega

theorem truncated_toText {size : Nat} {value : Int} (hsize : 20 ≤ size) (hlow : -2 ^ 63 ≤ value)
    (hhigh : value < 2 ^ 63) : truncated size (toText value) = toText value := by
  apply truncated_eq_self
  · rw [toList_toText]
    exact zero_notMem_toDecimal value
  · rw [toList_toText]
    exact (length_toDecimal_le hlow hhigh).trans hsize

/-- **A printed immediate is read back.** -/
theorem immediateOf_truncated_toText {value : Int} (hlow : -2 ^ 31 ≤ value)
    (hhigh : value < 2 ^ 31) :
    immediateOf (truncated 32 (toText value)) = .ok (BitVec.ofInt 32 value) := by
  rw [truncated_toText (by decide) (by omega) (by omega)]
  unfold immediateOf
  rw [toList_toText, stoi_toDecimal hlow hhigh]
  rfl

/-- The mnemonics of the instructions the parser writes on its own are kept. -/
theorem truncated_mnemonic : ∀ opcode ∈ ["addi", "lui", "auipc", "add", "xori", "jalr",
    "lb", "lh", "lw", "ld"], truncated 20 opcode = opcode := by
  decide +kernel

/-! ### Registers -/

/-- The number the code generator reads from the name of a register. -/
def registerNumber (reg : String) : Except AssemblerError (BitVec 32) := do
  let name ← lookupAt regAliasToName reg
  extractRegisterIndex (truncated 5 name)

/-- **A name of a general-purpose register has a number.** -/
theorem exists_registerNumber {reg : String} (h : isValidGeneralPurposeRegister reg = true) :
    ∃ rd : BitVec 5, registerNumber reg = .ok (rd.setWidth 32) := by
  have hall : validGeneralPurposeRegisters.all (fun reg =>
      match registerNumber reg with
      | .ok n => decide (n.toNat < 32)
      | .error _ => false) = true := by
    decide +kernel
  have hreg := List.all_eq_true.mp hall reg (List.contains_iff_mem.mp h)
  split at hreg
  · rename_i n hn
    have hlt : n.toNat < 2 ^ 5 := of_decide_eq_true hreg
    refine ⟨n.setWidth 5, hn.trans (congrArg Except.ok ?_)⟩
    apply BitVec.eq_of_toNat_eq
    rw [BitVec.toNat_setWidth, BitVec.toNat_setWidth, Nat.mod_eq_of_lt hlt,
      Nat.mod_eq_of_lt n.isLt]
  · cases hreg

end RiscvSim

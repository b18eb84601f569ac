import Mathlib.Tactic.Common
import RiscvSim.Lib.Except
import RiscvSim.Vm.Rv5s.Isa

/-!
# What the control unit can answer

`ControlCase` lists the control signals of the ten opcodes that are no NOPs,
and `controlCase_getControlSignals` says that there are no others.  The facts
about single signals that the pipeline proofs use are read off that list.
-/

namespace RiscvSim

open RV5SControlUnit Lib

/-- The control signals of the words with a known opcode. -/
inductive ControlCase (w : BitVec 32) : ControlSignals → Prop
  | rType (h : opcodeOf w = 0b0110011#7) : ControlCase w
      { isNop := false, regWrite := true, wbSrc := .fromAlu
        aluOp := rTypeAluOp (funct3Of w) (funct7Of w) }
  | load (h : opcodeOf w = 0b0000011#7) : ControlCase w
      { isNop := false, aluSrcB := true, wbSrc := .fromMem, regWrite := true, memRead := true
        aluOp := .kAdd, memReadOp := loadReadOp (funct3Of w) }
  | store (h : opcodeOf w = 0b0100011#7) : ControlCase w
      { isNop := false, aluSrcB := true, memWrite := true
        aluOp := .kAdd, memWriteOp := storeWriteOp (funct3Of w) }
  | branch (h : opcodeOf w = 0b1100011#7) : ControlCase w
      { isNop := false, branch := true
        aluOp := (bTypeSignals (funct3Of w)).1, branchOp := (bTypeSignals (funct3Of w)).2 }
  | iType (h : opcodeOf w = 0b0010011#7) : ControlCase w
      { isNop := false, aluSrcB := true, regWrite := true, wbSrc := .fromAlu
        aluOp := iTypeAluOp (funct3Of w) (funct7Of w) }
  | lui (h : opcodeOf w = 0b0110111#7) : ControlCase w
      { isNop := false, aluSrcB := true, regWrite := true, wbSrc := .fromAlu, aluSrcA := .zero
        aluOp := .kAdd }
  | auipc (h : opcodeOf w = 0b0010111#7) : ControlCase w
      { isNop := false, aluSrcB := true, regWrite := true, wbSrc := .fromAlu, aluSrcA := .pc
        aluOp := .kAdd }
  | jal (h : opcodeOf w = 0b1101111#7) : ControlCase w
      { isNop := false, regWrite := true, branch := true, wbSrc := .fromPcInc, aluSrcA := .pc
        aluSrcB := true, aluOp := .kAdd, branchOp := .jal }
  | jalr (h : opcodeOf w = 0b1100111#7) : ControlCase w
      { isNop := false, aluSrcB := true, regWrite := true, branch := true, wbSrc := .fromPcInc
        aluSrcA := .rs1, aluOp := .kAdd, branchOp := .jalr }
  | kMul (h : opcodeOf w = 0b0000001#7) : ControlCase w
      { isNop := false, regWrite := true, wbSrc := .fromAlu }

/-- The first switch knows ten opcodes. -/
theorem dataPathSignals_eq_some {opcode : BitVec 7} {signals : ControlSignals}
    (h : dataPathSignals opcode = some signals) :
    opcode = 0b0110011#7 ∨ opcode = 0b0000011#7 ∨ opcode = 0b0100011#7 ∨ opcode = 0b1100011#7 ∨
    opcode = 0b0010011#7 ∨ opcode = 0b0110111#7 ∨ opcode = 0b0010111#7 ∨ opcode = 0b1101111#7 ∨
    opcode = 0b1100111#7 ∨ opcode = 0b0000001#7 := by
  unfold dataPathSignals at h
  split at h
  all_goals first
    | decide
    | cases h

/-- The control signals of a word that is no NOP are on the list. -/
theorem controlCase_getControlSignals {w : BitVec 32}
    (h : (getControlSignals w).isNop = false) : ControlCase w (getControlSignals w) := by
  unfold getControlSignals at h ⊢
  split_ifs at h ⊢ with h0 h1 h2 h3
  · cases h
  · cases hs : dataPathSignals (opcodeOf w) with
    | none =>
      rw [hs] at h
      cases h
    | some signals =>
      rcases dataPathSignals_eq_some hs with ho | ho | ho | ho | ho | ho | ho | ho | ho | ho <;>
        rw [ho] at hs ⊢ <;> cases hs
      · exact .rType ho
      · exact .load ho
      · exact .store ho
      · exact .branch ho
      · exact .iType ho
      · exact .lui ho
      · exact .auipc ho
      · exact .jal ho
      · exact .jalr ho
      · exact .kMul ho

/-- A NOP writes nothing and is no branch. -/
theorem signals_of_isNop {w : BitVec 32} (h : (getControlSignals w).isNop = true) :
    (getControlSignals w).regWrite = false ∧ (getControlSignals w).memRead = false ∧
    (getControlSignals w).memWrite = false ∧ (getControlSignals w).branch = false ∧
    (getControlSignals w).branchOp = .none ∧ (getControlSignals w).wbSrc = .none := by
  unfold getControlSignals at h ⊢
  split_ifs at h ⊢ with h0 h1 h2 h3
  · exact ⟨rfl, rfl, rfl, rfl, rfl, rfl⟩
  · exact ⟨rfl, rfl, rfl, rfl, rfl, rfl⟩
  · exact ⟨rfl, rfl, rfl, rfl, rfl, rfl⟩
  · exact ⟨rfl, rfl, rfl, rfl, rfl, rfl⟩
  · cases hs : dataPathSignals (opcodeOf w) with
    | none => exact ⟨rfl, rfl, rfl, rfl, rfl, rfl⟩
    | some signals =>
      rw [hs] at h
      rcases dataPathSignals_eq_some hs with ho | ho | ho | ho | ho | ho | ho | ho | ho | ho <;>
        rw [ho] at hs h <;> cases hs <;> cases h

/-- The ALU operation and kind of a conditional branch belong together. -/
theorem bTypeSignals_cases (funct3 : BitVec 3) :
    bTypeSignals funct3 = (.kSub, .beq) ∨ bTypeSignals funct3 = (.kSub, .bne) ∨
    bTypeSignals funct3 = (.kSlt, .blt) ∨ bTypeSignals funct3 = (.kSlt, .bge) ∨
    bTypeSignals funct3 = (.kSltu, .bltu) ∨ bTypeSignals funct3 = (.kSltu, .bgeu) ∨
    bTypeSignals funct3 = (.kNone, .none) := by
  unfold bTypeSignals
  split <;> decide

/-- A conditional branch is no jump. -/
theorem bTypeSignals_ne_jump (funct3 : BitVec 3) :
    (bTypeSignals funct3).2 ≠ .jal ∧ (bTypeSignals funct3).2 ≠ .jalr := by
  rcases bTypeSignals_cases funct3 with h | h | h | h | h | h | h <;> rw [h] <;> decide

/-- A branch word is no NOP. -/
theorem isNop_of_branch {w : BitVec 32} (h : opcodeOf w = 0b1100011#7) :
    (getControlSignals w).isNop = false := by
  have hne : w ≠ 0#32 ∧ w ≠ 0x00000013#32 ∧ w ≠ 0x00000033#32 := by
    refine ⟨?_, ?_, ?_⟩ <;>
    · rintro rfl
      exact absurd h (by decide)
  unfold getControlSignals
  rw [if_neg hne.1, if_neg hne.2.1, if_neg hne.2.2, h]
  rfl

/-! ### Facts about single signals -/

namespace ControlCase

variable {w : BitVec 32} {c : ControlSignals}

theorem isSyscall_eq (hc : ControlCase w c) : c.isSyscall = false := by
  cases hc <;> rfl

theorem isCsr_eq (hc : ControlCase w c) : c.isCsr = false := by
  cases hc <;> rfl

theorem opcode_ne_system (hc : ControlCase w c) : opcodeOf w ≠ 0b1110011#7 := by
  cases hc with
  | _ h => rw [h]; decide

theorem wbSrc_ne_none (hc : ControlCase w c) (h : c.regWrite = true) : c.wbSrc ≠ .none := by
  cases hc <;> first | cases h; done | simp

theorem memRead_iff (hc : ControlCase w c) : c.memRead = true ↔ c.wbSrc = .fromMem := by
  cases hc <;> simp

theorem regWrite_of_memRead (hc : ControlCase w c) (h : c.memRead = true) :
    c.regWrite = true := by
  cases hc <;> first | rfl | cases h

theorem memWrite_of_memRead (hc : ControlCase w c) (h : c.memRead = true) :
    c.memWrite = false := by
  cases hc <;> first | rfl | cases h

/-- The instructions that write their return address are the two jumps. -/
theorem fromPcInc_iff (hc : ControlCase w c) :
    c.wbSrc = .fromPcInc ↔ c.branchOp = .jal ∨ c.branchOp = .jalr := by
  cases hc <;> simp
  rcases bTypeSignals_cases (funct3Of w) with h | h | h | h | h | h | h <;> rw [h] <;> decide

theorem branch_of_jump (hc : ControlCase w c) (h : c.branchOp = .jal ∨ c.branchOp = .jalr) :
    c.branch = true := by
  cases hc <;> simp at h ⊢

/-- A word whose second source register is not required has none. -/
theorem rs2IndexOf_eq_zero (hc : ControlCase w c)
    (h : RV5SHazardUnit.rs2Required c = false) : rs2IndexOf w = 0#5 := by
  have hjump := bTypeSignals_ne_jump (funct3Of w)
  cases hc with
  | rType ho => simp [RV5SHazardUnit.rs2Required] at h
  | store ho => simp [RV5SHazardUnit.rs2Required] at h
  | branch ho => simp [RV5SHazardUnit.rs2Required, hjump.1, hjump.2] at h
  | kMul ho => simp [RV5SHazardUnit.rs2Required] at h
  | _ ho => simp [rs2IndexOf, ho]

/-! ### Branch decisions

The execute stage reads the outcome of a branch off the result of a
subtraction or comparison, the decode stage compares the operands. -/

/-- The comparison bit as a 64-bit ALU result. -/
theorem ofBool_eq_one (b : Bool) : ((BitVec.ofBool b).setWidth 64 == 1#64) = b := by
  cases b <;> rfl

theorem ofBool_eq_zero (b : Bool) : ((BitVec.ofBool b).setWidth 64 == 0#64) = !b := by
  cases b <;> rfl

theorem sub_beq_zero (a b : BitVec 64) : (a - b == 0#64) = (a == b) := by
  rw [Bool.eq_iff_iff, beq_iff_eq, beq_iff_eq, BitVec.sub_eq_iff_eq_add, BitVec.zero_add]

/-- Both machines decide a branch the same way. -/
theorem branchOutcome_eq (hc : ControlCase w c) (hb : c.branch = true) {pc : BitVec 64}
    {imm : BitVec 32} {a b r : BitVec 64} (hr : aluResult c pc imm a b = .ok r) :
    RV5SEXVM.branchOutcome c.branchOp r = RV5SIDVM.actualTaken c.branchOp a b := by
  cases hc with
  | jal ho => rfl
  | jalr ho => rfl
  | branch ho =>
    rcases bTypeSignals_cases (funct3Of w) with h | h | h | h | h | h | h <;>
      rw [h] at hr ⊢ <;> cases hr
    · exact sub_beq_zero a b
    · exact congrArg not (sub_beq_zero a b)
    · exact ofBool_eq_one _
    · exact (ofBool_eq_zero _).trans BitVec.sle_eq_not_slt.symm
    · exact ofBool_eq_one _
    · exact (ofBool_eq_zero _).trans (BitVec.ule_eq_not_ult b a).symm
    · rfl
  | _ ho => cases hb

/-- Both machines send a taken branch to the same target. -/
theorem branchTarget_eq (hc : ControlCase w c) (hb : c.branch = true) {pc : BitVec 64}
    {imm : BitVec 32} {a b r : BitVec 64} (hr : aluResult c pc imm a b = .ok r)
    (ht : RV5SIDVM.actualTaken c.branchOp a b = true) :
    RV5SEXVM.branchTarget c.branchOp pc imm r = RV5SIDVM.actualTarget c.branchOp pc imm a b := by
  cases hc with
  | jal ho =>
    cases hr
    rfl
  | jalr ho =>
    cases hr
    rfl
  | branch ho =>
    rcases bTypeSignals_cases (funct3Of w) with h | h | h | h | h | h | h <;>
      simp only [h] at ht ⊢ <;>
      simp only [RV5SEXVM.branchTarget, RV5SIDVM.actualTarget, ht, if_true]
  | _ ho => cases hb

end ControlCase

end RiscvSim

import Mathlib.Tactic.IntervalCases
import RiscvSim.Vm.Equiv.Alu
import RiscvSim.Vm.Rv5s.Equiv.ExStages
import RiscvSim.Vm.Rvss.Equiv.Step

/-!
# The single-cycle and the pipelined machine, one instruction at a time

The two machines have control units written apart.  On the words the assembler
emits they agree but for two kinds:

* `WrongUpper`: a LUI or AUIPC with bit 29 set and bit 31 clear, whose operand
  the pipelined machines extend with ones;
* `TrapsAsNop`: a 32-bit division that the single-cycle machine traps on, and
  the pipelined machines take for a NOP.

**`runInstruction_agrees_iff`** says so of the two machines, `execWord_agrees_iff`
of the instruction sets they implement.
-/

namespace RiscvSim

open Lib RV5SControlUnit

/-! ### The operand of LUI and AUIPC -/

/-- The operand of LUI and AUIPC of the pipelined machines. -/
def upperOperand (immediate : BitVec 32) : BitVec 64 :=
  let shifted := offset64 immediate <<< 12
  if shifted &&& 0xA0000000#64 ≠ 0#64 then shifted ||| 0xFFFFFFFF00000000#64 else shifted

theorem immGenerator_of_upper {w : BitVec 32}
    (h : opcodeOf w = 0b0110111#7 ∨ opcodeOf w = 0b0010111#7) :
    immGenerator w = (w &&& 0xFFFFF000#32) >>> 12 := by
  unfold immGenerator
  rcases h with h | h <;> rw [h] <;> rfl

theorem shiftLeft_immGenerator {w : BitVec 32}
    (h : opcodeOf w = 0b0110111#7 ∨ opcodeOf w = 0b0010111#7) :
    immGenerator w <<< 12 = w &&& 0xFFFFF000#32 := by
  rw [immGenerator_of_upper h]
  ext i hi
  simp only [BitVec.getElem_shiftLeft, BitVec.getElem_ushiftRight, BitVec.getElem_and]
  interval_cases i <;> simp

theorem offset64_immGenerator {w : BitVec 32}
    (h : opcodeOf w = 0b0110111#7 ∨ opcodeOf w = 0b0010111#7) :
    offset64 (immGenerator w) <<< 12 = (w &&& 0xFFFFF000#32).setWidth 64 := by
  rw [immGenerator_of_upper h]
  ext i hi
  simp only [offset64, BitVec.getElem_shiftLeft, BitVec.getElem_setWidth,
    BitVec.getElem_signExtend, BitVec.getElem_ushiftRight, BitVec.msb_ushiftRight]
  interval_cases i <;> simp

theorem upper_and_mask (w : BitVec 32) :
    (w &&& 0xFFFFF000#32).setWidth 64 &&& 0xA0000000#64 ≠ 0#64 ↔
      w.getLsbD 29 = true ∨ w.getLsbD 31 = true := by
  constructor
  · intro h
    by_contra hne
    obtain ⟨h29, h31⟩ := not_or.mp hne
    refine h ?_
    ext i hi
    simp only [BitVec.getElem_and, BitVec.getElem_setWidth]
    interval_cases i <;> simp_all
  · intro h h0
    have hbit : ∀ i, ((w &&& 0xFFFFF000#32).setWidth 64 &&& 0xA0000000#64).getLsbD i = false := by
      intro i
      rw [h0, BitVec.getLsbD_zero]
    rcases h with h | h
    · have h29 : w.getLsbD 29 = false := by simpa using hbit 29
      exact Bool.noConfusion (h29.symm.trans h)
    · have h31 : w.getLsbD 31 = false := by simpa using hbit 31
      exact Bool.noConfusion (h31.symm.trans h)

theorem upperOperand_eq_iff {w : BitVec 32}
    (h : opcodeOf w = 0b0110111#7 ∨ opcodeOf w = 0b0010111#7) :
    upperOperand (immGenerator w) = (immGenerator w <<< 12).signExtend 64 ↔
      (w.getLsbD 29 = true → w.getLsbD 31 = true) := by
  unfold upperOperand
  rw [shiftLeft_immGenerator h, offset64_immGenerator h]
  dsimp only
  have hmsb : (w &&& 0xFFFFF000#32).msb = w.getLsbD 31 := by
    simp [BitVec.msb_eq_getLsbD_last]
  by_cases h31 : w.getLsbD 31 = true
  · rw [if_pos ((upper_and_mask w).mpr (.inr h31))]
    refine iff_of_true ?_ fun _ => h31
    ext i hi
    rw [BitVec.getElem_signExtend, hmsb, h31]
    simp only [BitVec.getElem_or, BitVec.getElem_setWidth]
    interval_cases i <;> simp
  · have hsign : (w &&& 0xFFFFF000#32).signExtend 64 = (w &&& 0xFFFFF000#32).setWidth 64 :=
      BitVec.signExtend_eq_setWidth_of_msb_false (by rw [hmsb]; exact Bool.eq_false_iff.mpr h31)
    rw [hsign]
    by_cases h29 : w.getLsbD 29 = true
    · rw [if_pos ((upper_and_mask w).mpr (.inl h29))]
      refine iff_of_false (fun heq => ?_) fun himp => h31 (himp h29)
      have hbit := congrArg (fun v : BitVec 64 => v.getLsbD 63) heq
      simp at hbit
    · rw [if_neg fun hm => ((upper_and_mask w).mp hm).elim h29 h31]
      exact iff_of_true rfl fun h => absurd h h29

/-! ### The words the machines disagree on -/

/-- A LUI or AUIPC whose operand the pipelined machines extend with ones though it is positive. -/
def WrongUpper (w : BitVec 32) : Prop :=
  (opcodeOf w = 0b0110111#7 ∨ opcodeOf w = 0b0010111#7) ∧ rdOf w ≠ 0#5 ∧
    w.getLsbD 29 = true ∧ w.getLsbD 31 = false

/-- A 32-bit division or remainder whose divisor is zero in its low half only,
or whose remainder overflows. -/
def TrapsAsNop (s : ArchState) (w : BitVec 32) : Prop :=
  let a := s.registers.readGpr (rs1Of w)
  let b := s.registers.readGpr (rs2Of w)
  opcodeOf w = 0b0111011#7 ∧ funct7Of w = 0b0000001#7 ∧ b ≠ 0#64 ∧
    ((funct3Of w = 0b101#3 ∨ funct3Of w = 0b110#3 ∨ funct3Of w = 0b111#3) ∧
        Alu.word b = 0#32 ∨
      funct3Of w = 0b110#3 ∧ Alu.word a = BitVec.intMin 32 ∧ Alu.word b = -1#32)

/-- What an instruction leaves: the registers, the memory and the program counter. -/
def ArchState.observe (s : ArchState) : (BitVec 5 → BitVec 64) × Memory × BitVec 64 :=
  (s.registers.readGpr, s.memory, s.pc)

namespace RVSSVM

variable {cfg : VmConfig} {fpu : FloatUnit} {vm : RVSSVM} {s : ArchState} {w : BitVec 32}

/-! ### The 32-bit operations -/

theorem isNop_of_word (h : opcodeOf w = 0b0111011#7 ∨ opcodeOf w = 0b0011011#7) :
    (getControlSignals w).isNop = true := by
  unfold getControlSignals
  split_ifs
  · rfl
  · rfl
  · rfl
  · rfl
  · rcases h with h | h <;> rw [h] <;> rfl

/-- The single-cycle machine runs the ALU for a 32-bit operation and drops its result. -/
theorem execWord_of_word (h : opcodeOf w = 0b0111011#7 ∨ opcodeOf w = 0b0011011#7) :
    execWord cfg s w = (aluOf s w).map fun _ => { s with pc := s.pc + 4#64 } := by
  unfold execWord resultOf loadOf storeOf nextOf integerResult RVSSControlUnit.setControlSignals
  rcases h with h | h <;> rw [h] <;> cases aluOf s w <;> rfl

theorem aluOf_of_wordImmediate (h : opcodeOf w = 0b0011011#7) : ∃ r, aluOf s w = .ok r := by
  have hsignal : RVSSControlUnit.getAluSignal w =
      RVSSControlUnit.iTypeWordAluSignal (funct3Of w) (funct7Of w) := by
    unfold RVSSControlUnit.getAluSignal
    dsimp only
    rw [h]
    rfl
  unfold aluOf
  dsimp only
  rw [hsignal]
  generalize (if (RVSSControlUnit.setControlSignals w).aluSrc = true then _ else _) = b
  unfold RVSSControlUnit.iTypeWordAluSignal
  split <;> exact ⟨_, rfl⟩

/-- The ALU traps on a 32-bit operation of two registers in the cases of `TrapsAsNop`. -/
theorem aluOf_of_wordRegister (h : opcodeOf w = 0b0111011#7) :
    (∃ r, aluOf s w = .ok r) ↔ ¬TrapsAsNop s w := by
  have hsrc : (RVSSControlUnit.setControlSignals w).aluSrc = false := by
    unfold RVSSControlUnit.setControlSignals
    rw [h]
    rfl
  unfold aluOf TrapsAsNop RVSSControlUnit.getAluSignal
  dsimp only
  rw [h, hsrc]
  generalize s.registers.readGpr (rs1Of w) = a
  generalize s.registers.readGpr (rs2Of w) = b
  unfold RVSSControlUnit.rTypeWordAluSignal
  simp only [Bool.false_eq_true, if_false, Alu.exists_execute_iff]
  split
  · simp [Alu.DivisionDefined, *]
  · simp [Alu.DivisionDefined, *]
  · simp [Alu.DivisionDefined, *]
  · simp [Alu.DivisionDefined, *]
  · simp [Alu.DivisionDefined, *]
  · simp [Alu.DivisionDefined, *]
  · simp [Alu.DivisionDefined, *]
  · simp [Alu.DivisionDefined, *, or_iff_not_imp_left]
  · simp only [Alu.DivisionDefined, *]
    have hzero : b = 0#64 → Alu.word b ≠ -1#32 := by
      rintro rfl
      decide
    simp
    tauto
  · simp [Alu.DivisionDefined, *, or_iff_not_imp_left]
  · rename_i h8 h9 h10
    refine iff_of_true trivial ?_
    rintro ⟨-, h1, -, ⟨h5 | h6 | h7, -⟩ | ⟨h6, -⟩⟩
    · exact h8 h5 h1
    · exact h9 h6 h1
    · exact h10 h7 h1
    · exact h9 h6 h1

/-! ### The other operations -/

theorem bTypeSignals_eq (funct3 : BitVec 3) :
    (bTypeSignals funct3).1 = RVSSControlUnit.bTypeAluSignal funct3 := by
  revert funct3
  decide

/-- The ALU has the same operands and operation, but for LUI, AUIPC and JAL. -/
theorem resultOf_eq_alu {c : ControlSignals} (hc : ControlCase w c)
    (hsrc : c.aluSrcA = .rs1) (hk : opcodeOf w ≠ 0b0000001#7) :
    resultOf s w = aluResult c s.pc (immGenerator w) (s.operandA w) (s.operandB w) := by
  unfold resultOf aluOf ArchState.operandA ArchState.operandB rs1IndexOf rs2IndexOf
    RVSSControlUnit.setControlSignals RVSSControlUnit.getAluSignal
  dsimp only
  cases hc with
  | rType h =>
    rw [h]
    rfl
  | load h =>
    rw [h]
    rfl
  | store h =>
    rw [h]
    rfl
  | branch h =>
    rw [h]
    unfold aluResult
    rw [bTypeSignals_eq]
    rfl
  | iType h =>
    rw [h]
    rfl
  | jalr h =>
    rw [h]
    rfl
  | lui h => cases hsrc
  | auipc h => cases hsrc
  | jal h => cases hsrc
  | kMul h => exact absurd h hk

theorem loadOf_eq_load {c : ControlSignals} (hc : ControlCase w c) (x : BitVec 64) :
    loadOf s w x = if c.memRead then loadMemory s.memory c.memReadOp x else .ok 0#64 := by
  unfold loadOf RVSSControlUnit.setControlSignals
  cases hc with
  | load h =>
    rw [h]
    show loadInteger s.memory (funct3Of w) x 0#64 = loadMemory s.memory (loadReadOp (funct3Of w)) x
    have hcases : ∀ funct3 : BitVec 3,
        funct3 = 0b000#3 ∨ funct3 = 0b001#3 ∨ funct3 = 0b010#3 ∨ funct3 = 0b011#3 ∨
          funct3 = 0b100#3 ∨ funct3 = 0b101#3 ∨ funct3 = 0b110#3 ∨ funct3 = 0b111#3 := by decide
    rcases hcases (funct3Of w) with h | h | h | h | h | h | h | h <;> rw [h] <;> rfl
  | _ h =>
    rw [h]
    rfl

theorem storeOf_eq_store {c : ControlSignals} (hc : ControlCase w c) (x : BitVec 64) :
    storeOf cfg s w x = if c.memWrite then
        forgetState (storeMemory cfg s.memory c.memWriteOp x (s.operandB w))
      else .ok s.memory := by
  unfold storeOf ArchState.operandB rs2IndexOf RVSSControlUnit.setControlSignals
  cases hc with
  | store h =>
    rw [h]
    have hcases : ∀ funct3 : BitVec 3,
        funct3 = 0b000#3 ∨ funct3 = 0b001#3 ∨ funct3 = 0b010#3 ∨ funct3 = 0b011#3 ∨
          funct3 = 0b100#3 ∨ funct3 = 0b101#3 ∨ funct3 = 0b110#3 ∨ funct3 = 0b111#3 := by decide
    rcases hcases (funct3Of w) with h | h | h | h | h | h | h | h <;> rw [h] <;> rfl
  | _ h =>
    rw [h]
    rfl

/-- Both machines branch on the ALU result in the same way. -/
theorem branchFlagOf_eq_branchOutcome {x : BitVec 64} (funct3 : BitVec 3) :
    branchFlagOf funct3 x false = RV5SEXVM.branchOutcome (bTypeSignals funct3).2 x := by
  have hcases : ∀ funct3 : BitVec 3,
      funct3 = 0b000#3 ∨ funct3 = 0b001#3 ∨ funct3 = 0b010#3 ∨ funct3 = 0b011#3 ∨
        funct3 = 0b100#3 ∨ funct3 = 0b101#3 ∨ funct3 = 0b110#3 ∨ funct3 = 0b111#3 := by decide
  rcases hcases funct3 with h | h | h | h | h | h | h | h <;> rw [h] <;> rfl

/-- The next program counter, from the ALU result of the pipelined machines. -/
theorem nextOf_eq_nextPc {c : ControlSignals} (hc : ControlCase w c) {x y : BitVec 64}
    (hy : aluResult c s.pc (immGenerator w) (s.operandA w) (s.operandB w) = .ok y)
    (hx : c.aluSrcA = .rs1 → x = y) :
    nextOf s w x = RiscvSim.nextPc c s.pc (immGenerator w) (s.operandA w) (s.operandB w) := by
  unfold nextOf RiscvSim.nextPc
  cases hc with
  | branch h =>
    have hout := (ControlCase.branch h).branchOutcome_eq rfl hy
    rw [h, hx rfl]
    show (if branchFlagOf _ _ _ = true then _ else _) = if (true && _) = true then _ else _
    rw [branchFlagOf_eq_branchOutcome, hout, Bool.true_and]
    by_cases ht : RV5SIDVM.actualTaken (bTypeSignals (funct3Of w)).2 (s.operandA w)
        (s.operandB w) = true
    · have htarget := (ControlCase.branch h).branchTarget_eq rfl hy ht
      rw [if_pos ht, if_pos ht, ← htarget]
      rcases bTypeSignals_cases (funct3Of w) with h | h | h | h | h | h | h <;> rw [h] <;> rfl
    · rw [if_neg ht, if_neg ht]
  | jalr h =>
    rw [h, hx rfl, ← Except.ok.inj hy]
    rfl
  | _ h =>
    rw [h]
    rfl

/-- The registers, when LUI and AUIPC have written the value of the pipelined machines. -/
theorem integerResult_eq_writeResult {c : ControlSignals} (hc : ControlCase w c)
    (hk : opcodeOf w ≠ 0b0000001#7) {x y v p : BitVec 64} {r : RegisterFile}
    (hx : c.aluSrcA = .rs1 → x = y)
    (hlui : opcodeOf w = 0b0110111#7 → (immGenerator w <<< 12).signExtend 64 = y)
    (hauipc : opcodeOf w = 0b0010111#7 → x = y) :
    integerResult (RVSSControlUnit.setControlSignals w).regWrite w x v p r =
      writeResult c (rdOf w) (resultValue c.wbSrc y v p) r := by
  unfold integerResult writeResult RVSSControlUnit.setControlSignals
  cases hc with
  | rType h =>
    rw [hx rfl, h]
    rfl
  | iType h =>
    rw [hx rfl, h]
    rfl
  | lui h =>
    rw [← hlui h, h]
    rfl
  | auipc h =>
    rw [hauipc h, h]
    rfl
  | kMul h => exact absurd h hk
  | _ h =>
    rw [h]
    rfl

/-- What LUI and AUIPC add their operand to. -/
def upperBase (s : ArchState) (w : BitVec 32) : BitVec 64 :=
  if opcodeOf w = 0b0010111#7 then s.pc else 0#64

theorem isNop_of_upper (h : opcodeOf w = 0b0110111#7 ∨ opcodeOf w = 0b0010111#7) :
    (getControlSignals w).isNop = false := by
  have hne : ∀ v : BitVec 32, opcodeOf v ≠ 0b0110111#7 → opcodeOf v ≠ 0b0010111#7 → w ≠ v := by
    intro v h1 h2 hv
    rw [hv] at h
    exact h.elim h1 h2
  unfold getControlSignals
  rw [if_neg (hne _ (by decide) (by decide)), if_neg (hne _ (by decide) (by decide)),
    if_neg (hne _ (by decide) (by decide))]
  rcases h with h | h <;> rw [h] <;> rfl

theorem execWord_of_upper (h : opcodeOf w = 0b0110111#7 ∨ opcodeOf w = 0b0010111#7) :
    execWord cfg s w = .ok {
      pc := s.pc + 4#64
      registers := s.registers.writeGpr (rdOf w)
        (upperBase s w + (immGenerator w <<< 12).signExtend 64)
      memory := s.memory } := by
  rcases h with h | h
  · have hbase : upperBase s w = 0#64 := by
      unfold upperBase
      rw [h]
      rfl
    rw [hbase, BitVec.zero_add]
    unfold execWord resultOf aluOf loadOf storeOf nextOf integerResult
      RVSSControlUnit.setControlSignals RVSSControlUnit.getAluSignal
    rw [h]
    rfl
  · have hbase : upperBase s w = s.pc := by
      unfold upperBase
      rw [h]
      rfl
    rw [hbase]
    unfold execWord resultOf aluOf loadOf storeOf nextOf integerResult
      RVSSControlUnit.setControlSignals RVSSControlUnit.getAluSignal
    rw [h]
    rfl

theorem exec_of_upper (h : opcodeOf w = 0b0110111#7 ∨ opcodeOf w = 0b0010111#7) :
    s.exec cfg w = .ok {
      pc := s.pc + 4#64
      registers := s.registers.writeGpr (rdOf w) (upperBase s w + upperOperand (immGenerator w))
      memory := s.memory } := by
  have hnop := isNop_of_upper h
  have hc := controlCase_getControlSignals hnop
  unfold ArchState.exec ArchState.alu ArchState.load ArchState.store upperBase
  dsimp only
  rw [if_neg (by rw [hnop]; decide)]
  generalize getControlSignals w = c at hc
  cases hc with
  | lui h' =>
    rw [h', if_neg (by decide)]
    rfl
  | auipc h' =>
    rw [h', if_pos rfl]
    rfl
  | _ h' =>
    rw [h'] at h
    exact absurd h (by decide)

/-- The two machines write the same value for LUI and AUIPC unless the word is a `WrongUpper`. -/
theorem upper_agrees_iff (h : opcodeOf w = 0b0110111#7 ∨ opcodeOf w = 0b0010111#7) :
    (execWord cfg s w).map ArchState.observe = (s.exec cfg w).map ArchState.observe ↔
      ¬WrongUpper w := by
  rw [execWord_of_upper h, exec_of_upper h]
  have hvalue : upperBase s w + (immGenerator w <<< 12).signExtend 64 =
      upperBase s w + upperOperand (immGenerator w) ↔
        (w.getLsbD 29 = true → w.getLsbD 31 = true) := by
    rw [BitVec.add_right_inj, eq_comm]
    exact upperOperand_eq_iff h
  constructor
  · rintro heq ⟨-, hrd, h29, h31⟩
    have hregs := congrArg (fun t => t.1 (rdOf w)) (Except.ok.inj heq)
    dsimp only [ArchState.observe] at hregs
    rw [RegisterFile.readGpr_writeGpr_self _ _ hrd, RegisterFile.readGpr_writeGpr_self _ _ hrd,
      hvalue] at hregs
    exact Bool.noConfusion (h31.symm.trans (hregs h29))
  · intro hwrong
    by_cases hrd : rdOf w = 0#5
    · simp only [hrd, RegisterFile.writeGpr_zero]
    · have himp : w.getLsbD 29 = true → w.getLsbD 31 = true := by
        intro h29
        by_contra h31
        exact hwrong ⟨h, hrd, h29, Bool.eq_false_iff.mpr h31⟩
      rw [hvalue.mpr himp]

/-- Where neither LUI nor AUIPC is concerned, the two machines compute the same state. -/
theorem execWord_eq_exec (hnop : (getControlSignals w).isNop = false)
    (hk : opcodeOf w ≠ 0b0000001#7) (hlui : opcodeOf w ≠ 0b0110111#7) (hauipc : opcodeOf w ≠ 0b0010111#7) :
    execWord cfg s w = s.exec cfg w := by
  have hc := controlCase_getControlSignals hnop
  have hagree : (getControlSignals w).aluSrcA = .rs1 ∧ resultOf s w = s.alu w ∨
      ∃ x y, resultOf s w = .ok x ∧ s.alu w = .ok y ∧
        (getControlSignals w).aluSrcA ≠ .rs1 ∧ (getControlSignals w).memRead = false ∧
        (getControlSignals w).memWrite = false := by
    by_cases hsrc : (getControlSignals w).aluSrcA = .rs1
    · exact .inl ⟨hsrc, resultOf_eq_alu hc hsrc hk⟩
    · refine .inr ?_
      unfold resultOf aluOf ArchState.alu RVSSControlUnit.getAluSignal
      generalize getControlSignals w = c at hc hsrc
      cases hc with
      | jal h =>
        rw [h]
        exact ⟨_, _, rfl, rfl, hsrc, rfl, rfl⟩
      | lui h => exact absurd h hlui
      | auipc h => exact absurd h hauipc
      | _ h => exact absurd rfl hsrc
  unfold execWord ArchState.exec ArchState.load ArchState.store
  dsimp only
  rw [if_neg (by rw [hnop]; decide)]
  simp only [loadOf_eq_load hc, storeOf_eq_store hc]
  rcases hagree with ⟨hsrc, halu⟩ | ⟨x, y, hx, hy, hsrc, hread, hwrite⟩
  · rw [halu]
    cases hy : s.alu w with
    | error e => rfl
    | ok y =>
      simp only [ok_bind, nextOf_eq_nextPc hc hy fun _ => rfl,
        integerResult_eq_writeResult hc hk (fun _ => rfl) (fun h => absurd h hlui) fun _ => rfl]
  · have hregisters := integerResult_eq_writeResult (x := x) (y := y) (v := 0#64)
      (p := s.pc + 4#64) (r := s.registers) hc hk (fun h => absurd h hsrc) (fun h => absurd h hlui)
      fun h => absurd h hauipc
    rw [hx, hy, hread, hwrite]
    simp only [ok_bind, Bool.false_eq_true, if_false,
      nextOf_eq_nextPc hc hy fun h => absurd h hsrc, hregisters]

/-- The words the assembler emits that the pipelined machines take for a NOP. -/
theorem isNop_of_isEmittedInteger (hw : isEmittedInteger w = true)
    (hnop : (getControlSignals w).isNop = true) :
    w = 0x00000013#32 ∨ w = 0x00000033#32 ∨
      opcodeOf w = 0b0111011#7 ∨ opcodeOf w = 0b0011011#7 := by
  obtain ⟨hop, -, -⟩ := opcode_of_isEmittedInteger hw
  unfold getControlSignals at hnop
  split_ifs at hnop with h0 h1 h2 h3
  · rw [h0] at hop
    exact absurd hop (by decide)
  · exact .inl h1
  · exact .inr (.inl h2)
  · rcases hop with h | h | h | h | h | h | h | h | h | h | h <;> rw [h] at h3 <;> cases h3
  · rcases hop with h | h | h | h | h | h | h | h | h | h | h <;> rw [h] at hnop
    all_goals first
      | exact .inr (.inr (.inl h))
      | exact .inr (.inr (.inr h))
      | cases hnop

theorem execWord_of_nop (h : w = 0x00000013#32 ∨ w = 0x00000033#32) :
    execWord cfg s w = .ok { s with pc := s.pc + 4#64 } := by
  rcases h with rfl | rfl <;> rfl

/-- The two instruction sets agree on an emitted word unless it is one of the two kinds. -/
theorem execWord_agrees_iff (hw : isEmittedInteger w = true) :
    (execWord cfg s w).map ArchState.observe = (s.exec cfg w).map ArchState.observe ↔
      ¬WrongUpper w ∧ ¬TrapsAsNop s w := by
  by_cases hword : opcodeOf w = 0b0111011#7 ∨ opcodeOf w = 0b0011011#7
  · have hupper : ¬WrongUpper w := by
      rintro ⟨h, -⟩
      rcases hword with h' | h' <;> rw [h'] at h <;> exact absurd h (by decide)
    rw [ArchState.exec_of_isNop (isNop_of_word hword), execWord_of_word hword]
    have htraps : (∃ r, aluOf s w = .ok r) ↔ ¬TrapsAsNop s w := by
      rcases hword with h | h
      · exact aluOf_of_wordRegister h
      · refine iff_of_true (aluOf_of_wordImmediate h) fun ht => ?_
        exact absurd (ht.1.symm.trans h) (by decide)
    rw [and_iff_right hupper, ← htraps]
    cases haluOf : aluOf s w with
    | ok r => exact iff_of_true rfl ⟨r, rfl⟩
    | error e =>
      refine iff_of_false (fun h => ?_) fun ⟨r, h⟩ => ?_
      · cases h
      · cases h
  · have htraps : ¬TrapsAsNop s w := fun h => hword (.inl h.1)
    rw [and_iff_left htraps]
    by_cases hupper : opcodeOf w = 0b0110111#7 ∨ opcodeOf w = 0b0010111#7
    · exact upper_agrees_iff hupper
    · obtain ⟨hlui, hauipc⟩ := not_or.mp hupper
      refine iff_of_true ?_ fun h => hupper h.1
      cases hnop : (getControlSignals w).isNop with
      | true =>
        have hnop' : w = 0x00000013#32 ∨ w = 0x00000033#32 := by
          rcases isNop_of_isEmittedInteger hw hnop with h | h | h
          · exact .inl h
          · exact .inr h
          · exact absurd h hword
        rw [execWord_of_nop hnop', ArchState.exec_of_isNop hnop]
      | false =>
        have hk : opcodeOf w ≠ 0b0000001#7 := by
          intro h
          have hop := (opcode_of_isEmittedInteger hw).1
          rw [h] at hop
          exact absurd hop (by decide)
        rw [execWord_eq_exec hnop hk hlui hauipc]

/-- The machine computes `execWord`, faults included, unless an access faults. -/
theorem runInstruction_eq_execWord (hf : vm.arch.fetch = .ok w)
    (hint : isIntegerInstruction w = true)
    (hmemory : ∀ e, vm.runInstruction cfg fpu = .error e → ¬e.1.IsMemory) :
    (forgetState (vm.runInstruction cfg fpu)).map arch = execWord cfg vm.arch w := by
  cases hrun : vm.runInstruction cfg fpu with
  | ok vm' => exact (runInstruction_integer hf hint hrun).1.symm
  | error e => exact (execWord_of_fault hf hint hrun (hmemory e hrun)).symm

end RVSSVM

namespace RV5SEXVM

/-- A word alone in the pipeline is executed as the abstract machine does, faults included. -/
theorem passAlone_eq_exec (cfg : VmConfig) {vm : RV5SEXVM} (he : vm.IsEmpty) (w : BitVec 32) :
    (forgetState (passAlone cfg (vm.fetched w))).map Rv5sVm.arch =
      (Rv5sVm.arch vm).exec cfg w := by
  rcases passAlone_eq cfg he w with ⟨vm', hpass, hexec, -, -⟩ | ⟨e, hpass, hexec⟩
  · rw [hpass, hexec]
    rfl
  · rw [hpass, hexec]
    rfl

end RV5SEXVM

/-- **The two machines agree on an instruction** the assembler emits, with no
fault of the memory, exactly when it is neither a LUI or AUIPC whose operand
the pipelined machine extends wrongly nor a division that the single-cycle
machine traps on. -/
theorem runInstruction_agrees_iff {cfg : VmConfig} {fpu : FloatUnit} {vm : RVSSVM}
    {pipe : RV5SEXVM} {w : BitVec 32} (hw : isEmittedInteger w = true)
    (hf : vm.memoryController.readWord vm.programCounter = .ok w)
    (hempty : Rv5sVm.IsEmpty pipe) (hsame : Rv5sVm.arch pipe = vm.arch)
    (hmemory : ∀ e, vm.runInstruction cfg fpu = .error e → ¬e.1.IsMemory) :
    (forgetState (vm.runInstruction cfg fpu)).map (fun vm' => vm'.arch.observe) =
        (forgetState (RV5SEXVM.passAlone cfg (pipe.fetched w))).map
          (fun pipe' => (Rv5sVm.arch pipe').observe) ↔
      ¬WrongUpper w ∧ ¬TrapsAsNop vm.arch w := by
  have hint := isIntegerInstruction_of_isEmittedInteger hw
  have hmap : ∀ {α β γ : Type} (f : α → β) (g : β → γ) (x : Except Fault α),
      x.map (fun a => g (f a)) = (x.map f).map g := by
    intro α β γ f g x
    cases x <;> rfl
  rw [hmap RVSSVM.arch ArchState.observe, hmap Rv5sVm.arch ArchState.observe,
    RVSSVM.runInstruction_eq_execWord hf hint hmemory, RV5SEXVM.passAlone_eq_exec cfg hempty,
    hsame]
  exact RVSSVM.execWord_agrees_iff hw

/-- The memory with the word `w` at address zero. -/
def memoryHolding (w : BitVec 32) : Memory :=
  ((Memory.new {}).writeWord {} 0#64 w).toOption.getD (.new {})

/-- The single-cycle machine before the word `w`, all registers zero. -/
def RVSSVM.before (w : BitVec 32) : RVSSVM :=
  { RVSSVM.new {} with memoryController := memoryHolding w }

/-- The pipelined machine before the word `w`, all registers zero. -/
def RV5SEXVM.before (w : BitVec 32) : RV5SEXVM :=
  { Rv5sVm.blank {} with memoryController := memoryHolding w }

/-- `addi x1, x0, 5` -/
theorem runInstruction_agrees_iff_addi :
    (forgetState ((RVSSVM.before 0x00500093#32).runInstruction {} .zeros)).map
        (fun vm' => vm'.arch.observe) =
      (forgetState (RV5SEXVM.passAlone {}
        ((RV5SEXVM.before 0x00500093#32).fetched 0x00500093#32))).map
          (fun pipe' => (Rv5sVm.arch pipe').observe) := by
  have hok : ((RVSSVM.before 0x00500093#32).runInstruction {} .zeros).toOption.isSome = true := by
    decide +kernel
  refine (runInstruction_agrees_iff (by decide) (by decide +kernel) ⟨rfl, rfl, rfl, rfl⟩ rfl
    fun e he => ?_).mpr ⟨?_, ?_⟩
  · rw [he] at hok
    cases hok
  · exact fun h => absurd h.1 (by decide)
  · exact fun h => absurd h.1 (by decide)

/-- `lui x1, 0x20000`: the pipelined machine extends the positive operand with ones. -/
theorem lui_disagrees :
    isEmittedInteger 0x200000b7#32 = true ∧
      (RVSSVM.before 0x200000b7#32).memoryController.readWord
        (RVSSVM.before 0x200000b7#32).programCounter = .ok 0x200000b7#32 ∧
      Rv5sVm.IsEmpty (RV5SEXVM.before 0x200000b7#32) ∧
      Rv5sVm.arch (RV5SEXVM.before 0x200000b7#32) = (RVSSVM.before 0x200000b7#32).arch ∧
      (∃ vm' pipe', (RVSSVM.before 0x200000b7#32).runInstruction {} .zeros = .ok vm' ∧
        RV5SEXVM.passAlone {} ((RV5SEXVM.before 0x200000b7#32).fetched 0x200000b7#32) =
          .ok pipe' ∧
        vm'.registers.readGpr 1#5 = 0x20000000#64 ∧
        pipe'.registers.readGpr 1#5 = 0xffffffff20000000#64) := by
  refine ⟨by decide, by decide +kernel, ⟨rfl, rfl, rfl, rfl⟩, rfl, ?_⟩
  refine ⟨_, _, eq_ok_getD (RVSSVM.before 0) (by decide +kernel),
    eq_ok_getD (RV5SEXVM.before 0) (by decide +kernel), by decide +kernel, by decide +kernel⟩

end RiscvSim

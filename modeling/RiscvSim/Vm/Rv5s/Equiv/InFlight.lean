import RiscvSim.Lib.Bypass
import RiscvSim.Vm.Equiv.MainMemory
import RiscvSim.Vm.Rv5s.Equiv.ControlUnit

/-!
# An instruction on its way through the pipeline

For each latch, what it holds when an instruction of the abstract machine sits
in it (`IdExOk`, `ExMemOk`, `MemWbOk`), and that the stages of the pipelined
machines take one to the next: decode (`idExOk_decodedIdEx`), execute
(`exMemOk_of_idExOk`), memory (`memoryStage_eq`) and write-back, which is the
definition of `MemWbOk`.
-/

namespace RiscvSim

open RV5SControlUnit Lib

/-! ### The abstract step -/

namespace ArchState

variable {cfg : VmConfig} {s s' : ArchState} {w : BitVec 32}

theorem exec_of_isNop (h : (getControlSignals w).isNop = true) :
    s.exec cfg w = .ok { s with pc := s.pc + 4#64 } := by
  simp only [exec, h, if_true]

theorem exec_of_alu_error {e : Fault} (hnop : (getControlSignals w).isNop = false)
    (hx : s.alu w = .error e) : s.exec cfg w = .error e := by
  unfold exec
  dsimp only
  rw [if_neg (by rw [hnop]; decide), hx]
  rfl

/-- The parts of the execution of an instruction that is no NOP. -/
theorem exec_eq_ok (hnop : (getControlSignals w).isNop = false) :
    s.exec cfg w = .ok s' ↔
      ∃ result loaded memory, s.alu w = .ok result ∧ s.load w result = .ok loaded ∧
        s.store cfg w result = .ok memory ∧
        s' = {
          pc := nextPc (getControlSignals w) s.pc (immGenerator w) (s.operandA w) (s.operandB w)
          registers := writeResult (getControlSignals w) (rdOf w)
            (resultValue (getControlSignals w).wbSrc result loaded (s.pc + 4#64)) s.registers
          memory := memory } := by
  unfold exec
  simp only [hnop, Bool.false_eq_true, if_false, bind_eq_ok, pure_eq_ok, Except.ok.injEq]
  constructor
  · rintro ⟨result, h1, loaded, h2, memory, h3, h4⟩
    exact ⟨result, loaded, memory, h1, h2, h3, h4.symm⟩
  · rintro ⟨result, loaded, memory, h1, h2, h3, h4⟩
    exact ⟨result, h1, loaded, h2, memory, h3, h4.symm⟩

end ArchState

/-! ### The latches -/

/-- The first latch holds the word `w` fetched in state `s`. -/
structure IfIdOk (s : ArchState) (w : BitVec 32) (l : IfIdReg) : Prop where
  isValid : l.isValid = true
  instruction : l.instruction = w
  pc : l.pc = s.pc
  pcInc : l.pcInc = s.pc + 4#64

/-- The second latch holds the word `w` of state `s`; nothing is said about the
register values, which forwarding may still replace. -/
structure IdExOk (s : ArchState) (w : BitVec 32) (l : IdExReg) : Prop where
  isValid : l.isValid = true
  control : l.control = getControlSignals w
  pc : l.pc = s.pc
  pcInc : l.pcInc = s.pc + 4#64
  immediate : l.control.isNop = false → l.immediate = immGenerator w
  rs1Index : l.control.isNop = false → l.rs1Index = rs1IndexOf w
  rs2Index : l.control.isNop = false → l.rs2Index = rs2IndexOf w
  rdIndex : l.control.isNop = false → l.rdIndex = rdOf w

/-- The operands `a` and `b` of the execute stage are those of the abstract
machine, the first one where it is used. -/
structure OperandsOk (s : ArchState) (w : BitVec 32) (a b : BitVec 64) : Prop where
  left : (getControlSignals w).aluSrcA = .rs1 → a = s.operandA w
  right : b = s.operandB w

/-- The third latch holds the word `w` of state `s`. -/
structure ExMemOk (s : ArchState) (w : BitVec 32) (l : ExMemReg) : Prop where
  isValid : l.isValid = true
  control : l.control = getControlSignals w
  pcInc : l.control.isNop = false → l.pcInc = s.pc + 4#64
  aluResult : l.control.isNop = false → s.alu w = .ok l.aluResult
  storeData : l.control.isNop = false → l.storeData = s.operandB w
  rdIndex : l.control.isNop = false → l.rdIndex = rdOf w

/-- The last latch holds an instruction whose write-back leads from the
registers of `s` to those of `s'`. -/
structure MemWbOk (s : ArchState) (w : BitVec 32) (s' : ArchState) (l : MemWbReg) : Prop where
  isValid : l.isValid = true
  control : l.control = getControlSignals w
  writeBack : l.writeBack s.registers = s'.registers
  rdIndex : l.control.isNop = false → l.rdIndex = rdOf w

/-! ### Decode -/

variable {cfg : VmConfig} {s s' : ArchState} {w : BitVec 32}

theorem idExOk_passedIdEx {vm : Rv5sVm} (h : IfIdOk s w vm.ifIdReg)
    (hnop : (getControlSignals w).isNop = true) :
    IdExOk s w (vm.passedIdEx (getControlSignals w)) where
  isValid := h.isValid
  control := rfl
  pc := h.pc
  pcInc := h.pcInc
  immediate := fun hn => by simp [Rv5sVm.passedIdEx, hnop] at hn
  rs1Index := fun hn => by simp [Rv5sVm.passedIdEx, hnop] at hn
  rs2Index := fun hn => by simp [Rv5sVm.passedIdEx, hnop] at hn
  rdIndex := fun hn => by simp [Rv5sVm.passedIdEx, hnop] at hn

theorem idExOk_decodedIdEx {vm : Rv5sVm} (h : IfIdOk s w vm.ifIdReg) :
    IdExOk s w (vm.decodedIdEx (getControlSignals w)) where
  isValid := h.isValid
  control := rfl
  pc := h.pc
  pcInc := h.pcInc
  immediate := fun _ => congrArg immGenerator h.instruction
  rs1Index := fun _ => congrArg rs1IndexOf h.instruction
  rs2Index := fun _ => congrArg rs2IndexOf h.instruction
  rdIndex := fun _ => congrArg rdOf h.instruction

/-! ### Execute -/

/-- The ALU does not look at the first register operand of LUI, AUIPC and JAL. -/
theorem aluResult_congr_left {c : ControlSignals} (h : c.aluSrcA ≠ .rs1) (pc : BitVec 64)
    (imm : BitVec 32) (a a' b : BitVec 64) : aluResult c pc imm a b = aluResult c pc imm a' b := by
  unfold aluResult aluOperands
  cases hc : c.aluSrcA with
  | rs1 => exact absurd hc h
  | zero => rfl
  | pc => rfl

theorem aluResult_of_operandsOk {a b : BitVec 64} (h : OperandsOk s w a b) :
    aluResult (getControlSignals w) s.pc (immGenerator w) a b = s.alu w := by
  unfold ArchState.alu
  rw [h.right]
  by_cases hsrc : (getControlSignals w).aluSrcA = .rs1
  · rw [h.left hsrc]
  · exact aluResult_congr_left hsrc _ _ _ _ _

theorem executionResult_eq {vm : Rv5sVm} (h : IdExOk s w vm.idExReg)
    (hnop : (getControlSignals w).isNop = false) (hops : OperandsOk s w vm.dataAluA vm.dataAluB) :
    vm.executionResult = s.alu w := by
  have hn : vm.idExReg.control.isNop = false := by rw [h.control, hnop]
  unfold Rv5sVm.executionResult
  rw [h.control, h.pc, h.immediate hn, aluResult_of_operandsOk hops]

/-- What execute latches for an instruction that is no NOP. -/
theorem exMemOk_latchExMem {vm : Rv5sVm} {r : BitVec 64} (h : IdExOk s w vm.idExReg)
    (hnop : (getControlSignals w).isNop = false) (hops : OperandsOk s w vm.dataAluA vm.dataAluB)
    (hr : s.alu w = .ok r) : ExMemOk s w (vm.latchExMem r).nextExMemReg := by
  have hn : vm.idExReg.control.isNop = false := by rw [h.control, hnop]
  exact {
    isValid := h.isValid
    control := h.control
    pcInc := fun _ => h.pcInc
    aluResult := fun _ => hr
    storeData := fun _ => hops.right
    rdIndex := fun _ => h.rdIndex hn }

/-- What execute latches for a NOP. -/
theorem exMemOk_of_isNop {l : IdExReg} {l' : ExMemReg} (h : IdExOk s w l)
    (hnop : (getControlSignals w).isNop = true) :
    ExMemOk s w { l' with control := l.control, isValid := l.isValid } where
  isValid := h.isValid
  control := h.control
  pcInc := fun hn => by simp [h.control, hnop] at hn
  aluResult := fun hn => by simp [h.control, hnop] at hn
  storeData := fun hn => by simp [h.control, hnop] at hn
  rdIndex := fun hn => by simp [h.control, hnop] at hn

/-! ### Memory and write-back -/

/-- The write-back of a latch with the control signals of a known word. -/
theorem writeBack_eq {l : MemWbReg} (hc : ControlCase w l.control) (hrd : l.rdIndex = rdOf w)
    (registers : RegisterFile) :
    l.writeBack registers = writeResult l.control (rdOf w) l.writeBackData registers := by
  unfold MemWbReg.writeBack writeResult
  rw [hc.isSyscall_eq, hc.isCsr_eq, hrd]
  by_cases hw : l.control.regWrite = true
  · have hsrc := hc.wbSrc_ne_none hw
    by_cases hz : rdOf w = 0#5
    · simp [hw, hz]
    · simp [hw, hz, hsrc]
  · simp [hw]

/-- The memory stage completes the memory accesses of the abstract step and
hands the write-back on. -/
theorem memoryStage_eq (vm : Rv5sVm) (h : ExMemOk s w vm.exMemReg)
    (hmem : vm.memoryController = s.memory) (hs : s.exec cfg w = .ok s') :
    ∃ l, vm.memoryStage cfg = .ok { vm with memoryController := s'.memory, nextMemWbReg := l } ∧
      MemWbOk s w s' l := by
  have hvalid : (!vm.exMemReg.isValid) = false := by rw [h.isValid]; rfl
  unfold Rv5sVm.memoryStage
  simp only [hvalid, Bool.false_eq_true, if_false]
  cases hnop : (getControlSignals w).isNop with
  | true =>
    rw [ArchState.exec_of_isNop hnop] at hs
    cases hs
    refine ⟨{ vm.nextMemWbReg with
      isValid := vm.exMemReg.isValid
      control := vm.exMemReg.control }, ?_, h.isValid, h.control, ?_, fun hn => ?_⟩
    · simp only [h.control, hnop, Bool.true_or, if_true, ← hmem]
    · simp [MemWbReg.writeBack, h.control, signals_of_isNop hnop]
    · simp [h.control, hnop] at hn
  | false =>
    have hc : ControlCase w vm.exMemReg.control := by
      rw [h.control]
      exact controlCase_getControlSignals hnop
    have hn : vm.exMemReg.control.isNop = false := by rw [h.control, hnop]
    obtain ⟨result, loaded, memory, halu, hload, hstore, rfl⟩ := (ArchState.exec_eq_ok hnop).mp hs
    have hres : vm.exMemReg.aluResult = result :=
      Except.ok.inj ((h.aluResult hn).symm.trans halu)
    unfold ArchState.load at hload
    unfold ArchState.store at hstore
    rw [← h.control, ← hmem] at hload hstore
    simp only [hn, hc.isSyscall_eq, hc.isCsr_eq, Bool.or_false, Bool.false_eq_true, if_false]
    by_cases hread : vm.exMemReg.control.memRead = true
    · have hsrc := hc.memRead_iff.mp hread
      have hwrite : vm.exMemReg.control.memWrite = false := hc.memWrite_of_memRead hread
      simp only [hread, hwrite, Bool.false_eq_true, if_true, if_false, Except.ok.injEq]
        at hload hstore ⊢
      rw [hres, hload, ← hstore]
      refine ⟨_, rfl, h.isValid, h.control, ?_, h.rdIndex⟩
      rw [writeBack_eq hc (h.rdIndex hn), ← h.control]
      simp only [MemWbReg.writeBackData, resultValue, hsrc]
    · have hsrc : vm.exMemReg.control.wbSrc ≠ .fromMem := fun hsrc =>
        hread (hc.memRead_iff.mpr hsrc)
      have hmemory : (if vm.exMemReg.control.memWrite then
          storeMemory cfg vm.memoryController vm.exMemReg.control.memWriteOp
            vm.exMemReg.aluResult vm.exMemReg.storeData
          else .ok vm.memoryController) = .ok memory := by
        rw [hres, h.storeData hn]
        by_cases hwrite : vm.exMemReg.control.memWrite = true
        · simp only [hwrite, if_true] at hstore ⊢
          exact forgetState_eq_ok.mp hstore
        · simp only [hwrite] at hstore ⊢
          exact congrArg Except.ok (Except.ok.inj hstore)
      simp only [hread, hmemory, throwWith_ok, ok_bind, pure_eq_ok]
      refine ⟨_, rfl, h.isValid, h.control, ?_, h.rdIndex⟩
      rw [writeBack_eq hc (h.rdIndex hn), ← h.control]
      simp only [MemWbReg.writeBackData, resultValue]
      cases hwb : vm.exMemReg.control.wbSrc with
      | fromMem => exact absurd hwb hsrc
      | fromAlu => simp only [hres]
      | fromPcInc => simp only [h.pcInc hn]
      | none => rfl

/-- The memory stage succeeds where the abstract step does, and fails with its fault. -/
theorem outcome_memoryStage (cfg : VmConfig) {vm : Rv5sVm} (h : ExMemOk s w vm.exMemReg)
    (hmem : vm.memoryController = s.memory) :
    (forgetState (vm.memoryStage cfg)).map (fun _ => ()) =
      (s.exec cfg w).map (fun _ => ()) := by
  have hvalid : (!vm.exMemReg.isValid) = false := by rw [h.isValid]; rfl
  unfold Rv5sVm.memoryStage
  simp only [hvalid, Bool.false_eq_true, if_false]
  cases hnop : (getControlSignals w).isNop with
  | true =>
    rw [ArchState.exec_of_isNop hnop]
    simp only [h.control, hnop, Bool.true_or, if_true]
    rfl
  | false =>
    have hc : ControlCase w vm.exMemReg.control := by
      rw [h.control]
      exact controlCase_getControlSignals hnop
    have hn : vm.exMemReg.control.isNop = false := by rw [h.control, hnop]
    have halu := h.aluResult hn
    unfold ArchState.exec ArchState.load ArchState.store
    rw [← h.control, ← hmem, halu]
    simp only [hn, hc.isSyscall_eq, hc.isCsr_eq, Bool.or_false, Bool.false_eq_true, if_false,
      ok_bind]
    by_cases hread : vm.exMemReg.control.memRead = true
    · have hwrite : vm.exMemReg.control.memWrite = false := hc.memWrite_of_memRead hread
      simp only [hread, hwrite, Bool.false_eq_true, if_true, if_false]
      cases loadMemory vm.memoryController vm.exMemReg.control.memReadOp vm.exMemReg.aluResult
      · rfl
      · rfl
    · simp only [hread, Bool.false_eq_true, if_false, ok_bind, h.storeData hn]
      by_cases hwrite : vm.exMemReg.control.memWrite = true
      · simp only [hwrite, if_true]
        cases storeMemory cfg vm.memoryController vm.exMemReg.control.memWriteOp
            vm.exMemReg.aluResult (s.operandB w)
        · rfl
        · rfl
      · simp only [hwrite, Bool.false_eq_true, if_false]
        rfl

/-- A memory stage that does not fail completes the instruction. -/
theorem exec_of_memoryStage {vm vm' : Rv5sVm} (h : ExMemOk s w vm.exMemReg)
    (hmem : vm.memoryController = s.memory) (hs : vm.memoryStage cfg = .ok vm') :
    ∃ s', s.exec cfg w = .ok s' := by
  have houtcome := outcome_memoryStage cfg h hmem
  rw [hs] at houtcome
  cases hexec : s.exec cfg w with
  | ok s' => exact ⟨s', rfl⟩
  | error e =>
    rw [hexec] at houtcome
    cases houtcome

/-- A memory stage that fails does so with the fault of the instruction. -/
theorem exec_of_memoryStage_error {vm : Rv5sVm} {e : Fault × Rv5sVm}
    (h : ExMemOk s w vm.exMemReg) (hmem : vm.memoryController = s.memory)
    (hs : vm.memoryStage cfg = .error e) : s.exec cfg w = .error e.1 := by
  have houtcome := outcome_memoryStage cfg h hmem
  rw [hs] at houtcome
  cases hexec : s.exec cfg w with
  | ok s' =>
    rw [hexec] at houtcome
    cases houtcome
  | error e' =>
    rw [hexec] at houtcome
    exact congrArg Except.error (Except.error.inj houtcome).symm

end RiscvSim

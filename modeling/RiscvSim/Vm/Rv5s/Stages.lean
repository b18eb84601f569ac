import RiscvSim.Vm.Rv5s.BranchPrediction
import RiscvSim.Vm.Rv5s.ControlUnit
import RiscvSim.Vm.Rv5s.HazardUnit

/-!
# The stages the pipelined machines share

`Rv5sVm` holds the members that the machine deciding branches in the execute
stage and the one deciding them in the decode stage have in common.  Their
write-back and memory stages are the same, as are the operands and the ALU
operation of the execute stage.
-/

namespace RiscvSim

/-- The members the two pipelined machines share. -/
structure Rv5sVm extends VmBase where
  branchPredictor : BranchPredictor
  stallRequest : Bool := false
  flushPipeline : Bool := false
  forwardingEnabled : Bool := false
  ifIdReg : IfIdReg := .bubble
  idExReg : IdExReg := .bubble
  exMemReg : ExMemReg := .bubble
  memWbReg : MemWbReg := .bubble
  nextIfIdReg : IfIdReg := .bubble
  nextIdExReg : IdExReg := .bubble
  nextExMemReg : ExMemReg := .bubble
  nextMemWbReg : MemWbReg := .bubble

/-- `getWriteBackData`: the value the latch would write back. -/
def MemWbReg.writeBackData (memWbReg : MemWbReg) : BitVec 64 :=
  match memWbReg.control.wbSrc with
  | .fromAlu => memWbReg.aluResult
  | .fromMem => memWbReg.memoryData
  | .fromPcInc => memWbReg.pcInc
  | .none => 0#64

/-- The registers after the write-back of a valid latch. -/
def MemWbReg.writeBack (memWbReg : MemWbReg) (registers : RegisterFile) : RegisterFile :=
  if memWbReg.control.isSyscall then registers
  else if memWbReg.control.isCsr then registers
  else if memWbReg.control.regWrite && memWbReg.rdIndex != 0#5 then
    if memWbReg.control.wbSrc = .none then registers
    else registers.writeGpr memWbReg.rdIndex memWbReg.writeBackData
  else registers

/-- The value of a load. -/
def loadMemory (memory : Memory) (memReadOp : MemReadOp) (address : BitVec 64) :
    Except Fault (BitVec 64) :=
  match memReadOp with
  | .byte => do pure ((← memory.readByte address).signExtend 64)
  | .half => do pure ((← memory.readHalfWord address).signExtend 64)
  | .word => do pure ((← memory.readWord address).signExtend 64)
  | .double => memory.readDoubleWord address
  | .byteUnsigned => do pure ((← memory.readByte address).setWidth 64)
  | .halfUnsigned => do pure ((← memory.readHalfWord address).setWidth 64)
  | .wordUnsigned => do pure ((← memory.readWord address).setWidth 64)
  | .none => pure 0#64

/-- The memory after a store. -/
def storeMemory (cfg : VmConfig) (memory : Memory) (memWriteOp : MemWriteOp)
    (address storeData : BitVec 64) : Except (Fault × Memory) Memory :=
  match memWriteOp with
  | .byte => memory.writeByte cfg address (storeData.setWidth 8)
  | .half => memory.writeHalfWord cfg address (storeData.setWidth 16)
  | .word => memory.writeWord cfg address (storeData.setWidth 32)
  | .double => memory.writeDoubleWord cfg address storeData
  | .none => pure memory

/-- The first source register of a word; LUI and AUIPC have none. -/
def rs1IndexOf (instruction : BitVec 32) : BitVec 5 :=
  let opcode := opcodeOf instruction
  if opcode = 0b0110111#7 ∨ opcode = 0b0010111#7 then 0#5 else rs1Of instruction

/-- The second source register of a word; only R-, S- and B-type words have one. -/
def rs2IndexOf (instruction : BitVec 32) : BitVec 5 :=
  let opcode := opcodeOf instruction
  if opcode = 0b0110011#7 ∨ opcode = 0b0100011#7 ∨ opcode = 0b1100011#7 then rs2Of instruction
  else 0#5

/-- The operands `Execute_Stage` passes to the ALU. -/
def aluOperands (control : ControlSignals) (pc : BitVec 64) (immediate : BitVec 32)
    (dataAluA dataAluB : BitVec 64) : BitVec 64 × BitVec 64 :=
  let reg1Value :=
    match control.aluSrcA with
    | .pc => pc
    | .zero => 0#64
    | .rs1 => dataAluA
  let reg2Value :=
    if control.aluSrcA = .zero ∨ control.aluSrcA = .pc then
      if control.branchOp ≠ .jal then
        let shifted := offset64 immediate <<< 12
        if shifted &&& 0xA0000000#64 ≠ 0#64 then shifted ||| 0xFFFFFFFF00000000#64 else shifted
      else offset64 immediate
    else if control.aluSrcB then offset64 immediate
    else dataAluB
  (reg1Value, reg2Value)

/-- The result of the ALU on the operands of an instruction. -/
def aluResult (control : ControlSignals) (pc : BitVec 64) (immediate : BitVec 32)
    (dataAluA dataAluB : BitVec 64) : Except Fault (BitVec 64) := do
  let (reg1Value, reg2Value) := aluOperands control pc immediate dataAluA dataAluB
  let (executionResult, _) ← Alu.execute control.aluOp reg1Value reg2Value
  pure executionResult

namespace Rv5sVm

/-- The machine with its memory replaced. -/
def withMemory (vm : Rv5sVm) (memory : Memory) : Rv5sVm :=
  { vm with memoryController := memory }

def getWriteBackData (vm : Rv5sVm) : BitVec 64 :=
  vm.memWbReg.writeBackData

/-- Retires the instruction in the last latch and writes its result back. -/
def writeBackStage (vm : Rv5sVm) : Rv5sVm :=
  if !vm.memWbReg.isValid then vm
  else { vm with
    instructionsRetired := vm.instructionsRetired + 1#32
    registers := vm.memWbReg.writeBack vm.registers }

/-- Loads or stores for the instruction in the third latch. -/
def memoryStage (cfg : VmConfig) (vm : Rv5sVm) : Except (Fault × Rv5sVm) Rv5sVm :=
  let control := vm.exMemReg.control
  if !vm.exMemReg.isValid then .ok { vm with nextMemWbReg := .bubble }
  else if control.isNop || control.isSyscall || control.isCsr then
    .ok { vm with nextMemWbReg := { vm.nextMemWbReg with
      isValid := vm.exMemReg.isValid
      control := control } }
  else if control.memRead then do
    let memoryResult ←
      throwAt vm (loadMemory vm.memoryController control.memReadOp vm.exMemReg.aluResult)
    pure { vm with nextMemWbReg := { vm.nextMemWbReg with
      isValid := vm.exMemReg.isValid
      control := control
      pcInc := vm.exMemReg.pcInc
      memoryData := memoryResult
      rdIndex := vm.exMemReg.rdIndex } }
  else do
    let memory ← throwWith vm.withMemory
      (if control.memWrite then
        storeMemory cfg vm.memoryController control.memWriteOp vm.exMemReg.aluResult
          vm.exMemReg.storeData
      else .ok vm.memoryController)
    pure { vm.withMemory memory with nextMemWbReg := { vm.nextMemWbReg with
      isValid := vm.exMemReg.isValid
      control := control
      pcInc := vm.exMemReg.pcInc
      aluResult := vm.exMemReg.aluResult
      rdIndex := vm.exMemReg.rdIndex } }

/-- An operand of the execute stage: the latched value, or the forwarded one. -/
def forwardOperand (vm : Rv5sVm) (src : ForwardSrc) (data : BitVec 64) : BitVec 64 :=
  match src with
  | .fromExMem => vm.exMemReg.aluResult
  | .fromMemWb => vm.getWriteBackData
  | .fromReg => data

def dataAluA (vm : Rv5sVm) : BitVec 64 :=
  if vm.forwardingEnabled then
    vm.forwardOperand
      (RV5SForwardingUnit.getAluSrcA vm.idExReg.rs1Index vm.exMemReg vm.memWbReg)
      vm.idExReg.rs1Data
  else vm.idExReg.rs1Data

def dataAluB (vm : Rv5sVm) : BitVec 64 :=
  if vm.forwardingEnabled then
    vm.forwardOperand
      (RV5SForwardingUnit.getAluSrcB vm.idExReg.rs2Index vm.exMemReg vm.memWbReg)
      vm.idExReg.rs2Data
  else vm.idExReg.rs2Data

/-- The result of the ALU for the instruction in the second latch. -/
def executionResult (vm : Rv5sVm) : Except Fault (BitVec 64) :=
  aluResult vm.idExReg.control vm.idExReg.pc vm.idExReg.immediate vm.dataAluA vm.dataAluB

/-- What the execute stage latches for an instruction with the ALU result `executionResult`. -/
def latchExMem (vm : Rv5sVm) (executionResult : BitVec 64) : Rv5sVm :=
  { vm with nextExMemReg := {
      isValid := vm.idExReg.isValid
      control := vm.idExReg.control
      pcInc := vm.idExReg.pcInc
      aluResult := executionResult
      storeData := vm.dataAluB
      rdIndex := vm.idExReg.rdIndex } }

/-- The latch of the decode stage for a word that is not a NOP, before stalls
and branches are considered.  `predictedOutcome` keeps its old value. -/
def decodedIdEx (vm : Rv5sVm) (control : ControlSignals) : IdExReg :=
  let instruction := vm.ifIdReg.instruction
  let rs1Index := rs1IndexOf instruction
  let rs2Index := rs2IndexOf instruction
  { vm.nextIdExReg with
    isValid := vm.ifIdReg.isValid
    control := control
    pc := vm.ifIdReg.pc
    pcInc := vm.ifIdReg.pcInc
    rdIndex := rdOf instruction
    immediate := immGenerator instruction
    rs1Index := rs1Index
    rs1Data := vm.registers.readGpr rs1Index
    rs2Index := rs2Index
    rs2Data := vm.registers.readGpr rs2Index }

/-- The latch of the decode stage for a word that later stages pass through. -/
def passedIdEx (vm : Rv5sVm) (control : ControlSignals) : IdExReg :=
  { vm.nextIdExReg with
    isValid := vm.ifIdReg.isValid
    control := control
    pc := vm.ifIdReg.pc
    pcInc := vm.ifIdReg.pcInc }

/-- The data hazard of the configured mode. -/
def dataStall (vm : Rv5sVm) (control : ControlSignals) (rs1Index rs2Index : BitVec 5) : Bool :=
  if vm.forwardingEnabled then
    RV5SHazardUnit.detectLoadUseHazard control rs1Index rs2Index vm.idExReg
  else RV5SHazardUnit.detectDataHazard control rs1Index rs2Index vm.idExReg vm.exMemReg

/-- The end of a cycle: counts it and moves the latches; a stall keeps the first latch. -/
def endCycle (vm : Rv5sVm) : Rv5sVm :=
  { vm with
    cycleS := vm.cycleS + 1#32
    stallCycles := if vm.stallRequest then vm.stallCycles + 1#32 else vm.stallCycles
    ifIdReg := if vm.stallRequest then vm.ifIdReg else vm.nextIfIdReg
    idExReg := vm.nextIdExReg
    exMemReg := vm.nextExMemReg
    memWbReg := vm.nextMemWbReg }

/-- All instructions are fetched and no latch is valid. -/
def isFinished (vm : Rv5sVm) : Bool :=
  decide (vm.programSize ≤ vm.programCounter) &&
    (!vm.ifIdReg.isValid && !vm.idExReg.isValid && !vm.exMemReg.isValid && !vm.memWbReg.isValid)

/-- The status a step leaves. -/
def reportStep (vm : Rv5sVm) : Rv5sVm :=
  if vm.isFinished then { vm with stopRequested := true, outputStatus := .programEnd }
  else { vm with outputStatus := .stepCompleted }

/-- The members both machines reset; the breakpoints, the loaded program, the
status and the stop flag stay. -/
def reset (cfg : VmConfig) (vm : Rv5sVm) : Rv5sVm :=
  { vm with
    programCounter := 0#64
    instructionsRetired := 0#32
    cycleS := 0#32
    stallCycles := 0#32
    branchMispredictions := 0#32
    stallRequest := false
    flushPipeline := false
    forwardingEnabled := cfg.dataHazardMode == .forwarding
    branchPredictor := .ofType cfg.branchPredictorType
    registers := .reset
    memoryController := vm.memoryController.reset
    programSize := 0#64
    ifIdReg := .bubble
    idExReg := .bubble
    exMemReg := .bubble
    memWbReg := .bubble
    nextIfIdReg := .bubble
    nextIdExReg := .bubble
    nextExMemReg := .bubble
    nextMemWbReg := .bubble }

/-- The machine with the members of the base class replaced. -/
def withVmBase (vm : Rv5sVm) (base : VmBase) : Rv5sVm :=
  { vm with toVmBase := base }

/-- `LoadProgram`, as inherited. -/
def loadProgram (cfg : VmConfig) (vm : Rv5sVm) (program : AssembledProgram) :
    Except (Fault × Rv5sVm) Rv5sVm := do
  let base ← throwWith vm.withVmBase (vm.toVmBase.loadProgram cfg program)
  pure (vm.withVmBase base)

/-- A machine before its constructor calls `Reset`. -/
def blank (cfg : VmConfig) : Rv5sVm where
  memoryController := .new cfg
  branchPredictor := .ofType cfg.branchPredictorType

end Rv5sVm

end RiscvSim

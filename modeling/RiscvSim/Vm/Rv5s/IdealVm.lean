import RiscvSim.Lib.Run
import RiscvSim.Vm.Rv5s.Stages

/-!
# The ideal pipeline

`RV5SVM`: five stages without a hazard unit, without forwarding and without
branches.  A step runs the stages last to first, so a register is written back
before decode reads it in the same cycle.
-/

namespace RiscvSim

/-- The five-stage machine that detects no hazards. -/
structure RV5SVM extends VmBase where
  ifIdReg : IfIdReg := .bubble
  idExReg : IdExReg := .bubble
  exMemReg : ExMemReg := .bubble
  memWbReg : MemWbReg := .bubble
  nextIfIdReg : IfIdReg := .bubble
  nextIdExReg : IdExReg := .bubble
  nextExMemReg : ExMemReg := .bubble
  nextMemWbReg : MemWbReg := .bubble

namespace RV5SVM

/-- The members `Reset` sets. -/
def reset (vm : RV5SVM) : RV5SVM :=
  { vm with
    programCounter := 0#64
    instructionsRetired := 0#32
    cycleS := 0#32
    stallCycles := 0#32
    branchMispredictions := 0#32
    registers := .reset
    memoryController := vm.memoryController.reset
    programSize := 0#64
    ifIdReg := .bubble
    idExReg := .bubble
    exMemReg := .bubble
    memWbReg := .bubble
    nextIfIdReg := .bubble
    nextIdExReg := .bubble
    nextExMemReg := .bubble
    nextMemWbReg := .bubble }

/-- The constructor. -/
def new (cfg : VmConfig) : RV5SVM :=
  reset { memoryController := .new cfg }

/-- The machine with its memory replaced. -/
def withMemory (vm : RV5SVM) (memory : Memory) : RV5SVM :=
  { vm with memoryController := memory }

/-- The machine with the members of the base class replaced. -/
def withVmBase (vm : RV5SVM) (base : VmBase) : RV5SVM :=
  { vm with toVmBase := base }

/-- `LoadProgram`, as inherited. -/
def loadProgram (cfg : VmConfig) (vm : RV5SVM) (program : AssembledProgram) :
    Except (Fault × RV5SVM) RV5SVM := do
  let base ← throwWith vm.withVmBase (vm.toVmBase.loadProgram cfg program)
  pure (vm.withVmBase base)

/-- Fetches the next word.  An out-of-range read is caught and leaves a bubble;
the program counter advances all the same. -/
def fetchStage (vm : RV5SVM) : Except (Fault × RV5SVM) RV5SVM :=
  if vm.programSize ≤ vm.programCounter then .ok { vm with nextIfIdReg := .bubble }
  else
    match vm.memoryController.readWord vm.programCounter with
    | .ok instruction =>
      .ok { vm with
        programCounter := vm.programCounter + 4#64
        nextIfIdReg := { vm.nextIfIdReg with
          instruction := instruction
          pc := vm.programCounter
          pcInc := vm.programCounter + 4#64
          isValid := true } }
    | .error (.outOfRange _) =>
      .ok { vm with
        programCounter := vm.programCounter + 4#64
        nextIfIdReg := { IfIdReg.bubble with
          pc := vm.programCounter
          pcInc := vm.programCounter + 4#64 } }
    | .error e => .error (e, vm)

/-- Reads the registers of the word in the first latch.  A NOP, and a SYSTEM
word, leave the operands of the latch as they were. -/
def decodeStage (vm : RV5SVM) : RV5SVM :=
  if !vm.ifIdReg.isValid then { vm with nextIdExReg := .bubble }
  else
    let instruction := vm.ifIdReg.instruction
    let control := RV5SControlUnit.getControlSignals instruction
    let passed (control : ControlSignals) : IdExReg := { vm.nextIdExReg with
      isValid := vm.ifIdReg.isValid
      control := control
      pc := vm.ifIdReg.pc
      pcInc := vm.ifIdReg.pcInc }
    if control.isNop then { vm with nextIdExReg := passed control }
    else if opcodeOf instruction = 0b1110011#7 ∧ funct3Of instruction = 0b000#3 then
      { vm with nextIdExReg := passed { control with isSyscall := true } }
    else if opcodeOf instruction = 0b1110011#7 then
      { vm with nextIdExReg := passed { control with isCsr := true } }
    else
      let rs1Index := rs1IndexOf instruction
      let rs2Index := rs2IndexOf instruction
      { vm with nextIdExReg := { passed control with
        rdIndex := rdOf instruction
        immediate := immGenerator instruction
        rs1Index := rs1Index
        rs1Data := vm.registers.readGpr rs1Index
        rs2Index := rs2Index
        rs2Data := vm.registers.readGpr rs2Index } }

/-- The operands `Execute_Stage` passes to the ALU.  Unlike in the other
machines the immediate of every word with a PC or zero operand is shifted. -/
def operands (idExReg : IdExReg) : BitVec 64 × BitVec 64 :=
  let control := idExReg.control
  let reg1Value :=
    match control.aluSrcA with
    | .pc => idExReg.pc
    | .zero => 0#64
    | .rs1 => idExReg.rs1Data
  let reg2Value :=
    if control.aluSrcA = .zero ∨ control.aluSrcA = .pc then
      let shifted := offset64 idExReg.immediate <<< 12
      if shifted &&& 0xA0000000#64 ≠ 0#64 then shifted ||| 0xFFFFFFFF00000000#64 else shifted
    else if control.aluSrcB then offset64 idExReg.immediate
    else idExReg.rs2Data
  (reg1Value, reg2Value)

/-- Runs the ALU for the instruction in the second latch.  A NOP leaves all but
two members of the next latch as they were. -/
def executeStage (vm : RV5SVM) : Except (Fault × RV5SVM) RV5SVM :=
  if !vm.idExReg.isValid then .ok { vm with nextExMemReg := .bubble }
  else
    let vm := { vm with nextExMemReg := { vm.nextExMemReg with
      control := vm.idExReg.control
      isValid := vm.idExReg.isValid } }
    if vm.idExReg.control.isNop then .ok vm
    else do
      let (reg1Value, reg2Value) := operands vm.idExReg
      let (executionResult, _) ←
        throwAt vm (Alu.execute vm.idExReg.control.aluOp reg1Value reg2Value)
      pure { vm with nextExMemReg := { vm.nextExMemReg with
        pcInc := vm.idExReg.pcInc
        aluResult := executionResult
        storeData := vm.idExReg.rs2Data
        rdIndex := vm.idExReg.rdIndex } }

/-- Loads or stores for the instruction in the third latch. -/
def memoryStage (cfg : VmConfig) (vm : RV5SVM) : Except (Fault × RV5SVM) RV5SVM :=
  let control := vm.exMemReg.control
  if !vm.exMemReg.isValid then .ok { vm with nextMemWbReg := .bubble }
  else if control.isNop || control.isSyscall || control.isCsr then
    .ok { vm with nextMemWbReg := { vm.nextMemWbReg with
      isValid := vm.exMemReg.isValid
      control := control } }
  else if control.memRead then do
    let memoryResult ←
      throwAt vm (loadMemory vm.memoryController control.memReadOp vm.exMemReg.aluResult)
    pure { vm with nextMemWbReg := { vm.nextMemWbReg with
      isValid := vm.exMemReg.isValid
      control := control
      pcInc := vm.exMemReg.pcInc
      memoryData := memoryResult
      rdIndex := vm.exMemReg.rdIndex } }
  else do
    let memory ← throwWith vm.withMemory
      (if control.memWrite then
        storeMemory cfg vm.memoryController control.memWriteOp vm.exMemReg.aluResult
          vm.exMemReg.storeData
      else .ok vm.memoryController)
    pure { vm.withMemory memory with nextMemWbReg := { vm.nextMemWbReg with
      isValid := vm.exMemReg.isValid
      control := control
      pcInc := vm.exMemReg.pcInc
      aluResult := vm.exMemReg.aluResult
      rdIndex := vm.exMemReg.rdIndex } }

/-- Retires the instruction in the last latch and writes its result back. -/
def writeBackStage (vm : RV5SVM) : RV5SVM :=
  if !vm.memWbReg.isValid then vm
  else { vm with
    instructionsRetired := vm.instructionsRetired + 1#32
    registers := vm.memWbReg.writeBack vm.registers }

/-- The five stages of a cycle, last stage first. -/
def runStages (cfg : VmConfig) (vm : RV5SVM) : Except (Fault × RV5SVM) RV5SVM := do
  let vm := writeBackStage vm
  let vm ← memoryStage cfg vm
  let vm ← executeStage vm
  let vm := decodeStage vm
  fetchStage vm

/-- The end of a cycle: counts it and moves the latches. -/
def endCycle (vm : RV5SVM) : RV5SVM :=
  { vm with
    cycleS := vm.cycleS + 1#32
    ifIdReg := vm.nextIfIdReg
    idExReg := vm.nextIdExReg
    exMemReg := vm.nextExMemReg
    memWbReg := vm.nextMemWbReg }

/-- All instructions are fetched and no latch is valid. -/
def isFinished (vm : RV5SVM) : Bool :=
  decide (vm.programSize ≤ vm.programCounter) &&
    (!vm.ifIdReg.isValid && !vm.idExReg.isValid && !vm.exMemReg.isValid && !vm.memWbReg.isValid)

/-- The status a step leaves. -/
def reportStep (vm : RV5SVM) : RV5SVM :=
  if vm.isFinished then { vm with stopRequested := true, outputStatus := .programEnd }
  else { vm with outputStatus := .stepCompleted }

/-- One cycle. -/
def step (cfg : VmConfig) (vm : RV5SVM) : Except (Fault × RV5SVM) RV5SVM :=
  if vm.outputStatus = .programEnd then .ok vm
  else do
    let vm ← runStages cfg vm
    pure vm.endCycle.reportStep

/-- What `Run` does before its loop. -/
def startRun (vm : RV5SVM) : RV5SVM :=
  { vm with stopRequested := false, outputStatus := .running }

/-- `Run`, with a bound on the number of cycles; the loop leaves with the stop flag cleared. -/
def run (cfg : VmConfig) (fuel : Nat) (vm : RV5SVM) : Option (Except (Fault × RV5SVM) RV5SVM) :=
  (Lib.runUntil (·.stopRequested) (step cfg) fuel (startRun vm)).map
    (·.map fun vm => { vm with stopRequested := false })

end RV5SVM

end RiscvSim

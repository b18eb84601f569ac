import RiscvSim.Lib.Run
import RiscvSim.Vm.Rv5s.Stages

/-!
# The machine that decides branches in the decode stage

`RV5SIDVM`: fetch follows the branch target buffer where the predictor agrees,
decode compares the operands of a branch itself, updates the buffer and
corrects a wrong prediction one cycle after the fetch.
-/

namespace RiscvSim

/-- The five-stage machine with branches decided in the decode stage. -/
structure RV5SIDVM extends Rv5sVm where
  btb : BranchTargetBuffer := .empty

namespace RV5SIDVM

/-- The machine with the members shared by both machines replaced. -/
def withBase (vm : RV5SIDVM) (base : Rv5sVm) : RV5SIDVM :=
  { vm with toRv5sVm := base }

/-- `Reset`, which leaves the branch target buffer as it is. -/
def reset (cfg : VmConfig) (vm : RV5SIDVM) : RV5SIDVM :=
  vm.withBase (vm.toRv5sVm.reset cfg)

/-- The constructor. -/
def new (cfg : VmConfig) : RV5SIDVM :=
  reset cfg { toRv5sVm := Rv5sVm.blank cfg }

/-- `LoadProgram`, as inherited. -/
def loadProgram (cfg : VmConfig) (vm : RV5SIDVM) (program : AssembledProgram) :
    Except (Fault × RV5SIDVM) RV5SIDVM := do
  let base ← throwWith vm.withBase (vm.toRv5sVm.loadProgram cfg program)
  pure (vm.withBase base)

def enableForwarding (vm : RV5SIDVM) (enable : Bool) : RV5SIDVM :=
  { vm with forwardingEnabled := enable }

def setBranchPredictorType (vm : RV5SIDVM) (type : BranchPredictorType) : RV5SIDVM :=
  { vm with branchPredictor := .ofType type }

def writeBackStage (vm : RV5SIDVM) : RV5SIDVM :=
  vm.withBase vm.toRv5sVm.writeBackStage

def memoryStage (cfg : VmConfig) (vm : RV5SIDVM) : Except (Fault × RV5SIDVM) RV5SIDVM := do
  let base ← throwWith vm.withBase (vm.toRv5sVm.memoryStage cfg)
  pure (vm.withBase base)

/-- The execute stage, which decides no branches. -/
def executeStage (vm : RV5SIDVM) : Except (Fault × RV5SIDVM) RV5SIDVM :=
  let control := vm.idExReg.control
  if !vm.idExReg.isValid then .ok { vm with nextExMemReg := .bubble }
  else if control.isNop || control.isCsr || control.isSyscall then
    .ok { vm with nextExMemReg := { vm.nextExMemReg with
      control := control
      isValid := vm.idExReg.isValid } }
  else do
    -- a trap leaves the latch with the two members assigned first
    let vm := { vm with nextExMemReg := { vm.nextExMemReg with
      control := control
      isValid := vm.idExReg.isValid } }
    let executionResult ← throwAt vm vm.toRv5sVm.executionResult
    pure (vm.withBase (vm.toRv5sVm.latchExMem executionResult))

/-- The value of a register for a comparison in decode. -/
def getForwardedIdReg (vm : RV5SIDVM) (regIndex : BitVec 5) : BitVec 64 :=
  if regIndex = 0#5 then 0#64
  else if vm.exMemReg.isValid && vm.exMemReg.control.regWrite &&
      vm.exMemReg.rdIndex == regIndex then
    vm.exMemReg.aluResult
  else if vm.memWbReg.isValid && vm.memWbReg.control.regWrite &&
      vm.memWbReg.rdIndex == regIndex then
    vm.toRv5sVm.getWriteBackData
  else vm.registers.readGpr regIndex

/-- Whether a branch on the values `val1` and `val2` is taken. -/
def actualTaken (branchOp : BranchOp) (val1 val2 : BitVec 64) : Bool :=
  match branchOp with
  | .jal => true
  | .jalr => true
  | .beq => val1 == val2
  | .bne => val1 != val2
  | .blt => val1.slt val2
  | .bge => val2.sle val1
  | .bltu => val1.ult val2
  | .bgeu => val2.ule val1
  | .none => false

/-- The target of a branch at `pc`; zero when it is not taken. -/
def actualTarget (branchOp : BranchOp) (pc : BitVec 64) (immediate : BitVec 32)
    (val1 val2 : BitVec 64) : BitVec 64 :=
  match branchOp with
  | .jal => pc + offset64 immediate
  | .jalr => val1 + offset64 immediate
  | op => if actualTaken op val1 val2 then pc + offset64 immediate else 0#64

/-- The two further hazards of decoding branches with forwarding: a source
register computed by the instruction in execute, or loaded by the one in memory. -/
def branchStall (vm : RV5SIDVM) (control : ControlSignals) (rs1Index rs2Index : BitVec 5) :
    Bool :=
  (control.branch && vm.forwardingEnabled && vm.idExReg.isValid &&
    vm.idExReg.control.regWrite && vm.idExReg.rdIndex != 0#5 &&
    (vm.idExReg.rdIndex == rs1Index || vm.idExReg.rdIndex == rs2Index)) ||
  ((control.branch || control.branchOp == .jalr) && vm.forwardingEnabled &&
    vm.exMemReg.isValid && vm.exMemReg.control.memRead && vm.exMemReg.rdIndex != 0#5 &&
    (vm.exMemReg.rdIndex == rs1Index || vm.exMemReg.rdIndex == rs2Index))

/-- The register value a branch compares: forwarded or as decoded. -/
def branchOperand (vm : RV5SIDVM) (index : BitVec 5) (data : BitVec 64) : BitVec 64 :=
  if vm.forwardingEnabled then vm.getForwardedIdReg index else data

/-- Decides the branch in decode, updates the predictor and the branch target
buffer and corrects the fetch when its prediction was wrong. -/
def resolveBranch (vm : RV5SIDVM) (control : ControlSignals) : RV5SIDVM :=
  if control.branch then
    let val1 := vm.branchOperand vm.nextIdExReg.rs1Index vm.nextIdExReg.rs1Data
    let val2 := vm.branchOperand vm.nextIdExReg.rs2Index vm.nextIdExReg.rs2Data
    let taken := actualTaken control.branchOp val1 val2
    let target :=
      actualTarget control.branchOp vm.ifIdReg.pc vm.nextIdExReg.immediate val1 val2
    let vm := { vm with
      branchPredictor :=
        vm.branchPredictor.updateState vm.ifIdReg.pc vm.ifIdReg.predictedOutcome taken
      btb := vm.btb.update vm.ifIdReg.pc target }
    let predictionCorrect :=
      vm.ifIdReg.predictedOutcome == taken &&
        (if taken then vm.ifIdReg.predictedTarget == target else true)
    if predictionCorrect then vm
    else { vm with
      branchMispredictions := vm.branchMispredictions + 1#32
      flushPipeline := true
      programCounter := if taken then target else vm.nextIdExReg.pcInc }
  else vm

def decodeStage (vm : RV5SIDVM) : RV5SIDVM :=
  if vm.flushPipeline then
    { vm with
      stallCycles := if vm.ifIdReg.isValid then vm.stallCycles + 1#32 else vm.stallCycles
      nextIdExReg := .bubble }
  else if !vm.ifIdReg.isValid then { vm with nextIdExReg := .bubble }
  else
    let instruction := vm.ifIdReg.instruction
    let control := RV5SControlUnit.getControlSignals instruction
    if control.isNop then { vm with nextIdExReg := vm.toRv5sVm.passedIdEx control }
    else if opcodeOf instruction = 0b1110011#7 ∧ funct3Of instruction = 0b000#3 then
      { vm with nextIdExReg := vm.toRv5sVm.passedIdEx { control with isSyscall := true } }
    else if opcodeOf instruction = 0b1110011#7 then
      { vm with nextIdExReg := vm.toRv5sVm.passedIdEx { control with isCsr := true } }
    else
      let nextIdExReg := vm.toRv5sVm.decodedIdEx control
      if vm.toRv5sVm.dataStall control nextIdExReg.rs1Index nextIdExReg.rs2Index ||
          vm.branchStall control nextIdExReg.rs1Index nextIdExReg.rs2Index then
        { vm with stallRequest := true, nextIdExReg := .bubble }
      else resolveBranch { vm with nextIdExReg := nextIdExReg } control

/-- Fetches the next word and follows the branch target buffer on a hit that
the predictor agrees with. -/
def fetchStage (vm : RV5SIDVM) : Except (Fault × RV5SIDVM) RV5SIDVM :=
  if vm.flushPipeline then
    .ok { vm with stallCycles := vm.stallCycles + 1#32, nextIfIdReg := .bubble }
  else if vm.programSize ≤ vm.programCounter then .ok { vm with nextIfIdReg := .bubble }
  else
    match vm.memoryController.readWord vm.programCounter with
    | .ok instruction =>
      let (btbHit, btbTarget) := vm.btb.lookup vm.programCounter
      let predictTaken := vm.branchPredictor.getPrediction vm.programCounter
      let follow := btbHit && predictTaken
      .ok { vm with
        programCounter := if follow then btbTarget else vm.programCounter + 4#64
        nextIfIdReg := {
          isValid := true
          instruction := instruction
          pc := vm.programCounter
          pcInc := vm.programCounter + 4#64
          predictedOutcome := follow
          predictedTarget := if follow then btbTarget else 0#64 } }
    | .error (.outOfRange _) =>
      .ok { vm with programCounter := vm.programCounter + 4#64, nextIfIdReg := .bubble }
    | .error e => .error (e, vm)

/-- The five stages of a cycle, last stage first; a stall skips the fetch. -/
def runStages (cfg : VmConfig) (vm : RV5SIDVM) : Except (Fault × RV5SIDVM) RV5SIDVM := do
  let vm := { vm with stallRequest := false, flushPipeline := false }
  let vm := writeBackStage vm
  let vm ← memoryStage cfg vm
  let vm ← executeStage vm
  let vm := decodeStage vm
  if vm.stallRequest then pure vm else fetchStage vm

/-- One cycle. -/
def step (cfg : VmConfig) (vm : RV5SIDVM) : Except (Fault × RV5SIDVM) RV5SIDVM :=
  if vm.outputStatus = .programEnd then .ok vm
  else do
    let vm ← runStages cfg vm
    pure (vm.withBase vm.toRv5sVm.endCycle.reportStep)

/-- What `Run` does before its loop. -/
def startRun (vm : RV5SIDVM) : RV5SIDVM :=
  { vm with stopRequested := false, outputStatus := .running }

/-- `Run`, with a bound on the number of cycles; the loop leaves with the stop flag cleared. -/
def run (cfg : VmConfig) (fuel : Nat) (vm : RV5SIDVM) :
    Option (Except (Fault × RV5SIDVM) RV5SIDVM) :=
  (Lib.runUntil (·.stopRequested) (step cfg) fuel (startRun vm)).map
    (·.map fun vm => { vm with stopRequested := false })

end RV5SIDVM

end RiscvSim

import RiscvSim.Lib.Run
import RiscvSim.Vm.Rv5s.Stages

/-!
# The machine that decides branches in the execute stage

`RV5SEXVM`: decode stops the fetch of the cycle for a jump or a branch
predicted taken, execute corrects a misprediction and the target of JALR.
-/

namespace RiscvSim

/-- The five-stage machine with branches decided in the execute stage. -/
abbrev RV5SEXVM := Rv5sVm

namespace RV5SEXVM

def reset (cfg : VmConfig) (vm : RV5SEXVM) : RV5SEXVM :=
  Rv5sVm.reset cfg vm

/-- The constructor. -/
def new (cfg : VmConfig) : RV5SEXVM :=
  reset cfg (Rv5sVm.blank cfg)

def enableForwarding (vm : RV5SEXVM) (enable : Bool) : RV5SEXVM :=
  { vm with forwardingEnabled := enable }

def setBranchPredictorType (vm : RV5SEXVM) (type : BranchPredictorType) : RV5SEXVM :=
  { vm with branchPredictor := .ofType type }

def writeBackStage (vm : RV5SEXVM) : RV5SEXVM :=
  Rv5sVm.writeBackStage vm

def memoryStage (cfg : VmConfig) (vm : RV5SEXVM) : Except (Fault × RV5SEXVM) RV5SEXVM :=
  Rv5sVm.memoryStage cfg vm

/-- Whether the branch is taken, from the ALU result. -/
def branchOutcome (branchOp : BranchOp) (executionResult : BitVec 64) : Bool :=
  match branchOp with
  | .jal => true
  | .jalr => true
  | .beq => executionResult == 0#64
  | .bne => executionResult != 0#64
  | .blt => executionResult == 1#64
  | .bge => executionResult == 0#64
  | .bltu => executionResult == 1#64
  | .bgeu => executionResult == 0#64
  | .none => false

/-- Where the branch goes when it is taken. -/
def branchTarget (branchOp : BranchOp) (pc : BitVec 64) (immediate : BitVec 32)
    (executionResult : BitVec 64) : BitVec 64 :=
  match branchOp with
  | .jal => executionResult
  | .jalr => executionResult
  | _ => pc + offset64 immediate

/-- Compares the outcome of a branch with its prediction; redirects the fetch
when they differ, and for every JALR. -/
def resolveBranch (vm : RV5SEXVM) (executionResult : BitVec 64) : RV5SEXVM :=
  let control := vm.idExReg.control
  if control.branch then
    let actualOutcome := branchOutcome control.branchOp executionResult
    let targetAddress :=
      branchTarget control.branchOp vm.idExReg.pc vm.idExReg.immediate executionResult
    let predictedOutcome := vm.idExReg.predictedOutcome
    let vm := { vm with branchPredictor :=
      vm.branchPredictor.updateState vm.idExReg.pc predictedOutcome actualOutcome }
    if control.branchOp = .jalr then
      { vm with programCounter := targetAddress, flushPipeline := true }
    else if predictedOutcome ≠ actualOutcome then
      { vm with
        flushPipeline := true
        branchMispredictions := vm.branchMispredictions + 1#32
        programCounter := if actualOutcome then targetAddress else vm.idExReg.pcInc }
    else vm
  else vm

def executeStage (vm : RV5SEXVM) : Except (Fault × RV5SEXVM) RV5SEXVM :=
  let control := vm.idExReg.control
  if !vm.idExReg.isValid then .ok { vm with nextExMemReg := .bubble }
  else if control.isNop || control.isCsr || control.isSyscall then
    .ok { vm with nextExMemReg := { vm.nextExMemReg with
      control := control
      isValid := vm.idExReg.isValid } }
  else do
    -- a trap leaves the latch with the two members assigned first
    let vm := { vm with nextExMemReg := { vm.nextExMemReg with
      control := control
      isValid := vm.idExReg.isValid } }
    let executionResult ← throwAt vm vm.executionResult
    pure ((resolveBranch vm executionResult).latchExMem executionResult)

/-- The prediction for a decoded branch: a jump, or a conditional branch
predicted taken, moves the program counter and stops the fetch of this cycle. -/
def predictBranch (vm : RV5SEXVM) (control : ControlSignals) : RV5SEXVM :=
  if control.branchOp = .jal ∨ control.branchOp = .jalr then
    let vm := { vm with nextIdExReg := { vm.nextIdExReg with predictedOutcome := true } }
    { vm with
      programCounter :=
        if control.branchOp = .jal then vm.ifIdReg.pc + offset64 vm.nextIdExReg.immediate
        else vm.programCounter
      flushPipeline := true }
  else if control.branch then
    let prediction := vm.branchPredictor.getPrediction vm.ifIdReg.pc
    let vm := { vm with nextIdExReg := { vm.nextIdExReg with predictedOutcome := prediction } }
    if prediction then
      { vm with
        programCounter := vm.ifIdReg.pc + offset64 vm.nextIdExReg.immediate
        flushPipeline := true }
    else vm
  else vm

def decodeStage (vm : RV5SEXVM) : RV5SEXVM :=
  if vm.flushPipeline then
    { vm with
      stallCycles := if vm.ifIdReg.isValid then vm.stallCycles + 1#32 else vm.stallCycles
      nextIdExReg := .bubble }
  else if !vm.ifIdReg.isValid then { vm with nextIdExReg := .bubble }
  else
    let instruction := vm.ifIdReg.instruction
    let control := RV5SControlUnit.getControlSignals instruction
    if control.isNop then { vm with nextIdExReg := vm.passedIdEx control }
    else if opcodeOf instruction = 0b1110011#7 ∧ funct3Of instruction = 0b000#3 then
      { vm with nextIdExReg := vm.passedIdEx { control with isSyscall := true } }
    else if opcodeOf instruction = 0b1110011#7 then
      { vm with nextIdExReg := vm.passedIdEx { control with isCsr := true } }
    else
      let nextIdExReg := vm.decodedIdEx control
      if vm.dataStall control nextIdExReg.rs1Index nextIdExReg.rs2Index then
        { vm with stallRequest := true, nextIdExReg := .bubble }
      else predictBranch { vm with nextIdExReg := nextIdExReg } control

/-- Fetches the next word.  An out-of-range read is caught and leaves a bubble;
the program counter advances all the same. -/
def fetchStage (vm : RV5SEXVM) : Except (Fault × RV5SEXVM) RV5SEXVM :=
  if vm.flushPipeline then
    .ok { vm with stallCycles := vm.stallCycles + 1#32, nextIfIdReg := .bubble }
  else if vm.programSize ≤ vm.programCounter then .ok { vm with nextIfIdReg := .bubble }
  else
    match vm.memoryController.readWord vm.programCounter with
    | .ok instruction =>
      .ok { vm with
        programCounter := vm.programCounter + 4#64
        nextIfIdReg := { vm.nextIfIdReg with
          instruction := instruction
          pc := vm.programCounter
          pcInc := vm.programCounter + 4#64
          isValid := true } }
    | .error (.outOfRange _) =>
      .ok { vm with
        programCounter := vm.programCounter + 4#64
        nextIfIdReg := { IfIdReg.bubble with
          pc := vm.programCounter
          pcInc := vm.programCounter + 4#64 } }
    | .error e => .error (e, vm)

/-- The five stages of a cycle, last stage first; a stall skips the fetch. -/
def runStages (cfg : VmConfig) (vm : RV5SEXVM) : Except (Fault × RV5SEXVM) RV5SEXVM := do
  let vm := { vm with stallRequest := false, flushPipeline := false }
  let vm := writeBackStage vm
  let vm ← memoryStage cfg vm
  let vm ← executeStage vm
  let vm := decodeStage vm
  if vm.stallRequest then pure vm else fetchStage vm

/-- One cycle. -/
def step (cfg : VmConfig) (vm : RV5SEXVM) : Except (Fault × RV5SEXVM) RV5SEXVM :=
  if vm.outputStatus = .programEnd then .ok vm
  else do
    let vm ← runStages cfg vm
    pure vm.endCycle.reportStep

/-- What `Run` does before its loop. -/
def startRun (vm : RV5SEXVM) : RV5SEXVM :=
  { vm with stopRequested := false, outputStatus := .running }

/-- `Run`, with a bound on the number of cycles; the loop leaves with the stop flag cleared. -/
def run (cfg : VmConfig) (fuel : Nat) (vm : RV5SEXVM) :
    Option (Except (Fault × RV5SEXVM) RV5SEXVM) :=
  (Lib.runUntil (·.stopRequested) (step cfg) fuel (startRun vm)).map
    (·.map fun vm => { vm with stopRequested := false })

/-- `DebugRun`, with a bound on the number of cycles: the loop also leaves where
the program counter is at a breakpoint, without a delay between the cycles. -/
def debugRun (cfg : VmConfig) (fuel : Nat) (vm : RV5SEXVM) :
    Option (Except (Fault × RV5SEXVM) RV5SEXVM) :=
  (Lib.runUntil (fun vm => vm.stopRequested || vm.checkBreakpoint vm.programCounter) (step cfg)
    fuel (startRun vm)).map
    (·.map fun vm =>
      if vm.stopRequested then { vm with stopRequested := false }
      else { vm with outputStatus := .breakpointHit })

end RV5SEXVM

end RiscvSim

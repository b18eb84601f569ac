import RiscvSim.Lib.Run
import RiscvSim.Vm.Rv5s.ExVm

/-!
# The machine that stalls

`RV5SStallVM`: every data hazard is a stall, nothing is forwarded and no branch
is predicted.  Decode lets a branch through like any other word; execute decides
it and, when it is taken, empties the two stages behind it.
-/

namespace RiscvSim

/-- The five-stage machine without forwarding and prediction.  It declares
neither a predictor nor a forwarding switch: no stage reads those two members. -/
abbrev RV5SStallVM := Rv5sVm

namespace RV5SStallVM

def reset (vm : RV5SStallVM) : RV5SStallVM :=
  { vm with
    programCounter := 0#64
    instructionsRetired := 0#32
    cycleS := 0#32
    stallCycles := 0#32
    branchMispredictions := 0#32
    stallRequest := false
    flushPipeline := false
    registers := .reset
    memoryController := vm.memoryController.reset
    programSize := 0#64
    ifIdReg := .bubble
    idExReg := .bubble
    exMemReg := .bubble
    memWbReg := .bubble
    nextIfIdReg := .bubble
    nextIdExReg := .bubble
    nextExMemReg := .bubble
    nextMemWbReg := .bubble }

/-- The constructor. -/
def new (cfg : VmConfig) : RV5SStallVM :=
  reset (Rv5sVm.blank cfg)

def writeBackStage (vm : RV5SStallVM) : RV5SStallVM :=
  Rv5sVm.writeBackStage vm

def memoryStage (cfg : VmConfig) (vm : RV5SStallVM) :
    Except (Fault × RV5SStallVM) RV5SStallVM :=
  Rv5sVm.memoryStage cfg vm

/-- Redirects the fetch when the instruction in the second latch is a jump or a
branch that is taken. -/
def resolveBranch (vm : RV5SStallVM) (executionResult : BitVec 64) : RV5SStallVM :=
  let control := vm.idExReg.control
  let (branchTaken, targetAddress) :=
    if control.branchOp = .jal ∨ control.branchOp = .jalr then (true, executionResult)
    else if control.branch then
      (RV5SEXVM.branchOutcome control.branchOp executionResult,
        vm.idExReg.pc + offset64 vm.idExReg.immediate)
    else (false, 0#64)
  if branchTaken then { vm with programCounter := targetAddress, flushPipeline := true } else vm

/-- The execute stage on the operands that decode has latched. -/
def executeStage (vm : RV5SStallVM) : Except (Fault × RV5SStallVM) RV5SStallVM :=
  let control := vm.idExReg.control
  if !vm.idExReg.isValid then .ok { vm with nextExMemReg := .bubble }
  else
    let vm := { vm with nextExMemReg := { vm.nextExMemReg with
      control := control
      isValid := vm.idExReg.isValid } }
    if control.isNop then .ok vm
    else do
      let executionResult ← throwAt vm
        (aluResult control vm.idExReg.pc vm.idExReg.immediate vm.idExReg.rs1Data
          vm.idExReg.rs2Data)
      let vm := resolveBranch vm executionResult
      pure { vm with nextExMemReg := { vm.nextExMemReg with
        pcInc := vm.idExReg.pcInc
        aluResult := executionResult
        storeData := vm.idExReg.rs2Data
        rdIndex := vm.idExReg.rdIndex } }

def decodeStage (vm : RV5SStallVM) : RV5SStallVM :=
  if vm.flushPipeline then { vm with nextIdExReg := .bubble }
  else if !vm.ifIdReg.isValid then { vm with nextIdExReg := .bubble }
  else
    let instruction := vm.ifIdReg.instruction
    let control := RV5SControlUnit.getControlSignals instruction
    if control.isNop then { vm with nextIdExReg := vm.passedIdEx control }
    else if opcodeOf instruction = 0b1110011#7 ∧ funct3Of instruction = 0b000#3 then
      { vm with nextIdExReg := vm.passedIdEx { control with isSyscall := true } }
    else if opcodeOf instruction = 0b1110011#7 then
      { vm with nextIdExReg := vm.passedIdEx { control with isCsr := true } }
    else
      let nextIdExReg := vm.decodedIdEx control
      let dataHazard := RV5SHazardUnit.detectDataHazard control nextIdExReg.rs1Index
        nextIdExReg.rs2Index vm.idExReg vm.exMemReg
      if dataHazard then { vm with stallRequest := true, nextIdExReg := .bubble }
      else { vm with nextIdExReg := nextIdExReg }

/-- Fetches the next word.  An out-of-range read is caught and leaves a bubble;
the program counter advances all the same. -/
def fetchStage (vm : RV5SStallVM) : Except (Fault × RV5SStallVM) RV5SStallVM :=
  if vm.flushPipeline then .ok { vm with nextIfIdReg := .bubble }
  else if vm.programSize ≤ vm.programCounter then .ok { vm with nextIfIdReg := .bubble }
  else
    match vm.memoryController.readWord vm.programCounter with
    | .ok instruction =>
      .ok { vm with
        programCounter := vm.programCounter + 4#64
        nextIfIdReg := { vm.nextIfIdReg with
          instruction := instruction
          pc := vm.programCounter
          pcInc := vm.programCounter + 4#64
          isValid := true } }
    | .error (.outOfRange _) =>
      .ok { vm with
        programCounter := vm.programCounter + 4#64
        nextIfIdReg := { IfIdReg.bubble with
          pc := vm.programCounter
          pcInc := vm.programCounter + 4#64 } }
    | .error e => .error (e, vm)

/-- The five stages of a cycle, last stage first; a stall skips the fetch. -/
def runStages (cfg : VmConfig) (vm : RV5SStallVM) :
    Except (Fault × RV5SStallVM) RV5SStallVM := do
  let vm := { vm with stallRequest := false, flushPipeline := false }
  let vm := writeBackStage vm
  let vm ← memoryStage cfg vm
  let vm ← executeStage vm
  let vm := decodeStage vm
  if vm.stallRequest then pure vm else fetchStage vm

/-- One cycle. -/
def step (cfg : VmConfig) (vm : RV5SStallVM) : Except (Fault × RV5SStallVM) RV5SStallVM :=
  if vm.outputStatus = .programEnd then .ok vm
  else do
    let vm ← runStages cfg vm
    pure vm.endCycle.reportStep

/-- What `Run` does before its loop. -/
def startRun (vm : RV5SStallVM) : RV5SStallVM :=
  { vm with stopRequested := false, outputStatus := .running }

/-- `Run`, with a bound on the number of cycles; the loop leaves with the stop flag cleared. -/
def run (cfg : VmConfig) (fuel : Nat) (vm : RV5SStallVM) :
    Option (Except (Fault × RV5SStallVM) RV5SStallVM) :=
  (Lib.runUntil (·.stopRequested) (step cfg) fuel (startRun vm)).map
    (·.map fun vm => { vm with stopRequested := false })

end RV5SStallVM

end RiscvSim

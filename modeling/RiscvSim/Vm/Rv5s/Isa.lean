import RiscvSim.Vm.Rv5s.ExVm
import RiscvSim.Vm.Rv5s.IdVm

/-!
# The instruction set the pipelined machines implement

An abstract machine without a pipeline: a program counter, the registers and
the memory.  `archStep` executes the instruction at the program counter as a
whole, with the control signals, operands, ALU, memory accesses and branch
comparisons of the pipelined machines.  Both machines are proved to refine it.
-/

namespace RiscvSim

/-- The state an instruction sees. -/
structure ArchState where
  pc : BitVec 64
  registers : RegisterFile
  memory : Memory

/-- The number of bytes of a store. -/
def MemWriteOp.width : MemWriteOp → Nat
  | .none => 0
  | .byte => 1
  | .half => 2
  | .word => 4
  | .double => 8

/-- The value an instruction writes back. -/
def resultValue (wbSrc : WriteBackSrc) (aluResult memoryData pcInc : BitVec 64) : BitVec 64 :=
  match wbSrc with
  | .fromAlu => aluResult
  | .fromMem => memoryData
  | .fromPcInc => pcInc
  | .none => 0#64

/-- The registers after an instruction with destination `rd` and the given value. -/
def writeResult (control : ControlSignals) (rd : BitVec 5) (value : BitVec 64)
    (registers : RegisterFile) : RegisterFile :=
  if control.regWrite then registers.writeGpr rd value else registers

/-- The program counter after an instruction with operands `a` and `b`. -/
def nextPc (control : ControlSignals) (pc : BitVec 64) (immediate : BitVec 32)
    (a b : BitVec 64) : BitVec 64 :=
  if control.branch && RV5SIDVM.actualTaken control.branchOp a b then
    RV5SIDVM.actualTarget control.branchOp pc immediate a b
  else pc + 4#64

namespace ArchState

/-- The word at the program counter. -/
def fetch (s : ArchState) : Except Fault (BitVec 32) :=
  s.memory.readWord s.pc

def operandA (s : ArchState) (instruction : BitVec 32) : BitVec 64 :=
  s.registers.readGpr (rs1IndexOf instruction)

def operandB (s : ArchState) (instruction : BitVec 32) : BitVec 64 :=
  s.registers.readGpr (rs2IndexOf instruction)

/-- The result of the ALU for `instruction`. -/
def alu (s : ArchState) (instruction : BitVec 32) : Except Fault (BitVec 64) :=
  aluResult (RV5SControlUnit.getControlSignals instruction) s.pc (immGenerator instruction)
    (s.operandA instruction) (s.operandB instruction)

/-- The value `instruction` loads; zero when it is no load. -/
def load (s : ArchState) (instruction : BitVec 32) (address : BitVec 64) :
    Except Fault (BitVec 64) :=
  let control := RV5SControlUnit.getControlSignals instruction
  if control.memRead then loadMemory s.memory control.memReadOp address else .ok 0#64

/-- The memory after `instruction`. -/
def store (cfg : VmConfig) (s : ArchState) (instruction : BitVec 32) (address : BitVec 64) :
    Except Fault Memory :=
  let control := RV5SControlUnit.getControlSignals instruction
  if control.memWrite then
    forgetState (storeMemory cfg s.memory control.memWriteOp address (s.operandB instruction))
  else .ok s.memory

/-- Executes `instruction` at the program counter. -/
def exec (cfg : VmConfig) (s : ArchState) (instruction : BitVec 32) : Except Fault ArchState :=
  let control := RV5SControlUnit.getControlSignals instruction
  if control.isNop then .ok { s with pc := s.pc + 4#64 }
  else do
    let result ← s.alu instruction
    let loaded ← s.load instruction result
    let memory ← s.store cfg instruction result
    let value := resultValue control.wbSrc result loaded (s.pc + 4#64)
    pure {
      pc := nextPc control s.pc (immGenerator instruction) (s.operandA instruction)
        (s.operandB instruction)
      registers := writeResult control (rdOf instruction) value s.registers
      memory := memory }

/-- One instruction of the abstract machine. -/
def archStep (cfg : VmConfig) (s : ArchState) : Except Fault ArchState := do
  let instruction ← s.fetch
  s.exec cfg instruction

/-- The addresses the instruction at the program counter stores to. -/
def storeAddresses (s : ArchState) : List (BitVec 64) :=
  match s.fetch with
  | .error _ => []
  | .ok instruction =>
    let control := RV5SControlUnit.getControlSignals instruction
    if control.isNop || !control.memWrite then []
    else (List.range control.memWriteOp.width).map fun i =>
      s.operandA instruction + offset64 (immGenerator instruction) + BitVec.ofNat 64 i

/-- The addresses of the word at the program counter. -/
def fetchAddresses (s : ArchState) : List (BitVec 64) :=
  (List.range 4).map fun i => s.pc + BitVec.ofNat 64 i

end ArchState

/-- The part of a pipelined machine an instruction sees. -/
def Rv5sVm.arch (vm : Rv5sVm) : ArchState where
  pc := vm.programCounter
  registers := vm.registers
  memory := vm.memoryController

/-! ### One instruction at a time

The reference of the refinement: the stage functions of each machine on one
instruction, which is in the pipeline alone.  A fetch that leaves a bubble is a
fault here. -/

namespace RV5SEXVM

/-- The machine when the word `instruction` at the program counter has been fetched. -/
def fetched (vm : RV5SEXVM) (instruction : BitVec 32) : RV5SEXVM :=
  let ifIdReg := { vm.nextIfIdReg with
    instruction := instruction
    pc := vm.programCounter
    pcInc := vm.programCounter + 4#64
    isValid := true }
  { vm with
    stallRequest := false
    flushPipeline := false
    programCounter := vm.programCounter + 4#64
    nextIfIdReg := ifIdReg
    ifIdReg := ifIdReg }

/-- Passes the instruction in the first latch through the other stages of the empty pipeline. -/
def passAlone (cfg : VmConfig) (vm : RV5SEXVM) : Except (Fault × RV5SEXVM) RV5SEXVM := do
  let vm := decodeStage vm
  let vm : RV5SEXVM := { vm with
    ifIdReg := .bubble
    idExReg := vm.nextIdExReg
    flushPipeline := false }
  let vm ← executeStage vm
  let vm : RV5SEXVM := { vm with
    idExReg := .bubble
    exMemReg := vm.nextExMemReg
    flushPipeline := false }
  let vm ← memoryStage cfg vm
  let vm : RV5SEXVM := { vm with exMemReg := .bubble, memWbReg := vm.nextMemWbReg }
  let vm := writeBackStage vm
  pure { vm with memWbReg := .bubble }

/-- Passes the instruction at the program counter through the empty pipeline. -/
def runAlone (cfg : VmConfig) (vm : RV5SEXVM) : Except (Fault × RV5SEXVM) RV5SEXVM := do
  let vm ← fetchStage { vm with stallRequest := false, flushPipeline := false }
  let vm : RV5SEXVM := { vm with ifIdReg := vm.nextIfIdReg }
  if !vm.ifIdReg.isValid then .error (.outOfRange vm.ifIdReg.pc, vm)
  else passAlone cfg vm

end RV5SEXVM

namespace RV5SIDVM

/-- Passes the instruction at the program counter through the empty pipeline. -/
def runAlone (cfg : VmConfig) (vm : RV5SIDVM) : Except (Fault × RV5SIDVM) RV5SIDVM := do
  let vm ← fetchStage { vm with stallRequest := false, flushPipeline := false }
  let vm : RV5SIDVM := { vm with ifIdReg := vm.nextIfIdReg }
  if !vm.ifIdReg.isValid then .error (.outOfRange vm.ifIdReg.pc, vm)
  else do
    let vm := decodeStage vm
    let vm : RV5SIDVM := { vm with
      ifIdReg := .bubble
      idExReg := vm.nextIdExReg
      flushPipeline := false }
    let vm ← executeStage vm
    let vm : RV5SIDVM := { vm with
      idExReg := .bubble
      exMemReg := vm.nextExMemReg
      flushPipeline := false }
    let vm ← memoryStage cfg vm
    let vm : RV5SIDVM := { vm with exMemReg := .bubble, memWbReg := vm.nextMemWbReg }
    let vm := writeBackStage vm
    pure { vm with memWbReg := .bubble }

end RV5SIDVM

end RiscvSim

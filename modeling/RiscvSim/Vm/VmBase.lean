import RiscvSim.AssembledProgram
import RiscvSim.Vm.MainMemory
import RiscvSim.Vm.Registers

/-!
# The base of the machines

The fields of an instruction word as every machine extracts them, the
immediate generator, the members all machines share and the program loader.
-/

namespace RiscvSim

def opcodeOf (instruction : BitVec 32) : BitVec 7 :=
  instruction.extractLsb' 0 7

def rdOf (instruction : BitVec 32) : BitVec 5 :=
  instruction.extractLsb' 7 5

def funct3Of (instruction : BitVec 32) : BitVec 3 :=
  instruction.extractLsb' 12 3

def rs1Of (instruction : BitVec 32) : BitVec 5 :=
  instruction.extractLsb' 15 5

def rs2Of (instruction : BitVec 32) : BitVec 5 :=
  instruction.extractLsb' 20 5

def funct7Of (instruction : BitVec 32) : BitVec 7 :=
  instruction.extractLsb' 25 7

/-- `sign_extend`: reads the low `bits` bits of `value` as a signed number. -/
def signExtendBits (value : BitVec 32) (bits : Nat) : BitVec 32 :=
  let mask := 1#32 <<< (bits - 1)
  (value ^^^ mask) - mask

/-- The immediate of an instruction word, as a 32-bit signed number. -/
def immGenerator (instruction : BitVec 32) : BitVec 32 :=
  match opcodeOf instruction with
  -- I-type: ALU immediate, load, JALR, FENCE, floating-point load
  | 0b0010011#7 | 0b0000011#7 | 0b1100111#7 | 0b0001111#7 | 0b0000111#7 =>
    signExtendBits ((instruction >>> 20) &&& 0xFFF#32) 12
  -- S-type: store, floating-point store
  | 0b0100011#7 | 0b0100111#7 =>
    signExtendBits
      (((instruction >>> 7) &&& 0x1F#32) ||| (((instruction >>> 25) &&& 0x7F#32) <<< 5)) 12
  -- SB-type
  | 0b1100011#7 =>
    let imm := ((instruction >>> 8) &&& 0xF#32)
      ||| (((instruction >>> 25) &&& 0x3F#32) <<< 4)
      ||| (((instruction >>> 7) &&& 0x1#32) <<< 10)
      ||| (((instruction >>> 31) &&& 0x1#32) <<< 11)
    signExtendBits (imm <<< 1) 13
  -- U-type: the upper 20 bits, moved down and not sign-extended
  | 0b0110111#7 | 0b0010111#7 => (instruction &&& 0xFFFFF000#32) >>> 12
  -- J-type
  | 0b1101111#7 =>
    let imm := ((instruction >>> 21) &&& 0x3FF#32)
      ||| (((instruction >>> 20) &&& 0x1#32) <<< 10)
      ||| (((instruction >>> 12) &&& 0xFF#32) <<< 11)
      ||| (((instruction >>> 31) &&& 0x1#32) <<< 19)
    signExtendBits (imm <<< 1) 21
  | _ => 0#32

/-- A 32-bit signed immediate as the offset added to an address. -/
def offset64 (immediate : BitVec 32) : BitVec 64 :=
  immediate.signExtend 64

/-- The texts a machine leaves in `output_status_`. -/
inductive OutputStatus where
  | none
  | programLoaded
  | running
  | stepCompleted
  | lastInstructionStepped
  | breakpointHit
  | programEnd
  | undoCompleted
  | noMoreUndo
  | stdinStart
  | stdinEnd
  | stdoutStart
  | stdoutEnd
  | exit
  deriving DecidableEq, Repr

/-- The members every machine inherits. -/
structure VmBase where
  program : AssembledProgram := {}
  stopRequested : Bool := false
  /-- The lines of input, as bytes. -/
  inputQueue : List (List (BitVec 8)) := []
  breakpoints : List (BitVec 64) := []
  currentInstruction : BitVec 32 := 0#32
  programCounter : BitVec 64 := 0#64
  cycleS : BitVec 32 := 0#32
  instructionsRetired : BitVec 32 := 0#32
  stallCycles : BitVec 32 := 0#32
  branchMispredictions : BitVec 32 := 0#32
  outputStatus : OutputStatus := .none
  memoryController : Memory
  registers : RegisterFile := .reset
  programSize : BitVec 64 := 0#64

/-- Writes the instruction words from address zero on; the byte counter is an
`unsigned int`. -/
def loadText (cfg : VmConfig) (memory : Memory) (textBuffer : List (BitVec 32)) :
    Except (Fault × Memory) (Memory × BitVec 32) :=
  textBuffer.foldlM (fun (memory, counter) instruction => do
    let memory ← memory.writeWord cfg (counter.setWidth 64) instruction
    pure (memory, counter + 4#32)) (memory, 0#32)

/-- The loader's `align`: the next multiple of `alignment`. -/
def alignCounter (alignment dataCounter : BitVec 32) : BitVec 32 :=
  if dataCounter % alignment ≠ 0#32 then dataCounter + (alignment - dataCounter % alignment)
  else dataCounter

/-- Writes one data element at its aligned offset from `base`. -/
def loadDataElement (cfg : VmConfig) (base : BitVec 64) :
    Memory × BitVec 32 → DataElement → Except (Fault × Memory) (Memory × BitVec 32)
  | (memory, dataCounter), .byte value => do
    let dataCounter := alignCounter 1#32 dataCounter
    let memory ← memory.writeByte cfg (base + dataCounter.setWidth 64) value
    pure (memory, dataCounter + 1#32)
  | (memory, dataCounter), .halfWord value => do
    let dataCounter := alignCounter 2#32 dataCounter
    let memory ← memory.writeHalfWord cfg (base + dataCounter.setWidth 64) value
    pure (memory, dataCounter + 2#32)
  | (memory, dataCounter), .word value => do
    let dataCounter := alignCounter 4#32 dataCounter
    let memory ← memory.writeWord cfg (base + dataCounter.setWidth 64) value
    pure (memory, dataCounter + 4#32)
  | (memory, dataCounter), .doubleWord value => do
    let dataCounter := alignCounter 8#32 dataCounter
    let memory ← memory.writeDoubleWord cfg (base + dataCounter.setWidth 64) value
    pure (memory, dataCounter + 8#32)
  | (memory, dataCounter), .float bits => do
    let dataCounter := alignCounter 4#32 dataCounter
    let memory ← memory.writeWord cfg (base + dataCounter.setWidth 64) bits
    pure (memory, dataCounter + 4#32)
  | (memory, dataCounter), .double bits => do
    let dataCounter := alignCounter 8#32 dataCounter
    let memory ← memory.writeDoubleWord cfg (base + dataCounter.setWidth 64) bits
    pure (memory, dataCounter + 8#32)
  | (memory, dataCounter), .string bytes =>
    bytes.foldlM (fun (memory, dataCounter) byte => do
      let memory ← memory.writeByte cfg (base + dataCounter.setWidth 64) byte
      pure (memory, dataCounter + 1#32)) (memory, alignCounter 1#32 dataCounter)

/-- Writes the data elements from the start of the data section on. -/
def loadData (cfg : VmConfig) (memory : Memory) (dataBuffer : List DataElement) :
    Except (Fault × Memory) (Memory × BitVec 32) :=
  dataBuffer.foldlM (loadDataElement cfg cfg.dataSectionStart) (memory, 0#32)

namespace VmBase

def checkBreakpoint (vm : VmBase) (address : BitVec 64) : Bool :=
  vm.breakpoints.contains address

/-- Adds a breakpoint given by its address, as `AddBreakpoint(val, false)` does. -/
def addBreakpointAddress (vm : VmBase) (val : BitVec 64) : VmBase :=
  if val % 4#64 ≠ 0#64 then vm
  else if vm.checkBreakpoint val then vm
  else { vm with breakpoints := vm.breakpoints ++ [val] }

/-- Adds a breakpoint given by its source line, as `AddBreakpoint(val, true)` does:
the key of the map has 32 bits, and so has the address. -/
def addBreakpointLine (vm : VmBase) (val : BitVec 64) : VmBase :=
  match vm.program.lineNumberInstructionNumberMapping (val.setWidth 32) with
  | none => vm
  | some instruction =>
    let bp := (instruction * 4#32).setWidth 64
    if vm.checkBreakpoint bp then vm
    else { vm with breakpoints := vm.breakpoints ++ [bp] }

/-- The machine with its memory replaced. -/
def withMemory (vm : VmBase) (memory : Memory) : VmBase :=
  { vm with memoryController := memory }

/-- Writes a program into the memory and records its size. -/
def loadProgram (cfg : VmConfig) (vm : VmBase) (program : AssembledProgram) :
    Except (Fault × VmBase) VmBase := do
  let vm := { vm with program := program }
  let (memory, counter) ←
    throwWith vm.withMemory (loadText cfg vm.memoryController program.textBuffer)
  let vm := (vm.withMemory memory)
  let vm := ({ vm with programSize := counter.setWidth 64 }).addBreakpointAddress
    (counter.setWidth 64)
  let (memory, _) ← throwWith vm.withMemory (loadData cfg vm.memoryController program.dataBuffer)
  pure { vm.withMemory memory with outputStatus := .programLoaded }

end VmBase

end RiscvSim

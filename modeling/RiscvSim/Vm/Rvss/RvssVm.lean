import RiscvSim.Vm.Rvss.ControlUnit

/-!
# The single-cycle machine

`RVSSVM` executes an instruction as a whole: fetch, decode, execute, memory
access, write-back.  `Step` and `DebugRun` record what each instruction changed
in a `StepDelta`; `Undo` and `Redo` apply the recorded changes.  The
floating-point arithmetic is a parameter.
-/

namespace RiscvSim

/-- A register of one of the three banks: the index and the type of a recorded change. -/
inductive RegisterName where
  | gpr (index : BitVec 5)
  | csr (index : BitVec 12)
  | fpr (index : BitVec 5)
  deriving DecidableEq, Repr

/-- Reads a register of any bank. -/
def RegisterFile.read (r : RegisterFile) : RegisterName → BitVec 64
  | .gpr index => r.readGpr index
  | .csr index => r.readCsr index
  | .fpr index => r.readFpr index

/-- Writes a register of any bank. -/
def RegisterFile.write (r : RegisterFile) (value : BitVec 64) : RegisterName → RegisterFile
  | .gpr index => r.writeGpr index value
  | .csr index => r.writeCsr index value
  | .fpr index => r.writeFpr index value

structure RegisterChange where
  register : RegisterName
  oldValue : BitVec 64
  newValue : BitVec 64
  deriving DecidableEq, Repr

structure MemoryChange where
  address : BitVec 64
  oldBytesVec : List (BitVec 8)
  newBytesVec : List (BitVec 8)
  deriving DecidableEq, Repr

/-- What one instruction changed. -/
structure StepDelta where
  oldPc : BitVec 64 := 0#64
  newPc : BitVec 64 := 0#64
  registerChanges : List RegisterChange := []
  memoryChanges : List MemoryChange := []
  deriving DecidableEq, Repr

/-- The single-cycle machine; the heads of the two stacks are their tops.
`roundingDirection` is the one of the thread that runs the machine. -/
structure RVSSVM extends VmBase where
  controlUnit : RVSSControlUnit := {}
  undoStack : List StepDelta := []
  redoStack : List StepDelta := []
  currentDelta : StepDelta := {}
  executionResult : BitVec 64 := 0#64
  memoryResult : BitVec 64 := 0#64
  returnAddress : BitVec 64 := 0#64
  branchFlag : Bool := false
  nextPc : BitVec 64 := 0#64
  csrTargetAddress : BitVec 12 := 0#12
  csrOldValue : BitVec 64 := 0#64
  csrWriteVal : BitVec 64 := 0#64
  csrUimm : BitVec 5 := 0#5
  roundingDirection : RoundingDirection := .toNearest

/-- Reads `n` single bytes. -/
def Memory.readBytes (m : Memory) (n : Nat) (address : BitVec 64) :
    Except Fault (List (BitVec 8)) :=
  (List.range n).mapM fun i => m.readByte (address + BitVec.ofNat 64 i)

/-- Writes bytes one by one. -/
def Memory.writeBytes (cfg : VmConfig) (m : Memory) (address : BitVec 64)
    (bytes : List (BitVec 8)) : Except (Fault × Memory) Memory :=
  bytes.zipIdx.foldlM (fun m (byte, i) => m.writeByte cfg (address + BitVec.ofNat 64 i) byte) m

theorem Memory.lt_of_readByte {m : Memory} {address : BitVec 64} {byte : BitVec 8}
    (h : m.readByte address = .ok byte) : address < m.memorySize := by
  unfold Memory.readByte Memory.checkRange at h
  split at h
  · cases h
  · rename_i hlt
    simpa [BitVec.not_le] using hlt

/-- `PrintString`: reads up to the first zero byte. -/
def Memory.printString (m : Memory) (address : BitVec 64) : Except Fault Unit :=
  match _h : m.readByte address with
  | .error e => .error e
  | .ok byte => if byte = 0#8 then .ok () else m.printString (address + 1#64)
termination_by 2 ^ 64 - address.toNat
decreasing_by
  have hlt : address.toNat < m.memorySize.toNat := Memory.lt_of_readByte _h
  have := m.memorySize.isLt
  rw [BitVec.toNat_add]
  show 2 ^ 64 - (address.toNat + 1) % 2 ^ 64 < 2 ^ 64 - address.toNat
  omega

namespace RVSSVM

/-- The machine with its memory replaced. -/
def withMemory (vm : RVSSVM) (memory : Memory) : RVSSVM :=
  { vm with memoryController := memory }

/-- Adds a register change to the current delta. -/
def pushRegisterChange (vm : RVSSVM) (change : RegisterChange) : RVSSVM :=
  { vm with currentDelta := { vm.currentDelta with
      registerChanges := vm.currentDelta.registerChanges ++ [change] } }

/-- Adds a memory change to the current delta. -/
def pushMemoryChange (vm : RVSSVM) (change : MemoryChange) : RVSSVM :=
  { vm with currentDelta := { vm.currentDelta with
      memoryChanges := vm.currentDelta.memoryChanges ++ [change] } }

/-- Records a register change if the two values differ. -/
def recordRegister (vm : RVSSVM) (register : RegisterName) (oldReg newReg : BitVec 64) : RVSSVM :=
  if oldReg ≠ newReg then vm.pushRegisterChange ⟨register, oldReg, newReg⟩ else vm

/-- Records a memory change if the bytes differ. -/
def recordMemory (vm : RVSSVM) (change : MemoryChange) : RVSSVM :=
  if change.oldBytesVec ≠ change.newBytesVec then vm.pushMemoryChange change else vm

/-- Writes a register and records the change if `newReg` differs from the old value. -/
def writeRegister (vm : RVSSVM) (register : RegisterName) (newReg : BitVec 64) : RVSSVM :=
  { vm with registers := vm.registers.write newReg register }.recordRegister register
    (vm.registers.read register) newReg

def fetch (vm : RVSSVM) : Except (Fault × RVSSVM) RVSSVM := do
  let currentInstruction ← throwAt vm (vm.memoryController.readWord vm.programCounter)
  pure { vm with
    currentInstruction := currentInstruction
    programCounter := vm.programCounter + 4#64 }

def decode (vm : RVSSVM) : RVSSVM :=
  { vm with controlUnit := .setControlSignals vm.currentInstruction }

/-! ### Execute -/

/-- The read call: a line of the input goes to the buffer, cut off at `length`
and followed by a zero byte where there is room. -/
def readSyscall (cfg : VmConfig) (vm : RVSSVM) : Except (Fault × RVSSVM) RVSSVM :=
  let fileDescriptor := vm.registers.readGpr 10#5
  let bufferAddress := vm.registers.readGpr 11#5
  let length := (vm.registers.readGpr 12#5).toNat
  if fileDescriptor ≠ 0#64 then .ok vm
  else
    match vm.inputQueue with
    | [] => .error (.waiting, { vm with outputStatus := .stdinStart })
    | input :: inputQueue => do
      let vm := { vm with outputStatus := .stdinEnd, inputQueue := inputQueue }
      let oldBytesVec ← throwAt vm (vm.memoryController.readBytes length bufferAddress)
      let memory ← throwWith vm.withMemory
        (vm.memoryController.writeBytes cfg bufferAddress (input.take length))
      let vm := vm.withMemory memory
      let memory ← throwWith vm.withMemory
        (if input.length < length then
          memory.writeByte cfg (bufferAddress + BitVec.ofNat 64 input.length) 0#8
        else .ok memory)
      let vm := vm.withMemory memory
      let newBytesVec ← throwAt vm (memory.readBytes length bufferAddress)
      let vm := vm.pushMemoryChange ⟨bufferAddress, oldBytesVec, newBytesVec⟩
      pure (vm.writeRegister (.gpr 10#5) (BitVec.ofNat 64 (min length input.length)))

/-- The write call: reads the bytes it prints and returns their number. -/
def writeSyscall (vm : RVSSVM) : Except (Fault × RVSSVM) RVSSVM :=
  let fileDescriptor := vm.registers.readGpr 10#5
  let bufferAddress := vm.registers.readGpr 11#5
  let length := vm.registers.readGpr 12#5
  if fileDescriptor ≠ 1#64 then .ok vm
  else do
    let vm := { vm with outputStatus := .stdoutStart }
    let _ ← throwAt vm (vm.memoryController.readBytes length.toNat bufferAddress)
    let vm := { vm with outputStatus := .stdoutEnd }
    pure (vm.writeRegister (.gpr 10#5) length)

/-- `HandleSyscall`, without the text it prints. -/
def handleSyscall (cfg : VmConfig) (vm : RVSSVM) : Except (Fault × RVSSVM) RVSSVM :=
  match vm.registers.readGpr 17#5 with
  -- SYSCALL_PRINT_STRING
  | 4#64 => do
    throwAt vm (vm.memoryController.printString (vm.registers.readGpr 10#5))
    pure vm
  -- SYSCALL_EXIT
  | 10#64 => .error (.exited, { vm with stopRequested := true, outputStatus := .exit })
  -- SYSCALL_READ
  | 63#64 => vm.readSyscall cfg
  -- SYSCALL_WRITE
  | 64#64 => vm.writeSyscall
  -- the calls that print a number, and unknown ones
  | _ => .ok vm

/-- The rounding mode of a single-precision instruction: its own, or the one in `frm`. -/
def roundingMode (vm : RVSSVM) : BitVec 8 :=
  let rm := funct3Of vm.currentInstruction
  if rm = 0b111#3 then (vm.registers.readCsr 0x002#12).setWidth 8 else rm.setWidth 8

/-- The operands of a floating-point instruction; `moveFunct7` and `convertFunct7`
are those of the instructions that read their first operand from a GPR. -/
def floatOperands (vm : RVSSVM) (convertFunct7 moveFunct7 : BitVec 7) :
    BitVec 64 × BitVec 64 × BitVec 64 :=
  let instruction := vm.currentInstruction
  let opcode := opcodeOf instruction
  let funct7 := funct7Of instruction
  let rs1 := rs1Of instruction
  let rs3 : BitVec 5 := instruction.extractLsb' 27 5
  let reg1Value :=
    if funct7 = convertFunct7 ∨ funct7 = moveFunct7 ∨ opcode = 0b0000111#7 ∨
        opcode = 0b0100111#7 then
      vm.registers.readGpr rs1
    else vm.registers.readFpr rs1
  let reg2Value :=
    if vm.controlUnit.aluSrc then offset64 (immGenerator instruction)
    else vm.registers.readFpr (rs2Of instruction)
  (reg1Value, reg2Value, vm.registers.readFpr rs3)

/-- `ExecuteFloat`: leaves the exception flags in `fcsr`. -/
def executeFloat (fpu : FloatUnit) (vm : RVSSVM) : RVSSVM :=
  let (reg1Value, reg2Value, reg3Value) := vm.floatOperands 0b1101000#7 0b1111000#7
  let aluOperation := RVSSControlUnit.getAluSignal vm.currentInstruction
  let ((executionResult, fcsrStatus), roundingDirection) :=
    Alu.fpexecute fpu vm.roundingDirection aluOperation reg1Value reg2Value reg3Value
      vm.roundingMode
  { vm with
    executionResult := executionResult
    roundingDirection := roundingDirection
    registers := vm.registers.writeCsr 0x003#12 (fcsrStatus.setWidth 64) }

/-- `ExecuteDouble`: takes the rounding mode from the instruction alone, and
drops the exception flags. -/
def executeDouble (fpu : FloatUnit) (vm : RVSSVM) : RVSSVM :=
  let (reg1Value, reg2Value, reg3Value) := vm.floatOperands 0b1101001#7 0b1111001#7
  let rm : BitVec 8 := (funct3Of vm.currentInstruction).setWidth 8
  let aluOperation := RVSSControlUnit.getAluSignal vm.currentInstruction
  let ((executionResult, _), roundingDirection) :=
    Alu.dfpexecute fpu vm.roundingDirection aluOperation reg1Value reg2Value reg3Value rm
  { vm with
    executionResult := executionResult
    roundingDirection := roundingDirection }

def executeCsr (vm : RVSSVM) : RVSSVM :=
  let rs1 := rs1Of vm.currentInstruction
  let csr : BitVec 12 := vm.currentInstruction.extractLsb' 20 12
  { vm with
    csrTargetAddress := csr
    csrOldValue := vm.registers.readCsr csr
    csrWriteVal := vm.registers.readGpr rs1
    csrUimm := rs1 }

/-- The flag of a conditional branch; two values of `funct3` leave it as it was. -/
def branchFlagOf (funct3 : BitVec 3) (executionResult : BitVec 64) (branchFlag : Bool) : Bool :=
  match funct3 with
  | 0b000#3 => executionResult == 0#64
  | 0b001#3 => executionResult != 0#64
  | 0b100#3 => executionResult == 1#64
  | 0b101#3 => executionResult == 0#64
  | 0b110#3 => executionResult == 1#64
  | 0b111#3 => executionResult == 0#64
  | _ => branchFlag

/-- A jump or a conditional branch; the fetch has moved the program counter on already. -/
def executeBranch (vm : RVSSVM) : RVSSVM :=
  let instruction := vm.currentInstruction
  let opcode := opcodeOf instruction
  if opcode = 0b1100111#7 ∨ opcode = 0b1101111#7 then
    let pc := vm.programCounter - 4#64
    { vm with
      nextPc := vm.programCounter
      returnAddress := pc + 4#64
      programCounter :=
        if opcode = 0b1100111#7 then pc + (-pc + vm.executionResult)
        else pc + offset64 (immGenerator instruction) }
  else if opcode = 0b1100011#7 then
    { vm with
      branchFlag := branchFlagOf (funct3Of instruction) vm.executionResult vm.branchFlag }
  else vm

/-- The target of a conditional branch whose flag is set. -/
def takeBranch (vm : RVSSVM) : RVSSVM :=
  if vm.branchFlag ∧ opcodeOf vm.currentInstruction = 0b1100011#7 then
    { vm with
      programCounter :=
        vm.programCounter - 4#64 + offset64 (immGenerator vm.currentInstruction) }
  else vm

/-- What `Execute` does to the program counter after the ALU has run. -/
def redirect (vm : RVSSVM) : RVSSVM :=
  (if vm.controlUnit.branch then vm.executeBranch else vm).takeBranch

/-- The last lines of `Execute`: AUIPC takes its result from the program counter. -/
def executeAuipc (vm : RVSSVM) : RVSSVM :=
  if opcodeOf vm.currentInstruction = 0b0010111#7 then
    { vm with
      executionResult := vm.programCounter - 4#64
        + (immGenerator vm.currentInstruction <<< 12).signExtend 64 }
  else vm

/-- The part of `Execute` for the integer instructions. -/
def executeInteger (vm : RVSSVM) : Except (Fault × RVSSVM) RVSSVM := do
  let instruction := vm.currentInstruction
  let imm := immGenerator instruction
  let reg1Value := vm.registers.readGpr (rs1Of instruction)
  let reg2Value :=
    if vm.controlUnit.aluSrc then offset64 imm else vm.registers.readGpr (rs2Of instruction)
  let aluOperation := RVSSControlUnit.getAluSignal instruction
  let (executionResult, _) ← throwAt vm (Alu.execute aluOperation reg1Value reg2Value)
  let vm := { vm with executionResult := executionResult }
  pure vm.redirect.executeAuipc

def execute (cfg : VmConfig) (fpu : FloatUnit) (vm : RVSSVM) : Except (Fault × RVSSVM) RVSSVM :=
  let instruction := vm.currentInstruction
  if opcodeOf instruction = 0b1110011#7 ∧ funct3Of instruction = 0b000#3 then vm.handleSyscall cfg
  else if isFInstruction instruction then .ok (vm.executeFloat fpu)
  else if isDInstruction instruction then .ok (vm.executeDouble fpu)
  else if opcodeOf instruction = 0b1110011#7 then .ok vm.executeCsr
  else vm.executeInteger

/-! ### Memory access -/

/-- A store of `n` bytes: the bytes are read before and after it and recorded if they differ. -/
def storeRecorded (vm : RVSSVM) (n : Nat) (write : Memory → Except (Fault × Memory) Memory) :
    Except (Fault × RVSSVM) RVSSVM := do
  let addr := vm.executionResult
  let oldBytesVec ← throwAt vm (vm.memoryController.readBytes n addr)
  let memory ← throwWith vm.withMemory (write vm.memoryController)
  let vm := vm.withMemory memory
  let newBytesVec ← throwAt vm (memory.readBytes n addr)
  pure (vm.recordMemory ⟨addr, oldBytesVec, newBytesVec⟩)

/-- The value of an integer load; one value of `funct3` keeps the last one. -/
def loadInteger (memory : Memory) (funct3 : BitVec 3) (address memoryResult : BitVec 64) :
    Except Fault (BitVec 64) :=
  match funct3 with
  | 0b000#3 => do pure ((← memory.readByte address).signExtend 64)
  | 0b001#3 => do pure ((← memory.readHalfWord address).signExtend 64)
  | 0b010#3 => do pure ((← memory.readWord address).signExtend 64)
  | 0b011#3 => memory.readDoubleWord address
  | 0b100#3 => do pure ((← memory.readByte address).setWidth 64)
  | 0b101#3 => do pure ((← memory.readHalfWord address).setWidth 64)
  | 0b110#3 => do pure ((← memory.readWord address).setWidth 64)
  | _ => pure memoryResult

/-- The number of bytes of an integer store, and the write itself. -/
def storeInteger (cfg : VmConfig) (funct3 : BitVec 3) (address value : BitVec 64) :
    Option (Nat × (Memory → Except (Fault × Memory) Memory)) :=
  match funct3 with
  | 0b000#3 => some (1, (·.writeByte cfg address (value.setWidth 8)))
  | 0b001#3 => some (2, (·.writeHalfWord cfg address (value.setWidth 16)))
  | 0b010#3 => some (4, (·.writeWord cfg address (value.setWidth 32)))
  | 0b011#3 => some (8, (·.writeDoubleWord cfg address value))
  | _ => none

/-- The memory access of an instruction whose load has the value `load` and whose
store, if any, writes as `store` says. -/
def accessMemory (vm : RVSSVM) (load : Except Fault (BitVec 64))
    (store : Option (Nat × (Memory → Except (Fault × Memory) Memory))) :
    Except (Fault × RVSSVM) RVSSVM := do
  let memoryResult ←
    throwAt vm (if vm.controlUnit.memRead then load else .ok vm.memoryResult)
  let vm := { vm with memoryResult := memoryResult }
  if vm.controlUnit.memWrite then
    match store with
    | some (n, write) => vm.storeRecorded n write
    | none => pure vm
  else pure vm

def writeMemoryInteger (cfg : VmConfig) (vm : RVSSVM) : Except (Fault × RVSSVM) RVSSVM :=
  let funct3 := funct3Of vm.currentInstruction
  let address := vm.executionResult
  let value := vm.registers.readGpr (rs2Of vm.currentInstruction)
  vm.accessMemory (loadInteger vm.memoryController funct3 address vm.memoryResult)
    (storeInteger cfg funct3 address value)

def writeMemoryFloat (cfg : VmConfig) (vm : RVSSVM) : Except (Fault × RVSSVM) RVSSVM :=
  let address := vm.executionResult
  let value := vm.registers.readFpr (rs2Of vm.currentInstruction)
  vm.accessMemory (do pure ((← vm.memoryController.readWord address).setWidth 64))
    (some (4, (·.writeWord cfg address (value.setWidth 32))))

def writeMemoryDouble (cfg : VmConfig) (vm : RVSSVM) : Except (Fault × RVSSVM) RVSSVM :=
  let address := vm.executionResult
  let value := vm.registers.readFpr (rs2Of vm.currentInstruction)
  vm.accessMemory (vm.memoryController.readDoubleWord address)
    (some (8, (·.writeDoubleWord cfg address value)))

def writeMemory (cfg : VmConfig) (vm : RVSSVM) : Except (Fault × RVSSVM) RVSSVM :=
  let instruction := vm.currentInstruction
  if opcodeOf instruction = 0b1110011#7 ∧ funct3Of instruction = 0b000#3 then .ok vm
  else if isFInstruction instruction then vm.writeMemoryFloat cfg
  else if isDInstruction instruction then vm.writeMemoryDouble cfg
  else vm.writeMemoryInteger cfg

/-! ### Write-back -/

/-- The registers after the write-back of the integer instruction `instruction`. -/
def integerResult (regWrite : Bool) (instruction : BitVec 32)
    (executionResult memoryResult nextPc : BitVec 64) (registers : RegisterFile) : RegisterFile :=
  let rd := rdOf instruction
  if regWrite then
    match opcodeOf instruction with
    | 0b0110011#7 | 0b0010011#7 | 0b0010111#7 => registers.writeGpr rd executionResult
    | 0b0000011#7 => registers.writeGpr rd memoryResult
    | 0b1100111#7 | 0b1101111#7 => registers.writeGpr rd nextPc
    | 0b0110111#7 => registers.writeGpr rd ((immGenerator instruction <<< 12).signExtend 64)
    | _ => registers
  else registers

/-- The part of `WriteBack` for the integer instructions. -/
def writeBackInteger (vm : RVSSVM) : RVSSVM :=
  let rd := rdOf vm.currentInstruction
  let registers := integerResult vm.controlUnit.regWrite vm.currentInstruction vm.executionResult
    vm.memoryResult vm.nextPc vm.registers
  { vm with registers := registers }.recordRegister (.gpr rd) (vm.registers.readGpr rd)
    (registers.readGpr rd)

/-- `WriteBackFloat`.  The fields of a load's offset are taken for a `funct7` here too. -/
def writeBackFloat (vm : RVSSVM) : RVSSVM :=
  let instruction := vm.currentInstruction
  let rd := rdOf instruction
  if vm.controlUnit.regWrite then
    match funct7Of instruction with
    -- compare, convert to integer, move to integer and classify
    | 0b1010000#7 | 0b1100000#7 | 0b1110000#7 => vm.writeRegister (.gpr rd) vm.executionResult
    | _ =>
      if opcodeOf instruction = 0b0000111#7 then vm.writeRegister (.fpr rd) vm.memoryResult
      else vm.writeRegister (.fpr rd) vm.executionResult
  else vm

def writeBackDouble (vm : RVSSVM) : RVSSVM :=
  let instruction := vm.currentInstruction
  let rd := rdOf instruction
  if vm.controlUnit.regWrite then
    match funct7Of instruction with
    -- compare, convert to integer, move to integer and classify
    | 0b1010001#7 | 0b1100001#7 | 0b1110001#7 => vm.writeRegister (.gpr rd) vm.executionResult
    | _ =>
      if opcodeOf instruction = 0b0000111#7 then vm.writeRegister (.fpr rd) vm.memoryResult
      else vm.writeRegister (.fpr rd) vm.executionResult
  else vm

/-- The value a CSR instruction writes to its CSR; none when it leaves it alone. -/
def csrResult (vm : RVSSVM) : Option (BitVec 64) :=
  let uimm := vm.csrUimm.setWidth 64
  match funct3Of vm.currentInstruction with
  | 0b001#3 => some vm.csrWriteVal
  | 0b010#3 => if vm.csrWriteVal ≠ 0#64 then some (vm.csrOldValue ||| vm.csrWriteVal) else none
  | 0b011#3 => if vm.csrWriteVal ≠ 0#64 then some (vm.csrOldValue &&& ~~~vm.csrWriteVal) else none
  | 0b101#3 => some uimm
  | 0b110#3 => if vm.csrUimm ≠ 0#5 then some (vm.csrOldValue ||| uimm) else none
  | 0b111#3 => if vm.csrUimm ≠ 0#5 then some (vm.csrOldValue &&& ~~~uimm) else none
  | _ => none

/-- `WriteBackCsr`: records nothing. -/
def writeBackCsr (vm : RVSSVM) : RVSSVM :=
  let rd := rdOf vm.currentInstruction
  if funct3Of vm.currentInstruction = 0b100#3 ∨ funct3Of vm.currentInstruction = 0b000#3 then vm
  else
    let registers := vm.registers.writeGpr rd vm.csrOldValue
    { vm with registers :=
        match vm.csrResult with
        | some value => registers.writeCsr vm.csrTargetAddress value
        | none => registers }

def writeBack (vm : RVSSVM) : RVSSVM :=
  let instruction := vm.currentInstruction
  if opcodeOf instruction = 0b1110011#7 ∧ funct3Of instruction = 0b000#3 then vm
  else if isFInstruction instruction then vm.writeBackFloat
  else if isDInstruction instruction then vm.writeBackDouble
  else if opcodeOf instruction = 0b1110011#7 then vm.writeBackCsr
  else vm.writeBackInteger

/-! ### The commands -/

/-- Counts an instruction and a cycle. -/
def retire (vm : RVSSVM) : RVSSVM :=
  { vm with
    instructionsRetired := vm.instructionsRetired + 1#32
    cycleS := vm.cycleS + 1#32 }

/-- The five calls of one instruction, and the two counters. -/
def runInstruction (cfg : VmConfig) (fpu : FloatUnit) (vm : RVSSVM) :
    Except (Fault × RVSSVM) RVSSVM := do
  let vm ← vm.fetch
  let vm := vm.decode
  let vm ← vm.execute cfg fpu
  let vm ← vm.writeMemory cfg
  pure vm.writeBack.retire

/-- Pushes the current delta on the undo stack and empties the redo stack. -/
def commitDelta (vm : RVSSVM) : RVSSVM :=
  { vm with
    undoStack := { vm.currentDelta with newPc := vm.programCounter } :: vm.undoStack
    redoStack := []
    currentDelta := {} }

/-- The status after a completed instruction. -/
def reportStep (vm : RVSSVM) : RVSSVM :=
  if vm.programCounter < vm.programSize then { vm with outputStatus := .stepCompleted }
  else { vm with outputStatus := .lastInstructionStepped }

def startDelta (vm : RVSSVM) : RVSSVM :=
  { vm with currentDelta := { vm.currentDelta with oldPc := vm.programCounter } }

/-- One instruction with its delta recorded. -/
def recordInstruction (cfg : VmConfig) (fpu : FloatUnit) (vm : RVSSVM) :
    Except (Fault × RVSSVM) RVSSVM := do
  let vm ← vm.startDelta.runInstruction cfg fpu
  pure vm.commitDelta.reportStep

def step (cfg : VmConfig) (fpu : FloatUnit) (vm : RVSSVM) : Except (Fault × RVSSVM) RVSSVM :=
  if vm.programCounter < vm.programSize then vm.recordInstruction cfg fpu
  else .ok { vm.startDelta with outputStatus := .programEnd }

/-- The status a run leaves behind. -/
def reportEnd (vm : RVSSVM) : RVSSVM :=
  if vm.programSize ≤ vm.programCounter then { vm with outputStatus := .programEnd } else vm

/-- The loop of `Run` with at most `fuel` rounds; `none` when they do not suffice. -/
def runLoop (cfg : VmConfig) (fpu : FloatUnit) :
    Nat → BitVec 64 → RVSSVM → Option (Except (Fault × RVSSVM) RVSSVM)
  | 0, _, _ => none
  | fuel + 1, instructionExecuted, vm =>
    if vm.stopRequested || decide (vm.programSize ≤ vm.programCounter) then some (.ok vm)
    else if cfg.instructionExecutionLimit < instructionExecuted then some (.ok vm)
    else
      match vm.runInstruction cfg fpu with
      | .error e => some (.error e)
      | .ok vm => runLoop cfg fpu fuel (instructionExecuted + 1#64) vm

def clearStop (vm : RVSSVM) : RVSSVM :=
  { vm with stopRequested := false }

def run (cfg : VmConfig) (fpu : FloatUnit) (fuel : Nat) (vm : RVSSVM) :
    Option (Except (Fault × RVSSVM) RVSSVM) :=
  (runLoop cfg fpu fuel 0#64 vm.clearStop).map (·.map reportEnd)

/-- The loop of `DebugRun` with at most `fuel` rounds; `none` when they do not suffice. -/
def debugRunLoop (cfg : VmConfig) (fpu : FloatUnit) :
    Nat → BitVec 64 → RVSSVM → Option (Except (Fault × RVSSVM) RVSSVM)
  | 0, _, _ => none
  | fuel + 1, instructionExecuted, vm =>
    if vm.stopRequested || decide (vm.programSize ≤ vm.programCounter) then some (.ok vm)
    else if cfg.instructionExecutionLimit < instructionExecuted then some (.ok vm)
    else if vm.checkBreakpoint vm.programCounter then
      some (.ok { vm.startDelta with outputStatus := .breakpointHit })
    else
      match vm.recordInstruction cfg fpu with
      | .error e => some (.error e)
      | .ok vm => debugRunLoop cfg fpu fuel (instructionExecuted + 1#64) vm

def debugRun (cfg : VmConfig) (fpu : FloatUnit) (fuel : Nat) (vm : RVSSVM) :
    Option (Except (Fault × RVSSVM) RVSSVM) :=
  (debugRunLoop cfg fpu fuel 0#64 vm.clearStop).map (·.map reportEnd)

/-- Writes the bytes of recorded memory changes. -/
def applyMemoryChanges (cfg : VmConfig) (bytes : MemoryChange → List (BitVec 8))
    (changes : List MemoryChange) (memory : Memory) : Except (Fault × Memory) Memory :=
  changes.foldlM (fun memory change => memory.writeBytes cfg change.address (bytes change)) memory

/-- Writes the values of recorded register changes. -/
def applyRegisterChanges (value : RegisterChange → BitVec 64) (changes : List RegisterChange)
    (registers : RegisterFile) : RegisterFile :=
  changes.foldl (fun registers change => registers.write (value change) change.register) registers

/-- `Undo`: writes the old values of the last delta. -/
def undo (cfg : VmConfig) (vm : RVSSVM) : Except (Fault × RVSSVM) RVSSVM :=
  match vm.undoStack with
  | [] => .ok { vm with outputStatus := .noMoreUndo }
  | last :: undoStack => do
    let vm := { vm with
      undoStack := undoStack
      registers := applyRegisterChanges (·.oldValue) last.registerChanges vm.registers }
    let memory ← throwWith vm.withMemory
      (applyMemoryChanges cfg (·.oldBytesVec) last.memoryChanges vm.memoryController)
    pure { vm.withMemory memory with
      programCounter := last.oldPc
      instructionsRetired := vm.instructionsRetired - 1#32
      cycleS := vm.cycleS - 1#32
      redoStack := last :: vm.redoStack
      outputStatus := .undoCompleted }

/-- `Redo`: writes the new values of the last delta undone. -/
def redo (cfg : VmConfig) (vm : RVSSVM) : Except (Fault × RVSSVM) RVSSVM :=
  match vm.redoStack with
  | [] => .ok vm
  | next :: redoStack => do
    let vm := { vm with
      redoStack := redoStack
      registers := applyRegisterChanges (·.newValue) next.registerChanges vm.registers }
    let memory ← throwWith vm.withMemory
      (applyMemoryChanges cfg (·.newBytesVec) next.memoryChanges vm.memoryController)
    pure { vm.withMemory memory with
      programCounter := next.newPc
      instructionsRetired := vm.instructionsRetired + 1#32
      cycleS := vm.cycleS + 1#32
      undoStack := next :: vm.undoStack }

def reset (vm : RVSSVM) : RVSSVM :=
  { vm with
    programCounter := 0#64
    instructionsRetired := 0#32
    cycleS := 0#32
    registers := .reset
    memoryController := vm.memoryController.reset
    programSize := 0#64
    controlUnit := {}
    branchFlag := false
    nextPc := 0#64
    executionResult := 0#64
    memoryResult := 0#64
    returnAddress := 0#64
    csrTargetAddress := 0#12
    csrOldValue := 0#64
    csrWriteVal := 0#64
    csrUimm := 0#5
    currentDelta := {}
    undoStack := []
    redoStack := [] }

/-- The machine with the members of the base class replaced. -/
def withVmBase (vm : RVSSVM) (base : VmBase) : RVSSVM :=
  { vm with toVmBase := base }

/-- `LoadProgram`, as inherited. -/
def loadProgram (cfg : VmConfig) (vm : RVSSVM) (program : AssembledProgram) :
    Except (Fault × RVSSVM) RVSSVM := do
  let base ← throwWith vm.withVmBase (vm.toVmBase.loadProgram cfg program)
  pure (vm.withVmBase base)

/-- The constructor. -/
def new (cfg : VmConfig) : RVSSVM :=
  reset { memoryController := .new cfg }

end RVSSVM

end RiscvSim

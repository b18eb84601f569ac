import RiscvSim.Common.Instructions
import RiscvSim.Vm.Rv5s.Isa
import RiscvSim.Vm.Rvss.RvssVm

/-!
# The instruction set the single-cycle machine implements

`execWord` executes an integer instruction on the program counter, the
registers and the memory alone, with the control signals, operands and ALU of
the single-cycle machine.  The machine is proved to compute it, whatever its
other members hold.
-/

namespace RiscvSim

/-- The words the assembler can emit for the integer instructions other than
the ones with the SYSTEM opcode: some row of its tables has the fields of the word. -/
def isEmittedInteger (w : BitVec 32) : Bool :=
  rTypeInstructionEncodingMap.any (fun e =>
    opcodeOf w == e.2.opcode && funct3Of w == e.2.funct3 && funct7Of w == e.2.funct7) ||
  i1TypeInstructionEncodingMap.any (fun e =>
    opcodeOf w == e.2.opcode && funct3Of w == e.2.funct3) ||
  i2TypeInstructionEncodingMap.any (fun e =>
    opcodeOf w == e.2.opcode && funct3Of w == e.2.funct3 &&
      w.extractLsb' 26 6 == e.2.funct6) ||
  sTypeInstructionEncodingMap.any (fun e =>
    opcodeOf w == e.2.opcode && funct3Of w == e.2.funct3) ||
  bTypeInstructionEncodingMap.any (fun e =>
    opcodeOf w == e.2.opcode && funct3Of w == e.2.funct3) ||
  uTypeInstructionEncodingMap.any (fun e => opcodeOf w == e.2.opcode) ||
  jTypeInstructionEncodingMap.any (fun e => opcodeOf w == e.2.opcode)

/-- The words of the integer instruction set without SYSTEM: neither a SYSTEM
nor a floating-point opcode, and no load or branch with an unused `funct3`. -/
def isIntegerInstruction (w : BitVec 32) : Bool :=
  match opcodeOf w with
  | 0b1110011#7 => false
  | 0b0000111#7 | 0b0100111#7 | 0b1010011#7 => false
  | 0b1000011#7 | 0b1000111#7 | 0b1001011#7 | 0b1001111#7 => false
  | 0b0000011#7 => funct3Of w != 0b111#3
  | 0b1100011#7 => funct3Of w != 0b010#3 && funct3Of w != 0b011#3
  | _ => true

namespace RVSSVM

/-- The part of the machine an instruction sees. -/
def arch (vm : RVSSVM) : ArchState where
  pc := vm.programCounter
  registers := vm.registers
  memory := vm.memoryController

/-- The outcome of the ALU on the operands of `w`. -/
def aluOf (s : ArchState) (w : BitVec 32) : Except Fault (BitVec 64 × Bool) :=
  let reg1Value := s.registers.readGpr (rs1Of w)
  let reg2Value :=
    if (RVSSControlUnit.setControlSignals w).aluSrc then offset64 (immGenerator w)
    else s.registers.readGpr (rs2Of w)
  Alu.execute (RVSSControlUnit.getAluSignal w) reg1Value reg2Value

/-- The execution result of the integer instruction `w`. -/
def resultOf (s : ArchState) (w : BitVec 32) : Except Fault (BitVec 64) := do
  let (executionResult, _) ← aluOf s w
  pure
    (if opcodeOf w = 0b0010111#7 then s.pc + (immGenerator w <<< 12).signExtend 64
    else executionResult)

/-- The program counter after the integer instruction `w`. -/
def nextOf (s : ArchState) (w : BitVec 32) (executionResult : BitVec 64) : BitVec 64 :=
  match opcodeOf w with
  | 0b1100111#7 => executionResult
  | 0b1101111#7 => s.pc + offset64 (immGenerator w)
  | 0b1100011#7 =>
    if branchFlagOf (funct3Of w) executionResult false then s.pc + offset64 (immGenerator w)
    else s.pc + 4#64
  | _ => s.pc + 4#64

/-- The value the integer instruction `w` loads; zero when it is no load. -/
def loadOf (s : ArchState) (w : BitVec 32) (address : BitVec 64) : Except Fault (BitVec 64) :=
  if (RVSSControlUnit.setControlSignals w).memRead then
    loadInteger s.memory (funct3Of w) address 0#64
  else .ok 0#64

/-- The memory after the integer instruction `w`. -/
def storeOf (cfg : VmConfig) (s : ArchState) (w : BitVec 32) (address : BitVec 64) :
    Except Fault Memory :=
  if (RVSSControlUnit.setControlSignals w).memWrite then
    match storeInteger cfg (funct3Of w) address (s.registers.readGpr (rs2Of w)) with
    | some (_, write) => forgetState (write s.memory)
    | none => .ok s.memory
  else .ok s.memory

/-- Executes the integer instruction `w` at the program counter. -/
def execWord (cfg : VmConfig) (s : ArchState) (w : BitVec 32) : Except Fault ArchState := do
  let executionResult ← resultOf s w
  let memoryResult ← loadOf s w executionResult
  let memory ← storeOf cfg s w executionResult
  pure {
    pc := nextOf s w executionResult
    registers := integerResult (RVSSControlUnit.setControlSignals w).regWrite w executionResult
      memoryResult (s.pc + 4#64) s.registers
    memory := memory }

end RVSSVM

end RiscvSim

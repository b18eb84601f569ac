import RiscvSim.Common.Instructions
import RiscvSim.Common.InstructionSets
import RiscvSim.Lib.Except
import RiscvSim.Lib.Numerals

/-!
# The code generator

`ICUnit` is an instruction of the intermediate code, its operands still text.
`generateMachineCode` turns each into a word, in the format its mnemonic belongs
to.  A `std::string` is modelled by the `String` with one character for each
byte.
-/

namespace RiscvSim

open Lib

/-- The exceptions of the assembler; `unfinished` marks a loop that has used up
the bound on its rounds. -/
inductive AssemblerError where
  | conversion (error : ConversionError)
  | outOfRange
  | invalidRoundingMode (mode : String)
  | invalidInstructionType (opcode : String)
  | unfinished
  deriving DecidableEq, Repr

/-- What a field of `size` characters, filled by `strncpy`, holds of a text. -/
def truncated (size : Nat) (value : String) : String :=
  String.ofList ((value.toList.takeWhile (· ≠ '\x00')).take size)

/-- An instruction of the intermediate code.  The constructor leaves the index
uninitialised, here `none`. -/
structure ICUnit where
  lineNumber : BitVec 32 := 0#32
  instructionIndex : Option (BitVec 32) := none
  opcode : String := ""
  rd : String := ""
  rs1 : String := ""
  rs2 : String := ""
  rs3 : String := ""
  csr : BitVec 32 := 0#32
  imm : String := ""
  label : String := ""
  rm : BitVec 8 := 0#8
  deriving DecidableEq, Repr

namespace ICUnit

def setOpcode (block : ICUnit) (value : String) : ICUnit :=
  { block with opcode := truncated 20 value }

def setRd (block : ICUnit) (value : String) : ICUnit :=
  { block with rd := truncated 5 value }

def setRs1 (block : ICUnit) (value : String) : ICUnit :=
  { block with rs1 := truncated 5 value }

def setRs2 (block : ICUnit) (value : String) : ICUnit :=
  { block with rs2 := truncated 5 value }

def setRs3 (block : ICUnit) (value : String) : ICUnit :=
  { block with rs3 := truncated 5 value }

def setCsr (block : ICUnit) (value : BitVec 32) : ICUnit :=
  { block with csr := value }

def setImm (block : ICUnit) (value : String) : ICUnit :=
  { block with imm := truncated 32 value }

def setLabel (block : ICUnit) (value : String) : ICUnit :=
  { block with label := value }

def setRm (block : ICUnit) (value : BitVec 8) : ICUnit :=
  { block with rm := value }

end ICUnit

/-- `map.at(key)`. -/
def lookupAt {α : Type} (map : List (String × α)) (key : String) : Except AssemblerError α :=
  match map.lookup key with
  | some value => .ok value
  | none => .error .outOfRange

/-- The number in the name of a register, behind its first letter. -/
def extractRegisterIndex (reg : String) : Except AssemblerError (BitVec 32) :=
  if reg.isEmpty then .error .outOfRange
  else ((stoi (reg.toList.drop 1)).mapError .conversion).map (BitVec.ofInt 32)

/-- The number an immediate stands for. -/
def immediateOf (imm : String) : Except AssemblerError (BitVec 32) :=
  ((stoi imm.toList).mapError .conversion).map (BitVec.ofInt 32)

def generateRTypeMachineCode (block : ICUnit) : Except AssemblerError (BitVec 32) := do
  let encoding ← lookupAt rTypeInstructionEncodingMap block.opcode
  let rd ← extractRegisterIndex block.rd
  let rs1 ← extractRegisterIndex block.rs1
  let rs2 ← extractRegisterIndex block.rs2
  pure (encoding.funct7.setWidth 32 <<< 25 ||| rs2 <<< 20 ||| rs1 <<< 15 |||
    encoding.funct3.setWidth 32 <<< 12 ||| rd <<< 7 ||| encoding.opcode.setWidth 32)

def generateI1TypeMachineCode (block : ICUnit) : Except AssemblerError (BitVec 32) := do
  let encoding ← lookupAt i1TypeInstructionEncodingMap block.opcode
  let rd ← extractRegisterIndex block.rd
  let rs1 ← extractRegisterIndex block.rs1
  let imm ← immediateOf block.imm
  pure (imm <<< 20 ||| rs1 <<< 15 ||| encoding.funct3.setWidth 32 <<< 12 ||| rd <<< 7 |||
    encoding.opcode.setWidth 32)

def generateI2TypeMachineCode (block : ICUnit) : Except AssemblerError (BitVec 32) := do
  let encoding ← lookupAt i2TypeInstructionEncodingMap block.opcode
  let rd ← extractRegisterIndex block.rd
  let rs1 ← extractRegisterIndex block.rs1
  let imm ← immediateOf block.imm
  pure (encoding.funct6.setWidth 32 <<< 26 ||| imm <<< 20 ||| rs1 <<< 15 |||
    encoding.funct3.setWidth 32 <<< 12 ||| rd <<< 7 ||| encoding.opcode.setWidth 32)

/-- Registers and immediate are zero. -/
def generateI3TypeMachineCode (block : ICUnit) : Except AssemblerError (BitVec 32) := do
  let encoding ← lookupAt i3TypeInstructionEncodingMap block.opcode
  pure (encoding.funct3.setWidth 32 <<< 12 ||| encoding.opcode.setWidth 32)

def generateSTypeMachineCode (block : ICUnit) : Except AssemblerError (BitVec 32) := do
  let encoding ← lookupAt sTypeInstructionEncodingMap block.opcode
  let rs1 ← extractRegisterIndex block.rs1
  let rs2 ← extractRegisterIndex block.rs2
  let imm ← immediateOf block.imm
  let immLo := imm &&& 0b11111#32
  let immHi := (imm >>> 5) &&& 0b1111111#32
  pure (immHi <<< 25 ||| rs2 <<< 20 ||| rs1 <<< 15 ||| encoding.funct3.setWidth 32 <<< 12 |||
    immLo <<< 7 ||| encoding.opcode.setWidth 32)

def generateBTypeMachineCode (block : ICUnit) : Except AssemblerError (BitVec 32) := do
  let encoding ← lookupAt bTypeInstructionEncodingMap block.opcode
  let rs1 ← extractRegisterIndex block.rs1
  let rs2 ← extractRegisterIndex block.rs2
  let imm ← immediateOf block.imm
  let imm12 := imm.sshiftRight 12 &&& 0b1#32
  let imm10To5 := imm.sshiftRight 5 &&& 0b111111#32
  let imm4To1 := imm.sshiftRight 1 &&& 0b1111#32
  let imm11 := imm.sshiftRight 11 &&& 0b1#32
  pure (imm12 <<< 31 ||| imm10To5 <<< 25 ||| rs2 <<< 20 ||| rs1 <<< 15 |||
    encoding.funct3.setWidth 32 <<< 12 ||| imm4To1 <<< 8 ||| imm11 <<< 7 |||
    encoding.opcode.setWidth 32)

def generateUTypeMachineCode (block : ICUnit) : Except AssemblerError (BitVec 32) := do
  let encoding ← lookupAt uTypeInstructionEncodingMap block.opcode
  let rd ← extractRegisterIndex block.rd
  let imm ← immediateOf block.imm
  pure ((imm &&& 0xFFFFF#32) <<< 12 ||| rd <<< 7 ||| encoding.opcode.setWidth 32)

def generateJTypeMachineCode (block : ICUnit) : Except AssemblerError (BitVec 32) := do
  let encoding ← lookupAt jTypeInstructionEncodingMap block.opcode
  let rd ← extractRegisterIndex block.rd
  let imm ← immediateOf block.imm
  pure ((imm &&& 0x100000#32) <<< 11 ||| (imm &&& 0x7FE#32) <<< 20 ||| (imm &&& 0x800#32) <<< 9 |||
    (imm &&& 0xFF000#32) <<< 0 ||| rd <<< 7 ||| encoding.opcode.setWidth 32)

def generateCsrRTypeMachineCode (block : ICUnit) : Except AssemblerError (BitVec 32) := do
  let encoding ← lookupAt csrRTypeInstructionEncodingMap block.opcode
  let rd ← extractRegisterIndex block.rd
  let rs1 ← extractRegisterIndex block.rs1
  pure ((block.csr &&& 0xFFF#32) <<< 20 ||| rs1 <<< 15 ||| encoding.funct3.setWidth 32 <<< 12 |||
    rd <<< 7 ||| encoding.opcode.setWidth 32)

def generateCsrITypeMachineCode (block : ICUnit) : Except AssemblerError (BitVec 32) := do
  let encoding ← lookupAt csrITypeInstructionEncodingMap block.opcode
  let rd ← extractRegisterIndex block.rd
  let imm ← immediateOf block.imm
  let zimm := imm &&& 0b11111#32
  pure ((block.csr &&& 0xFFF#32) <<< 20 ||| zimm <<< 15 ||| encoding.funct3.setWidth 32 <<< 12 |||
    rd <<< 7 ||| encoding.opcode.setWidth 32)

def generateFdRTypeMachineCode (block : ICUnit) : Except AssemblerError (BitVec 32) := do
  let encoding ← lookupAt fdRTypeInstructionEncodingMap block.opcode
  let rd ← extractRegisterIndex block.rd
  let rs1 ← extractRegisterIndex block.rs1
  let rs2 ← extractRegisterIndex block.rs2
  pure (encoding.funct7.setWidth 32 <<< 25 ||| rs2 <<< 20 ||| rs1 <<< 15 |||
    encoding.funct3.setWidth 32 <<< 12 ||| rd <<< 7 ||| encoding.opcode.setWidth 32)

def generateFdR1TypeMachineCode (block : ICUnit) : Except AssemblerError (BitVec 32) := do
  let encoding ← lookupAt fdR1TypeInstructionEncodingMap block.opcode
  let rd ← extractRegisterIndex block.rd
  let rs1 ← extractRegisterIndex block.rs1
  let rs2 ← extractRegisterIndex block.rs2
  let rm := (block.rm &&& 0b111#8).setWidth 32
  pure (encoding.funct7.setWidth 32 <<< 25 ||| rs2 <<< 20 ||| rs1 <<< 15 ||| rm <<< 12 |||
    rd <<< 7 ||| encoding.opcode.setWidth 32)

def generateFdR2TypeMachineCode (block : ICUnit) : Except AssemblerError (BitVec 32) := do
  let encoding ← lookupAt fdR2TypeInstructionEncodingMap block.opcode
  let rd ← extractRegisterIndex block.rd
  let rs1 ← extractRegisterIndex block.rs1
  let rm := (block.rm &&& 0b111#8).setWidth 32
  pure (encoding.funct7.setWidth 32 <<< 25 ||| encoding.funct5.setWidth 32 <<< 20 ||| rs1 <<< 15 |||
    rm <<< 12 ||| rd <<< 7 ||| encoding.opcode.setWidth 32)

def generateFdR3TypeMachineCode (block : ICUnit) : Except AssemblerError (BitVec 32) := do
  let encoding ← lookupAt fdR3TypeInstructionEncodingMap block.opcode
  let rd ← extractRegisterIndex block.rd
  let rs1 ← extractRegisterIndex block.rs1
  pure (encoding.funct7.setWidth 32 <<< 25 ||| encoding.funct5.setWidth 32 <<< 20 ||| rs1 <<< 15 |||
    encoding.funct3.setWidth 32 <<< 12 ||| rd <<< 7 ||| encoding.opcode.setWidth 32)

def generateFdR4TypeMachineCode (block : ICUnit) : Except AssemblerError (BitVec 32) := do
  let encoding ← lookupAt fdR4TypeInstructionEncodingMap block.opcode
  let rd ← extractRegisterIndex block.rd
  let rs1 ← extractRegisterIndex block.rs1
  let rs2 ← extractRegisterIndex block.rs2
  let rs3 ← extractRegisterIndex block.rs3
  let rm := (block.rm &&& 0b111#8).setWidth 32
  pure (rs3 <<< 27 ||| encoding.funct2.setWidth 32 <<< 25 ||| rs2 <<< 20 ||| rs1 <<< 15 |||
    rm <<< 12 ||| rd <<< 7 ||| encoding.opcode.setWidth 32)

def generateFdITypeMachineCode (block : ICUnit) : Except AssemblerError (BitVec 32) := do
  let encoding ← lookupAt fdITypeInstructionEncodingMap block.opcode
  let rd ← extractRegisterIndex block.rd
  let rs1 ← extractRegisterIndex block.rs1
  let imm ← immediateOf block.imm
  pure (imm <<< 20 ||| rs1 <<< 15 ||| encoding.funct3.setWidth 32 <<< 12 ||| rd <<< 7 |||
    encoding.opcode.setWidth 32)

def generateFdSTypeMachineCode (block : ICUnit) : Except AssemblerError (BitVec 32) := do
  let encoding ← lookupAt fdSTypeInstructionEncodingMap block.opcode
  let rs1 ← extractRegisterIndex block.rs1
  let rs2 ← extractRegisterIndex block.rs2
  let imm ← immediateOf block.imm
  let immLo := imm &&& 0b11111#32
  let immHi := (imm >>> 5) &&& 0b1111111#32
  pure (immHi <<< 25 ||| rs2 <<< 20 ||| rs1 <<< 15 ||| encoding.funct3.setWidth 32 <<< 12 |||
    immLo <<< 7 ||| encoding.opcode.setWidth 32)

/-- The word of an instruction. -/
def generateUnitCode (block : ICUnit) : Except AssemblerError (BitVec 32) :=
  if isValidRTypeInstruction block.opcode then generateRTypeMachineCode block
  else if isValidI1TypeInstruction block.opcode then generateI1TypeMachineCode block
  else if isValidI2TypeInstruction block.opcode then generateI2TypeMachineCode block
  else if isValidI3TypeInstruction block.opcode then generateI3TypeMachineCode block
  else if isValidSTypeInstruction block.opcode then generateSTypeMachineCode block
  else if isValidBTypeInstruction block.opcode then generateBTypeMachineCode block
  else if isValidUTypeInstruction block.opcode then generateUTypeMachineCode block
  else if isValidJTypeInstruction block.opcode then generateJTypeMachineCode block
  else if isValidCsrRTypeInstruction block.opcode then generateCsrRTypeMachineCode block
  else if isValidCsrITypeInstruction block.opcode then generateCsrITypeMachineCode block
  else if isValidFdRTypeInstruction block.opcode then generateFdRTypeMachineCode block
  else if isValidFdR1TypeInstruction block.opcode then generateFdR1TypeMachineCode block
  else if isValidFdR2TypeInstruction block.opcode then generateFdR2TypeMachineCode block
  else if isValidFdR3TypeInstruction block.opcode then generateFdR3TypeMachineCode block
  else if isValidFdR4TypeInstruction block.opcode then generateFdR4TypeMachineCode block
  else if isValidFdITypeInstruction block.opcode then generateFdITypeMachineCode block
  else if isValidFdSTypeInstruction block.opcode then generateFdSTypeMachineCode block
  else .error (.invalidInstructionType block.opcode)

def generateMachineCode (intermediateCode : List (ICUnit × Bool)) :
    Except AssemblerError (List (BitVec 32)) :=
  intermediateCode.mapM fun pair => generateUnitCode pair.1

end RiscvSim

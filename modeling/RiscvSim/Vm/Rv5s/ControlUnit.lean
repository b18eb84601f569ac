import RiscvSim.Vm.Rv5s.PipelineRegisters
import RiscvSim.Vm.VmBase

/-!
# The control unit of the pipelined machines

`getControlSignals` turns an instruction word into control signals in two
switches over the opcode: the first sets the data path and rejects unknown
opcodes, the second picks the ALU operation and the kind of access or branch.
-/

namespace RiscvSim

namespace RV5SControlUnit

def isFloatingPointOpcode (opcode : BitVec 7) : Bool :=
  match opcode with
  | 0b0000111#7 | 0b0100111#7 | 0b1010011#7 => true
  | 0b1000011#7 | 0b1000111#7 | 0b1001011#7 | 0b1001111#7 => true
  | _ => false

/-- All signals off. -/
def createNop : ControlSignals :=
  { isNop := true }

/-- The first switch: the data path of each opcode, none for an unknown one. -/
def dataPathSignals (opcode : BitVec 7) : Option ControlSignals :=
  match opcode with
  -- R-type
  | 0b0110011#7 => some { isNop := false, regWrite := true, wbSrc := .fromAlu }
  -- load
  | 0b0000011#7 => some { isNop := false, aluSrcB := true, wbSrc := .fromMem, regWrite := true,
                          memRead := true }
  -- store
  | 0b0100011#7 => some { isNop := false, aluSrcB := true, memWrite := true }
  -- branch
  | 0b1100011#7 => some { isNop := false, branch := true }
  -- I-type ALU
  | 0b0010011#7 => some { isNop := false, aluSrcB := true, regWrite := true, wbSrc := .fromAlu }
  -- LUI
  | 0b0110111#7 => some { isNop := false, aluSrcB := true, regWrite := true, wbSrc := .fromAlu,
                          aluSrcA := .zero }
  -- AUIPC
  | 0b0010111#7 => some { isNop := false, aluSrcB := true, regWrite := true, wbSrc := .fromAlu,
                          aluSrcA := .pc }
  -- JAL
  | 0b1101111#7 => some { isNop := false, regWrite := true, branch := true, wbSrc := .fromPcInc,
                          aluSrcA := .pc, aluSrcB := true }
  -- JALR
  | 0b1100111#7 => some { isNop := false, aluSrcB := true, regWrite := true, branch := true,
                          wbSrc := .fromPcInc, aluSrcA := .rs1 }
  -- the opcode the source labels kMul
  | 0b0000001#7 => some { isNop := false, regWrite := true, wbSrc := .fromAlu }
  | _ => none

/-- The ALU operation of an R-type word. -/
def rTypeAluOp (funct3 : BitVec 3) (funct7 : BitVec 7) : AluOp :=
  match funct3, funct7 with
  | 0b000#3, 0b0000000#7 => .kAdd
  | 0b000#3, 0b0100000#7 => .kSub
  | 0b000#3, 0b0000001#7 => .kMul
  | 0b001#3, 0b0000000#7 => .kSll
  | 0b001#3, 0b0000001#7 => .kMulh
  | 0b010#3, 0b0000000#7 => .kSlt
  | 0b010#3, 0b0000001#7 => .kMulhsu
  | 0b011#3, 0b0000000#7 => .kSltu
  | 0b011#3, 0b0000001#7 => .kMulhu
  | 0b100#3, 0b0000000#7 => .kXor
  | 0b100#3, 0b0000001#7 => .kDiv
  | 0b101#3, 0b0000000#7 => .kSrl
  | 0b101#3, 0b0100000#7 => .kSra
  | 0b101#3, 0b0000001#7 => .kDivu
  | 0b110#3, 0b0000000#7 => .kOr
  | 0b110#3, 0b0000001#7 => .kRem
  | 0b111#3, 0b0000000#7 => .kAnd
  | 0b111#3, 0b0000001#7 => .kRemu
  | _, _ => .kNone

/-- The ALU operation of an I-type word. -/
def iTypeAluOp (funct3 : BitVec 3) (funct7 : BitVec 7) : AluOp :=
  match funct3, funct7 with
  | 0b000#3, _ => .kAdd
  | 0b001#3, _ => .kSll
  | 0b010#3, _ => .kSlt
  | 0b011#3, _ => .kSltu
  | 0b100#3, _ => .kXor
  | 0b101#3, 0b0000000#7 => .kSrl
  | 0b101#3, 0b0100000#7 => .kSra
  | 0b110#3, _ => .kOr
  | 0b111#3, _ => .kAnd
  | _, _ => .kNone

/-- The ALU operation and kind of a conditional branch. -/
def bTypeSignals (funct3 : BitVec 3) : AluOp × BranchOp :=
  match funct3 with
  | 0b000#3 => (.kSub, .beq)
  | 0b001#3 => (.kSub, .bne)
  | 0b100#3 => (.kSlt, .blt)
  | 0b101#3 => (.kSlt, .bge)
  | 0b110#3 => (.kSltu, .bltu)
  | 0b111#3 => (.kSltu, .bgeu)
  | _ => (.kNone, .none)

/-- The width of a load. -/
def loadReadOp (funct3 : BitVec 3) : MemReadOp :=
  match funct3 with
  | 0b000#3 => .byte
  | 0b001#3 => .half
  | 0b010#3 => .word
  | 0b011#3 => .double
  | 0b100#3 => .byteUnsigned
  | 0b101#3 => .halfUnsigned
  | 0b110#3 => .wordUnsigned
  | _ => .none

/-- The width of a store. -/
def storeWriteOp (funct3 : BitVec 3) : MemWriteOp :=
  match funct3 with
  | 0b000#3 => .byte
  | 0b001#3 => .half
  | 0b010#3 => .word
  | 0b011#3 => .double
  | _ => .none

/-- The ALU operation of a 32-bit I-type word. -/
def iTypeWordAluOp (funct3 : BitVec 3) (funct7 : BitVec 7) : AluOp :=
  match funct3, funct7 with
  | 0b000#3, _ => .kAddw
  | 0b001#3, _ => .kSllw
  | 0b101#3, 0b0000000#7 => .kSrlw
  | 0b101#3, 0b0100000#7 => .kSraw
  | _, _ => .kNone

/-- The ALU operation of a 32-bit R-type word. -/
def rTypeWordAluOp (funct3 : BitVec 3) (funct7 : BitVec 7) : AluOp :=
  match funct3, funct7 with
  | 0b000#3, 0b0000000#7 => .kAddw
  | 0b000#3, 0b0100000#7 => .kSubw
  | 0b000#3, 0b0000001#7 => .kMulw
  | 0b001#3, _ => .kSllw
  | 0b100#3, 0b0000001#7 => .kDivw
  | 0b101#3, 0b0000000#7 => .kSrlw
  | 0b101#3, 0b0100000#7 => .kSraw
  | 0b101#3, 0b0000001#7 => .kDivuw
  | 0b110#3, 0b0000001#7 => .kRemw
  | 0b111#3, 0b0000001#7 => .kRemuw
  | _, _ => .kNone

/-- The second switch: the ALU operation and the kind of access or branch.
The first switch has already turned words with the last two opcodes into NOPs. -/
def operationSignals (opcode : BitVec 7) (funct3 : BitVec 3) (funct7 : BitVec 7)
    (signals : ControlSignals) : ControlSignals :=
  match opcode with
  | 0b0110011#7 => { signals with aluOp := rTypeAluOp funct3 funct7 }
  | 0b0010011#7 => { signals with aluOp := iTypeAluOp funct3 funct7 }
  | 0b1100011#7 => { signals with
      aluOp := (bTypeSignals funct3).1, branchOp := (bTypeSignals funct3).2 }
  | 0b0000011#7 => { signals with aluOp := .kAdd, memReadOp := loadReadOp funct3 }
  | 0b0100011#7 => { signals with aluOp := .kAdd, memWriteOp := storeWriteOp funct3 }
  | 0b1100111#7 => { signals with aluOp := .kAdd, branchOp := .jalr }
  | 0b1101111#7 => { signals with aluOp := .kAdd, branchOp := .jal }
  | 0b0110111#7 => { signals with aluOp := .kAdd }
  | 0b0010111#7 => { signals with aluOp := .kAdd }
  | 0b0011011#7 => { signals with aluOp := iTypeWordAluOp funct3 funct7 }
  | 0b0111011#7 => { signals with aluOp := rTypeWordAluOp funct3 funct7 }
  | _ => { signals with aluOp := .kNone }

/-- The control signals of an instruction word. -/
def getControlSignals (instruction : BitVec 32) : ControlSignals :=
  if instruction = 0#32 then { isNop := true }
  -- addi x0, x0, 0 and add x0, x0, x0
  else if instruction = 0x00000013#32 then { isNop := true, aluOp := .kAdd, aluSrcB := true }
  else if instruction = 0x00000033#32 then { isNop := true, aluOp := .kAdd }
  else if isFloatingPointOpcode (opcodeOf instruction) then createNop
  else
    match dataPathSignals (opcodeOf instruction) with
    | none => createNop
    | some signals =>
      operationSignals (opcodeOf instruction) (funct3Of instruction) (funct7Of instruction) signals

end RV5SControlUnit

end RiscvSim

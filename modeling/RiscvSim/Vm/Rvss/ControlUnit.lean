import RiscvSim.Vm.Alu
import RiscvSim.Vm.VmBase

/-!
# The control unit of the single-cycle machine

`setControlSignals` sets the data path from the opcode, `getAluSignal` picks
the ALU operation.  Both are written apart from the control unit of the
pipelined machines.
-/

namespace RiscvSim

/-- The signals every control unit has; `mem_to_reg_` and `alu_op_` are set and read by nobody. -/
structure RVSSControlUnit where
  regWrite : Bool := false
  branch : Bool := false
  aluSrc : Bool := false
  memRead : Bool := false
  memWrite : Bool := false
  memToReg : Bool := false
  aluOp : Bool := false
  deriving DecidableEq, Repr

namespace RVSSControlUnit

/-- `SetControlSignals`: every signal is cleared first. -/
def setControlSignals (instruction : BitVec 32) : RVSSControlUnit :=
  match opcodeOf instruction with
  -- R-type
  | 0b0110011#7 => { regWrite := true, aluOp := true }
  -- load
  | 0b0000011#7 => { aluSrc := true, memToReg := true, regWrite := true, memRead := true }
  -- store
  | 0b0100011#7 => { aluSrc := true, aluOp := true, memWrite := true }
  -- branch
  | 0b1100011#7 => { aluOp := true, branch := true }
  -- I-type ALU
  | 0b0010011#7 => { aluSrc := true, regWrite := true, aluOp := true }
  -- LUI
  | 0b0110111#7 => { aluSrc := true, regWrite := true, aluOp := true }
  -- AUIPC
  | 0b0010111#7 => { aluSrc := true, regWrite := true, aluOp := true }
  -- JAL
  | 0b1101111#7 => { regWrite := true, branch := true }
  -- JALR
  | 0b1100111#7 => { aluSrc := true, regWrite := true, branch := true }
  -- the opcode the source labels kMul
  | 0b0000001#7 => { regWrite := true, aluOp := true }
  -- floating-point load
  | 0b0000111#7 => { aluSrc := true, memToReg := true, regWrite := true, memRead := true }
  -- floating-point store
  | 0b0100111#7 => { aluSrc := true, aluOp := true, memWrite := true }
  -- floating-point R-type
  | 0b1010011#7 => { regWrite := true, aluOp := true }
  | _ => {}

/-- The ALU operation of an R-type word. -/
def rTypeAluSignal (funct3 : BitVec 3) (funct7 : BitVec 7) : AluOp :=
  match funct3, funct7 with
  | 0b000#3, 0b0000000#7 => .kAdd
  | 0b000#3, 0b0100000#7 => .kSub
  | 0b000#3, 0b0000001#7 => .kMul
  | 0b001#3, 0b0000000#7 => .kSll
  | 0b001#3, 0b0000001#7 => .kMulh
  | 0b010#3, 0b0000000#7 => .kSlt
  | 0b010#3, 0b0000001#7 => .kMulhsu
  | 0b011#3, 0b0000000#7 => .kSltu
  | 0b011#3, 0b0000001#7 => .kMulhu
  | 0b100#3, 0b0000000#7 => .kXor
  | 0b100#3, 0b0000001#7 => .kDiv
  | 0b101#3, 0b0000000#7 => .kSrl
  | 0b101#3, 0b0100000#7 => .kSra
  | 0b101#3, 0b0000001#7 => .kDivu
  | 0b110#3, 0b0000000#7 => .kOr
  | 0b110#3, 0b0000001#7 => .kRem
  | 0b111#3, 0b0000000#7 => .kAnd
  | 0b111#3, 0b0000001#7 => .kRemu
  | _, _ => .kNone

/-- The ALU operation of an I-type word. -/
def iTypeAluSignal (funct3 : BitVec 3) (funct7 : BitVec 7) : AluOp :=
  match funct3, funct7 with
  | 0b000#3, _ => .kAdd
  | 0b001#3, _ => .kSll
  | 0b010#3, _ => .kSlt
  | 0b011#3, _ => .kSltu
  | 0b100#3, _ => .kXor
  | 0b101#3, 0b0000000#7 => .kSrl
  | 0b101#3, 0b0100000#7 => .kSra
  | 0b110#3, _ => .kOr
  | 0b111#3, _ => .kAnd
  | _, _ => .kNone

/-- The ALU operation of a conditional branch. -/
def bTypeAluSignal (funct3 : BitVec 3) : AluOp :=
  match funct3 with
  | 0b000#3 => .kSub
  | 0b001#3 => .kSub
  | 0b100#3 => .kSlt
  | 0b101#3 => .kSlt
  | 0b110#3 => .kSltu
  | 0b111#3 => .kSltu
  | _ => .kNone

/-- The ALU operation of a 32-bit I-type word. -/
def iTypeWordAluSignal (funct3 : BitVec 3) (funct7 : BitVec 7) : AluOp :=
  match funct3, funct7 with
  | 0b000#3, _ => .kAddw
  | 0b001#3, _ => .kSllw
  | 0b101#3, 0b0000000#7 => .kSrlw
  | 0b101#3, 0b0100000#7 => .kSraw
  | _, _ => .kNone

/-- The ALU operation of a 32-bit R-type word. -/
def rTypeWordAluSignal (funct3 : BitVec 3) (funct7 : BitVec 7) : AluOp :=
  match funct3, funct7 with
  | 0b000#3, 0b0000000#7 => .kAddw
  | 0b000#3, 0b0100000#7 => .kSubw
  | 0b000#3, 0b0000001#7 => .kMulw
  | 0b001#3, _ => .kSllw
  | 0b100#3, 0b0000001#7 => .kDivw
  | 0b101#3, 0b0000000#7 => .kSrlw
  | 0b101#3, 0b0100000#7 => .kSraw
  | 0b101#3, 0b0000001#7 => .kDivuw
  | 0b110#3, 0b0000001#7 => .kRemw
  | 0b111#3, 0b0000001#7 => .kRemuw
  | _, _ => .kNone

/-- The operation of a floating-point word; `funct5` is the field of `rs2`. -/
def floatAluSignal (funct7 : BitVec 7) (funct5 : BitVec 5) (funct3 : BitVec 3)
    (funct2 : BitVec 2) : AluOp :=
  match funct7 with
  | 0b0000000#7 => .faddS
  | 0b0000001#7 => .faddD
  | 0b0000100#7 => .fsubS
  | 0b0000101#7 => .fsubD
  | 0b0001000#7 => .fmulS
  | 0b0001001#7 => .fmulD
  | 0b0001100#7 => .fdivS
  | 0b0001101#7 => .fdivD
  | 0b0101100#7 => .fsqrtS
  | 0b0101101#7 => .fsqrtD
  | 0b1100000#7 =>
    match funct5 with
    | 0b00000#5 => .fcvtWS
    | 0b00001#5 => .fcvtWuS
    | 0b00010#5 => .fcvtLS
    | 0b00011#5 => .fcvtLuS
    | _ => .kNone
  | 0b1100001#7 =>
    match funct5 with
    | 0b00000#5 => .fcvtWD
    | 0b00001#5 => .fcvtWuD
    | 0b00010#5 => .fcvtLD
    | 0b00011#5 => .fcvtLuD
    | _ => .kNone
  | 0b1101000#7 =>
    match funct5 with
    | 0b00000#5 => .fcvtSW
    | 0b00001#5 => .fcvtSWu
    | 0b00010#5 => .fcvtSL
    | 0b00011#5 => .fcvtSLu
    | _ => .kNone
  | 0b1101001#7 =>
    match funct5 with
    | 0b00000#5 => .fcvtDW
    | 0b00001#5 => .fcvtDWu
    | 0b00010#5 => .fcvtDL
    | 0b00011#5 => .fcvtDLu
    | _ => .kNone
  | 0b0010000#7 =>
    match funct3 with
    | 0b000#3 => .fsgnjS
    | 0b001#3 => .fsgnjnS
    | 0b010#3 => .fsgnjxS
    | _ => .kNone
  | 0b0010001#7 =>
    match funct3 with
    | 0b000#3 => .fsgnjD
    | 0b001#3 => .fsgnjnD
    | 0b010#3 => .fsgnjxD
    | _ => .kNone
  | 0b0010100#7 =>
    match funct3 with
    | 0b000#3 => .fminS
    | 0b001#3 => .fmaxS
    | _ => .kNone
  | 0b0010101#7 =>
    match funct3 with
    | 0b000#3 => .fminD
    | 0b001#3 => .fmaxD
    | _ => .kNone
  | 0b1010000#7 =>
    match funct3 with
    | 0b010#3 => .feqS
    | 0b001#3 => .fltS
    | 0b000#3 => .fleS
    | _ => .kNone
  | 0b1010001#7 =>
    match funct3 with
    | 0b010#3 => .feqD
    | 0b001#3 => .fltD
    | 0b000#3 => .fleD
    | _ => .kNone
  | 0b1111000#7 => .fmvWX
  | 0b1111001#7 => .fmvDX
  | 0b1110000#7 =>
    match funct3 with
    | 0b000#3 => .fmvXW
    | 0b001#3 => .fclassS
    | _ => .kNone
  | 0b1110001#7 =>
    match funct3 with
    | 0b000#3 => .fmvXD
    | 0b001#3 => .fclassD
    | _ => .kNone
  | 0b1000011#7 =>
    match funct2 with
    | 0b00#2 => .kFmaddS
    | 0b01#2 => .fmaddD
    | _ => .kNone
  | 0b1000111#7 =>
    match funct2 with
    | 0b00#2 => .kFmsubS
    | 0b01#2 => .fmsubD
    | _ => .kNone
  | 0b1001011#7 =>
    match funct2 with
    | 0b00#2 => .kFnmaddS
    | 0b01#2 => .fnmaddD
    | _ => .kNone
  | 0b1001111#7 =>
    match funct2 with
    | 0b00#2 => .kFnmsubS
    | 0b01#2 => .fnmsubD
    | _ => .kNone
  | _ => .kNone

/-- `GetAluSignal`; its second argument is not used. -/
def getAluSignal (instruction : BitVec 32) : AluOp :=
  let funct3 := funct3Of instruction
  let funct7 := funct7Of instruction
  match opcodeOf instruction with
  | 0b0110011#7 => rTypeAluSignal funct3 funct7
  | 0b0010011#7 => iTypeAluSignal funct3 funct7
  | 0b1100011#7 => bTypeAluSignal funct3
  | 0b0000011#7 => .kAdd
  | 0b0100011#7 => .kAdd
  | 0b1100111#7 => .kAdd
  | 0b1101111#7 => .kAdd
  | 0b0110111#7 => .kAdd
  | 0b0010111#7 => .kAdd
  | 0b0011011#7 => iTypeWordAluSignal funct3 funct7
  | 0b0111011#7 => rTypeWordAluSignal funct3 funct7
  | 0b1000011#7 => .kFmaddS
  | 0b1010011#7 => floatAluSignal funct7 (rs2Of instruction) funct3 (funct7.setWidth 2)
  | 0b0000111#7 => if funct3 = 0b010#3 ∨ funct3 = 0b011#3 then .kAdd else .kNone
  | 0b0100111#7 => if funct3 = 0b010#3 ∨ funct3 = 0b011#3 then .kAdd else .kNone
  | _ => .kNone

end RVSSControlUnit

/-- `isFInstruction`: the words the machine executes in its single-precision unit. -/
def isFInstruction (instruction : BitVec 32) : Bool :=
  match opcodeOf instruction with
  | 0b0000111#7 | 0b0100111#7 => funct3Of instruction == 0b010#3
  | 0b1010011#7 =>
    if funct7Of instruction &&& 1#7 = 0#7 then funct7Of instruction != 0b0100000#7 else false
  | _ => false

/-- `isDInstruction`: the words the machine executes in its double-precision unit. -/
def isDInstruction (instruction : BitVec 32) : Bool :=
  match opcodeOf instruction with
  | 0b0000111#7 | 0b0100111#7 => funct3Of instruction == 0b011#3
  | 0b1010011#7 =>
    if funct7Of instruction &&& 1#7 ≠ 0#7 then true else funct7Of instruction == 0b0100000#7
  | _ => false

end RiscvSim

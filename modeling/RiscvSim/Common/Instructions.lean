/-!
# The instruction tables

The encodings the assembler looks up by mnemonic, one table for each format.
-/

namespace RiscvSim

structure RTypeInstructionEncoding where
  opcode : BitVec 7
  funct3 : BitVec 3
  funct7 : BitVec 7
  deriving DecidableEq, Repr

structure I1TypeInstructionEncoding where
  opcode : BitVec 7
  funct3 : BitVec 3
  deriving DecidableEq, Repr

structure I2TypeInstructionEncoding where
  opcode : BitVec 7
  funct3 : BitVec 3
  funct6 : BitVec 6
  deriving DecidableEq, Repr

structure I3TypeInstructionEncoding where
  opcode : BitVec 7
  funct3 : BitVec 3
  funct7 : BitVec 7
  deriving DecidableEq, Repr

structure STypeInstructionEncoding where
  opcode : BitVec 7
  funct3 : BitVec 3
  deriving DecidableEq, Repr

structure BTypeInstructionEncoding where
  opcode : BitVec 7
  funct3 : BitVec 3
  deriving DecidableEq, Repr

structure UTypeInstructionEncoding where
  opcode : BitVec 7
  deriving DecidableEq, Repr

structure JTypeInstructionEncoding where
  opcode : BitVec 7
  deriving DecidableEq, Repr

structure CsrRTypeInstructionEncoding where
  opcode : BitVec 7
  funct3 : BitVec 3
  deriving DecidableEq, Repr

structure CsrITypeInstructionEncoding where
  opcode : BitVec 7
  funct3 : BitVec 3
  deriving DecidableEq, Repr

structure FdRTypeInstructionEncoding where
  opcode : BitVec 7
  funct3 : BitVec 3
  funct7 : BitVec 7
  deriving DecidableEq, Repr

structure FdR1TypeInstructionEncoding where
  opcode : BitVec 7
  funct7 : BitVec 7
  deriving DecidableEq, Repr

structure FdR2TypeInstructionEncoding where
  opcode : BitVec 7
  funct5 : BitVec 5
  funct7 : BitVec 7
  deriving DecidableEq, Repr

structure FdR3TypeInstructionEncoding where
  opcode : BitVec 7
  funct3 : BitVec 3
  funct5 : BitVec 5
  funct7 : BitVec 7
  deriving DecidableEq, Repr

structure FdR4TypeInstructionEncoding where
  opcode : BitVec 7
  funct2 : BitVec 2
  deriving DecidableEq, Repr

structure FdITypeInstructionEncoding where
  opcode : BitVec 7
  funct3 : BitVec 3
  deriving DecidableEq, Repr

structure FdSTypeInstructionEncoding where
  opcode : BitVec 7
  funct3 : BitVec 3
  deriving DecidableEq, Repr

def rTypeInstructionEncodingMap : List (String × RTypeInstructionEncoding) :=
  [("add", ⟨0b0110011#7, 0b000#3, 0b0000000#7⟩),
   ("sub", ⟨0b0110011#7, 0b000#3, 0b0100000#7⟩),
   ("xor", ⟨0b0110011#7, 0b100#3, 0b0000000#7⟩),
   ("or", ⟨0b0110011#7, 0b110#3, 0b0000000#7⟩),
   ("and", ⟨0b0110011#7, 0b111#3, 0b0000000#7⟩),
   ("sll", ⟨0b0110011#7, 0b001#3, 0b0000000#7⟩),
   ("srl", ⟨0b0110011#7, 0b101#3, 0b0000000#7⟩),
   ("sra", ⟨0b0110011#7, 0b101#3, 0b0100000#7⟩),
   ("slt", ⟨0b0110011#7, 0b010#3, 0b0000000#7⟩),
   ("sltu", ⟨0b0110011#7, 0b011#3, 0b0000000#7⟩),
   ("addw", ⟨0b0111011#7, 0b000#3, 0b0000000#7⟩),
   ("subw", ⟨0b0111011#7, 0b000#3, 0b0100000#7⟩),
   ("sllw", ⟨0b0111011#7, 0b001#3, 0b0000000#7⟩),
   ("srlw", ⟨0b0111011#7, 0b101#3, 0b0000000#7⟩),
   ("sraw", ⟨0b0111011#7, 0b101#3, 0b0100000#7⟩),
   -- RV64M
   ("mul", ⟨0b0110011#7, 0b000#3, 0b0000001#7⟩),
   ("mulh", ⟨0b0110011#7, 0b001#3, 0b0000001#7⟩),
   ("mulhsu", ⟨0b0110011#7, 0b010#3, 0b0000001#7⟩),
   ("mulhu", ⟨0b0110011#7, 0b011#3, 0b0000001#7⟩),
   ("div", ⟨0b0110011#7, 0b100#3, 0b0000001#7⟩),
   ("divu", ⟨0b0110011#7, 0b101#3, 0b0000001#7⟩),
   ("rem", ⟨0b0110011#7, 0b110#3, 0b0000001#7⟩),
   ("remu", ⟨0b0110011#7, 0b111#3, 0b0000001#7⟩),
   ("mulw", ⟨0b0111011#7, 0b000#3, 0b0000001#7⟩),
   ("divw", ⟨0b0111011#7, 0b100#3, 0b0000001#7⟩),
   ("divuw", ⟨0b0111011#7, 0b101#3, 0b0000001#7⟩),
   ("remw", ⟨0b0111011#7, 0b110#3, 0b0000001#7⟩),
   ("remuw", ⟨0b0111011#7, 0b111#3, 0b0000001#7⟩)]

def i1TypeInstructionEncodingMap : List (String × I1TypeInstructionEncoding) :=
  [("addi", ⟨0b0010011#7, 0b000#3⟩),
   ("xori", ⟨0b0010011#7, 0b100#3⟩),
   ("ori", ⟨0b0010011#7, 0b110#3⟩),
   ("andi", ⟨0b0010011#7, 0b111#3⟩),
   ("sltiu", ⟨0b0010011#7, 0b011#3⟩),
   ("slti", ⟨0b0010011#7, 0b010#3⟩),
   ("addiw", ⟨0b0011011#7, 0b000#3⟩),
   ("lb", ⟨0b0000011#7, 0b000#3⟩),
   ("lh", ⟨0b0000011#7, 0b001#3⟩),
   ("lw", ⟨0b0000011#7, 0b010#3⟩),
   ("ld", ⟨0b0000011#7, 0b011#3⟩),
   ("lbu", ⟨0b0000011#7, 0b100#3⟩),
   ("lhu", ⟨0b0000011#7, 0b101#3⟩),
   ("lwu", ⟨0b0000011#7, 0b110#3⟩),
   ("jalr", ⟨0b1100111#7, 0b000#3⟩)]

def i3TypeInstructionEncodingMap : List (String × I3TypeInstructionEncoding) :=
  [("ecall", ⟨0b1110011#7, 0b000#3, 0b0000000#7⟩)]

def i2TypeInstructionEncodingMap : List (String × I2TypeInstructionEncoding) :=
  [("slli", ⟨0b0010011#7, 0b001#3, 0b000000#6⟩),
   ("srli", ⟨0b0010011#7, 0b101#3, 0b000000#6⟩),
   ("srai", ⟨0b0010011#7, 0b101#3, 0b010000#6⟩),
   ("slliw", ⟨0b0011011#7, 0b001#3, 0b000000#6⟩),
   ("srliw", ⟨0b0011011#7, 0b101#3, 0b000000#6⟩),
   ("sraiw", ⟨0b0011011#7, 0b101#3, 0b010000#6⟩)]

def sTypeInstructionEncodingMap : List (String × STypeInstructionEncoding) :=
  [("sb", ⟨0b0100011#7, 0b000#3⟩),
   ("sh", ⟨0b0100011#7, 0b001#3⟩),
   ("sw", ⟨0b0100011#7, 0b010#3⟩),
   ("sd", ⟨0b0100011#7, 0b011#3⟩)]

def bTypeInstructionEncodingMap : List (String × BTypeInstructionEncoding) :=
  [("beq", ⟨0b1100011#7, 0b000#3⟩),
   ("bne", ⟨0b1100011#7, 0b001#3⟩),
   ("blt", ⟨0b1100011#7, 0b100#3⟩),
   ("bge", ⟨0b1100011#7, 0b101#3⟩),
   ("bltu", ⟨0b1100011#7, 0b110#3⟩),
   ("bgeu", ⟨0b1100011#7, 0b111#3⟩)]

def uTypeInstructionEncodingMap : List (String × UTypeInstructionEncoding) :=
  [("lui", ⟨0b0110111#7⟩),
   ("auipc", ⟨0b0010111#7⟩)]

def jTypeInstructionEncodingMap : List (String × JTypeInstructionEncoding) :=
  [("jal", ⟨0b1101111#7⟩)]

def csrRTypeInstructionEncodingMap : List (String × CsrRTypeInstructionEncoding) :=
  [("csrrw", ⟨0b1110011#7, 0b001#3⟩),
   ("csrrs", ⟨0b1110011#7, 0b010#3⟩),
   ("csrrc", ⟨0b1110011#7, 0b011#3⟩)]

def csrITypeInstructionEncodingMap : List (String × CsrITypeInstructionEncoding) :=
  [("csrrwi", ⟨0b1110011#7, 0b101#3⟩),
   ("csrrsi", ⟨0b1110011#7, 0b110#3⟩),
   ("csrrci", ⟨0b1110011#7, 0b111#3⟩)]

def fdRTypeInstructionEncodingMap : List (String × FdRTypeInstructionEncoding) :=
  [("fsgnj.s", ⟨0b1010011#7, 0b000#3, 0b0010000#7⟩),
   ("fsgnjn.s", ⟨0b1010011#7, 0b001#3, 0b0010000#7⟩),
   ("fsgnjx.s", ⟨0b1010011#7, 0b010#3, 0b0010000#7⟩),
   ("fmin.s", ⟨0b1010011#7, 0b000#3, 0b0010100#7⟩),
   ("fmax.s", ⟨0b1010011#7, 0b001#3, 0b0010100#7⟩),
   ("feq.s", ⟨0b1010011#7, 0b010#3, 0b1010000#7⟩),
   ("flt.s", ⟨0b1010011#7, 0b001#3, 0b1010000#7⟩),
   ("fle.s", ⟨0b1010011#7, 0b000#3, 0b1010000#7⟩),
   ("feq.d", ⟨0b1010011#7, 0b010#3, 0b1010001#7⟩),
   ("flt.d", ⟨0b1010011#7, 0b001#3, 0b1010001#7⟩),
   ("fle.d", ⟨0b1010011#7, 0b000#3, 0b1010001#7⟩),
   ("fsgnj.d", ⟨0b1010011#7, 0b000#3, 0b0010001#7⟩),
   ("fsgnjn.d", ⟨0b1010011#7, 0b001#3, 0b0010001#7⟩),
   ("fsgnjx.d", ⟨0b1010011#7, 0b010#3, 0b0010001#7⟩),
   ("fmin.d", ⟨0b1010011#7, 0b000#3, 0b0010101#7⟩),
   ("fmax.d", ⟨0b1010011#7, 0b001#3, 0b0010101#7⟩)]

def fdR1TypeInstructionEncodingMap : List (String × FdR1TypeInstructionEncoding) :=
  [("fadd.s", ⟨0b1010011#7, 0b0000000#7⟩),
   ("fsub.s", ⟨0b1010011#7, 0b0000100#7⟩),
   ("fmul.s", ⟨0b1010011#7, 0b0001000#7⟩),
   ("fdiv.s", ⟨0b1010011#7, 0b0001100#7⟩),
   ("fadd.d", ⟨0b1010011#7, 0b0000001#7⟩),
   ("fsub.d", ⟨0b1010011#7, 0b0000101#7⟩),
   ("fmul.d", ⟨0b1010011#7, 0b0001001#7⟩),
   ("fdiv.d", ⟨0b1010011#7, 0b0001101#7⟩)]

def fdR2TypeInstructionEncodingMap : List (String × FdR2TypeInstructionEncoding) :=
  [("fsqrt.s", ⟨0b1010011#7, 0b00000#5, 0b0101100#7⟩),
   ("fcvt.w.s", ⟨0b1010011#7, 0b00000#5, 0b1100000#7⟩),
   ("fcvt.wu.s", ⟨0b1010011#7, 0b00001#5, 0b1100000#7⟩),
   ("fcvt.l.s", ⟨0b1010011#7, 0b00010#5, 0b1100000#7⟩),
   ("fcvt.lu.s", ⟨0b1010011#7, 0b00011#5, 0b1100000#7⟩),
   ("fcvt.s.w", ⟨0b1010011#7, 0b00000#5, 0b1101000#7⟩),
   ("fcvt.s.wu", ⟨0b1010011#7, 0b00001#5, 0b1101000#7⟩),
   ("fcvt.s.l", ⟨0b1010011#7, 0b00010#5, 0b1101000#7⟩),
   ("fcvt.s.lu", ⟨0b1010011#7, 0b00011#5, 0b1101000#7⟩),
   ("fsqrt.d", ⟨0b1010011#7, 0b00000#5, 0b0101101#7⟩),
   ("fcvt.w.d", ⟨0b1010011#7, 0b00000#5, 0b1100001#7⟩),
   ("fcvt.wu.d", ⟨0b1010011#7, 0b00001#5, 0b1100001#7⟩),
   ("fcvt.l.d", ⟨0b1010011#7, 0b00010#5, 0b1100001#7⟩),
   ("fcvt.lu.d", ⟨0b1010011#7, 0b00011#5, 0b1100001#7⟩),
   ("fcvt.d.w", ⟨0b1010011#7, 0b00000#5, 0b1101001#7⟩),
   ("fcvt.d.wu", ⟨0b1010011#7, 0b00001#5, 0b1101001#7⟩),
   ("fcvt.d.l", ⟨0b1010011#7, 0b00010#5, 0b1101001#7⟩),
   ("fcvt.d.lu", ⟨0b1010011#7, 0b00011#5, 0b1101001#7⟩),
   ("fcvt.s.d", ⟨0b1010011#7, 0b00001#5, 0b0100000#7⟩),
   ("fcvt.d.s", ⟨0b1010011#7, 0b00000#5, 0b0100001#7⟩)]

def fdR3TypeInstructionEncodingMap : List (String × FdR3TypeInstructionEncoding) :=
  [("fmv.w.x", ⟨0b1010011#7, 0b000#3, 0b00000#5, 0b1111000#7⟩),
   ("fmv.x.w", ⟨0b1010011#7, 0b000#3, 0b00000#5, 0b1110000#7⟩),
   ("fclass.s", ⟨0b1010011#7, 0b001#3, 0b00000#5, 0b1110000#7⟩),
   ("fmv.d.x", ⟨0b1010011#7, 0b000#3, 0b00000#5, 0b1111001#7⟩),
   ("fmv.x.d", ⟨0b1010011#7, 0b000#3, 0b00000#5, 0b1110001#7⟩),
   ("fclass.d", ⟨0b1010011#7, 0b001#3, 0b00000#5, 0b1110001#7⟩)]

def fdR4TypeInstructionEncodingMap : List (String × FdR4TypeInstructionEncoding) :=
  [("fmadd.s", ⟨0b1000011#7, 0b00#2⟩),
   ("fmsub.s", ⟨0b1000111#7, 0b00#2⟩),
   ("fnmsub.s", ⟨0b1001011#7, 0b00#2⟩),
   ("fnmadd.s", ⟨0b1001111#7, 0b00#2⟩),
   ("fmadd.d", ⟨0b1000011#7, 0b01#2⟩),
   ("fmsub.d", ⟨0b1000111#7, 0b01#2⟩),
   ("fnmsub.d", ⟨0b1001011#7, 0b01#2⟩),
   ("fnmadd.d", ⟨0b1001111#7, 0b01#2⟩)]

def fdITypeInstructionEncodingMap : List (String × FdITypeInstructionEncoding) :=
  [("flw", ⟨0b0000111#7, 0b010#3⟩),
   ("fld", ⟨0b0000111#7, 0b011#3⟩)]

def fdSTypeInstructionEncodingMap : List (String × FdSTypeInstructionEncoding) :=
  [("fsw", ⟨0b0100111#7, 0b010#3⟩),
   ("fsd", ⟨0b0100111#7, 0b011#3⟩)]

end RiscvSim

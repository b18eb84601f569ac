/-!
# Instruction sets and syntaxes

The sets of mnemonics by class and by extension, and the operand syntaxes of
each mnemonic with the texts that error messages show for them.
-/

namespace RiscvSim

/-! ### Sets of mnemonics -/

def validInstructions : List String :=
  ["add", "sub", "and", "or", "xor", "sll", "srl", "sra", "slt", "sltu", "addw", "subw",
   "sllw", "srlw", "sraw", "addi", "xori", "ori", "andi", "slli", "srli", "srai", "slti",
   "sltiu", "addiw", "slliw", "srliw", "sraiw", "lb", "lh", "lw", "ld", "lbu", "lhu", "lwu",
   "sb", "sh", "sw", "sd", "beq", "bne", "blt", "bge", "bltu", "bgeu", "lui", "auipc", "jal",
   "jalr", "ecall", "csrrw", "csrrs", "csrrc", "csrrwi", "csrrsi", "csrrci", "la", "nop", "li",
   "mv", "not", "neg", "negw", "sext.w", "seqz", "snez", "sltz", "sgtz", "beqz", "bnez",
   "blez", "bgez", "bltz", "bgtz", "bgt", "ble", "bgtu", "bleu", "j", "jr", "ret", "call",
   "tail", "fence", "fence_i", "mul", "mulh", "mulhsu", "mulhu", "div", "divu", "rem", "remu",
   "mulw", "divw", "divuw", "remw", "remuw", "flw", "fsw", "fmadd.s", "fmsub.s", "fnmsub.s",
   "fnmadd.s", "fadd.s", "fsub.s", "fmul.s", "fdiv.s", "fsqrt.s", "fsgnj.s", "fsgnjn.s",
   "fsgnjx.s", "fmin.s", "fmax.s", "fcvt.w.s", "fcvt.wu.s", "fmv.x.w", "feq.s", "flt.s",
   "fle.s", "fclass.s", "fcvt.s.w", "fcvt.s.wu", "fmv.w.x", "fcvt.l.s", "fcvt.lu.s",
   "fcvt.s.l", "fcvt.s.lu", "fld", "fsd", "fmadd.d", "fmsub.d", "fnmsub.d", "fnmadd.d",
   "fadd.d", "fsub.d", "fmul.d", "fdiv.d", "fsqrt.d", "fsgnj.d", "fsgnjn.d", "fsgnjx.d",
   "fmin.d", "fmax.d", "fcvt.s.d", "fcvt.d.s", "feq.d", "flt.d", "fle.d", "fclass.d",
   "fcvt.w.d", "fcvt.wu.d", "fcvt.d.w", "fcvt.d.wu", "fcvt.l.d", "fcvt.lu.d", "fmv.x.d",
   "fcvt.d.l", "fcvt.d.lu", "fmv.d.x"]

def rTypeInstructions : List String :=
  ["add", "sub", "and", "or", "xor", "sll", "srl", "sra", "slt", "sltu", "addw", "subw",
   "sllw", "srlw", "sraw", "mul", "mulh", "mulhsu", "mulhu", "div", "divu", "rem", "remu",
   "mulw", "divw", "divuw", "remw", "remuw"]

def i1TypeInstructions : List String :=
  ["addi", "xori", "ori", "andi", "sltiu", "slti", "addiw", "lb", "lh", "lw", "ld", "lbu",
   "lhu", "lwu", "jalr"]

def i2TypeInstructions : List String :=
  ["slli", "srli", "srai", "slliw", "srliw", "sraiw"]

def i3TypeInstructions : List String :=
  ["ecall"]

def sTypeInstructions : List String :=
  ["sb", "sh", "sw", "sd"]

def bTypeInstructions : List String :=
  ["beq", "bne", "blt", "bge", "bltu", "bgeu"]

def uTypeInstructions : List String :=
  ["lui", "auipc"]

def jTypeInstructions : List String :=
  ["jal"]

def csrRInstructions : List String :=
  ["csrrw", "csrrs", "csrrc"]

def csrIInstructions : List String :=
  ["csrrwi", "csrrsi", "csrrci"]

def mExtensionInstructions : List String :=
  ["mul", "mulh", "mulhsu", "mulhu", "div", "divu", "rem", "remu", "mulw", "divw", "divuw",
   "remw", "remuw"]

def fExtensionInstructions : List String :=
  ["flw", "fsw", "fmadd.s", "fmsub.s", "fnmsub.s", "fnmadd.s", "fadd.s", "fsub.s", "fmul.s",
   "fdiv.s", "fsqrt.s", "fsgnj.s", "fsgnjn.s", "fsgnjx.s", "fmin.s", "fmax.s", "fcvt.w.s",
   "fcvt.wu.s", "fmv.x.w", "feq.s", "flt.s", "fle.s", "fclass.s", "fcvt.s.w", "fcvt.s.wu",
   "fmv.w.x", "fcvt.l.s", "fcvt.lu.s", "fcvt.s.l", "fcvt.s.lu", "fcvt.s.d", "fcvt.d.s"]

def dExtensionInstructions : List String :=
  ["fld", "fsd", "fmadd.d", "fmsub.d", "fnmsub.d", "fnmadd.d", "fadd.d", "fsub.d", "fmul.d",
   "fdiv.d", "fsqrt.d", "fsgnj.d", "fsgnjn.d", "fsgnjx.d", "fmin.d", "fmax.d", "fcvt.s.d",
   "fcvt.d.s", "feq.d", "flt.d", "fle.d", "fclass.d", "fcvt.w.d", "fcvt.wu.d", "fcvt.d.w",
   "fcvt.d.wu", "fcvt.l.d", "fcvt.lu.d", "fmv.x.d", "fcvt.d.l", "fcvt.d.lu", "fmv.d.x"]

def fdExtensionRTypeInstructions : List String :=
  ["fsgnj.s", "fsgnjn.s", "fsgnjx.s", "fmin.s", "fmax.s", "feq.s", "flt.s", "fle.s", "fsgnj.d",
   "fsgnjn.d", "fsgnjx.d", "fmin.d", "fmax.d", "feq.d", "flt.d", "fle.d"]

def fdExtensionR1TypeInstructions : List String :=
  ["fadd.s", "fsub.s", "fmul.s", "fdiv.s", "fadd.d", "fsub.d", "fmul.d", "fdiv.d"]

def fdExtensionR2TypeInstructions : List String :=
  ["fsqrt.s", "fcvt.w.s", "fcvt.wu.s", "fcvt.s.w", "fcvt.s.wu", "fcvt.l.s", "fcvt.lu.s",
   "fcvt.s.l", "fcvt.s.lu", "fsqrt.d", "fcvt.s.d", "fcvt.d.s", "fcvt.w.d", "fcvt.wu.d",
   "fcvt.d.w", "fcvt.d.wu", "fcvt.l.d", "fcvt.lu.d", "fcvt.d.l", "fcvt.d.lu"]

def fdExtensionR3TypeInstructions : List String :=
  ["fmv.x.w", "fmv.w.x", "fclass.s", "fclass.d", "fmv.x.d", "fmv.d.x"]

def fdExtensionR4TypeInstructions : List String :=
  ["fmadd.s", "fmsub.s", "fnmsub.s", "fnmadd.s", "fmadd.d", "fmsub.d", "fnmsub.d", "fnmadd.d"]

def fdExtensionITypeInstructions : List String :=
  ["flw", "fld"]

def fdExtensionSTypeInstructions : List String :=
  ["fsw", "fsd"]

def isValidInstruction (instruction : String) : Bool :=
  validInstructions.contains instruction

def isValidRTypeInstruction (instruction : String) : Bool :=
  rTypeInstructions.contains instruction

def isValidI1TypeInstruction (instruction : String) : Bool :=
  i1TypeInstructions.contains instruction

def isValidI2TypeInstruction (instruction : String) : Bool :=
  i2TypeInstructions.contains instruction

def isValidI3TypeInstruction (instruction : String) : Bool :=
  i3TypeInstructions.contains instruction

def isValidITypeInstruction (instruction : String) : Bool :=
  isValidI1TypeInstruction instruction || isValidI2TypeInstruction instruction ||
    isValidI3TypeInstruction instruction

def isValidSTypeInstruction (instruction : String) : Bool :=
  sTypeInstructions.contains instruction

def isValidBTypeInstruction (instruction : String) : Bool :=
  bTypeInstructions.contains instruction

def isValidUTypeInstruction (instruction : String) : Bool :=
  uTypeInstructions.contains instruction

def isValidJTypeInstruction (instruction : String) : Bool :=
  jTypeInstructions.contains instruction

def isValidCsrRTypeInstruction (instruction : String) : Bool :=
  csrRInstructions.contains instruction

def isValidCsrITypeInstruction (instruction : String) : Bool :=
  csrIInstructions.contains instruction

def isValidMExtensionInstruction (instruction : String) : Bool :=
  mExtensionInstructions.contains instruction

def isValidFExtensionInstruction (instruction : String) : Bool :=
  fExtensionInstructions.contains instruction

def isValidDExtensionInstruction (instruction : String) : Bool :=
  dExtensionInstructions.contains instruction

def isValidFdRTypeInstruction (instruction : String) : Bool :=
  fdExtensionRTypeInstructions.contains instruction

def isValidFdR1TypeInstruction (instruction : String) : Bool :=
  fdExtensionR1TypeInstructions.contains instruction

def isValidFdR2TypeInstruction (instruction : String) : Bool :=
  fdExtensionR2TypeInstructions.contains instruction

def isValidFdR3TypeInstruction (instruction : String) : Bool :=
  fdExtensionR3TypeInstructions.contains instruction

def isValidFdR4TypeInstruction (instruction : String) : Bool :=
  fdExtensionR4TypeInstructions.contains instruction

def isValidFdITypeInstruction (instruction : String) : Bool :=
  fdExtensionITypeInstructions.contains instruction

def isValidFdSTypeInstruction (instruction : String) : Bool :=
  fdExtensionSTypeInstructions.contains instruction

/-! ### Syntaxes -/

/-- The operands of an instruction: general-purpose (`Gpr`), floating-point
(`Fpr`) and control (`Csr`) registers, immediates (`I`), labels of instructions
(`Il`) and of data (`Dl`), rounding modes (`Rm`), parentheses and commas. -/
inductive SyntaxType where
  | oGprCGprCGpr
  | oGprCGprCI
  | oGprCI
  | oGprCGprCIl
  | oGprCGprCDl
  | oGprCIl
  | oGprCDl
  | oGprCILpGprRp
  | o
  | pseudo
  | oGprCCsrCGpr
  | oGprCCsrCI
  | oFprCFprCFprCFpr
  | oFprCFprCFprCFprCRm
  | oFprCFprCFpr
  | oFprCFprCFprCRm
  | oFprCFpr
  | oFprCFprCRm
  | oFprCGpr
  | oFprCGprCRm
  | oGprCFpr
  | oGprCFprCRm
  | oGprCFprCFpr
  | oFprCILpGprRp
  deriving DecidableEq, Repr

/-- The syntaxes of a mnemonic, in the order in which they are tried.  A key that
occurs twice has the value of its first entry. -/
def instructionSyntaxMap : List (String × List SyntaxType) :=
  [("add", [.oGprCGprCGpr]),
   ("sub", [.oGprCGprCGpr]),
   ("xor", [.oGprCGprCGpr]),
   ("or", [.oGprCGprCGpr]),
   ("and", [.oGprCGprCGpr]),
   ("sll", [.oGprCGprCGpr]),
   ("srl", [.oGprCGprCGpr]),
   ("sra", [.oGprCGprCGpr]),
   ("slt", [.oGprCGprCGpr]),
   ("sltu", [.oGprCGprCGpr]),
   ("addi", [.oGprCGprCI]),
   ("xori", [.oGprCGprCI]),
   ("ori", [.oGprCGprCI]),
   ("andi", [.oGprCGprCI]),
   ("slli", [.oGprCGprCI]),
   ("srli", [.oGprCGprCI]),
   ("srai", [.oGprCGprCI]),
   ("slti", [.oGprCGprCI]),
   ("sltiu", [.oGprCGprCI]),
   ("lb", [.oGprCILpGprRp, .oGprCDl]),
   ("lh", [.oGprCILpGprRp, .oGprCDl]),
   ("lw", [.oGprCILpGprRp, .oGprCDl]),
   ("ld", [.oGprCILpGprRp, .oGprCDl]),
   ("lbu", [.oGprCILpGprRp]),
   ("lhu", [.oGprCILpGprRp]),
   ("lwu", [.oGprCILpGprRp]),
   ("sb", [.oGprCILpGprRp]),
   ("sh", [.oGprCILpGprRp]),
   ("sw", [.oGprCILpGprRp]),
   ("sd", [.oGprCILpGprRp]),
   ("beq", [.oGprCGprCI, .oGprCGprCIl]),
   ("bne", [.oGprCGprCI, .oGprCGprCIl]),
   ("blt", [.oGprCGprCI, .oGprCGprCIl]),
   ("bge", [.oGprCGprCI, .oGprCGprCIl]),
   ("bltu", [.oGprCGprCI, .oGprCGprCIl]),
   ("bgeu", [.oGprCGprCI, .oGprCGprCIl]),
   ("lui", [.oGprCI]),
   ("auipc", [.oGprCI]),
   ("jal", [.oGprCI, .oGprCIl]),
   ("jalr", [.oGprCILpGprRp]),
   ("ecall", [.o]),
   ("csrrw", [.oGprCCsrCGpr]),
   ("csrrs", [.oGprCCsrCGpr]),
   ("csrrc", [.oGprCCsrCGpr]),
   ("csrrwi", [.oGprCCsrCI]),
   ("csrrsi", [.oGprCCsrCI]),
   ("csrrci", [.oGprCCsrCI]),
   ("fence", [.o]),
   ("fence_i", [.o]),
   ("nop", [.pseudo]),
   ("li", [.pseudo]),
   ("la", [.pseudo]),
   ("mv", [.pseudo]),
   ("not", [.pseudo]),
   ("neg", [.pseudo]),
   ("negw", [.pseudo]),
   ("sext.w", [.pseudo]),
   ("seqz", [.pseudo]),
   ("snez", [.pseudo]),
   ("sltz", [.pseudo]),
   ("sgtz", [.pseudo]),
   ("beqz", [.pseudo]),
   ("bnez", [.pseudo]),
   ("blez", [.pseudo]),
   ("bgez", [.pseudo]),
   ("bltz", [.pseudo]),
   ("bgtz", [.pseudo]),
   ("bgt", [.pseudo]),
   ("ble", [.pseudo]),
   ("bgtu", [.pseudo]),
   ("bleu", [.pseudo]),
   ("j", [.pseudo]),
   ("jr", [.pseudo]),
   ("ret", [.pseudo]),
   ("call", [.pseudo]),
   ("tail", [.pseudo]),
   ("fence", [.pseudo]),
   ("fence_i", [.pseudo]),
   ("mul", [.oGprCGprCGpr]),
   ("mulh", [.oGprCGprCGpr]),
   ("mulhsu", [.oGprCGprCGpr]),
   ("mulhu", [.oGprCGprCGpr]),
   ("div", [.oGprCGprCGpr]),
   ("divu", [.oGprCGprCGpr]),
   ("rem", [.oGprCGprCGpr]),
   ("remu", [.oGprCGprCGpr]),
   ("mulw", [.oGprCGprCGpr]),
   ("divw", [.oGprCGprCGpr]),
   ("divuw", [.oGprCGprCGpr]),
   ("remw", [.oGprCGprCGpr]),
   ("remuw", [.oGprCGprCGpr]),
   ("flw", [.oFprCILpGprRp]),
   ("fsw", [.oFprCILpGprRp]),
   ("fmadd.s", [.oFprCFprCFprCFpr, .oFprCFprCFprCFprCRm]),
   ("fmsub.s", [.oFprCFprCFprCFpr, .oFprCFprCFprCFprCRm]),
   ("fnmsub.s", [.oFprCFprCFprCFpr, .oFprCFprCFprCFprCRm]),
   ("fnmadd.s", [.oFprCFprCFprCFpr, .oFprCFprCFprCFprCRm]),
   ("fadd.s", [.oFprCFprCFpr, .oFprCFprCFprCRm]),
   ("fsub.s", [.oFprCFprCFpr, .oFprCFprCFprCRm]),
   ("fmul.s", [.oFprCFprCFpr, .oFprCFprCFprCRm]),
   ("fdiv.s", [.oFprCFprCFpr, .oFprCFprCFprCRm]),
   ("fsqrt.s", [.oFprCFpr, .oFprCFprCRm]),
   ("fsgnj.s", [.oFprCFprCFpr]),
   ("fsgnjn.s", [.oFprCFprCFpr]),
   ("fsgnjx.s", [.oFprCFprCFpr]),
   ("fmin.s", [.oFprCFprCFpr]),
   ("fmax.s", [.oFprCFprCFpr]),
   ("feq.s", [.oGprCFprCFpr]),
   ("flt.s", [.oGprCFprCFpr]),
   ("fle.s", [.oGprCFprCFpr]),
   ("fclass.s", [.oGprCFpr]),
   ("fmv.x.w", [.oGprCFpr]),
   ("fmv.w.x", [.oFprCGpr]),
   ("fcvt.w.s", [.oGprCFpr, .oGprCFprCRm]),
   ("fcvt.wu.s", [.oGprCFpr, .oGprCFprCRm]),
   ("fcvt.l.s", [.oGprCFpr, .oGprCFprCRm]),
   ("fcvt.lu.s", [.oGprCFpr, .oGprCFprCRm]),
   ("fcvt.s.w", [.oFprCGpr, .oFprCGprCRm]),
   ("fcvt.s.wu", [.oFprCGpr, .oFprCGprCRm]),
   ("fcvt.s.l", [.oFprCGpr, .oFprCGprCRm]),
   ("fcvt.s.lu", [.oFprCGpr, .oFprCGprCRm]),
   ("fld", [.oFprCILpGprRp]),
   ("fsd", [.oFprCILpGprRp]),
   ("fmadd.d", [.oFprCFprCFprCFpr, .oFprCFprCFprCFprCRm]),
   ("fmsub.d", [.oFprCFprCFprCFpr, .oFprCFprCFprCFprCRm]),
   ("fnmsub.d", [.oFprCFprCFprCFpr, .oFprCFprCFprCFprCRm]),
   ("fnmadd.d", [.oFprCFprCFprCFpr, .oFprCFprCFprCFprCRm]),
   ("fadd.d", [.oFprCFprCFpr, .oFprCFprCFprCRm]),
   ("fsub.d", [.oFprCFprCFpr, .oFprCFprCFprCRm]),
   ("fmul.d", [.oFprCFprCFpr, .oFprCFprCFprCRm]),
   ("fdiv.d", [.oFprCFprCFpr, .oFprCFprCFprCRm]),
   ("fsqrt.d", [.oFprCFpr, .oFprCFprCRm]),
   ("fsgnj.d", [.oFprCFprCFpr]),
   ("fsgnjn.d", [.oFprCFprCFpr]),
   ("fsgnjx.d", [.oFprCFprCFpr]),
   ("fmin.d", [.oFprCFprCFpr]),
   ("fmax.d", [.oFprCFprCFpr]),
   ("feq.d", [.oGprCFprCFpr]),
   ("flt.d", [.oGprCFprCFpr]),
   ("fle.d", [.oGprCFprCFpr]),
   ("fclass.d", [.oGprCFpr]),
   ("fcvt.w.d", [.oGprCFpr, .oFprCGprCRm]),
   ("fcvt.wu.d", [.oGprCFpr, .oFprCGprCRm]),
   ("fcvt.l.d", [.oGprCFpr, .oFprCGprCRm]),
   ("fcvt.lu.d", [.oGprCFpr, .oFprCGprCRm]),
   ("fcvt.d.w", [.oFprCGpr, .oGprCFprCRm]),
   ("fcvt.d.wu", [.oFprCGpr, .oGprCFprCRm]),
   ("fcvt.d.l", [.oFprCGpr, .oFprCGprCRm]),
   ("fcvt.d.lu", [.oFprCGpr, .oFprCGprCRm]),
   ("fcvt.s.d", [.oFprCFpr, .oGprCFprCRm]),
   ("fcvt.d.s", [.oFprCFpr, .oGprCFprCRm]),
   ("fmv.x.d", [.oGprCFpr]),
   ("fmv.d.x", [.oFprCGpr])]

/-- Looks a mnemonic up; an unknown one has no syntax. -/
def syntaxesOf (opcode : String) : List SyntaxType :=
  (instructionSyntaxMap.lookup opcode).getD []

def opcodeSyntaxMap : List (String × String) :=
  [("nop", "nop"),
   ("li", "li <reg>, <imm>"),
   ("mv", "mv <reg>, <reg>"),
   ("not", "not <reg>, <reg>"),
   ("neg", "neg <reg>, <reg>"),
   ("seqz", "seqz <reg>, <reg>"),
   ("snez", "snez <reg>, <reg>"),
   ("sltz", "sltz <reg>, <reg>"),
   ("sgtz", "sgtz <reg>, <reg>"),
   ("beqz", "beqz <reg>, <text label>"),
   ("bnez", "bnez <reg>, <text label>"),
   ("blez", "blez <reg>, <text label>"),
   ("bgez", "bgez <reg>, <text label>"),
   ("bltz", "bltz <reg>, <text label>"),
   ("bgtz", "bgtz <reg>, <text label>"),
   ("j", "j <text label>"),
   ("jr", "jr <reg>"),
   ("la", "la <reg>, <text label>"),
   ("call", "call <text label>"),
   ("tail", "tail <text label>"),
   ("fence", "fence")]

def syntaxTypeToString : List (SyntaxType × String) :=
  [(.o, "<empty>"),
   (.oGprCGprCGpr, "<gp-reg>, <gp-reg>, <gp-reg>"),
   (.oGprCGprCI, "<gp-reg>, <gp-reg>, <imm>"),
   (.oGprCGprCIl, "<gp-reg>, <gp-reg>, <text-label>"),
   (.oGprCGprCDl, "<gp-reg>, <gp-reg>, <data-label>"),
   (.oGprCILpGprRp, "<gp-reg>, <gp-imm>(<gp-reg>)"),
   (.oGprCI, "<gp-reg>, <imm>"),
   (.oGprCIl, "<gp-reg>, <text-label>"),
   (.oGprCDl, "<gp-reg>, <data-label>"),
   (.oGprCCsrCGpr, "<gp-reg>, <csr>, <gp-reg>"),
   (.oGprCCsrCI, "<gp-reg>, <csr>, <uimm>"),
   (.oFprCFprCFprCFpr, "<fp-reg>, <fp-reg>, <fp-reg>, <fp-reg>"),
   (.oFprCFprCFprCFprCRm, "<fp-reg>, <fp-reg>, <fp-reg>, <fp-reg>, <rm>"),
   (.oFprCFprCFpr, "<fp-reg>, <fp-reg>, <fp-reg>"),
   (.oFprCFprCFprCRm, "<fp-reg>, <fp-reg>, <fp-reg>, <rm>"),
   (.oFprCFpr, "<fp-reg>, <fp-reg>"),
   (.oFprCFprCRm, "<fp-reg>, <fp-reg>, <rm>"),
   (.oFprCGpr, "<fp-reg>, <gp-reg>"),
   (.oFprCGprCRm, "<fp-reg>, <gp-reg>, <rm>"),
   (.oGprCFpr, "<gp-reg>, <fp-reg>"),
   (.oGprCFprCRm, "<gp-reg>, <fp-reg>, <rm>"),
   (.oGprCFprCFpr, "<gp-reg>, <fp-reg>, <fp-reg>"),
   (.oFprCILpGprRp, "<fp-reg>, <imm>(<gp-reg>)")]

/-- The syntaxes of a mnemonic as error messages show them. -/
def getExpectedSyntaxes (opcode : String) : String :=
  match opcodeSyntaxMap.lookup opcode with
  | some text => text
  | none =>
    (syntaxesOf opcode).zipIdx.foldl (fun syntaxes (type, i) =>
      let syntaxes := if 0 < i then syntaxes ++ " or " else syntaxes
      match syntaxTypeToString.lookup type with
      | some text => syntaxes ++ opcode ++ " " ++ text
      | none => syntaxes) ""

/-! ### Rounding modes -/

/-- The encodings of the rounding modes by name. -/
def roundingModes : List (String × BitVec 8) :=
  [("rne", 0b000#8), ("rtz", 0b001#8), ("rdn", 0b010#8), ("rup", 0b011#8), ("rmm", 0b100#8),
   ("dyn", 0b111#8)]

def isValidRoundingMode (mode : String) : Bool :=
  (roundingModes.lookup mode).isSome

end RiscvSim

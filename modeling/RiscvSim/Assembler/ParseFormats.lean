import RiscvSim.Assembler.ParserState

/-!
# The formats of instruction lines

One function for each syntax: it answers whether the line of the current token
has that syntax, and if it has, appends the units of the instruction or reports
what is wrong with an operand.
-/

namespace RiscvSim

open Lib

namespace Parser

/-! ### Lines of registers -/

/-- Where the rounding mode of a line of registers comes from. -/
inductive RmOperand where
  | absent
  | dynamic
  | named
  deriving DecidableEq, Repr

/-- `getRoundingModeEncoding`. -/
def roundingModeAt (p : Parser) (n : Nat) : Except AssemblerError (BitVec 8) :=
  match roundingModes.lookup (p.peekToken n).value with
  | some encoding => .ok encoding
  | none => .error (.invalidRoundingMode (p.peekToken n).value)

/-- The fields of a line of registers, in order. -/
def registerFields : List (ICUnit → String → ICUnit) :=
  [ICUnit.setRd, ICUnit.setRs1, ICUnit.setRs2, ICUnit.setRs3]

/-- The tokens behind the mnemonic of a line of registers. -/
def registerLine (registers : List TokenType) (rm : RmOperand) : List TokenType :=
  (registers ++ if rm = RmOperand.named then [TokenType.rm] else []).intersperse .comma

/-- A line of registers separated by commas, with a rounding mode or without. -/
def parseRegisters (registers : List TokenType) (rm : RmOperand) (p : Parser) :
    Except AssemblerError (Bool × Parser) :=
  if p.matchesLine (registerLine registers rm) then do
    let block ← ((registerFields.take registers.length).zipIdx).foldlM
      (fun block (setField, i) => (p.regName (2 * i + 1)).map (setField block)) p.newBlock
    let block ←
      match rm with
      | .absent => pure block
      | .dynamic => pure (block.setRm 0b111#8)
      | .named => (p.roundingModeAt (2 * registers.length + 1)).map block.setRm
    pure (p.acceptLine block)
  else pure (false, p)

def parseOGprCGprCGpr : Parser → Except AssemblerError (Bool × Parser) :=
  parseRegisters [.gpRegister, .gpRegister, .gpRegister] .absent

def parseOFprCFprCFprCFpr : Parser → Except AssemblerError (Bool × Parser) :=
  parseRegisters [.fpRegister, .fpRegister, .fpRegister, .fpRegister] .dynamic

def parseOFprCFprCFprCFprCRm : Parser → Except AssemblerError (Bool × Parser) :=
  parseRegisters [.fpRegister, .fpRegister, .fpRegister, .fpRegister] .named

def parseOFprCFprCFpr : Parser → Except AssemblerError (Bool × Parser) :=
  parseRegisters [.fpRegister, .fpRegister, .fpRegister] .dynamic

def parseOFprCFprCFprCRm : Parser → Except AssemblerError (Bool × Parser) :=
  parseRegisters [.fpRegister, .fpRegister, .fpRegister] .named

def parseOFprCFpr : Parser → Except AssemblerError (Bool × Parser) :=
  parseRegisters [.fpRegister, .fpRegister] .dynamic

def parseOFprCFprCRm : Parser → Except AssemblerError (Bool × Parser) :=
  parseRegisters [.fpRegister, .fpRegister] .named

def parseOFprCGpr : Parser → Except AssemblerError (Bool × Parser) :=
  parseRegisters [.fpRegister, .gpRegister] .dynamic

def parseOFprCGprCRm : Parser → Except AssemblerError (Bool × Parser) :=
  parseRegisters [.fpRegister, .gpRegister] .named

def parseOGprCFpr : Parser → Except AssemblerError (Bool × Parser) :=
  parseRegisters [.gpRegister, .fpRegister] .dynamic

def parseOGprCFprCRm : Parser → Except AssemblerError (Bool × Parser) :=
  parseRegisters [.gpRegister, .fpRegister] .named

/-- Sets no rounding mode. -/
def parseOGprCFprCFpr : Parser → Except AssemblerError (Bool × Parser) :=
  parseRegisters [.gpRegister, .fpRegister, .fpRegister] .absent

/-! ### Lines of integer instructions -/

/-- A mnemonic alone on its line. -/
def parseO (p : Parser) : Except AssemblerError (Bool × Parser) :=
  if p.matchesLine [] then pure (p.acceptLine p.newBlock) else pure (false, p)

def parseOGprCGprCI (p : Parser) : Except AssemblerError (Bool × Parser) :=
  if p.matchesLine [.gpRegister, .comma, .gpRegister, .comma, .num] then
    let block := p.newBlock
    if isValidITypeInstruction block.opcode then do
      let block := block.setRd (← p.regName 1)
      let block := block.setRs1 (← p.regName 3)
      let imm ← p.numberAt 5
      if isValidI2TypeInstruction block.opcode then
        if 0 ≤ imm ∧ imm ≤ 31 then pure (p.acceptLine (block.setImm (toText imm)))
        else pure (p.rejectLine 5 "Immediate value out of range")
      else
        if -2048 ≤ imm ∧ imm ≤ 2047 then pure (p.acceptLine (block.setImm (toText imm)))
        else pure (p.rejectLine 5 "Immediate value out of range")
    else if isValidBTypeInstruction block.opcode then do
      let block := block.setRs1 (← p.regName 1)
      let block := block.setRs2 (← p.regName 3)
      let imm ← p.numberAt 5
      if -4096 ≤ imm ∧ imm ≤ 4095 then
        if imm.tmod 4 = 0 then pure (p.acceptLine (block.setImm (toText imm)))
        else pure (p.rejectLine 5 "Misaligned immediate value")
      else pure (p.rejectLine 5 "Immediate value out of range")
    else pure (p.acceptLine block)
  else pure (false, p)

def parseOGprCI (p : Parser) : Except AssemblerError (Bool × Parser) :=
  if p.matchesLine [.gpRegister, .comma, .num] then
    let block := p.newBlock
    if isValidUTypeInstruction block.opcode then do
      let block := block.setRd (← p.regName 1)
      let imm ← p.numberAt 3
      if 0 ≤ imm ∧ imm ≤ 1048575 then pure (p.acceptLine (block.setImm (toText imm)))
      else pure (p.rejectLine 3 "Immediate value out of range")
    else if isValidJTypeInstruction block.opcode then do
      let block := block.setRd (← p.regName 1)
      let imm ← p.numberAt 3
      if -1048576 ≤ imm ∧ imm ≤ 1048575 then
        if imm.tmod 2 = 0 then pure (p.acceptLine (block.setImm (toText imm)))
        else pure (p.rejectLine 3 "Misaligned immediate value")
      else pure (p.rejectLine 3 "Immediate value out of range")
    else pure (p.acceptLine block)
  else pure (false, p)

/-- The distance from the current instruction to a text label, when that is known. -/
def textOffset (p : Parser) (label : String) : Option (BitVec 64) :=
  match p.symbolTable label with
  | some symbol =>
    if symbol.isData then none
    else some (symbol.address - instructionAddress p.instructionIndex)
  | none => none

/-- A reference to the label of token `n` from a jump or a branch: known text
labels are resolved, all others wait for the end of the parse. -/
def parseLabelReference (p : Parser) (block : ICUnit) (n : Nat) (low high : Int) :
    Bool × Parser :=
  match p.textOffset (p.peekToken n).value with
  | some offset =>
    if low ≤ offset.toInt ∧ offset.toInt ≤ high then
      p.acceptLine ((block.setImm (toText offset.toInt)).setLabel (p.peekToken n).value)
    else p.rejectLine n "Immediate value out of range"
  | none =>
    (true, ({ p with backPatch := p.backPatch ++ [p.instructionIndex] }.emit
      (block.setLabel (p.peekToken n).value) false).skipCurrentLine)

def parseOGprCGprCIl (p : Parser) : Except AssemblerError (Bool × Parser) :=
  if p.matchesLine [.gpRegister, .comma, .gpRegister, .comma, .labelRef] then
    let block := p.newBlock
    if isValidBTypeInstruction block.opcode then do
      let block := block.setRs1 (← p.regName 1)
      let block := block.setRs2 (← p.regName 3)
      pure (p.parseLabelReference block 5 (-4096) 4095)
    else pure (p.acceptLine block)
  else pure (false, p)

def parseOGprCIl (p : Parser) : Except AssemblerError (Bool × Parser) :=
  if p.matchesLine [.gpRegister, .comma, .labelRef] then
    let block := p.newBlock
    if isValidJTypeInstruction block.opcode then do
      let block := block.setRd (← p.regName 1)
      pure (p.parseLabelReference block 3 (-1048576) 1048575)
    else pure (p.acceptLine block)
  else pure (false, p)

/-- The two parts of the distance from the current instruction to an address of
the data section, computed with 64 bits and cut off to 32. -/
def splitOffset (p : Parser) (cfg : VmConfig) (address : BitVec 64) : BitVec 32 × BitVec 32 :=
  let offset := (cfg.dataSectionStart + address) - instructionAddress p.instructionIndex
  let hi20 := ((offset + 0x800#64).sshiftRight 12).setWidth 32
  let lo12 := (offset - (hi20 <<< 12).signExtend 64).setWidth 32
  (hi20, lo12)

/-- The offset of a data label. -/
def dataAddress (p : Parser) (label : String) : Option (BitVec 64) :=
  match p.symbolTable label with
  | some symbol => if symbol.isData then some symbol.address else none
  | none => none

/-- A load from a data label, through AUIPC.  The index of the second unit is set
in the first one, and the second one has none. -/
def parseOGprCDl (cfg : VmConfig) (p : Parser) : Except AssemblerError (Bool × Parser) :=
  if p.matchesLine [.gpRegister, .comma, .labelRef] then do
    let reg ← p.regName 1
    match p.dataAddress (p.peekToken 3).value with
    | none => pure (p.rejectLine 3 "Invalid label reference")
    | some address =>
      let (hi20, lo12) := p.splitOffset cfg address
      let auipc := ((p.newBlock.setOpcode "auipc").setRd reg).setImm (toText hi20.toInt)
      let auipc := { auipc with instructionIndex := some (p.instructionIndex + 1#32) }
      let load := ((p.newBlock.setRd reg).setRs1 reg).setImm (toText lo12.toInt)
      let load := { load with instructionIndex := none }
      pure (true, ((p.emit auipc true).emit load true).skipCurrentLine)
  else pure (false, p)

def parseOGprCILpGprRp (p : Parser) : Except AssemblerError (Bool × Parser) :=
  if p.matchesLine [.gpRegister, .comma, .num, .lparen, .gpRegister, .rparen] then
    let block := p.newBlock
    if isValidITypeInstruction block.opcode then do
      let block := block.setRd (← p.regName 1)
      let imm ← p.numberAt 3
      if -2048 ≤ imm ∧ imm ≤ 2047 then do
        let rs1 ← p.regName 5
        pure (p.acceptLine ((block.setImm (toText imm)).setRs1 rs1))
      else pure (p.rejectLine 3 "Immediate value out of range")
    else if isValidSTypeInstruction block.opcode then do
      let block := block.setRs2 (← p.regName 1)
      let imm ← p.numberAt 3
      if -2048 ≤ imm ∧ imm ≤ 2047 then do
        let rs1 ← p.regName 5
        pure (p.acceptLine ((block.setImm (toText imm)).setRs1 rs1))
      else pure (p.rejectLine 3 "Immediate value out of range")
    else pure (p.acceptLine block)
  else pure (false, p)

def parseOFprCILpGprRp (p : Parser) : Except AssemblerError (Bool × Parser) :=
  if p.matchesLine [.fpRegister, .comma, .num, .lparen, .gpRegister, .rparen] then
    let block := p.newBlock
    if isValidFdITypeInstruction block.opcode then do
      let block := block.setRd (← p.regName 1)
      let imm ← p.numberAt 3
      if -2048 ≤ imm ∧ imm ≤ 2047 then do
        let rs1 ← p.regName 5
        pure (p.acceptLine ((block.setImm (toText imm)).setRs1 rs1))
      else pure (p.rejectLine 3 "Immediate value out of range")
    else if isValidFdSTypeInstruction block.opcode then do
      let block := block.setRs2 (← p.regName 1)
      let imm ← p.numberAt 3
      if -2048 ≤ imm ∧ imm ≤ 2047 then do
        let rs1 ← p.regName 5
        pure (p.acceptLine ((block.setImm (toText imm)).setRs1 rs1))
      else pure (p.rejectLine 3 "Immediate value out of range")
    else pure (p.acceptLine block)
  else pure (false, p)

/-! ### Lines of CSR instructions -/

def parseOGprCCsrCGpr (p : Parser) : Except AssemblerError (Bool × Parser) :=
  if p.matchesLine [.gpRegister, .comma, .csrRegister, .comma, .gpRegister] then do
    let block := p.newBlock.setRd (← p.regName 1)
    let block := block.setCsr (← lookupAt csrToAddress (p.peekToken 3).value)
    let block := block.setRs1 (← p.regName 5)
    pure (p.acceptLine block)
  else pure (false, p)

def parseOGprCCsrCI (p : Parser) : Except AssemblerError (Bool × Parser) :=
  if p.matchesLine [.gpRegister, .comma, .csrRegister, .comma, .num] then do
    let block := p.newBlock.setRd (← p.regName 1)
    let block := block.setCsr (← lookupAt csrToAddress (p.peekToken 3).value)
    let imm ← p.numberAt 5
    if 0 ≤ imm ∧ imm ≤ 31 then pure (p.acceptLine (block.setImm (toText imm)))
    else pure (p.rejectLine 5 "Immediate value out of range")
  else pure (false, p)

/-! ### Pseudo instructions -/

/-- `la`: AUIPC and ADDI. -/
def parseLa (cfg : VmConfig) (p : Parser) : Except AssemblerError (Bool × Parser) :=
  if p.matchesLine [.gpRegister, .comma, .labelRef] then do
    let reg ← p.regName 1
    match p.dataAddress (p.peekToken 3).value with
    | none =>
      pure (true, (p.reportError p.currentToken.lineNumber "Invalid label reference").skipCurrentLine)
    | some address =>
      let (hi20, lo12) := p.splitOffset cfg address
      let auipc := ((p.newBlock.setOpcode "auipc").setRd reg).setImm (toText hi20.toInt)
      let p' := p.emit auipc true
      let addi := (((p'.newBlock.setOpcode "addi").setRd reg).setRs1 reg).setImm (toText lo12.toInt)
      pure (true, (p'.emit addi true).skipCurrentLine)
  else pure (false, p)

def parseNop (p : Parser) : Except AssemblerError (Bool × Parser) :=
  if p.matchesLine [] then
    let block := (((p.newBlock.setOpcode "addi").setRd "x0").setRs1 "x0").setImm "0"
    pure (true, (p.emit block true).nextToken)
  else pure (false, p)

/-- `li`: ADDI with the text of the number where that is small, else LUI with the
rounded upper part, and ADDI unless the lower part is zero. -/
def parseLi (p : Parser) : Except AssemblerError (Bool × Parser) :=
  if p.matchesLine [.gpRegister, .comma, .num] then do
    let imm ← p.numberAt 3
    let reg ← p.regName 1
    if -2048 ≤ imm ∧ imm ≤ 2047 then
      let block :=
        (((p.newBlock.setOpcode "addi").setRd reg).setRs1 "x0").setImm (p.peekToken 3).value
      pure (true, (p.emit block true).skipCurrentLine)
    else if -2147483648 ≤ imm ∧ imm ≤ 2147483647 then
      let upper := (imm + 2 ^ 11) / 2 ^ 12
      let lower := imm - upper * 2 ^ 12
      let lui := ((p.newBlock.setOpcode "lui").setRd reg).setImm (toText upper)
      let p' := p.emit lui true
      if lower ≠ 0 then
        let addi :=
          (((p'.newBlock.setOpcode "addi").setRd reg).setRs1 reg).setImm (toText lower)
        pure (true, (p'.emit addi true).skipCurrentLine)
      else pure (true, p'.skipCurrentLine)
    else
      pure (true,
        (p.reportError p.currentToken.lineNumber "Immediate value out of range").skipCurrentLine)
  else pure (false, p)

def parseMv (p : Parser) : Except AssemblerError (Bool × Parser) :=
  if p.matchesLine [.gpRegister, .comma, .gpRegister] then do
    let block := (p.newBlock.setOpcode "add").setRd (← p.regName 1)
    let block := (block.setRs1 (← p.regName 3)).setRs2 "x0"
    pure (true, (p.emit block true).skipCurrentLine)
  else pure (false, p)

def parseNot (p : Parser) : Except AssemblerError (Bool × Parser) :=
  if p.matchesLine [.gpRegister, .comma, .gpRegister] then do
    let block := (p.newBlock.setOpcode "xori").setRd (← p.regName 1)
    let block := (block.setRs1 (← p.regName 3)).setImm "-1"
    pure (true, (p.emit block true).skipCurrentLine)
  else pure (false, p)

def parseRet (p : Parser) : Except AssemblerError (Bool × Parser) :=
  if p.matchesLine [] then
    let block := (((p.newBlock.setOpcode "jalr").setRd "x0").setRs1 "x1").setImm "0"
    pure (true, (p.emit block true).nextToken)
  else pure (false, p)

/-- Six of the pseudo instructions are implemented. -/
def parsePseudo (cfg : VmConfig) (p : Parser) : Except AssemblerError (Bool × Parser) :=
  if p.currentToken.value = "la" then p.parseLa cfg
  else if p.currentToken.value = "nop" then p.parseNop
  else if p.currentToken.value = "li" then p.parseLi
  else if p.currentToken.value = "mv" then p.parseMv
  else if p.currentToken.value = "not" then p.parseNot
  else if p.currentToken.value = "ret" then p.parseRet
  else pure (false, p)

/-- Tries a syntax on the line of the current token. -/
def parseSyntax (cfg : VmConfig) (type : SyntaxType) (p : Parser) :
    Except AssemblerError (Bool × Parser) :=
  match type with
  | .oGprCGprCGpr => p.parseOGprCGprCGpr
  | .oGprCGprCI => p.parseOGprCGprCI
  | .oGprCGprCIl => p.parseOGprCGprCIl
  | .oGprCILpGprRp => p.parseOGprCILpGprRp
  | .oGprCI => p.parseOGprCI
  | .oGprCIl => p.parseOGprCIl
  | .oGprCDl => p.parseOGprCDl cfg
  | .oGprCGprCDl => pure (false, p)
  | .o => p.parseO
  | .pseudo => p.parsePseudo cfg
  | .oGprCCsrCGpr => p.parseOGprCCsrCGpr
  | .oGprCCsrCI => p.parseOGprCCsrCI
  | .oFprCFprCFprCFpr => p.parseOFprCFprCFprCFpr
  | .oFprCFprCFprCFprCRm => p.parseOFprCFprCFprCFprCRm
  | .oFprCFprCFpr => p.parseOFprCFprCFpr
  | .oFprCFprCFprCRm => p.parseOFprCFprCFprCRm
  | .oFprCFpr => p.parseOFprCFpr
  | .oFprCFprCRm => p.parseOFprCFprCRm
  | .oFprCGpr => p.parseOFprCGpr
  | .oFprCGprCRm => p.parseOFprCGprCRm
  | .oGprCFpr => p.parseOGprCFpr
  | .oGprCFprCRm => p.parseOGprCFprCRm
  | .oGprCFprCFpr => p.parseOGprCFprCFpr
  | .oFprCILpGprRp => p.parseOFprCILpGprRp

end Parser

end RiscvSim

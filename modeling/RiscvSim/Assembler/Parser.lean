import RiscvSim.Assembler.ParseFormats
import RiscvSim.Lib.Run

/-!
# The parser

Two passes over the tokens: the first one collects the data sections, the second
one the text sections.  Jumps and branches to labels that were not known yet are
resolved at the end.  Each loop of the source has a bound on its rounds; using it
up is the failure `unfinished`.
-/

namespace RiscvSim

open Lib

/-- `ParseEscapedString`: an escape that is not known stands for itself. -/
def parseEscapedString : List Char → List Char
  | [] => []
  | '\\' :: c :: input =>
    if c = 'n' then '\n' :: parseEscapedString input
    else if c = 't' then '\t' :: parseEscapedString input
    else if c = '\\' then '\\' :: parseEscapedString input
    else if c = '\"' then '\"' :: parseEscapedString input
    else '\\' :: c :: parseEscapedString input
  | c :: input => c :: parseEscapedString input

namespace Parser

/-! ### Data sections -/

/-- Moves the data index up to a multiple of `alignment`. -/
def align (p : Parser) (alignment : BitVec 64) : Parser :=
  if p.dataIndex % alignment = 0#64 then p
  else { p with dataIndex := p.dataIndex + (alignment - p.dataIndex % alignment) }

/-- The data directives with the alignment of a label in front of them. -/
def directiveAlignments : List (String × BitVec 64) :=
  [("word", 4#64), ("dword", 8#64), ("halfword", 2#64), ("byte", 1#64), ("float", 4#64),
    ("double", 8#64), ("string", 1#64), ("zero", 1#64)]

/-- Appends a data element of `size` bytes. -/
def pushData (p : Parser) (alignment size : BitVec 64) (element : DataElement) : Parser :=
  { p.align alignment with
    dataBuffer := p.dataBuffer ++ [element]
    dataIndex := (p.align alignment).dataIndex + size }

/-- The value of a number of a data section, modulo `2 ^ 64`. -/
def dataNumber (value : String) : Except AssemblerError (BitVec 64) :=
  (stoull 10 value.toList).mapError .conversion

/-- A number of a directive for integers. -/
def pushNumber (size : BitVec 64) (element : BitVec 64 → DataElement) (value : String)
    (p : Parser) : Except AssemblerError Parser :=
  (dataNumber value).map fun num => p.pushData size size (element num)

def pushFloat (reader : FloatReader) (value : String) (p : Parser) : Except AssemblerError Parser :=
  ((reader.stof value.toList).mapError .conversion).map fun bits =>
    p.pushData 4#64 4#64 (.float bits)

def pushDouble (reader : FloatReader) (value : String) (p : Parser) : Except AssemblerError Parser :=
  ((reader.stod value.toList).mapError .conversion).map fun bits =>
    p.pushData 8#64 8#64 (.double bits)

/-- The zero bytes are data elements of their own. -/
def pushZeros (value : String) (p : Parser) : Except AssemblerError Parser :=
  (dataNumber value).map fun num =>
    if num = 0#64 then
      p.reportError p.currentToken.lineNumber "Invalid zero directive: Expected a positive number"
    else
      { p with
        dataBuffer := p.dataBuffer ++ List.replicate num.toNat (.byte 0#8)
        dataIndex := p.dataIndex + num }

/-- The bytes of a string, with a zero byte at the end. -/
def stringBytes (value : String) : List (BitVec 8) :=
  (parseEscapedString value.toList).map (fun c => BitVec.ofNat 8 c.toNat) ++ [0#8]

def pushString (value : String) (p : Parser) : Except AssemblerError Parser :=
  .ok (p.pushData 1#64 (BitVec.ofNat 64 (stringBytes value).length) (.string (stringBytes value)))

/-- The operands of a data directive: tokens of one type, and commas anywhere. -/
def parseElements (type : TokenType) (push : String → Parser → Except AssemblerError Parser) :
    List Token → Parser → Except AssemblerError Parser
  | [], p => .ok p
  | token :: tokens, p =>
    if token.type = type then do
      let p ← push token.value p
      parseElements type push tokens p.nextToken
    else if token.type = .comma then parseElements type push tokens p.nextToken
    else .ok p

/-- The operands behind the directive of the current token. -/
def parseOperands (type : TokenType) (push : String → Parser → Except AssemblerError Parser)
    (p : Parser) : Except AssemblerError Parser :=
  parseElements type push p.rest.tail p.nextToken

/-- A label takes the place of an earlier one with its name. -/
def parseDataLabel (p : Parser) : Parser :=
  let p' :=
    match directiveAlignments.lookup (p.peekToken 1).value with
    | some alignment => p.align alignment
    | none => p.reportError p.currentToken.lineNumber
        "Invalid directive: Expected .dword, .word, .halfword, .byte, .float, .double, .string, .zero"
  (p'.defineSymbol p.currentToken.value
    ⟨p'.dataIndex, p.currentToken.lineNumber.toNat, true⟩).nextToken

/-- A round of `parseDataDirective`. -/
def parseDataItem (reader : FloatReader) (p : Parser) : Except AssemblerError Parser :=
  if p.currentToken.type = .label then .ok p.parseDataLabel
  else if p.currentToken.value = "dword" then
    p.parseOperands .num (pushNumber 8#64 .doubleWord)
  else if p.currentToken.value = "word" then
    p.parseOperands .num (pushNumber 4#64 fun num => .word (num.setWidth 32))
  else if p.currentToken.value = "halfword" then
    p.parseOperands .num (pushNumber 2#64 fun num => .halfWord (num.setWidth 16))
  else if p.currentToken.value = "byte" then
    p.parseOperands .num (pushNumber 1#64 fun num => .byte (num.setWidth 8))
  else if p.currentToken.value = "float" then p.parseOperands .float (pushFloat reader)
  else if p.currentToken.value = "double" then p.parseOperands .float (pushDouble reader)
  else if p.currentToken.value = "zero" then p.parseOperands .num pushZeros
  else if p.currentToken.value = "string" then p.parseOperands .string pushString
  else .ok (p.reportError p.currentToken.lineNumber
    "Invalid directive: Expected .dword, .word, .halfword, .byte, .string, .float, .double, .zero").nextToken

/-- A section ends before a token with the name of a section, of whatever type. -/
def endsSection (token : Token) : Bool :=
  token.value == "text" || token.value == "data" || token.value == "bss" ||
    token.value == "section" || token.type == .eof

def parseDataDirective (reader : FloatReader) (fuel : Nat) (p : Parser) :
    Except AssemblerError Parser :=
  runWithin .unfinished (fun p => endsSection p.currentToken) (parseDataItem reader) fuel p

def parseBSSDirective (p : Parser) : Parser :=
  p.skipWhile fun token => !endsSection token

/-! ### Text sections -/

/-- Tries the syntaxes of a mnemonic in order. -/
def parseSyntaxes (cfg : VmConfig) : List SyntaxType → Parser → Except AssemblerError (Bool × Parser)
  | [], p => .ok (false, p)
  | type :: types, p => do
    let (valid, p) ← p.parseSyntax cfg type
    if valid then pure (true, p) else parseSyntaxes cfg types p

/-- The extension of a mnemonic that the configuration has switched off. -/
def disabledExtension (cfg : VmConfig) (opcode : String) : Option String :=
  if isValidMExtensionInstruction opcode && !cfg.mExtensionEnabled then some "M"
  else if isValidFExtensionInstruction opcode && !cfg.fExtensionEnabled then some "F"
  else if isValidDExtensionInstruction opcode && !cfg.dExtensionEnabled then some "D"
  else none

def parseTextLabel (p : Parser) : Parser :=
  match p.symbolTable p.currentToken.value with
  | some symbol =>
    (p.reportError p.currentToken.lineNumber
      ("Label redefinition: already defined at line " ++ toText symbol.lineNumber)).nextToken
  | none =>
    (p.defineSymbol p.currentToken.value
      ⟨instructionAddress p.instructionIndex, p.currentToken.lineNumber.toNat, false⟩).nextToken

def parseInstruction (cfg : VmConfig) (p : Parser) : Except AssemblerError Parser :=
  match disabledExtension cfg p.currentToken.value with
  | some extension =>
    .ok (p.reportError p.currentToken.lineNumber
      ("Unexpected opcode, " ++ extension ++ " extension is disabled: " ++
        p.currentToken.value)).skipCurrentLine
  | none => do
    let (valid, p) ← parseSyntaxes cfg (syntaxesOf p.currentToken.value) p
    if valid then pure p
    else pure (p.reportError p.currentToken.lineNumber
      ("Invalid syntax: Expected: " ++ getExpectedSyntaxes p.currentToken.value)).skipCurrentLine

/-- A round of `parseTextDirective`. -/
def parseTextItem (cfg : VmConfig) (p : Parser) : Except AssemblerError Parser :=
  if p.currentToken.type = .label then .ok p.parseTextLabel
  else if p.currentToken.type = .opcode then p.parseInstruction cfg
  else .ok (p.reportError p.currentToken.lineNumber
    ("Unexpected token: " ++ p.currentToken.value)).skipCurrentLine

/-- Unlike a data section, a text section ends before a directive, whatever its name. -/
def endsText (token : Token) : Bool :=
  token.type == .directive || token.type == .eof

def parseTextDirective (cfg : VmConfig) (fuel : Nat) (p : Parser) : Except AssemblerError Parser :=
  runWithin .unfinished (fun p => endsText p.currentToken) (parseTextItem cfg) fuel p

/-! ### The passes -/

/-- The current token is the directive of a section. -/
def atDirective (p : Parser) (name : String) : Bool :=
  p.currentToken.value == name && p.currentToken.type == .directive

/-- The first pass skips text up to a token with the name of another section. -/
def skipsText (token : Token) : Bool :=
  token.type != .eof && token.value != "data" && token.value != "section" && token.value != "bss"

/-- A round of the first pass. -/
def firstPassItem (reader : FloatReader) (fuel : Nat) (p : Parser) : Except AssemblerError Parser :=
  if p.atDirective "section" then .ok p.nextToken
  else if p.atDirective "data" then p.nextToken.parseDataDirective reader fuel
  else if p.atDirective "bss" then .ok p.nextToken.parseBSSDirective
  else if p.atDirective "text" || p.currentToken.type == .label || p.currentToken.type == .opcode then
    .ok (p.skipWhile skipsText)
  else
    .ok (p.reportError p.currentToken.lineNumber
      "Invalid token: Expected .data, .text, or <opcode> or <label>").nextToken

def firstPass (reader : FloatReader) (fuel : Nat) (p : Parser) : Except AssemblerError Parser :=
  runWithin .unfinished (fun p => p.currentToken.type == .eof) (firstPassItem reader fuel) fuel p

/-- The second pass skips the other sections up to a token with the name `text`. -/
def skipsData (token : Token) : Bool :=
  token.type != .eof && token.value != "text"

/-- A round of the second pass. -/
def secondPassItem (cfg : VmConfig) (fuel : Nat) (p : Parser) : Except AssemblerError Parser :=
  if p.atDirective "section" then .ok p.nextToken
  else if p.atDirective "data" || p.atDirective "bss" then .ok (p.skipWhile skipsData)
  else if p.atDirective "text" then p.nextToken.parseTextDirective cfg fuel
  else if p.currentToken.type = .label ∨ p.currentToken.type = .opcode then
    p.parseTextDirective cfg fuel
  else
    .ok (p.reportError p.currentToken.lineNumber
      "Invalid token: Expected .data, .text, .bss or <opcode> or <label>").nextToken

def secondPass (cfg : VmConfig) (fuel : Nat) (p : Parser) : Except AssemblerError Parser :=
  runWithin .unfinished (fun p => p.currentToken.type == .eof) (secondPassItem cfg fuel) fuel p

/-! ### Back-patching -/

/-- Replaces a unit of the intermediate code by one that is resolved. -/
def resolveUnit (p : Parser) (index : BitVec 32) (block : ICUnit) : Parser :=
  { p with intermediateCode := p.intermediateCode.set index.toNat (block, true) }

/-- Resolves the label of a unit.  Text and data labels make no difference to a jump. -/
def backPatchUnit (p : Parser) (index : BitVec 32) : Parser :=
  match p.intermediateCode[index.toNat]? with
  | none => p
  | some (block, _) =>
    match p.symbolTable block.label with
    | none =>
      p.reportError block.lineNumber "Invalid label reference: Label reference not found"
    | some symbol =>
      let offset := (symbol.address - instructionAddress index).toInt
      if isValidBTypeInstruction block.opcode then
        if symbol.isData then
          (p.reportError block.lineNumber
            "Invalid label reference: Label references data").resolveUnit index block
        else if -4096 ≤ offset ∧ offset ≤ 4095 then
          p.resolveUnit index (block.setImm (toText offset))
        else p.reportError block.lineNumber "Immediate value out of range"
      else if isValidJTypeInstruction block.opcode then
        if -1048576 ≤ offset ∧ offset ≤ 1048575 then
          p.resolveUnit index (block.setImm (toText offset))
        else p.reportError block.lineNumber "Immediate value out of range"
      else p.reportError block.lineNumber "Invalid label reference: Label references data"

/-- `Parser::parse`. -/
def parse (cfg : VmConfig) (reader : FloatReader) (fuel : Nat) (tokens : List Token) :
    Except AssemblerError Parser := do
  let p ← firstPass reader fuel { rest := tokens }
  let p ← secondPass cfg fuel { p with rest := tokens, instructionIndex := 0#32 }
  pure (p.backPatch.foldl backPatchUnit p)

end Parser

end RiscvSim

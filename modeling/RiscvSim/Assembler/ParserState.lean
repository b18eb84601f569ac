import RiscvSim.AssembledProgram
import RiscvSim.Assembler.CodeGenerator
import RiscvSim.Config
import RiscvSim.Vm.RegisterNames

/-!
# Tokens and the state of the parser

The parser walks over the tokens of the lexer and collects errors, data
elements, labels and intermediate code.  `Parser.rest` holds the tokens from the
current position on.
-/

namespace RiscvSim

open Lib

inductive TokenType where
  | invalid
  | eof
  | identifier
  | directive
  | opcode
  | gpRegister
  | fpRegister
  | vecRegister
  | csrRegister
  | num
  | float
  | label
  | labelRef
  | comma
  | lparen
  | rparen
  | string
  | rm
  deriving DecidableEq, Repr

structure Token where
  type : TokenType
  value : String
  lineNumber : BitVec 32
  deriving DecidableEq, Repr

/-- The token read past the end of the list. -/
def Token.eof : Token :=
  ⟨.eof, "", 1#32⟩

structure ParseError where
  line : BitVec 32
  message : String
  deriving DecidableEq, Repr

/-- The errors of a parse.  Every error is counted twice, where it is found and
where it is recorded; the counter has 32 bits. -/
structure ErrorTracker where
  count : BitVec 32 := 0#32
  parseErrors : List ParseError := []
  deriving DecidableEq, Repr

/-- `std::stof` and `std::stod`, with values as bit patterns. -/
structure FloatReader where
  stof : List Char → Except ConversionError (BitVec 32)
  stod : List Char → Except ConversionError (BitVec 64)

/-- A reader that takes every text for zero. -/
def FloatReader.zeros : FloatReader where
  stof := fun _ => .ok 0#32
  stod := fun _ => .ok 0#64

/-- `map[key] = value`, with the entries in ascending order of their keys. -/
def assignEntry (key value : BitVec 32) :
    List (BitVec 32 × BitVec 32) → List (BitVec 32 × BitVec 32)
  | [] => [(key, value)]
  | entry :: entries =>
    if key < entry.1 then (key, value) :: entry :: entries
    else if key = entry.1 then (key, value) :: entries
    else entry :: assignEntry key value entries

/-- The parser. -/
structure Parser where
  rest : List Token
  instructionIndex : BitVec 32 := 0#32
  errors : ErrorTracker := {}
  dataBuffer : List DataElement := []
  dataIndex : BitVec 64 := 0#64
  symbolTable : String → Option SymbolData := fun _ => none
  backPatch : List (BitVec 32) := []
  intermediateCode : List (ICUnit × Bool) := []
  instructionNumberLineNumberMapping : List (BitVec 32 × BitVec 32) := []

namespace Parser

def currentToken (p : Parser) : Token :=
  p.rest.headD .eof

def nextToken (p : Parser) : Parser :=
  { p with rest := p.rest.tail }

def peekToken (p : Parser) (n : Nat) : Token :=
  p.rest.getD n .eof

/-- A loop that only moves on while the current token passes a test. -/
def skipWhile (p : Parser) (test : Token → Bool) : Parser :=
  { p with rest := p.rest.dropWhile test }

def skipCurrentLine (p : Parser) : Parser :=
  p.skipWhile fun token => token.lineNumber == p.currentToken.lineNumber && token.type != .eof

def recordError (p : Parser) (error : ParseError) : Parser :=
  { p with errors := {
    count := p.errors.count + 1#32
    parseErrors := p.errors.parseErrors ++ [error] } }

/-- What every place does that finds an error. -/
def reportError (p : Parser) (line : BitVec 32) (message : String) : Parser :=
  { p with errors := { p.errors with count := p.errors.count + 1#32 } }.recordError ⟨line, message⟩

def defineSymbol (p : Parser) (name : String) (data : SymbolData) : Parser :=
  { p with symbolTable := fun i => if i = name then some data else p.symbolTable i }

/-! ### The lines of the text section -/

/-- The tokens behind the current one have the given types and end its line. -/
def matchesLine (p : Parser) (types : List TokenType) : Bool :=
  ((types.zipIdx 1).all fun (type, i) =>
    (p.peekToken i).lineNumber == p.currentToken.lineNumber && (p.peekToken i).type == type) &&
  ((p.peekToken (types.length + 1)).type == .eof ||
    (p.peekToken (types.length + 1)).lineNumber != p.currentToken.lineNumber)

/-- A unit with the mnemonic and the line of the current token. -/
def newBlock (p : Parser) : ICUnit :=
  { ({} : ICUnit).setOpcode p.currentToken.value with
    lineNumber := p.currentToken.lineNumber
    instructionIndex := some p.instructionIndex }

/-- The register named by a token. -/
def regName (p : Parser) (n : Nat) : Except AssemblerError String :=
  lookupAt regAliasToName (p.peekToken n).value

/-- The number a token stands for. -/
def numberAt (p : Parser) (n : Nat) : Except AssemblerError Int :=
  (stoll (p.peekToken n).value.toList).mapError .conversion

/-- The address of the next instruction, computed with 32 bits. -/
def instructionAddress (index : BitVec 32) : BitVec 64 :=
  (index * 4#32).setWidth 64

/-- Appends a unit to the intermediate code. -/
def emit (p : Parser) (block : ICUnit) (resolved : Bool) : Parser :=
  { p with
    intermediateCode := p.intermediateCode ++ [(block, resolved)]
    instructionNumberLineNumberMapping :=
      assignEntry p.instructionIndex block.lineNumber p.instructionNumberLineNumberMapping
    instructionIndex := p.instructionIndex + 1#32 }

/-- The end of a line that has been parsed. -/
def acceptLine (p : Parser) (block : ICUnit) : Bool × Parser :=
  (true, p.skipCurrentLine.emit block true)

/-- The end of a line whose operand is rejected: the syntax counts as parsed. -/
def rejectLine (p : Parser) (n : Nat) (message : String) : Bool × Parser :=
  (true, (p.reportError (p.peekToken n).lineNumber message).skipCurrentLine)

end Parser

/-- `std::to_string`. -/
def toText (value : Int) : String :=
  String.ofList (toDecimal value)

end RiscvSim

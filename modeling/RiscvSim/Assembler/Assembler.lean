import RiscvSim.Assembler.Lexer
import RiscvSim.Assembler.Parser

/-!
# The assembler

`assemble`: the tokens of a file are parsed, the intermediate code is encoded, and
the source lines are mapped to the instructions at which a breakpoint there lies.
-/

namespace RiscvSim

open Lib

/-- What `assemble` throws. -/
inductive AssembleError where
  | thrown (error : AssemblerError)
  | failedToParse
  deriving DecidableEq, Repr

/-- The map from lines to instructions while it is built. -/
structure LineMapping where
  mapping : BitVec 32 → Option (BitVec 32) := fun _ => none
  prevInstruction : BitVec 32 := 0#32
  prevLine : BitVec 32 := 1#32

namespace LineMapping

/-- `map[line] = instruction`. -/
def assign (mapping : BitVec 32 → Option (BitVec 32)) (line instruction : BitVec 32) :
    BitVec 32 → Option (BitVec 32) :=
  fun i => if i = line then some instruction else mapping i

/-- The lines from `i` up to the line of an instruction, one in each round. -/
def fill (fuel : Nat) (instruction line i : BitVec 32)
    (mapping : BitVec 32 → Option (BitVec 32)) :
    Except AssemblerError (BitVec 32 → Option (BitVec 32)) :=
  (runWithin .unfinished (fun s => decide (line < s.1))
    (fun s => .ok (s.1 + 1#32, assign s.2 s.1 instruction)) fuel (i, mapping)).map (·.2)

/-- A round over the map from instructions to lines. -/
def addInstruction (fuel : Nat) (m : LineMapping) (line : BitVec 32) :
    Except AssemblerError LineMapping :=
  (fill fuel m.prevInstruction line m.prevLine m.mapping).map fun mapping =>
    { mapping := mapping, prevInstruction := m.prevInstruction + 1#32, prevLine := line + 1#32 }

end LineMapping

/-- The map from lines to instructions.  The keys of the other map are not read. -/
def lineNumberInstructionNumberMapping (fuel : Nat) (entries : List (BitVec 32 × BitVec 32)) :
    Except AssemblerError (BitVec 32 → Option (BitVec 32)) :=
  ((entries.map (·.2)).foldlM (LineMapping.addInstruction fuel) {}).map (·.mapping)

/-- `assemble`, with bounds on the rounds of the parser's loops and of the loop over lines. -/
def assemble (cfg : VmConfig) (reader : FloatReader) (fuel lineFuel : Nat) (tokens : List Token) :
    Except AssembleError AssembledProgram := do
  let p ← (Parser.parse cfg reader fuel tokens).mapError .thrown
  if p.errors.count = 0#32 then do
    let machineCodeBits ← (generateMachineCode p.intermediateCode).mapError .thrown
    let mapping ← (lineNumberInstructionNumberMapping lineFuel
      p.instructionNumberLineNumberMapping).mapError .thrown
    pure {
      lineNumberInstructionNumberMapping := mapping
      symbolTable := p.symbolTable
      dataBuffer := p.dataBuffer
      textBuffer := machineCodeBits }
  else .error .failedToParse

/-- `assemble` from the contents of the file on. -/
def assembleFile (cfg : VmConfig) (reader : FloatReader) (fixed : BitVec 64 → String)
    (fuel lineFuel : Nat) (input : List Char) : Except AssembleError AssembledProgram := do
  let tokens ← (Lexer.getTokenList reader fixed input).mapError .thrown
  assemble cfg reader fuel lineFuel (tokens.map (·.1))

end RiscvSim

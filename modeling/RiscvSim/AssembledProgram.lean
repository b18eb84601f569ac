/-!
# The assembled program

What the assembler hands to a machine: the instruction words, the data
elements, the symbol table and the map from source lines to instructions.
-/

namespace RiscvSim

/-- An element of the data section.  Floating-point elements are kept as their
bit patterns, a string as its bytes. -/
inductive DataElement where
  | byte (value : BitVec 8)
  | halfWord (value : BitVec 16)
  | word (value : BitVec 32)
  | doubleWord (value : BitVec 64)
  | string (bytes : List (BitVec 8))
  | float (bits : BitVec 32)
  | double (bits : BitVec 64)
  deriving DecidableEq, Repr

/-- An entry of the symbol table: a data label has the offset from the start of
the data section, a text label the address of its instruction. -/
structure SymbolData where
  address : BitVec 64
  lineNumber : Nat
  isData : Bool
  deriving DecidableEq, Repr

/-- A program as the assembler returns it. -/
structure AssembledProgram where
  lineNumberInstructionNumberMapping : BitVec 32 → Option (BitVec 32) := fun _ => none
  symbolTable : String → Option SymbolData := fun _ => none
  dataBuffer : List DataElement := []
  textBuffer : List (BitVec 32) := []

end RiscvSim

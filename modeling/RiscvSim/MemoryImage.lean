import RiscvSim.Lib.Hex
import RiscvSim.Vm.VmBase

/-!
# Memory images

The separate assembler of the test pipeline writes a text file with one line
for each write to the memory that the loader of the machines would do, and the
size of the program at the end.  `loadMemoryImage` reads such a file into a
machine.
-/

namespace RiscvSim

open Lib

/-! ### The writer -/

/-- A line of the image: the kind of the write, the address, and the value
filled up to `width` digits. -/
def imageLine (type : Char) (address width value : Nat) : List Char :=
  [type, ' ', '0', 'x'] ++ printHex address ++ [' ', '0', 'x'] ++ printHexPadded width value ++
    ['\n']

/-- The lines of the instruction words, and the byte counter after them. -/
def writeTextImage (textBuffer : List (BitVec 32)) : List Char × BitVec 32 :=
  textBuffer.foldl (fun (out, counter) instruction =>
    (out ++ imageLine 'W' counter.toNat 8 instruction.toNat, counter + 4#32)) ([], 0#32)

/-- Adds the lines of one data element; the writer aligns as the loader does. -/
def writeDataElement (base : BitVec 64) :
    List Char × BitVec 32 → DataElement → List Char × BitVec 32
  | (out, dataCounter), .byte value =>
    let dataCounter := alignCounter 1#32 dataCounter
    let addr := base + dataCounter.setWidth 64
    (out ++ imageLine 'B' addr.toNat 2 value.toNat, dataCounter + 1#32)
  | (out, dataCounter), .halfWord value =>
    let dataCounter := alignCounter 2#32 dataCounter
    let addr := base + dataCounter.setWidth 64
    (out ++ imageLine 'H' addr.toNat 4 value.toNat, dataCounter + 2#32)
  | (out, dataCounter), .word value =>
    let dataCounter := alignCounter 4#32 dataCounter
    let addr := base + dataCounter.setWidth 64
    (out ++ imageLine 'W' addr.toNat 8 value.toNat, dataCounter + 4#32)
  | (out, dataCounter), .doubleWord value =>
    let dataCounter := alignCounter 8#32 dataCounter
    let addr := base + dataCounter.setWidth 64
    (out ++ imageLine 'D' addr.toNat 16 value.toNat, dataCounter + 8#32)
  | (out, dataCounter), .float bits =>
    let dataCounter := alignCounter 4#32 dataCounter
    let addr := base + dataCounter.setWidth 64
    (out ++ imageLine 'W' addr.toNat 8 bits.toNat, dataCounter + 4#32)
  | (out, dataCounter), .double bits =>
    let dataCounter := alignCounter 8#32 dataCounter
    let addr := base + dataCounter.setWidth 64
    (out ++ imageLine 'D' addr.toNat 16 bits.toNat, dataCounter + 8#32)
  | (out, dataCounter), .string bytes =>
    let dataCounter := alignCounter 1#32 dataCounter
    let addr := base + dataCounter.setWidth 64
    -- `addr + i` has 64 bits, the counter only 32
    bytes.zipIdx.foldl (fun (out, dataCounter) (byte, i) =>
      (out ++ imageLine 'B' (addr + BitVec.ofNat 64 i).toNat 2 byte.toNat, dataCounter + 1#32))
      (out, dataCounter)

/-- The loops of `main`: the image of a program. -/
def writeMemoryImage (cfg : VmConfig) (program : AssembledProgram) : List Char :=
  let (out, counter) := writeTextImage program.textBuffer
  let (out, _) := program.dataBuffer.foldl (writeDataElement cfg.dataSectionStart) (out, 0#32)
  out ++ imageLine 'P' counter.toNat 0 0

/-! ### The reader -/

/-- The lines of a text, as `getline` reads them one after another. -/
def getLines : List Char → List (List Char)
  | [] => []
  | c :: text =>
    if c = '\n' then [] :: getLines text
    else
      match getLines text with
      | [] => [[c]]
      | line :: lines => (c :: line) :: lines

/-- Reads the first character that is no white space. -/
def readChar (text : List Char) : Option (Char × List Char) :=
  match text.dropWhile isSpace with
  | [] => none
  | c :: text => some (c, text)

/-- Reads a hexadecimal number of 64 bits. -/
def readHex64 (text : List Char) : Option (BitVec 64 × List Char) :=
  (readHex (2 ^ 64) text).map fun (value, text) => (BitVec.ofInt 64 value, text)

/-- Why an image is not loaded: a fault of the memory, or a line with a field
that cannot be read, whose values the source leaves indeterminate. -/
inductive ImageFault where
  | memory (fault : Fault)
  | unreadable
  deriving DecidableEq, Repr

namespace VmBase

/-- The machine after an access to its memory. -/
def afterAccess (vm : VmBase) (access : Except (Fault × Memory) Memory) :
    Except (ImageFault × VmBase) VmBase :=
  match access with
  | .ok memory => .ok (vm.withMemory memory)
  | .error (fault, memory) => .error (.memory fault, vm.withMemory memory)

def setProgramSize (vm : VmBase) (size : BitVec 64) : VmBase :=
  { vm with programSize := size }

/-- One line of an image.  A kind that is not known has no effect. -/
def loadImageLine (cfg : VmConfig) (vm : VmBase) (line : List Char) :
    Except (ImageFault × VmBase) VmBase :=
  if line = [] then .ok vm
  else
    let fields := do
      let (type, text) ← readChar line
      let (address, text) ← readHex64 text
      let (value, _) ← readHex64 text
      pure (type, address, value)
    let memory := vm.memoryController
    match fields with
    | none => .error (.unreadable, vm)
    | some ('B', address, value) =>
      vm.afterAccess (memory.writeByte cfg address (value.setWidth 8))
    | some ('H', address, value) =>
      vm.afterAccess (memory.writeHalfWord cfg address (value.setWidth 16))
    | some ('W', address, value) =>
      vm.afterAccess (memory.writeWord cfg address (value.setWidth 32))
    | some ('D', address, value) => vm.afterAccess (memory.writeDoubleWord cfg address value)
    | some ('P', address, _) => .ok (vm.setProgramSize address)
    | some _ => .ok vm

/-- `LoadMemoryImage`, on the text of the file. -/
def loadMemoryImage (cfg : VmConfig) (vm : VmBase) (image : List Char) :
    Except (ImageFault × VmBase) VmBase :=
  (getLines image).foldlM (loadImageLine cfg) vm

end VmBase

end RiscvSim

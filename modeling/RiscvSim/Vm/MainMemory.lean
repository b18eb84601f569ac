import RiscvSim.Config
import RiscvSim.Vm.Fault

/-!
# Main memory

The block-allocated memory of the simulator.  A block is created, filled with
zeros, when one of its bytes is first written; its length is the block size
the configuration has at that moment, while addresses are divided by the
block size the memory was constructed with.  Accesses of several bytes are
loops over single bytes, least significant byte first.
-/

namespace RiscvSim

/-- A block of memory. -/
structure MemoryBlock where
  data : List (BitVec 8)
  deriving DecidableEq, Repr

/-- A new block: `block_size` zeros. -/
def MemoryBlock.new (cfg : VmConfig) : MemoryBlock where
  data := List.replicate (cfg.memoryBlockSize.setWidth 32).toNat 0#8

/-- The byte at `offset`, if the vector is that long. -/
def MemoryBlock.byteAt (block : MemoryBlock) (offset : BitVec 64) : Option (BitVec 8) :=
  block.data[offset.toNat]?

/-- The block with the byte at `offset` replaced, if the vector is that long. -/
def MemoryBlock.setByte (block : MemoryBlock) (offset : BitVec 64) (value : BitVec 8) :
    Option MemoryBlock :=
  if offset.toNat < block.data.length then some ⟨block.data.set offset.toNat value⟩ else none

/-- The memory: its blocks by index, and the sizes read from the configuration
when it was constructed. -/
structure Memory where
  blocks : BitVec 64 → Option MemoryBlock
  blockSize : BitVec 32
  memorySize : BitVec 64

namespace Memory

/-- The memory the constructor builds: no block present. -/
def new (cfg : VmConfig) : Memory where
  blocks := fun _ => none
  blockSize := cfg.memoryBlockSize.setWidth 32
  memorySize := cfg.memorySize

/-- Drops all blocks; the two sizes stay. -/
def reset (m : Memory) : Memory :=
  { m with blocks := fun _ => none }

def getBlockIndex (m : Memory) (address : BitVec 64) : Except Fault (BitVec 64) :=
  if m.blockSize = 0#32 then .error .divideTrap
  else .ok (address / m.blockSize.setWidth 64)

def getBlockOffset (m : Memory) (address : BitVec 64) : Except Fault (BitVec 64) :=
  if m.blockSize = 0#32 then .error .divideTrap
  else .ok (address % m.blockSize.setWidth 64)

def isBlockPresent (m : Memory) (blockIndex : BitVec 64) : Bool :=
  (m.blocks blockIndex).isSome

/-- Creates the block at `blockIndex` unless it is present. -/
def ensureBlockExists (cfg : VmConfig) (m : Memory) (blockIndex : BitVec 64) : Memory :=
  if m.isBlockPresent blockIndex then m
  else { m with
    blocks := fun i => if i = blockIndex then some (MemoryBlock.new cfg) else m.blocks i }

/-- Reads one byte; a byte of an absent block is zero. -/
def read (m : Memory) (address : BitVec 64) : Except Fault (BitVec 8) :=
  if m.memorySize ≤ address then .error (.outOfRange address)
  else do
    let blockIndex ← m.getBlockIndex address
    let offset ← m.getBlockOffset address
    match m.blocks blockIndex with
    | none => .ok 0#8
    | some block =>
      match block.byteAt offset with
      | none => .error .badIndex
      | some byte => .ok byte

/-- Stores `value` at `offset` of the block at `blockIndex`. -/
def setByte (m : Memory) (blockIndex offset : BitVec 64) (value : BitVec 8) :
    Except (Fault × Memory) Memory :=
  match m.blocks blockIndex with
  | none => .error (.badIndex, m)
  | some block =>
    match block.setByte offset value with
    | none => .error (.badIndex, m)
    | some block =>
      .ok { m with blocks := fun i => if i = blockIndex then some block else m.blocks i }

/-- Writes one byte, creating its block where it is absent. -/
def write (cfg : VmConfig) (m : Memory) (address : BitVec 64) (value : BitVec 8) :
    Except (Fault × Memory) Memory :=
  if m.memorySize ≤ address then .error (.outOfRange address, m)
  else do
    let blockIndex ← throwAt m (m.getBlockIndex address)
    let offset ← throwAt m (m.getBlockOffset address)
    (m.ensureBlockExists cfg blockIndex).setByte blockIndex offset value

/-- Reads `n` bytes at `address`, least significant byte first. -/
def readGeneric (n : Nat) (m : Memory) (address : BitVec 64) :
    Except Fault (BitVec (8 * n)) :=
  (List.range n).foldlM (fun value i => do
    let byte ← m.read (address + BitVec.ofNat 64 i)
    pure (value ||| (byte.setWidth (8 * n) <<< (8 * i)))) 0

/-- Writes the `n` bytes of `value` at `address`, least significant byte first. -/
def writeGeneric (cfg : VmConfig) (n : Nat) (m : Memory) (address : BitVec 64)
    (value : BitVec (8 * n)) : Except (Fault × Memory) Memory :=
  (List.range n).foldlM (fun m i =>
    m.write cfg (address + BitVec.ofNat 64 i) ((value >>> (8 * i)).setWidth 8)) m

/-- The bound check in front of an access of `n` bytes.  The subtraction wraps
around when the memory is smaller than the access. -/
def checkRange (n : Nat) (m : Memory) (address : BitVec 64) : Except Fault Unit :=
  if m.memorySize - BitVec.ofNat 64 (n - 1) ≤ address then .error (.outOfRange address)
  else .ok ()

/-- A checked read of `n` bytes. -/
def readSized (n : Nat) (m : Memory) (address : BitVec 64) :
    Except Fault (BitVec (8 * n)) := do
  m.checkRange n address
  m.readGeneric n address

/-- A checked write of `n` bytes. -/
def writeSized (cfg : VmConfig) (n : Nat) (m : Memory) (address : BitVec 64)
    (value : BitVec (8 * n)) : Except (Fault × Memory) Memory := do
  throwAt m (m.checkRange n address)
  m.writeGeneric cfg n address value

def readByte (m : Memory) (address : BitVec 64) : Except Fault (BitVec 8) := do
  m.checkRange 1 address
  m.read address

def readHalfWord (m : Memory) (address : BitVec 64) : Except Fault (BitVec 16) :=
  m.readSized 2 address

def readWord (m : Memory) (address : BitVec 64) : Except Fault (BitVec 32) :=
  m.readSized 4 address

def readDoubleWord (m : Memory) (address : BitVec 64) : Except Fault (BitVec 64) :=
  m.readSized 8 address

def writeByte (cfg : VmConfig) (m : Memory) (address : BitVec 64) (value : BitVec 8) :
    Except (Fault × Memory) Memory := do
  throwAt m (m.checkRange 1 address)
  m.write cfg address value

def writeHalfWord (cfg : VmConfig) (m : Memory) (address : BitVec 64) (value : BitVec 16) :
    Except (Fault × Memory) Memory :=
  m.writeSized cfg 2 address value

def writeWord (cfg : VmConfig) (m : Memory) (address : BitVec 64) (value : BitVec 32) :
    Except (Fault × Memory) Memory :=
  m.writeSized cfg 4 address value

def writeDoubleWord (cfg : VmConfig) (m : Memory) (address : BitVec 64) (value : BitVec 64) :
    Except (Fault × Memory) Memory :=
  m.writeSized cfg 8 address value

end Memory

end RiscvSim

import RiscvSim.Vm.Alu

/-!
# Pipeline registers and control signals

The latches between the five stages.  A default value is a bubble: not valid,
all control signals off.
-/

namespace RiscvSim

/-- Width and extension of a load. -/
inductive MemReadOp where
  | none | byte | half | word | double | byteUnsigned | halfUnsigned | wordUnsigned
  deriving DecidableEq, Repr

/-- Width of a store. -/
inductive MemWriteOp where
  | none | byte | half | word | double
  deriving DecidableEq, Repr

/-- Where the write-back stage takes its value from. -/
inductive WriteBackSrc where
  | none | fromAlu | fromMem | fromPcInc
  deriving DecidableEq, Repr

/-- The first operand of the ALU: `zero` for LUI, `pc` for AUIPC and JAL. -/
inductive AluSrcA where
  | rs1 | zero | pc
  deriving DecidableEq, Repr

/-- The kind of a branch or jump. -/
inductive BranchOp where
  | none | beq | bne | blt | bge | bltu | bgeu | jal | jalr
  deriving DecidableEq, Repr

/-- The control signals of an instruction.  The source leaves `alu_src_a`
uninitialised in bubbles and NOPs, where no stage reads it. -/
structure ControlSignals where
  aluOp : AluOp := .kNone
  aluSrcB : Bool := false
  aluSrcA : AluSrcA := .rs1
  memRead : Bool := false
  memWrite : Bool := false
  memReadOp : MemReadOp := .none
  memWriteOp : MemWriteOp := .none
  branch : Bool := false
  branchOp : BranchOp := .none
  regWrite : Bool := false
  memToReg : Bool := false
  wbSrc : WriteBackSrc := .none
  isCsr : Bool := false
  isSyscall : Bool := false
  isNop : Bool := true
  deriving DecidableEq, Repr

/-- The latch between fetch and decode. -/
structure IfIdReg where
  isValid : Bool := false
  instruction : BitVec 32 := 0#32
  pc : BitVec 64 := 0#64
  pcInc : BitVec 64 := 0#64
  predictedOutcome : Bool := false
  predictedTarget : BitVec 64 := 0#64
  deriving DecidableEq, Repr

/-- The latch between decode and execute. -/
structure IdExReg where
  isValid : Bool := false
  control : ControlSignals := {}
  pc : BitVec 64 := 0#64
  pcInc : BitVec 64 := 0#64
  rs1Data : BitVec 64 := 0#64
  rs2Data : BitVec 64 := 0#64
  immediate : BitVec 32 := 0#32
  rs1Index : BitVec 5 := 0#5
  rs2Index : BitVec 5 := 0#5
  rdIndex : BitVec 5 := 0#5
  predictedOutcome : Bool := false
  deriving DecidableEq, Repr

/-- The latch between execute and memory access. -/
structure ExMemReg where
  isValid : Bool := false
  control : ControlSignals := {}
  pcInc : BitVec 64 := 0#64
  aluResult : BitVec 64 := 0#64
  storeData : BitVec 64 := 0#64
  rdIndex : BitVec 5 := 0#5
  deriving DecidableEq, Repr

/-- The latch between memory access and write-back. -/
structure MemWbReg where
  isValid : Bool := false
  control : ControlSignals := {}
  pcInc : BitVec 64 := 0#64
  memoryData : BitVec 64 := 0#64
  aluResult : BitVec 64 := 0#64
  rdIndex : BitVec 5 := 0#5
  deriving DecidableEq, Repr

/-- The bubbles `CreateBubble` builds. -/
def IfIdReg.bubble : IfIdReg := {}

def IdExReg.bubble : IdExReg := {}

def ExMemReg.bubble : ExMemReg := {}

def MemWbReg.bubble : MemWbReg := {}

end RiscvSim

import RiscvSim.Lib.FlatMemory

/-!
# The base integer instruction set

RV64I without its 32-bit forms, fences and environment calls, as its manual
has it: the instructions with the meaning of each (`Instruction.exec`) over a
program counter, thirty-two registers of which `x0` is zero and a flat memory,
and their encodings (`Instruction.encode`).
-/

namespace RiscvSim

namespace Lib

namespace Rv64i

/-! ### Registers and states -/

/-- The registers; `x0` is zero. -/
@[ext]
structure Registers where
  read : BitVec 5 → BitVec 64
  read_zero : read 0#5 = 0#64

/-- The registers with one replaced, unless it is `x0`. -/
def Registers.write (x : Registers) (rd : BitVec 5) (value : BitVec 64) : Registers where
  read := fun i => if rd ≠ 0#5 ∧ i = rd then value else x.read i
  read_zero := by
    rw [if_neg fun h => h.1 h.2.symm]
    exact x.read_zero

theorem Registers.read_write_self (x : Registers) {rd : BitVec 5} (h : rd ≠ 0#5)
    (value : BitVec 64) : (x.write rd value).read rd = value :=
  if_pos ⟨h, rfl⟩

theorem Registers.read_write_zero (x : Registers) (i : BitVec 5) (value : BitVec 64) :
    (x.write 0#5 value).read i = x.read i := by
  show (if 0#5 ≠ 0#5 ∧ i = 0#5 then value else x.read i) = x.read i
  exact if_neg fun h => h.1 rfl

/-- The second of two writes remains. -/
theorem Registers.write_write (x : Registers) (rd : BitVec 5) (value value' : BitVec 64) :
    (x.write rd value).write rd value' = x.write rd value' := by
  apply Registers.ext
  funext i
  show (if rd ≠ 0#5 ∧ i = rd then value' else if rd ≠ 0#5 ∧ i = rd then value else x.read i) =
    if rd ≠ 0#5 ∧ i = rd then value' else x.read i
  split <;> rfl

@[ext]
structure State where
  pc : BitVec 64
  x : Registers
  memory : FlatMemory 64

/-- The state after an instruction that writes `rd` and goes on to the next one. -/
def State.next (s : State) (rd : BitVec 5) (value : BitVec 64) : State :=
  { s with
    pc := s.pc + 4#64
    x := s.x.write rd value }

/-! ### Operations -/

inductive RegisterOp where
  | add | sub | sll | slt | sltu | xor | srl | sra | or | and
  deriving DecidableEq, Repr

inductive ImmediateOp where
  | addi | slti | sltiu | xori | ori | andi
  deriving DecidableEq, Repr

inductive ShiftOp where
  | slli | srli | srai
  deriving DecidableEq, Repr

inductive LoadOp where
  | lb | lh | lw | ld | lbu | lhu | lwu
  deriving DecidableEq, Repr

inductive StoreOp where
  | sb | sh | sw | sd
  deriving DecidableEq, Repr

inductive BranchCondition where
  | beq | bne | blt | bge | bltu | bgeu
  deriving DecidableEq, Repr

/-- A comparison sets its destination to one or zero. -/
def ofComparison (holds : Bool) : BitVec 64 :=
  if holds then 1#64 else 0#64

/-- The shifts by the low six bits of a register. -/
def RegisterOp.eval (op : RegisterOp) (a b : BitVec 64) : BitVec 64 :=
  match op with
  | .add => a + b
  | .sub => a - b
  | .sll => a <<< (b.setWidth 6).toNat
  | .slt => ofComparison (a.slt b)
  | .sltu => ofComparison (a.ult b)
  | .xor => a ^^^ b
  | .srl => a >>> (b.setWidth 6).toNat
  | .sra => a.sshiftRight (b.setWidth 6).toNat
  | .or => a ||| b
  | .and => a &&& b

/-- The operation with the register operand replaced by an immediate. -/
def ImmediateOp.registerOp : ImmediateOp → RegisterOp
  | .addi => .add
  | .slti => .slt
  | .sltiu => .sltu
  | .xori => .xor
  | .ori => .or
  | .andi => .and

def ShiftOp.eval (op : ShiftOp) (a : BitVec 64) (shamt : BitVec 6) : BitVec 64 :=
  match op with
  | .slli => a <<< shamt.toNat
  | .srli => a >>> shamt.toNat
  | .srai => a.sshiftRight shamt.toNat

/-- The number of bytes of a load. -/
def LoadOp.width : LoadOp → Nat
  | .lb | .lbu => 1
  | .lh | .lhu => 2
  | .lw | .lwu => 4
  | .ld => 8

def LoadOp.isUnsigned : LoadOp → Bool
  | .lbu | .lhu | .lwu => true
  | .lb | .lh | .lw | .ld => false

def LoadOp.eval (op : LoadOp) (memory : FlatMemory 64) (address : BitVec 64) : BitVec 64 :=
  if op.isUnsigned then (memory.load op.width address).setWidth 64
  else (memory.load op.width address).signExtend 64

/-- The number of bytes of a store. -/
def StoreOp.width : StoreOp → Nat
  | .sb => 1
  | .sh => 2
  | .sw => 4
  | .sd => 8

def StoreOp.eval (op : StoreOp) (memory : FlatMemory 64) (address value : BitVec 64) :
    FlatMemory 64 :=
  memory.store op.width address (value.setWidth (8 * op.width))

/-- The condition of a branch. -/
def BranchCondition.holds (condition : BranchCondition) (a b : BitVec 64) : Bool :=
  match condition with
  | .beq => a == b
  | .bne => a != b
  | .blt => a.slt b
  | .bge => !a.slt b
  | .bltu => a.ult b
  | .bgeu => !a.ult b

/-! ### Instructions -/

/-- The immediates of the branches and of JAL count half words. -/
inductive Instruction where
  | register (op : RegisterOp) (rd rs1 rs2 : BitVec 5)
  | immediate (op : ImmediateOp) (rd rs1 : BitVec 5) (imm : BitVec 12)
  | shift (op : ShiftOp) (rd rs1 : BitVec 5) (shamt : BitVec 6)
  | load (op : LoadOp) (rd rs1 : BitVec 5) (imm : BitVec 12)
  | store (op : StoreOp) (rs1 rs2 : BitVec 5) (imm : BitVec 12)
  | branch (condition : BranchCondition) (rs1 rs2 : BitVec 5) (imm : BitVec 12)
  | lui (rd : BitVec 5) (imm : BitVec 20)
  | auipc (rd : BitVec 5) (imm : BitVec 20)
  | jal (rd : BitVec 5) (imm : BitVec 20)
  | jalr (rd rs1 : BitVec 5) (imm : BitVec 12)
  deriving DecidableEq, Repr

/-- The twenty bits of LUI and AUIPC as the upper ones of a word. -/
def upperImmediate (imm : BitVec 20) : BitVec 64 :=
  (imm ++ 0#12).signExtend 64

/-- A distance in half words, in bytes. -/
def halfWords {n : Nat} (imm : BitVec n) : BitVec 64 :=
  (imm ++ 0#1).signExtend 64

/-- The address of a load or store and of JALR. -/
def State.address (s : State) (rs1 : BitVec 5) (imm : BitVec 12) : BitVec 64 :=
  s.x.read rs1 + imm.signExtend 64

/-- The state after an instruction. -/
def Instruction.exec (s : State) : Instruction → State
  | .register op rd rs1 rs2 => s.next rd (op.eval (s.x.read rs1) (s.x.read rs2))
  | .immediate op rd rs1 imm => s.next rd (op.registerOp.eval (s.x.read rs1) (imm.signExtend 64))
  | .shift op rd rs1 shamt => s.next rd (op.eval (s.x.read rs1) shamt)
  | .load op rd rs1 imm => s.next rd (op.eval s.memory (s.address rs1 imm))
  | .store op rs1 rs2 imm =>
    { s with
      pc := s.pc + 4#64
      memory := op.eval s.memory (s.address rs1 imm) (s.x.read rs2) }
  | .branch condition rs1 rs2 imm =>
    { s with
      pc :=
        if condition.holds (s.x.read rs1) (s.x.read rs2) then s.pc + halfWords imm
        else s.pc + 4#64 }
  | .lui rd imm => s.next rd (upperImmediate imm)
  | .auipc rd imm => s.next rd (s.pc + upperImmediate imm)
  | .jal rd imm =>
    { s with
      pc := s.pc + halfWords imm
      x := s.x.write rd (s.pc + 4#64) }
  | .jalr rd rs1 imm =>
    { s with
      -- the lowest bit of the target is cleared
      pc := s.address rs1 imm &&& ~~~1#64
      x := s.x.write rd (s.pc + 4#64) }

/-! ### Encodings -/

def rType (funct7 : BitVec 7) (rs2 rs1 : BitVec 5) (funct3 : BitVec 3) (rd : BitVec 5)
    (opcode : BitVec 7) : BitVec 32 :=
  funct7 ++ rs2 ++ rs1 ++ funct3 ++ rd ++ opcode

def iType (imm : BitVec 12) (rs1 : BitVec 5) (funct3 : BitVec 3) (rd : BitVec 5)
    (opcode : BitVec 7) : BitVec 32 :=
  imm ++ rs1 ++ funct3 ++ rd ++ opcode

def sType (imm : BitVec 12) (rs2 rs1 : BitVec 5) (funct3 : BitVec 3) (opcode : BitVec 7) :
    BitVec 32 :=
  rType (imm.extractLsb' 5 7) rs2 rs1 funct3 (imm.extractLsb' 0 5) opcode

/-- The bits of the offset, from the highest: 12, 10 to 5, …, 4 to 1, 11. -/
def bType (imm : BitVec 12) (rs2 rs1 : BitVec 5) (funct3 : BitVec 3) (opcode : BitVec 7) :
    BitVec 32 :=
  rType (imm.extractLsb' 11 1 ++ imm.extractLsb' 4 6) rs2 rs1 funct3
    (imm.extractLsb' 0 4 ++ imm.extractLsb' 10 1) opcode

def uType (imm : BitVec 20) (rd : BitVec 5) (opcode : BitVec 7) : BitVec 32 :=
  imm ++ rd ++ opcode

/-- The bits of the offset, from the highest: 20, 10 to 1, 11, 19 to 12. -/
def jType (imm : BitVec 20) (rd : BitVec 5) (opcode : BitVec 7) : BitVec 32 :=
  imm.extractLsb' 19 1 ++ imm.extractLsb' 0 10 ++ imm.extractLsb' 10 1 ++ imm.extractLsb' 11 8
    ++ rd ++ opcode

def RegisterOp.funct3 : RegisterOp → BitVec 3
  | .add | .sub => 0b000#3
  | .sll => 0b001#3
  | .slt => 0b010#3
  | .sltu => 0b011#3
  | .xor => 0b100#3
  | .srl | .sra => 0b101#3
  | .or => 0b110#3
  | .and => 0b111#3

def RegisterOp.funct7 : RegisterOp → BitVec 7
  | .sub | .sra => 0b0100000#7
  | _ => 0b0000000#7

def ShiftOp.funct3 : ShiftOp → BitVec 3
  | .slli => 0b001#3
  | .srli | .srai => 0b101#3

def ShiftOp.funct6 : ShiftOp → BitVec 6
  | .srai => 0b010000#6
  | _ => 0b000000#6

def LoadOp.funct3 : LoadOp → BitVec 3
  | .lb => 0b000#3
  | .lh => 0b001#3
  | .lw => 0b010#3
  | .ld => 0b011#3
  | .lbu => 0b100#3
  | .lhu => 0b101#3
  | .lwu => 0b110#3

def StoreOp.funct3 : StoreOp → BitVec 3
  | .sb => 0b000#3
  | .sh => 0b001#3
  | .sw => 0b010#3
  | .sd => 0b011#3

def BranchCondition.funct3 : BranchCondition → BitVec 3
  | .beq => 0b000#3
  | .bne => 0b001#3
  | .blt => 0b100#3
  | .bge => 0b101#3
  | .bltu => 0b110#3
  | .bgeu => 0b111#3

/-- The word of an instruction. -/
def Instruction.encode : Instruction → BitVec 32
  | .register op rd rs1 rs2 => rType op.funct7 rs2 rs1 op.funct3 rd 0b0110011#7
  | .immediate op rd rs1 imm => iType imm rs1 op.registerOp.funct3 rd 0b0010011#7
  | .shift op rd rs1 shamt => iType (op.funct6 ++ shamt) rs1 op.funct3 rd 0b0010011#7
  | .load op rd rs1 imm => iType imm rs1 op.funct3 rd 0b0000011#7
  | .store op rs1 rs2 imm => sType imm rs2 rs1 op.funct3 0b0100011#7
  | .branch condition rs1 rs2 imm => bType imm rs2 rs1 condition.funct3 0b1100011#7
  | .lui rd imm => uType imm rd 0b0110111#7
  | .auipc rd imm => uType imm rd 0b0010111#7
  | .jal rd imm => jType imm rd 0b1101111#7
  | .jalr rd rs1 imm => iType imm rs1 0b000#3 rd 0b1100111#7

/-! ### The fields of an encoding -/

/-- A field above the last part of a concatenation. -/
theorem field_append {v w start len : Nat} {hi : BitVec v} {lo : BitVec w} {x : BitVec len}
    (h : w ≤ start) (hx : hi.extractLsb' (start - w) len = x) :
    (hi ++ lo).extractLsb' start len = x := by
  rw [BitVec.extractLsb'_append_eq_of_le h, hx]

/-- The last part of a concatenation. -/
theorem field_right {v w : Nat} {hi : BitVec v} {lo : BitVec w} :
    (hi ++ lo).extractLsb' 0 w = lo :=
  BitVec.extractLsb'_append_eq_right

/-- A field inside the last part of a concatenation. -/
theorem field_inside {v w start len : Nat} {hi : BitVec v} {lo : BitVec w} {x : BitVec len}
    (h : start + len ≤ w) (hx : lo.extractLsb' start len = x) :
    (hi ++ lo).extractLsb' start len = x := by
  rw [BitVec.extractLsb'_append_eq_of_add_le h, hx]

section Fields

variable {funct7 opcode : BitVec 7} {rs2 rs1 rd : BitVec 5} {funct3 : BitVec 3}

theorem rType_fields :
    (rType funct7 rs2 rs1 funct3 rd opcode).extractLsb' 0 7 = opcode ∧
    (rType funct7 rs2 rs1 funct3 rd opcode).extractLsb' 7 5 = rd ∧
    (rType funct7 rs2 rs1 funct3 rd opcode).extractLsb' 12 3 = funct3 ∧
    (rType funct7 rs2 rs1 funct3 rd opcode).extractLsb' 15 5 = rs1 ∧
    (rType funct7 rs2 rs1 funct3 rd opcode).extractLsb' 20 5 = rs2 ∧
    (rType funct7 rs2 rs1 funct3 rd opcode).extractLsb' 25 7 = funct7 := by
  refine ⟨?_, ?_, ?_, ?_, ?_, ?_⟩
  · exact field_right
  · exact field_append (by decide) field_right
  · exact field_append (by decide) (field_append (by decide) field_right)
  · exact field_append (by decide) (field_append (by decide) (field_append (by decide)
      field_right))
  · exact field_append (by decide) (field_append (by decide) (field_append (by decide)
      (field_append (by decide) field_right)))
  · exact field_append (by decide) (field_append (by decide) (field_append (by decide)
      (field_append (by decide) (field_append (by decide) BitVec.extractLsb'_eq_self))))

theorem iType_fields {imm : BitVec 12} :
    (iType imm rs1 funct3 rd opcode).extractLsb' 0 7 = opcode ∧
    (iType imm rs1 funct3 rd opcode).extractLsb' 7 5 = rd ∧
    (iType imm rs1 funct3 rd opcode).extractLsb' 12 3 = funct3 ∧
    (iType imm rs1 funct3 rd opcode).extractLsb' 15 5 = rs1 ∧
    (iType imm rs1 funct3 rd opcode).extractLsb' 20 12 = imm := by
  refine ⟨?_, ?_, ?_, ?_, ?_⟩
  · exact field_right
  · exact field_append (by decide) field_right
  · exact field_append (by decide) (field_append (by decide) field_right)
  · exact field_append (by decide) (field_append (by decide) (field_append (by decide)
      field_right))
  · exact field_append (by decide) (field_append (by decide) (field_append (by decide)
      (field_append (by decide) BitVec.extractLsb'_eq_self)))

/-- The immediate of a store in its two fields. -/
theorem sType_fields {imm : BitVec 12} :
    (sType imm rs2 rs1 funct3 opcode).extractLsb' 0 7 = opcode ∧
    (sType imm rs2 rs1 funct3 opcode).extractLsb' 12 3 = funct3 ∧
    (sType imm rs2 rs1 funct3 opcode).extractLsb' 15 5 = rs1 ∧
    (sType imm rs2 rs1 funct3 opcode).extractLsb' 20 5 = rs2 ∧
    (sType imm rs2 rs1 funct3 opcode).extractLsb' 25 7 ++
      (sType imm rs2 rs1 funct3 opcode).extractLsb' 7 5 = imm := by
  unfold sType
  obtain ⟨hopcode, hrd, hfunct3, hrs1, hrs2, hfunct7⟩ := @rType_fields (imm.extractLsb' 5 7) opcode
    rs2 rs1 (imm.extractLsb' 0 5) funct3
  refine ⟨hopcode, hfunct3, hrs1, hrs2, ?_⟩
  rw [hfunct7, hrd]
  exact BitVec.extractLsb'_append_extractLsb' (w := 7)

/-- The immediate of a branch in its four fields. -/
theorem bType_fields {imm : BitVec 12} :
    (bType imm rs2 rs1 funct3 opcode).extractLsb' 0 7 = opcode ∧
    (bType imm rs2 rs1 funct3 opcode).extractLsb' 12 3 = funct3 ∧
    (bType imm rs2 rs1 funct3 opcode).extractLsb' 15 5 = rs1 ∧
    (bType imm rs2 rs1 funct3 opcode).extractLsb' 20 5 = rs2 ∧
    (bType imm rs2 rs1 funct3 opcode).extractLsb' 31 1 ++
      (bType imm rs2 rs1 funct3 opcode).extractLsb' 7 1 ++
      (bType imm rs2 rs1 funct3 opcode).extractLsb' 25 6 ++
      (bType imm rs2 rs1 funct3 opcode).extractLsb' 8 4 = imm := by
  obtain ⟨hopcode, hrd, hfunct3, hrs1, hrs2, hfunct7⟩ := @rType_fields
    (imm.extractLsb' 11 1 ++ imm.extractLsb' 4 6) opcode rs2 rs1
    (imm.extractLsb' 0 4 ++ imm.extractLsb' 10 1) funct3
  have h31 : (bType imm rs2 rs1 funct3 opcode).extractLsb' 31 1 = imm.extractLsb' 11 1 :=
    field_append (by decide) (field_append (by decide) (field_append (by decide)
      (field_append (by decide) (field_append (by decide) (field_append (by decide)
        BitVec.extractLsb'_eq_self)))))
  have h25 : (bType imm rs2 rs1 funct3 opcode).extractLsb' 25 6 = imm.extractLsb' 4 6 :=
    field_append (by decide) (field_append (by decide) (field_append (by decide)
      (field_append (by decide) (field_append (by decide) field_right))))
  have h8 : (bType imm rs2 rs1 funct3 opcode).extractLsb' 8 4 = imm.extractLsb' 0 4 :=
    field_append (by decide) (field_inside (by decide) (field_append (by decide)
      BitVec.extractLsb'_eq_self))
  have h7 : (bType imm rs2 rs1 funct3 opcode).extractLsb' 7 1 = imm.extractLsb' 10 1 :=
    field_append (by decide) (field_inside (by decide) field_right)
  refine ⟨hopcode, hfunct3, hrs1, hrs2, ?_⟩
  rw [h31, h25, h8, h7,
    BitVec.extractLsb'_append_extractLsb'_eq_extractLsb' (by decide),
    BitVec.extractLsb'_append_extractLsb'_eq_extractLsb' (by decide)]
  exact BitVec.extractLsb'_append_extractLsb' (w := 8)

/-- The immediate of a shift is its `funct6` above the shift amount. -/
theorem shift_fields {funct6 shamt : BitVec 6} :
    (iType (funct6 ++ shamt) rs1 funct3 rd opcode).extractLsb' 20 6 = shamt ∧
    (iType (funct6 ++ shamt) rs1 funct3 rd opcode).extractLsb' 26 6 = funct6 := by
  refine ⟨?_, ?_⟩
  · exact field_append (by decide) (field_append (by decide) (field_append (by decide)
      (field_append (by decide) field_right)))
  · exact field_append (by decide) (field_append (by decide) (field_append (by decide)
      (field_append (by decide) (field_append (by decide) BitVec.extractLsb'_eq_self))))

theorem uType_fields {imm : BitVec 20} :
    (uType imm rd opcode).extractLsb' 0 7 = opcode ∧
    (uType imm rd opcode).extractLsb' 7 5 = rd ∧
    (uType imm rd opcode).extractLsb' 12 20 = imm := by
  refine ⟨?_, ?_, ?_⟩
  · exact field_right
  · exact field_append (by decide) field_right
  · exact field_append (by decide) (field_append (by decide) BitVec.extractLsb'_eq_self)

/-- The immediate of JAL in its four fields. -/
theorem jType_fields {imm : BitVec 20} :
    (jType imm rd opcode).extractLsb' 0 7 = opcode ∧
    (jType imm rd opcode).extractLsb' 7 5 = rd ∧
    (jType imm rd opcode).extractLsb' 31 1 ++ (jType imm rd opcode).extractLsb' 12 8 ++
      (jType imm rd opcode).extractLsb' 20 1 ++ (jType imm rd opcode).extractLsb' 21 10 =
      imm := by
  have h12 : (jType imm rd opcode).extractLsb' 12 8 = imm.extractLsb' 11 8 :=
    field_append (by decide) (field_append (by decide) field_right)
  have h20 : (jType imm rd opcode).extractLsb' 20 1 = imm.extractLsb' 10 1 :=
    field_append (by decide) (field_append (by decide) (field_append (by decide) field_right))
  have h21 : (jType imm rd opcode).extractLsb' 21 10 = imm.extractLsb' 0 10 :=
    field_append (by decide) (field_append (by decide) (field_append (by decide)
      (field_append (by decide) field_right)))
  have h31 : (jType imm rd opcode).extractLsb' 31 1 = imm.extractLsb' 19 1 :=
    field_append (by decide) (field_append (by decide) (field_append (by decide)
      (field_append (by decide) (field_append (by decide) BitVec.extractLsb'_eq_self))))
  refine ⟨field_right, field_append (by decide) field_right, ?_⟩
  rw [h12, h20, h21, h31, BitVec.extractLsb'_append_extractLsb'_eq_extractLsb' (by decide),
    BitVec.extractLsb'_append_extractLsb'_eq_extractLsb' (by decide)]
  exact BitVec.extractLsb'_append_extractLsb' (w := 10)

end Fields

end Rv64i

end Lib

end RiscvSim

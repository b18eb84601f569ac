import RiscvSim.Lib.Rv64i

/-!
# Programs of the base instruction set

A program is a list of instructions, one every four bytes from address zero on.
`Run` executes it as a list; a memory holds it (`Holds`) when it has the words of
its instructions.

* **`Holds.exec`**: an instruction that stores outside the program leaves it alone.
-/

namespace RiscvSim

namespace Lib

/-! ### Loads after stores -/

/-- The bytes of a value make the value. -/
theorem littleEndian_byteOf {n : Nat} (value : BitVec (8 * n)) :
    littleEndian n (byteOf value) = value := by
  have hdigits : ∀ k, Nat.ofDigits 256 ((List.range k).map fun i => (byteOf value i).toNat) =
      value.toNat % 2 ^ (8 * k) := by
    intro k
    induction k with
    | zero => rw [Nat.mul_zero, Nat.pow_zero, Nat.mod_one]; rfl
    | succ k ih =>
      have hbyte : (byteOf value k).toNat = value.toNat / 2 ^ (8 * k) % 2 ^ 8 := by
        unfold byteOf
        rw [BitVec.toNat_setWidth, BitVec.toNat_ushiftRight, Nat.shiftRight_eq_div_pow]
      rw [ofDigits_range_succ, ih, hbyte, Nat.mul_succ, Nat.pow_add, Nat.mod_mul,
        Nat.mul_comm (2 ^ (8 * k)) (_ % _)]
  apply BitVec.eq_of_toNat_eq
  unfold littleEndian
  rw [hdigits, BitVec.toNat_ofNat, Nat.mod_mod, Nat.mod_eq_of_lt value.isLt]

namespace FlatMemory

variable {w n k : Nat} {f g : FlatMemory w} {a b : BitVec w}

theorem load_congr (h : ∀ i < n, f (a + BitVec.ofNat w i) = g (a + BitVec.ofNat w i)) :
    f.load n a = g.load n a := by
  unfold load littleEndian
  congr 2
  exact List.map_congr_left fun i hi => congrArg BitVec.toNat (h i (List.mem_range.mp hi))

/-- A load of what was stored. -/
theorem load_store_self (f : FlatMemory w) (hn : n ≤ 2 ^ w) (a : BitVec w)
    (value : BitVec (8 * n)) : (f.store n a value).load n a = value := by
  have hbytes : (f.store n a value).load n a = littleEndian n (byteOf value) := by
    unfold load littleEndian
    congr 2
    refine List.map_congr_left fun i hi => congrArg BitVec.toNat ?_
    have hi := List.mem_range.mp hi
    have hoffset : (a + BitVec.ofNat w i - a).toNat = i := by
      rw [BitVec.add_comm, BitVec.add_sub_cancel, BitVec.toNat_ofNat,
        Nat.mod_eq_of_lt (Nat.lt_of_lt_of_le hi hn)]
    unfold store
    dsimp only
    rw [hoffset, if_pos hi]
  rw [hbytes, littleEndian_byteOf]

/-- A store elsewhere. -/
theorem store_of_ne (f : FlatMemory w) {value : BitVec (8 * n)}
    (h : ∀ i < n, b + BitVec.ofNat w i ≠ a) : f.store n b value a = f a := by
  refine if_neg fun hlt => h _ hlt ?_
  rw [BitVec.ofNat_toNat, BitVec.setWidth_eq, BitVec.add_comm, BitVec.sub_add_cancel]

/-- A load of bytes below a bound, after a store to bytes above it. -/
theorem load_store_of_le (f : FlatMemory w) {value : BitVec (8 * n)} {bound : Nat}
    (hload : ∀ i < k, (a + BitVec.ofNat w i).toNat < bound)
    (hstore : ∀ i < n, bound ≤ (b + BitVec.ofNat w i).toNat) :
    (f.store n b value).load k a = f.load k a := by
  refine load_congr fun i hi => store_of_ne f fun j hj heq => ?_
  have hlt := hload i hi
  have hle := hstore j hj
  rw [heq] at hle
  omega

end FlatMemory

namespace Rv64i

/-! ### Mnemonics -/

def RegisterOp.mnemonic : RegisterOp → String
  | .add => "add"
  | .sub => "sub"
  | .sll => "sll"
  | .slt => "slt"
  | .sltu => "sltu"
  | .xor => "xor"
  | .srl => "srl"
  | .sra => "sra"
  | .or => "or"
  | .and => "and"

def ImmediateOp.mnemonic : ImmediateOp → String
  | .addi => "addi"
  | .slti => "slti"
  | .sltiu => "sltiu"
  | .xori => "xori"
  | .ori => "ori"
  | .andi => "andi"

def ShiftOp.mnemonic : ShiftOp → String
  | .slli => "slli"
  | .srli => "srli"
  | .srai => "srai"

def LoadOp.mnemonic : LoadOp → String
  | .lb => "lb"
  | .lh => "lh"
  | .lw => "lw"
  | .ld => "ld"
  | .lbu => "lbu"
  | .lhu => "lhu"
  | .lwu => "lwu"

def StoreOp.mnemonic : StoreOp → String
  | .sb => "sb"
  | .sh => "sh"
  | .sw => "sw"
  | .sd => "sd"

def BranchCondition.mnemonic : BranchCondition → String
  | .beq => "beq"
  | .bne => "bne"
  | .blt => "blt"
  | .bge => "bge"
  | .bltu => "bltu"
  | .bgeu => "bgeu"

/-! ### Programs -/

/-- The instruction at an address. -/
def instructionAt (program : List Instruction) (pc : BitVec 64) : Option Instruction :=
  if pc.toNat % 4 = 0 then program[pc.toNat / 4]? else none

/-- A store goes to bytes from `bound` on. -/
def Instruction.StoresFrom (bound : Nat) (s : State) : Instruction → Prop
  | .store op rs1 _ imm => ∀ i < op.width, bound ≤ (s.address rs1 imm + BitVec.ofNat 64 i).toNat
  | _ => True

/-- `n` instructions of a program lead from one state to another; each is `allowed`
in its state. -/
inductive Run (program : List Instruction) (allowed : State → Instruction → Prop) :
    Nat → State → State → Prop
  | done (s : State) : Run program allowed 0 s s
  | instruction {n : Nat} {s t : State} {i : Instruction}
      (hi : instructionAt program s.pc = some i) (hallowed : allowed s i)
      (h : Run program allowed n (i.exec s) t) : Run program allowed (n + 1) s t

/-- The memory has the words of the program. -/
def Holds (program : List Instruction) (memory : FlatMemory 64) : Prop :=
  ∀ k i, program[k]? = some i → memory.load 4 (BitVec.ofNat 64 (4 * k)) = i.encode

variable {program : List Instruction} {s : State} {i : Instruction}

theorem instructionAt_eq_some (h : instructionAt program s.pc = some i) :
    ∃ k, program[k]? = some i ∧ k < program.length ∧ s.pc.toNat = 4 * k := by
  unfold instructionAt at h
  by_cases hpc : s.pc.toNat % 4 = 0
  case neg =>
    rw [if_neg hpc] at h
    cases h
  rw [if_pos hpc] at h
  obtain ⟨hlt, -⟩ := List.getElem?_eq_some_iff.mp h
  exact ⟨_, h, hlt, by omega⟩

/-- The bytes of a word of the program lie below its end. -/
theorem toNat_wordAddress_lt {k length : Nat} (hk : k < length) (hlength : 4 * length ≤ 2 ^ 64)
    {j : Nat} (hj : j < 4) :
    (BitVec.ofNat 64 (4 * k) + BitVec.ofNat 64 j).toNat < 4 * length := by
  rw [← BitVec.ofNat_add, BitVec.toNat_ofNat, Nat.mod_eq_of_lt (by omega)]
  omega

/-- **An instruction that stores outside the program leaves it alone.** -/
theorem Holds.exec (h : Holds program s.memory) (hlength : 4 * program.length ≤ 2 ^ 64)
    (hstores : i.StoresFrom (4 * program.length) s) : Holds program (i.exec s).memory := by
  -- only a store changes the memory
  cases i with
  | store op rs1 rs2 imm =>
    intro k i' hi'
    obtain ⟨hk, -⟩ := List.getElem?_eq_some_iff.mp hi'
    refine (FlatMemory.load_store_of_le s.memory (fun j hj => ?_) hstores).trans (h k i' hi')
    exact toNat_wordAddress_lt hk hlength hj
  | register | immediate | shift | load | branch | lui | auipc | jal | jalr => exact h

end Rv64i

end Lib

end RiscvSim

import RiscvSim.Assembler.Equiv.CodeGenerator
import RiscvSim.Assembler.Equiv.Operands

/-!
# Units the code generator can encode

A `UnitClass` is a set of mnemonics with the operands its generator reads;
`UnitClass.Fits` says that a unit has them.

* **`exists_generateUnitCode`**: a unit that fits its class has a word.
-/

namespace RiscvSim

open Lib

/-- A field names a register the code generator can encode. -/
def HasRegister (name : String) : Prop :=
  ∃ r : BitVec 5, extractRegisterIndex name = .ok (r.setWidth 32)

/-- A field holds a number of the given range. -/
def HasImmediate (text : String) (range : Int × Int) : Prop :=
  ∃ imm : Int, range.1 ≤ imm ∧ imm ≤ range.2 ∧ immediateOf text = .ok (BitVec.ofInt 32 imm)

/-- A set of mnemonics with its generator, the registers it reads, and the range
the parser keeps its immediate in, if there is one. -/
structure UnitClass where
  mnemonics : List String
  generate : ICUnit → Except AssemblerError (BitVec 32)
  rd : Bool := false
  rs1 : Bool := false
  rs2 : Bool := false
  rs3 : Bool := false
  range : Option (Int × Int) := none

namespace UnitClass

def rType : UnitClass where
  mnemonics := rTypeInstructions
  generate := generateRTypeMachineCode
  rd := true
  rs1 := true
  rs2 := true

def i1Type : UnitClass where
  mnemonics := i1TypeInstructions
  generate := generateI1TypeMachineCode
  rd := true
  rs1 := true
  range := some (-2048, 2047)

def i2Type : UnitClass where
  mnemonics := i2TypeInstructions
  generate := generateI2TypeMachineCode
  rd := true
  rs1 := true
  range := some (0, 31)

def i3Type : UnitClass where
  mnemonics := i3TypeInstructions
  generate := generateI3TypeMachineCode

def sType : UnitClass where
  mnemonics := sTypeInstructions
  generate := generateSTypeMachineCode
  rs1 := true
  rs2 := true
  range := some (-2048, 2047)

def bType : UnitClass where
  mnemonics := bTypeInstructions
  generate := generateBTypeMachineCode
  rs1 := true
  rs2 := true
  range := some (-4096, 4095)

/-- The upper parts of addresses may be any numbers of 32 bits. -/
def uType : UnitClass where
  mnemonics := uTypeInstructions
  generate := generateUTypeMachineCode
  rd := true
  range := some (-2147483648, 2147483647)

def jType : UnitClass where
  mnemonics := jTypeInstructions
  generate := generateJTypeMachineCode
  rd := true
  range := some (-1048576, 1048575)

def csrRType : UnitClass where
  mnemonics := csrRInstructions
  generate := generateCsrRTypeMachineCode
  rd := true
  rs1 := true

def csrIType : UnitClass where
  mnemonics := csrIInstructions
  generate := generateCsrITypeMachineCode
  rd := true
  range := some (0, 31)

def fdRType : UnitClass where
  mnemonics := fdExtensionRTypeInstructions
  generate := generateFdRTypeMachineCode
  rd := true
  rs1 := true
  rs2 := true

def fdR1Type : UnitClass where
  mnemonics := fdExtensionR1TypeInstructions
  generate := generateFdR1TypeMachineCode
  rd := true
  rs1 := true
  rs2 := true

def fdR2Type : UnitClass where
  mnemonics := fdExtensionR2TypeInstructions
  generate := generateFdR2TypeMachineCode
  rd := true
  rs1 := true

def fdR3Type : UnitClass where
  mnemonics := fdExtensionR3TypeInstructions
  generate := generateFdR3TypeMachineCode
  rd := true
  rs1 := true

def fdR4Type : UnitClass where
  mnemonics := fdExtensionR4TypeInstructions
  generate := generateFdR4TypeMachineCode
  rd := true
  rs1 := true
  rs2 := true
  rs3 := true

def fdIType : UnitClass where
  mnemonics := fdExtensionITypeInstructions
  generate := generateFdITypeMachineCode
  rd := true
  rs1 := true
  range := some (-2048, 2047)

def fdSType : UnitClass where
  mnemonics := fdExtensionSTypeInstructions
  generate := generateFdSTypeMachineCode
  rs1 := true
  rs2 := true
  range := some (-2048, 2047)

/-- The unit has a mnemonic of the class and the registers its generator reads. -/
structure HasRegisters (c : UnitClass) (block : ICUnit) : Prop where
  mnemonic : block.opcode ∈ c.mnemonics
  rd : c.rd = true → HasRegister block.rd
  rs1 : c.rs1 = true → HasRegister block.rs1
  rs2 : c.rs2 = true → HasRegister block.rs2
  rs3 : c.rs3 = true → HasRegister block.rs3

/-- The unit has an immediate of the class's range, too. -/
structure Fits (c : UnitClass) (block : ICUnit) : Prop extends c.HasRegisters block where
  imm : ∀ range, c.range = some range → HasImmediate block.imm range

end UnitClass

/-- The classes in the order in which their mnemonics are tried. -/
def unitClasses : List UnitClass :=
  [.rType, .i1Type, .i2Type, .i3Type, .sType, .bType, .uType, .jType, .csrRType, .csrIType,
   .fdRType, .fdR1Type, .fdR2Type, .fdR3Type, .fdR4Type, .fdIType, .fdSType]

/-- The generator of a class is the one `generateUnitCode` uses. -/
theorem generateUnitCode_of_class {c : UnitClass} (hc : c ∈ unitClasses) {block : ICUnit}
    (h : block.opcode ∈ c.mnemonics) : generateUnitCode block = c.generate block := by
  have hg : (c.mnemonics, c.generate) ∈ generators := by
    show _ ∈ unitClasses.map fun c => (c.mnemonics, c.generate)
    exact List.mem_map_of_mem hc
  exact generateUnitCode_of_mem hg (List.contains_iff_mem.mpr h)

/-- The tables have an entry for every mnemonic of their class. -/
theorem exists_encoding {α : Type} {table : List (String × α)} {mnemonics : List String}
    (hall : mnemonics.all (fun opcode => (table.lookup opcode).isSome) = true) {opcode : String}
    (h : opcode ∈ mnemonics) : ∃ encoding, lookupAt table opcode = .ok encoding := by
  obtain ⟨encoding, hlookup⟩ := Option.isSome_iff_exists.mp (List.all_eq_true.mp hall opcode h)
  exact ⟨encoding, by unfold lookupAt; rw [hlookup]⟩

theorem HasRegister.exists_index {name : String} (h : HasRegister name) :
    ∃ index, extractRegisterIndex name = .ok index := by
  obtain ⟨_, hindex⟩ := h
  exact ⟨_, hindex⟩

theorem HasImmediate.exists_imm {text : String} {range : Int × Int}
    (h : HasImmediate text range) : ∃ imm, immediateOf text = .ok imm := by
  obtain ⟨_, -, -, himm⟩ := h
  exact ⟨_, himm⟩

theorem exists_bind {α β ε : Type} {x : Except ε α} {f : α → Except ε β} (hx : ∃ a, x = .ok a)
    (hf : ∀ a, ∃ b, f a = .ok b) : ∃ b, x >>= f = .ok b := by
  obtain ⟨a, rfl⟩ := hx
  exact hf a

/-- **A unit that fits its class has a word.** -/
theorem exists_generateUnitCode {c : UnitClass} (hc : c ∈ unitClasses) {block : ICUnit}
    (h : c.Fits block) : ∃ w, generateUnitCode block = .ok w := by
  rw [generateUnitCode_of_class hc h.mnemonic]
  have hmnemonic := h.mnemonic
  have rd := fun h' => (h.rd h').exists_index
  have rs1 := fun h' => (h.rs1 h').exists_index
  have rs2 := fun h' => (h.rs2 h').exists_index
  have rs3 := fun h' => (h.rs3 h').exists_index
  have imm := fun range h' => (h.imm range h').exists_imm
  simp only [unitClasses, List.mem_cons, List.not_mem_nil, or_false] at hc
  -- each generator looks its table up and then reads the operands of its class
  rcases hc with rfl | rfl | rfl | rfl | rfl | rfl | rfl | rfl | rfl | rfl | rfl | rfl | rfl |
    rfl | rfl | rfl | rfl
  all_goals refine exists_bind (exists_encoding (by decide +kernel) hmnemonic) fun _ => ?_
  · exact exists_bind (rd rfl) fun _ => exists_bind (rs1 rfl) fun _ =>
      exists_bind (rs2 rfl) fun _ => ⟨_, rfl⟩
  · exact exists_bind (rd rfl) fun _ => exists_bind (rs1 rfl) fun _ =>
      exists_bind (imm _ rfl) fun _ => ⟨_, rfl⟩
  · exact exists_bind (rd rfl) fun _ => exists_bind (rs1 rfl) fun _ =>
      exists_bind (imm _ rfl) fun _ => ⟨_, rfl⟩
  · exact ⟨_, rfl⟩
  · exact exists_bind (rs1 rfl) fun _ => exists_bind (rs2 rfl) fun _ =>
      exists_bind (imm _ rfl) fun _ => ⟨_, rfl⟩
  · exact exists_bind (rs1 rfl) fun _ => exists_bind (rs2 rfl) fun _ =>
      exists_bind (imm _ rfl) fun _ => ⟨_, rfl⟩
  · exact exists_bind (rd rfl) fun _ => exists_bind (imm _ rfl) fun _ => ⟨_, rfl⟩
  · exact exists_bind (rd rfl) fun _ => exists_bind (imm _ rfl) fun _ => ⟨_, rfl⟩
  · exact exists_bind (rd rfl) fun _ => exists_bind (rs1 rfl) fun _ => ⟨_, rfl⟩
  · exact exists_bind (rd rfl) fun _ => exists_bind (imm _ rfl) fun _ => ⟨_, rfl⟩
  · exact exists_bind (rd rfl) fun _ => exists_bind (rs1 rfl) fun _ =>
      exists_bind (rs2 rfl) fun _ => ⟨_, rfl⟩
  · exact exists_bind (rd rfl) fun _ => exists_bind (rs1 rfl) fun _ =>
      exists_bind (rs2 rfl) fun _ => ⟨_, rfl⟩
  · exact exists_bind (rd rfl) fun _ => exists_bind (rs1 rfl) fun _ => ⟨_, rfl⟩
  · exact exists_bind (rd rfl) fun _ => exists_bind (rs1 rfl) fun _ => ⟨_, rfl⟩
  · exact exists_bind (rd rfl) fun _ => exists_bind (rs1 rfl) fun _ =>
      exists_bind (rs2 rfl) fun _ => exists_bind (rs3 rfl) fun _ => ⟨_, rfl⟩
  · exact exists_bind (rd rfl) fun _ => exists_bind (rs1 rfl) fun _ =>
      exists_bind (imm _ rfl) fun _ => ⟨_, rfl⟩
  · exact exists_bind (rs1 rfl) fun _ => exists_bind (rs2 rfl) fun _ =>
      exists_bind (imm _ rfl) fun _ => ⟨_, rfl⟩

end RiscvSim

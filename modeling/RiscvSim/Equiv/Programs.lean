import RiscvSim.Equiv.Encoding
import RiscvSim.Equiv.Machines
import RiscvSim.Equiv.MemoryImage
import RiscvSim.Lib.Programs
import RiscvSim.Vm.Rvss.Equiv.Rv64i

/-!
# Assembled programs run as they are written

A unit of the base instruction set denotes an instruction (`Denotes`), whose word
the code generator makes of it.  The loader puts the words where the machine looks
for them, and the machine executes them.

* **`assembleFile_denotes`**: the units of an assembled file denote instructions, if
  their mnemonics are of the base set.
* **`assembleFile_runs`**: the machine goes through the states of the list of
  instructions that the units denote, up to a fault of the memory.
* **`assembleFile_run`**: `Run` returns the state at the end of that list.
-/

namespace RiscvSim

open Lib Rv64i

/-! ### Units -/

/-- The field of a unit names the register. -/
def NamesRegister (name : String) (r : BitVec 5) : Prop :=
  extractRegisterIndex name = .ok (r.setWidth 32)

instance (name : String) (r : BitVec 5) : Decidable (NamesRegister name r) :=
  inferInstanceAs (Decidable (extractRegisterIndex name = .ok (r.setWidth 32)))

/-- The unit is written for the instruction.  Immediates are the numbers of their
fields; LUI and AUIPC take the low twenty bits of a number. -/
inductive Denotes (block : ICUnit) : Instruction → Prop
  | register {op : RegisterOp} {rd rs1 rs2 : BitVec 5} (hop : block.opcode = op.mnemonic)
      (hrd : NamesRegister block.rd rd) (hrs1 : NamesRegister block.rs1 rs1)
      (hrs2 : NamesRegister block.rs2 rs2) :
      Denotes block (.register op rd rs1 rs2)
  | immediate {op : ImmediateOp} {rd rs1 : BitVec 5} {imm : BitVec 12}
      (hop : block.opcode = op.mnemonic) (hrd : NamesRegister block.rd rd)
      (hrs1 : NamesRegister block.rs1 rs1)
      (himm : immediateOf block.imm = .ok (imm.signExtend 32)) :
      Denotes block (.immediate op rd rs1 imm)
  | shift {op : ShiftOp} {rd rs1 : BitVec 5} {shamt : BitVec 6}
      (hop : block.opcode = op.mnemonic) (hrd : NamesRegister block.rd rd)
      (hrs1 : NamesRegister block.rs1 rs1)
      (himm : immediateOf block.imm = .ok (shamt.setWidth 32)) :
      Denotes block (.shift op rd rs1 shamt)
  | load {op : LoadOp} {rd rs1 : BitVec 5} {imm : BitVec 12}
      (hop : block.opcode = op.mnemonic) (hrd : NamesRegister block.rd rd)
      (hrs1 : NamesRegister block.rs1 rs1)
      (himm : immediateOf block.imm = .ok (imm.signExtend 32)) :
      Denotes block (.load op rd rs1 imm)
  | store {op : StoreOp} {rs1 rs2 : BitVec 5} {imm : BitVec 12}
      (hop : block.opcode = op.mnemonic) (hrs1 : NamesRegister block.rs1 rs1)
      (hrs2 : NamesRegister block.rs2 rs2)
      (himm : immediateOf block.imm = .ok (imm.signExtend 32)) :
      Denotes block (.store op rs1 rs2 imm)
  | branch {condition : BranchCondition} {rs1 rs2 : BitVec 5} {imm : BitVec 12}
      (hop : block.opcode = condition.mnemonic) (hrs1 : NamesRegister block.rs1 rs1)
      (hrs2 : NamesRegister block.rs2 rs2)
      (himm : immediateOf block.imm = .ok ((imm ++ 0#1).signExtend 32)) :
      Denotes block (.branch condition rs1 rs2 imm)
  | lui {rd : BitVec 5} {imm : BitVec 32} (hop : block.opcode = "lui")
      (hrd : NamesRegister block.rd rd) (himm : immediateOf block.imm = .ok imm) :
      Denotes block (.lui rd (imm.setWidth 20))
  | auipc {rd : BitVec 5} {imm : BitVec 32} (hop : block.opcode = "auipc")
      (hrd : NamesRegister block.rd rd) (himm : immediateOf block.imm = .ok imm) :
      Denotes block (.auipc rd (imm.setWidth 20))
  | jal {rd : BitVec 5} {imm : BitVec 20} (hop : block.opcode = "jal")
      (hrd : NamesRegister block.rd rd)
      (himm : immediateOf block.imm = .ok ((imm ++ 0#1).signExtend 32)) :
      Denotes block (.jal rd imm)
  | jalr {rd rs1 : BitVec 5} {imm : BitVec 12} (hop : block.opcode = "jalr")
      (hrd : NamesRegister block.rd rd) (hrs1 : NamesRegister block.rs1 rs1)
      (himm : immediateOf block.imm = .ok (imm.signExtend 32)) :
      Denotes block (.jalr rd rs1 imm)

/-- A number that was extended to fit a word fits its field. -/
theorem setWidth_signExtend_word {n : Nat} (hn : n ≤ 32) (x : BitVec n) :
    (x.signExtend 32).setWidth n = x := by
  refine BitVec.eq_of_getLsbD_eq fun i hi => ?_
  have hi' : i < 32 := by omega
  rw [BitVec.getLsbD_setWidth, BitVec.getLsbD_signExtend]
  simp [hi, hi']

theorem extractLsb'_signExtend_halfWords {n : Nat} (hn : n < 32) (x : BitVec n) :
    ((x ++ 0#1).signExtend 32).extractLsb' 1 n = x := by
  refine BitVec.eq_of_getLsbD_eq fun i hi => ?_
  have hi' : 1 + i < 32 := by omega
  have hlt : 1 + i < n + 1 := by omega
  rw [BitVec.getLsbD_extractLsb', BitVec.getLsbD_signExtend, BitVec.getLsbD_append]
  simp [hi, hi', hlt]

variable {block : ICUnit} {opcode : BitVec 7} {funct3 : BitVec 3} {rd rs1 : BitVec 5}

/-- A unit with an immediate that fits its field. -/
theorem generateUnitCode_of_iType {imm : BitVec 12}
    (hmap : i1TypeInstructionEncodingMap.lookup block.opcode = some ⟨opcode, funct3⟩)
    (hmem : i1TypeInstructions.contains block.opcode = true) (hrd : NamesRegister block.rd rd)
    (hrs1 : NamesRegister block.rs1 rs1)
    (himm : immediateOf block.imm = .ok (imm.signExtend 32)) :
    generateUnitCode block = .ok (iType imm rs1 funct3 rd opcode) := by
  rw [generateUnitCode_of_i1Type hmap hmem hrd hrs1 himm, setWidth_signExtend_word (by decide)]

/-- **The word of a unit is that of the instruction it denotes.** -/
theorem Denotes.generateUnitCode_eq {i : Instruction} (h : Denotes block i) :
    generateUnitCode block = .ok i.encode := by
  cases h with
  | @register op rd rs1 rs2 hop hrd hrs1 hrs2 =>
    have hmem : block.opcode ∈ UnitClass.rType.mnemonics := by
      rw [hop]
      cases op <;> decide
    have hlookup : lookupAt rTypeInstructionEncodingMap block.opcode =
        .ok ⟨0b0110011#7, op.funct3, op.funct7⟩ := by
      rw [hop]
      cases op <;> rfl
    rw [generateUnitCode_of_class (by simp [unitClasses]) hmem]
    show generateRTypeMachineCode block = _
    unfold generateRTypeMachineCode
    rw [hlookup, hrd, hrs1, hrs2]
    exact congrArg Except.ok (rWord ..)
  | @immediate op rd rs1 imm hop hrd hrs1 himm =>
    refine generateUnitCode_of_iType ?_ ?_ hrd hrs1 himm <;> rw [hop] <;> cases op <;> rfl
  | @shift op rd rs1 shamt hop hrd hrs1 himm =>
    have hmem : block.opcode ∈ UnitClass.i2Type.mnemonics := by
      rw [hop]
      cases op <;> decide
    have hlookup : lookupAt i2TypeInstructionEncodingMap block.opcode =
        .ok ⟨0b0010011#7, op.funct3, op.funct6⟩ := by
      rw [hop]
      cases op <;> rfl
    rw [generateUnitCode_of_class (by simp [unitClasses]) hmem]
    show generateI2TypeMachineCode block = _
    unfold generateI2TypeMachineCode
    rw [hlookup, hrd, hrs1, himm]
    exact congrArg Except.ok (shiftWord ..)
  | @load op rd rs1 imm hop hrd hrs1 himm =>
    refine generateUnitCode_of_iType ?_ ?_ hrd hrs1 himm <;> rw [hop] <;> cases op <;> rfl
  | @store op rs1 rs2 imm hop hrs1 hrs2 himm =>
    have hmem : block.opcode ∈ UnitClass.sType.mnemonics := by
      rw [hop]
      cases op <;> decide
    have hlookup : lookupAt sTypeInstructionEncodingMap block.opcode =
        .ok ⟨0b0100011#7, op.funct3⟩ := by
      rw [hop]
      cases op <;> rfl
    rw [generateUnitCode_of_class (by simp [unitClasses]) hmem]
    show generateSTypeMachineCode block = _
    unfold generateSTypeMachineCode
    rw [hlookup, hrs1, hrs2, himm]
    refine congrArg Except.ok ((sWord ..).trans ?_)
    rw [setWidth_signExtend_word (by decide)]
    rfl
  | @branch condition rs1 rs2 imm hop hrs1 hrs2 himm =>
    have hmem : block.opcode ∈ UnitClass.bType.mnemonics := by
      rw [hop]
      cases condition <;> decide
    have hlookup : lookupAt bTypeInstructionEncodingMap block.opcode =
        .ok ⟨0b1100011#7, condition.funct3⟩ := by
      rw [hop]
      cases condition <;> rfl
    rw [generateUnitCode_of_class (by simp [unitClasses]) hmem]
    show generateBTypeMachineCode block = _
    unfold generateBTypeMachineCode
    rw [hlookup, hrs1, hrs2, himm]
    refine congrArg Except.ok ((bWord ..).trans ?_)
    rw [extractLsb'_signExtend_halfWords (by decide)]
    rfl
  | lui hop hrd himm => exact generateUnitCode_lui hop hrd himm
  | auipc hop hrd himm => exact generateUnitCode_auipc hop hrd himm
  | @jal rd imm hop hrd himm =>
    have hmem : block.opcode ∈ UnitClass.jType.mnemonics := by
      rw [hop]
      decide
    have hlookup : lookupAt jTypeInstructionEncodingMap block.opcode = .ok ⟨0b1101111#7⟩ := by
      rw [hop]
      rfl
    rw [generateUnitCode_of_class (by simp [unitClasses]) hmem]
    show generateJTypeMachineCode block = _
    unfold generateJTypeMachineCode
    rw [hlookup, hrd, himm]
    refine congrArg Except.ok ((jWord ..).trans ?_)
    rw [extractLsb'_signExtend_halfWords (by decide)]
    rfl
  | jalr hop hrd hrs1 himm =>
    exact generateUnitCode_of_iType (by rw [hop]; rfl) (by rw [hop]; rfl) hrd hrs1 himm

/-- The words of units that denote instructions. -/
theorem generateMachineCode_eq_encode {code : List (ICUnit × Bool)} {is : List Instruction}
    (h : List.Forall₂ (fun unit i => Denotes unit.1 i) code is) :
    generateMachineCode code = .ok (is.map Instruction.encode) := by
  induction h with
  | nil => rfl
  | @cons unit i code is hunit _ ih =>
    have hcons : generateMachineCode (unit :: code) = (do
        let word ← generateUnitCode unit.1
        let words ← generateMachineCode code
        pure (word :: words)) := List.mapM_cons
    rw [hcons, hunit.generateUnitCode_eq, ih]
    rfl

/-! ### Units of the base set -/

/-- A mnemonic of the base set. -/
inductive IsBase (opcode : String) : Prop
  | register (op : RegisterOp) (h : opcode = op.mnemonic)
  | immediate (op : ImmediateOp) (h : opcode = op.mnemonic)
  | shift (op : ShiftOp) (h : opcode = op.mnemonic)
  | load (op : LoadOp) (h : opcode = op.mnemonic)
  | store (op : StoreOp) (h : opcode = op.mnemonic)
  | branch (condition : BranchCondition) (h : opcode = condition.mnemonic)
  | lui (h : opcode = "lui")
  | auipc (h : opcode = "auipc")
  | jal (h : opcode = "jal")
  | jalr (h : opcode = "jalr")

/-- The distance of a branch or jump is a number of half words. -/
def EvenDistance (block : ICUnit) : Prop :=
  block.opcode ∈ bTypeInstructions ∨ block.opcode ∈ jTypeInstructions →
    ∀ x, immediateOf block.imm = .ok x → 2 ∣ x.toNat

theorem pairwise_unitClasses :
    unitClasses.Pairwise fun c c' => ∀ opcode ∈ c.mnemonics, opcode ∉ c'.mnemonics := by
  have hsets : (unitClasses.map UnitClass.mnemonics).Pairwise fun l l' =>
      l.all (fun opcode => !l'.contains opcode) := pairwise_generators
  refine (List.pairwise_map.mp hsets).imp fun {c c'} hall opcode hmem hmem' => ?_
  have hnot := List.all_eq_true.mp hall opcode hmem
  rw [List.contains_iff_mem.mpr hmem'] at hnot
  cases hnot

/-- No mnemonic is in two classes. -/
theorem UnitClass.eq_of_mem {c c' : UnitClass} (hc : c ∈ unitClasses) (hc' : c' ∈ unitClasses)
    {opcode : String} (h : opcode ∈ c.mnemonics) (h' : opcode ∈ c'.mnemonics) : c = c' := by
  by_contra hne
  have : Std.Symm fun c c' : UnitClass => ∀ opcode ∈ c.mnemonics, opcode ∉ c'.mnemonics :=
    ⟨fun _ _ hapart opcode hmem hmem' => hapart opcode hmem' hmem⟩
  exact pairwise_unitClasses.forall hc hc' hne opcode h h'

/-- A unit fits the class of its mnemonic. -/
theorem Encodable.fits {block : ICUnit} (h : Encodable block) {c : UnitClass}
    (hc : c ∈ unitClasses) (hmem : block.opcode ∈ c.mnemonics) : c.Fits block := by
  rcases h with ⟨c', hc', hfits⟩ | hfence
  · rwa [UnitClass.eq_of_mem hc hc' hmem hfits.mnemonic]
  · exact absurd hfence (not_mem_fences hc hmem)

theorem HasImmediate.exists_signExtend {text : String} (h : HasImmediate text (-2048, 2047)) :
    ∃ imm : BitVec 12, immediateOf text = .ok (imm.signExtend 32) := by
  obtain ⟨imm, hlow, hhigh, himm⟩ := h
  have hlow : -2048 ≤ imm := hlow
  have hhigh : imm ≤ 2047 := hhigh
  have hfield : ((BitVec.ofInt 32 imm).setWidth 12).signExtend 32 = BitVec.ofInt 32 imm :=
    signExtend_setWidth_ofInt (by decide) (by omega) (by omega)
  exact ⟨_, himm.trans (congrArg Except.ok hfield.symm)⟩

theorem HasImmediate.exists_shamt {text : String} (h : HasImmediate text (0, 31)) :
    ∃ shamt : BitVec 6, immediateOf text = .ok (shamt.setWidth 32) := by
  obtain ⟨imm, hlow, hhigh, himm⟩ := h
  have hlow : 0 ≤ imm := hlow
  have hhigh : imm ≤ 31 := hhigh
  have hfield : ((BitVec.ofInt 32 imm).setWidth 6).setWidth 32 = BitVec.ofInt 32 imm :=
    setWidth_setWidth_ofInt (by decide) hlow (by omega)
  exact ⟨_, himm.trans (congrArg Except.ok hfield.symm)⟩

theorem HasImmediate.exists_halfWords {text : String} {n : Nat} (hpos : 0 < n) (hn : n < 32)
    {range : Int × Int} (h : HasImmediate text range)
    (hlow : -((2 ^ (n + 1) : Nat) : Int) ≤ 2 * range.1)
    (hhigh : 2 * range.2 < ((2 ^ (n + 1) : Nat) : Int))
    (heven : ∀ x, immediateOf text = .ok x → 2 ∣ x.toNat) :
    ∃ imm : BitVec n, immediateOf text = .ok ((imm ++ 0#1).signExtend 32) := by
  obtain ⟨imm, hlow', hhigh', himm⟩ := h
  have hfield : ((BitVec.ofInt 32 imm).extractLsb' 1 n ++ 0#1).signExtend 32 =
      BitVec.ofInt 32 imm &&& ~~~1#32 := halfWords_ofInt hpos hn (by omega) (by omega)
  rw [RVSSVM.and_not_one (heven _ himm)] at hfield
  exact ⟨_, himm.trans (congrArg Except.ok hfield.symm)⟩

/-- **A unit of the base set denotes an instruction.** -/
theorem exists_denotes {block : ICUnit} (h : Encodable block) (hbase : IsBase block.opcode)
    (heven : EvenDistance block) : ∃ i, Denotes block i := by
  cases hbase with
  | register op hop =>
    have hfits := h.fits (c := .rType) (mem_unitClasses_of_getElem? 0 rfl) (by
      rw [hop]
      cases op <;> decide)
    obtain ⟨rd, hrd⟩ := hfits.rd rfl
    obtain ⟨rs1, hrs1⟩ := hfits.rs1 rfl
    obtain ⟨rs2, hrs2⟩ := hfits.rs2 rfl
    exact ⟨_, .register hop hrd hrs1 hrs2⟩
  | immediate op hop =>
    have hfits := h.fits (c := .i1Type) (mem_unitClasses_of_getElem? 1 rfl) (by
      rw [hop]
      cases op <;> decide)
    obtain ⟨rd, hrd⟩ := hfits.rd rfl
    obtain ⟨rs1, hrs1⟩ := hfits.rs1 rfl
    obtain ⟨imm, himm⟩ := (hfits.imm _ rfl).exists_signExtend
    exact ⟨_, .immediate hop hrd hrs1 himm⟩
  | shift op hop =>
    have hfits := h.fits (c := .i2Type) (mem_unitClasses_of_getElem? 2 rfl) (by
      rw [hop]
      cases op <;> decide)
    obtain ⟨rd, hrd⟩ := hfits.rd rfl
    obtain ⟨rs1, hrs1⟩ := hfits.rs1 rfl
    obtain ⟨shamt, himm⟩ := (hfits.imm _ rfl).exists_shamt
    exact ⟨_, .shift hop hrd hrs1 himm⟩
  | load op hop =>
    have hfits := h.fits (c := .i1Type) (mem_unitClasses_of_getElem? 1 rfl) (by
      rw [hop]
      cases op <;> decide)
    obtain ⟨rd, hrd⟩ := hfits.rd rfl
    obtain ⟨rs1, hrs1⟩ := hfits.rs1 rfl
    obtain ⟨imm, himm⟩ := (hfits.imm _ rfl).exists_signExtend
    exact ⟨_, .load hop hrd hrs1 himm⟩
  | store op hop =>
    have hfits := h.fits (c := .sType) (mem_unitClasses_of_getElem? 4 rfl) (by
      rw [hop]
      cases op <;> decide)
    obtain ⟨rs1, hrs1⟩ := hfits.rs1 rfl
    obtain ⟨rs2, hrs2⟩ := hfits.rs2 rfl
    obtain ⟨imm, himm⟩ := (hfits.imm _ rfl).exists_signExtend
    exact ⟨_, .store hop hrs1 hrs2 himm⟩
  | branch condition hop =>
    have hmem : block.opcode ∈ bTypeInstructions := by
      rw [hop]
      cases condition <;> decide
    have hfits := h.fits (c := .bType) (mem_unitClasses_of_getElem? 5 rfl) hmem
    obtain ⟨rs1, hrs1⟩ := hfits.rs1 rfl
    obtain ⟨rs2, hrs2⟩ := hfits.rs2 rfl
    obtain ⟨imm, himm⟩ := (hfits.imm _ rfl).exists_halfWords (n := 12) (by decide) (by decide)
      (by decide) (by decide) (heven (.inl hmem))
    exact ⟨_, .branch hop hrs1 hrs2 himm⟩
  | lui hop =>
    have hfits := h.fits (c := .uType) (mem_unitClasses_of_getElem? 6 rfl) (by
      rw [hop]
      decide)
    obtain ⟨rd, hrd⟩ := hfits.rd rfl
    obtain ⟨imm, -, -, himm⟩ := hfits.imm _ rfl
    exact ⟨_, .lui hop hrd himm⟩
  | auipc hop =>
    have hfits := h.fits (c := .uType) (mem_unitClasses_of_getElem? 6 rfl) (by
      rw [hop]
      decide)
    obtain ⟨rd, hrd⟩ := hfits.rd rfl
    obtain ⟨imm, -, -, himm⟩ := hfits.imm _ rfl
    exact ⟨_, .auipc hop hrd himm⟩
  | jal hop =>
    have hmem : block.opcode ∈ jTypeInstructions := by
      rw [hop]
      decide
    have hfits := h.fits (c := .jType) (mem_unitClasses_of_getElem? 7 rfl) hmem
    obtain ⟨rd, hrd⟩ := hfits.rd rfl
    obtain ⟨imm, himm⟩ := (hfits.imm _ rfl).exists_halfWords (n := 20) (by decide) (by decide)
      (by decide) (by decide) (heven (.inr hmem))
    exact ⟨_, .jal hop hrd himm⟩
  | jalr hop =>
    have hfits := h.fits (c := .i1Type) (mem_unitClasses_of_getElem? 1 rfl) (by
      rw [hop]
      decide)
    obtain ⟨rd, hrd⟩ := hfits.rd rfl
    obtain ⟨rs1, hrs1⟩ := hfits.rs1 rfl
    obtain ⟨imm, himm⟩ := (hfits.imm _ rfl).exists_signExtend
    exact ⟨_, .jalr hop hrd hrs1 himm⟩

/-- The instructions of units that each denote one. -/
theorem exists_forall₂_denotes {code : List (ICUnit × Bool)}
    (h : ∀ unit ∈ code, ∃ i, Denotes unit.1 i) :
    ∃ is, List.Forall₂ (fun unit i => Denotes unit.1 i) code is := by
  induction code with
  | nil => exact ⟨[], .nil⟩
  | cons unit code ih =>
    obtain ⟨i, hi⟩ := h unit List.mem_cons_self
    obtain ⟨is, his⟩ := ih fun unit' hmem => h unit' (List.mem_cons_of_mem unit hmem)
    exact ⟨i :: is, .cons hi his⟩

/-! ### The text in the memory -/

section Text

variable {cfg : VmConfig} {m m' : Memory} {base : BitVec 64}

namespace MemoryWrite

/-- The write goes to bytes from `bound` on. -/
def StoresFrom (bound : Nat) (w : MemoryWrite) : Prop :=
  ∀ i < w.bytes, bound ≤ (w.address + BitVec.ofNat 64 i).toNat

theorem contents_of_apply {w : MemoryWrite} (hw : w.Sized) (h : w.apply cfg m = .ok m') :
    m'.contents = m.contents.store w.bytes w.address w.value := by
  refine Memory.contents_of_writeSized ?_ h
  rcases hw with hw | hw | hw | hw <;> omega

/-- Writes from a bound on leave a value below it alone. -/
theorem load_of_foldlM {writes : List MemoryWrite} {bound n : Nat} {a : BitVec 64}
    (hsized : ∀ w ∈ writes, w.Sized) (hstores : ∀ w ∈ writes, w.StoresFrom bound)
    (hload : ∀ i < n, (a + BitVec.ofNat 64 i).toNat < bound)
    (h : writes.foldlM (apply cfg) m = .ok m') : m'.contents.load n a = m.contents.load n a := by
  induction writes generalizing m with
  | nil =>
    obtain rfl := Except.ok.inj h
    rfl
  | cons w writes ih =>
    rw [List.foldlM_cons] at h
    obtain ⟨m₁, hw, h⟩ := bind_eq_ok.mp h
    rw [ih (fun w' hw' => hsized w' (List.mem_cons_of_mem w hw'))
        (fun w' hw' => hstores w' (List.mem_cons_of_mem w hw')) h,
      contents_of_apply (hsized w List.mem_cons_self) hw]
    exact FlatMemory.load_store_of_le m.contents hload (hstores w List.mem_cons_self)

end MemoryWrite

theorem storesFrom_of_mem_textWrites {words : List (BitVec 32)} {c : BitVec 32} {w : MemoryWrite}
    (h : w ∈ textWrites c words) (hlength : c.toNat + 4 * words.length < 2 ^ 32) :
    w.StoresFrom c.toNat := by
  induction words generalizing c with
  | nil => cases h
  | cons word words ih =>
    rw [List.length_cons] at hlength
    rcases List.mem_cons.mp h with rfl | h
    · intro i hi
      have hi : i < 4 := hi
      show c.toNat ≤ (c.setWidth 64 + BitVec.ofNat 64 i).toNat
      rw [BitVec.toNat_add, BitVec.toNat_setWidth, BitVec.toNat_ofNat]
      omega
    · have hc : (c + 4#32).toNat = c.toNat + 4 := by
        rw [BitVec.toNat_add, BitVec.toNat_ofNat]
        omega
      intro i hi
      have hle := ih h (by omega) i hi
      omega

/-- The words of the text, where the loader has put them. -/
theorem load_of_textWrites {words : List (BitVec 32)} {c : BitVec 32}
    (hlength : c.toNat + 4 * words.length < 2 ^ 32)
    (h : (textWrites c words).foldlM (MemoryWrite.apply cfg) m = .ok m') {k : Nat}
    {word : BitVec 32} (hk : words[k]? = some word) :
    m'.contents.load 4 (BitVec.ofNat 64 (c.toNat + 4 * k)) = word := by
  induction words generalizing c m k with
  | nil => cases hk
  | cons word' words ih =>
    rw [List.length_cons] at hlength
    have hc : (c + 4#32).toNat = c.toNat + 4 := by
      rw [BitVec.toNat_add, BitVec.toNat_ofNat]
      omega
    rw [textWrites, List.foldlM_cons] at h
    obtain ⟨m₁, hw, h⟩ := bind_eq_ok.mp h
    cases k with
    | zero =>
      -- the later words are stored above this one
      obtain rfl := Option.some.inj hk
      have hstored := MemoryWrite.contents_of_apply (.inr (.inr (.inl rfl))) hw
      rw [Nat.mul_zero, Nat.add_zero, BitVec.ofNat_toNat,
        MemoryWrite.load_of_foldlM (fun w => sized_of_mem_textWrites)
          (fun w hw' => storesFrom_of_mem_textWrites hw' (by omega)) (fun i hi => ?_) h, hstored]
      · exact FlatMemory.load_store_self m.contents (show 4 ≤ 2 ^ 64 by decide) _ _
      · rw [BitVec.toNat_add, BitVec.toNat_setWidth, BitVec.toNat_ofNat]
        omega
    | succ k =>
      have hword := ih (by omega) h hk
      rwa [hc, Nat.add_assoc, Nat.add_comm 4, ← Nat.mul_succ] at hword

/-- The loader's addresses are those of data counters. -/
theorem address_of_mem_dataWrites {es : List DataElement} {c : BitVec 32} {w : MemoryWrite}
    (h : w ∈ dataWrites (loaderAddress base) base c es) :
    ∃ x : BitVec 32, w.address = base + x.setWidth 64 := by
  induction es generalizing c with
  | nil => cases h
  | cons e es ih =>
    rcases List.mem_append.mp h with h | h
    · cases e with
      | string bytes =>
        obtain ⟨_, _, rfl⟩ := List.mem_map.mp h
        exact ⟨_, rfl⟩
      | byte | halfWord | word | float | doubleWord | double =>
        exact ⟨_, congrArg MemoryWrite.address (List.mem_singleton.mp h)⟩
    · exact ih h

theorem storesFrom_of_mem_dataWrites {es : List DataElement} {c : BitVec 32} {w : MemoryWrite}
    (h : w ∈ dataWrites (loaderAddress base) base c es) (hbase : base.toNat + 2 ^ 32 + 8 ≤ 2 ^ 64) :
    w.StoresFrom base.toNat := by
  -- a data counter has 32 bits, and an element at most eight bytes
  obtain ⟨x, hx⟩ := address_of_mem_dataWrites h
  have hsized := sized_of_mem_dataWrites h
  intro i hi
  have hi : i < 8 := by rcases hsized with hw | hw | hw | hw <;> omega
  have hlt := x.isLt
  rw [hx, BitVec.toNat_add, BitVec.toNat_add, BitVec.toNat_setWidth, BitVec.toNat_ofNat]
  omega

/-- The text ends below the data, which end below the highest address. -/
structure SectionsApart (cfg : VmConfig) (length : Nat) : Prop where
  text : 4 * length < 2 ^ 32
  below : 4 * length ≤ cfg.dataSectionStart.toNat
  data : cfg.dataSectionStart.toNat + 2 ^ 32 + 8 ≤ 2 ^ 64

variable {is : List Instruction}

/-- A loaded program is in the memory. -/
theorem holds_of_loadProgram {vm vm' : VmBase} {program : AssembledProgram}
    (hapart : SectionsApart cfg is.length)
    (htext : program.textBuffer = is.map Instruction.encode)
    (h : vm.loadProgram cfg program = .ok vm') : Holds is vm'.memoryController.contents := by
  obtain ⟨htextLength, hbelow, hdata⟩ := hapart
  obtain ⟨m, hm, rfl⟩ := loadProgram_eq_ok_iff_writes.mp h
  unfold loaderWrites at hm
  rw [List.foldlM_append, htext] at hm
  obtain ⟨m₁, hm₁, hm⟩ := bind_eq_ok.mp hm
  intro k i hk
  obtain ⟨hlt, -⟩ := List.getElem?_eq_some_iff.mp hk
  have hword : m₁.contents.load 4 (BitVec.ofNat 64 ((0#32).toNat + 4 * k)) = i.encode := by
    refine load_of_textWrites ?_ hm₁ ?_
    · rw [List.length_map]
      simpa using htextLength
    · rw [List.getElem?_map, hk]
      rfl
  rw [BitVec.toNat_ofNat, Nat.zero_mod, Nat.zero_add] at hword
  refine Eq.trans ?_ hword
  -- the data are stored above the text
  refine MemoryWrite.load_of_foldlM (fun w => sized_of_mem_dataWrites)
    (fun w hw => storesFrom_of_mem_dataWrites hw hdata) (fun j hj => ?_) hm
  exact Nat.lt_of_lt_of_le (toNat_wordAddress_lt hlt (by omega) hj) hbelow

end Text

/-! ### The run -/

section Runs

variable {cfg : VmConfig} {fpu : FloatUnit} {is : List Instruction} {vm vm' : RVSSVM}

/-- The machine can fetch the program. -/
structure Ready (cfg : VmConfig) (is : List Instruction) (vm : RVSSVM) : Prop where
  size : vm.programSize.toNat = 4 * is.length
  reachable : vm.memoryController.Reachable cfg
  legible : ∀ a : BitVec 64, a.toNat < 4 * is.length → a.toNat % 4 = 0 → Memory.Legible cfg a
  holds : Holds is vm.memoryController.contents

/-- The condition under which the machine executes an instruction of a program as
the manual prescribes. -/
structure Allowed (is : List Instruction) (s : Rv64i.State) (i : Instruction) : Prop where
  storesFrom : i.StoresFrom (4 * is.length) s
  covered : RVSSVM.IsCovered s i

theorem Ready.fetch (h : Ready cfg is vm) {i : Instruction}
    (hi : instructionAt is vm.arch.toRv64i.pc = some i) :
    vm.programCounter < vm.programSize ∧
      vm.memoryController.readWord vm.programCounter = .ok i.encode := by
  obtain ⟨k, hk, hlt, hpc⟩ := instructionAt_eq_some hi
  have hpc : vm.programCounter.toNat = 4 * k := hpc
  refine ⟨?_, ?_⟩
  · rw [BitVec.lt_def, h.size]
    omega
  · obtain ⟨w, hw⟩ := h.legible vm.programCounter (by omega) (by omega) _ h.reachable
    have haddress : vm.programCounter = BitVec.ofNat 64 (4 * k) := by
      rw [← hpc, BitVec.ofNat_toNat, BitVec.setWidth_eq]
    have hword : w = vm.memoryController.contents.load 4 vm.programCounter :=
      Memory.load_of_readSized hw
    rw [haddress, h.holds k i hk] at hword
    rw [hw, hword]

/-- One instruction. -/
theorem Ready.runInstruction (h : Ready cfg is vm) {i : Instruction}
    (hi : instructionAt is vm.arch.toRv64i.pc = some i)
    (hallowed : Allowed is vm.arch.toRv64i i) (hrun : vm.runInstruction cfg fpu = .ok vm') :
    vm'.arch.toRv64i = i.exec vm.arch.toRv64i ∧ Ready cfg is vm' := by
  obtain ⟨-, hf⟩ := h.fetch hi
  obtain ⟨vm₁, hrun₁, hstate, -⟩ := RVSSVM.runInstruction_rv64i cfg fpu vm i hf hallowed.covered
    fun e he => nomatch hrun.symm.trans he
  obtain rfl := Except.ok.inj (hrun.symm.trans hrun₁)
  refine ⟨hstate, ?_, ?_, h.legible, ?_⟩
  · have hsize : vm'.programSize = vm.programSize :=
      congrArg RVSSVM.LoopState.programSize (RVSSVM.loopState_runInstruction hrun)
    rw [hsize, h.size]
  · exact RVSSVM.reachable_of_execWord (s := vm.arch) h.reachable
      (RVSSVM.runInstruction_integer hf (RVSSVM.isIntegerInstruction_encode i) hrun).1
  · have hlength : 4 * is.length ≤ 2 ^ 64 := by
      have := h.size
      have := vm.programSize.isLt
      omega
    have hmemory : vm'.memoryController.contents = (i.exec vm.arch.toRv64i).memory :=
      congrArg Rv64i.State.memory hstate
    rw [hmemory]
    exact Holds.exec h.holds hlength hallowed.storesFrom

/-- The machine is in the state `t` after `n` instructions, or a load or a store before
that fails. -/
def Follows (cfg : VmConfig) (fpu : FloatUnit) (n : Nat) (vm : RVSSVM) (t : Rv64i.State) : Prop :=
  (∃ vm', RVSSVM.AfterInstructions cfg fpu n vm vm' ∧ vm'.arch.toRv64i = t) ∨
    ∃ k < n, ∃ vm' e, RVSSVM.AfterInstructions cfg fpu k vm vm' ∧
      vm'.runInstruction cfg fpu = .error e ∧ e.1.IsMemory

/-- **A machine that can fetch a program runs it.** -/
theorem Ready.follows {n : Nat} {s t : Rv64i.State} (hrun : Run is (Allowed is) n s t) :
    ∀ {vm : RVSSVM}, Ready cfg is vm → vm.arch.toRv64i = s → Follows cfg fpu n vm t := by
  induction hrun with
  | done s =>
    rintro vm - rfl
    exact .inl ⟨vm, .done vm, rfl⟩
  | @instruction n s t i hi hallowed _ ih =>
    rintro vm h rfl
    obtain ⟨hpc, hf⟩ := h.fetch hi
    cases hstep : vm.runInstruction cfg fpu with
    | error e =>
      -- without a fault of the memory the instruction would complete
      refine .inr ⟨0, Nat.succ_pos n, vm, e, .done vm, hstep, ?_⟩
      by_contra hmemory
      obtain ⟨_, hok, -⟩ := RVSSVM.runInstruction_rv64i cfg fpu vm i hf hallowed.covered
        fun e' he' => by
          obtain rfl := Except.error.inj (hstep.symm.trans he')
          exact hmemory
      cases hstep.symm.trans hok
    | ok vm₁ =>
      obtain ⟨hstate, hready⟩ := h.runInstruction hi hallowed hstep
      rcases ih hready hstate with ⟨vm', hafter, ht⟩ | ⟨k, hk, vm', e, hafter, hfault⟩
      · exact .inl ⟨vm', .instruction hpc hstep hafter, ht⟩
      · exact .inr ⟨k + 1, Nat.succ_lt_succ hk, vm', e, .instruction hpc hstep hafter, hfault⟩

/-- A machine with a program loaded can fetch it. -/
theorem ready_of_loadProgram {program : AssembledProgram} (hapart : SectionsApart cfg is.length)
    (htext : program.textBuffer = is.map Instruction.encode)
    (h : (RVSSVM.new cfg).loadProgram cfg program = .ok vm) : Ready cfg is vm := by
  obtain ⟨base, hbase, rfl⟩ := bind_pure_eq_ok.mp h
  have hbase : (RVSSVM.new cfg).toVmBase.loadProgram cfg program = .ok base :=
    throwWith_eq_ok.mp hbase
  have hholds := holds_of_loadProgram hapart htext hbase
  obtain ⟨m₁, c₁, m₂, c₂, ht, hd, hloaded⟩ := loadProgram_eq_ok.mp hbase
  have hreachable : (RVSSVM.new cfg).memoryController.Reachable cfg := .new
  have hcount : c₁.toNat = 4 * is.length := by
    have hlength := hapart.text
    rw [loadText, loadText_eq, htext, List.length_map] at ht
    obtain ⟨_, -, hpair⟩ := bind_pure_eq_ok.mp ht
    rw [← (Prod.mk.inj hpair).2, BitVec.toNat_add, BitVec.toNat_ofNat, BitVec.toNat_ofNat]
    omega
  refine ⟨?_, ?_, fun a ha h4 => ?_, hholds⟩
  · show base.programSize.toNat = _
    rw [hloaded]
    show (c₁.setWidth 64).toNat = _
    rw [BitVec.toNat_setWidth, hcount]
    have := hapart.text
    omega
  · show base.memoryController.Reachable cfg
    rw [hloaded]
    exact reachable_loadData (reachable_loadText hreachable ht) hd
  · exact legible_of_loadText hreachable ht (by omega) h4

/-- Instructions in a row that end the program are a run. -/
theorem exists_run_of_afterInstructions {n : Nat} (hgo : vm.stopRequested = false)
    (h : RVSSVM.AfterInstructions cfg fpu n vm vm')
    (hlimit : n ≤ cfg.instructionExecutionLimit.toNat + 1)
    (hend : vm'.programSize ≤ vm'.programCounter) :
    ∃ fuel, vm.run cfg fpu fuel = some (.ok vm'.reportEnd) := by
  have hstop : RVSSVM.StopsAfter cfg 0 n vm' := by
    refine ⟨fun i hi => ?_, .inl hend⟩
    rw [Nat.zero_add, BitVec.le_def, BitVec.toNat_ofNat]
    have := Nat.mod_le i (2 ^ 64)
    omega
  have hclear : vm.clearStop = vm := by
    unfold RVSSVM.clearStop
    rw [← hgo]
  refine ⟨n + 1, ?_⟩
  unfold RVSSVM.run
  rw [hclear, RVSSVM.runLoop_eq_some_ok h hgo hstop]
  rfl

theorem stopRequested_of_loadProgram {program : AssembledProgram}
    (h : (RVSSVM.new cfg).loadProgram cfg program = .ok vm) : vm.stopRequested = false := by
  obtain ⟨base, hbase, rfl⟩ := bind_pure_eq_ok.mp h
  obtain ⟨_, _, _, _, -, -, hloaded⟩ := loadProgram_eq_ok.mp (throwWith_eq_ok.mp hbase)
  show base.stopRequested = false
  rw [hloaded]
  rfl

end Runs

/-! ### Assembled files -/

variable {cfg : VmConfig} {fpu : FloatUnit} {reader : FloatReader} {fixed : BitVec 64 → String}
  {fuel lineFuel : Nat}

/-- The words of a file whose units denote instructions. -/
theorem textBuffer_eq_encode {input : List Char} {program : AssembledProgram} {p : Parser}
    {is : List Instruction} (h : assembleFile cfg reader fixed fuel lineFuel input = .ok program)
    (hparse : parseFile cfg reader fixed fuel input = .ok p)
    (hdenotes : List.Forall₂ (fun unit i => Denotes unit.1 i) p.intermediateCode is) :
    program.textBuffer = is.map Instruction.encode := by
  obtain ⟨pairs, hpairs, h⟩ := bind_eq_ok.mp h
  have hpairs : Lexer.getTokenList reader fixed input = .ok pairs := mapError_eq_ok.mp hpairs
  unfold parseFile at hparse
  rw [hpairs, ok_bind] at hparse
  obtain ⟨p', hp', -, hwords⟩ := parse_of_assemble h
  obtain rfl := Except.ok.inj (hparse.symm.trans hp')
  rw [generateMachineCode_eq_encode hdenotes] at hwords
  exact (Except.ok.inj hwords).symm

/-- **An assembled file of the base set is a list of instructions.** -/
theorem assembleFile_denotes {input : List Char} {program : AssembledProgram} {p : Parser}
    (hsize : input.length < 2 ^ 30)
    (h : assembleFile cfg reader fixed fuel lineFuel input = .ok program)
    (hparse : parseFile cfg reader fixed fuel input = .ok p)
    (hbase : ∀ unit ∈ p.intermediateCode, IsBase unit.1.opcode ∧ EvenDistance unit.1) :
    ∃ is, List.Forall₂ (fun unit i => Denotes unit.1 i) p.intermediateCode is := by
  obtain ⟨tokens, hlexed, hassemble, hparse'⟩ := assembleFile_eq_ok (by omega) h
  obtain ⟨p', hp', hcount, -⟩ := parse_of_assemble hassemble
  obtain rfl := Except.ok.inj (hparse.symm.trans (hparse'.trans hp'))
  have hlength := hlexed.length
  have hpending := hlexed.pending
  have hnone := (Parser.count_eq_zero_iff hp' (by omega)).mp hcount
  have hunits := Parser.encodable_of_parse hlexed.readable (by omega) hp' hnone
  refine exists_forall₂_denotes fun unit hmem => ?_
  exact exists_denotes (hunits unit hmem).2 (hbase unit hmem).1 (hbase unit hmem).2

/-- `addi x1, x0, 5`, again and again. -/
def endlessLoop : List Char :=
  "addi x1, x0, 5\njal x0, -4\n".toList

def endlessLoopParser : Parser :=
  (parseFile {} .zeros (fun _ => "") 20 endlessLoop).toOption.getD { rest := [] }

theorem units_endlessLoop : endlessLoopParser.intermediateCode =
    [({ lineNumber := 1#32, instructionIndex := some 0#32, opcode := "addi", rd := "x1",
        rs1 := "x0", imm := "5" }, true),
     ({ lineNumber := 2#32, instructionIndex := some 1#32, opcode := "jal", rd := "x0",
        imm := "-4" }, true)] := by
  decide +kernel

theorem assembleFile_denotes_endlessLoop :
    ∃ is, List.Forall₂ (fun unit i => Denotes unit.1 i) endlessLoopParser.intermediateCode is := by
  have hok := eq_ok_getD
    (x := assembleFile {} .zeros (fun _ => "") 20 (2 ^ 32 + 1) endlessLoop) {} (by decide +kernel)
  have hparse := eq_ok_getD (x := parseFile {} .zeros (fun _ => "") 20 endlessLoop)
    { rest := [] } (by decide +kernel)
  have hdistance : immediateOf "-4" = .ok 0xFFFFFFFC#32 := by decide +kernel
  refine assembleFile_denotes (by decide) hok hparse fun unit hmem => ?_
  have hmem : unit ∈ endlessLoopParser.intermediateCode := hmem
  rw [units_endlessLoop] at hmem
  rcases List.mem_cons.mp hmem with rfl | hmem
  · refine ⟨.immediate .addi rfl, fun hbranch => absurd hbranch ?_⟩
    decide
  · obtain rfl := List.mem_singleton.mp hmem
    refine ⟨.jal rfl, fun _ x hx => ?_⟩
    obtain rfl := Except.ok.inj (hdistance.symm.trans hx)
    decide

/-- **Assembled programs run as they are written**: where the units of a file denote
instructions of the base set, the machine with the assembled file loaded goes
through the states of that list of instructions, up to a fault of the memory. -/
theorem assembleFile_runs {input : List Char} {program : AssembledProgram} {p : Parser}
    {is : List Instruction} {vm : RVSSVM} {n : Nat} {t : Rv64i.State}
    (h : assembleFile cfg reader fixed fuel lineFuel input = .ok program)
    (hparse : parseFile cfg reader fixed fuel input = .ok p)
    (hdenotes : List.Forall₂ (fun unit i => Denotes unit.1 i) p.intermediateCode is)
    (hapart : SectionsApart cfg is.length)
    (hload : (RVSSVM.new cfg).loadProgram cfg program = .ok vm)
    (hrun : Run is (Allowed is) n vm.arch.toRv64i t) : Follows cfg fpu n vm t := by
  have htext := textBuffer_eq_encode h hparse hdenotes
  exact Ready.follows hrun (ready_of_loadProgram hapart htext hload) rfl

def endlessLoopInstructions : List Instruction :=
  [.immediate .addi 1#5 0#5 5#12, .jal 0#5 0xFFFFE#20]

theorem assembleFile_runs_endlessLoop :
    ∃ program vm, assembleFile {} .zeros (fun _ => "") 20 (2 ^ 32 + 1) endlessLoop = .ok program ∧
      (RVSSVM.new {}).loadProgram {} program = .ok vm ∧
      Follows {} .zeros 3 vm ((Instruction.immediate .addi 1#5 0#5 5#12).exec
        ((Instruction.jal 0#5 0xFFFFE#20).exec
          ((Instruction.immediate .addi 1#5 0#5 5#12).exec vm.arch.toRv64i))) := by
  have hok := eq_ok_getD
    (x := assembleFile {} .zeros (fun _ => "") 20 (2 ^ 32 + 1) endlessLoop) {} (by decide +kernel)
  have hparse := eq_ok_getD (x := parseFile {} .zeros (fun _ => "") 20 endlessLoop)
    { rest := [] } (by decide +kernel)
  have hload := eq_ok_getD (x := (RVSSVM.new {}).loadProgram {} _) (RVSSVM.new {})
    (show ((RVSSVM.new {}).loadProgram {} ((assembleFile {} .zeros (fun _ => "") 20 (2 ^ 32 + 1)
      endlessLoop).toOption.getD {})).toOption.isSome = true by decide +kernel)
  have hdenotes : List.Forall₂ (fun unit i => Denotes unit.1 i)
      endlessLoopParser.intermediateCode endlessLoopInstructions := by
    rw [units_endlessLoop]
    refine .cons (.immediate rfl ?_ ?_ ?_) (.cons (.jal rfl ?_ ?_) .nil)
    all_goals decide +kernel
  refine ⟨_, _, hok, hload, assembleFile_runs hok hparse hdenotes
    ⟨by decide, by decide, by decide⟩ hload ?_⟩
  set vm := ((RVSSVM.new {}).loadProgram {} _).toOption.getD (RVSSVM.new {})
  have hpc : vm.arch.toRv64i.pc = 0#64 := by decide +kernel
  have hfirst : instructionAt endlessLoopInstructions vm.arch.toRv64i.pc =
      some (.immediate .addi 1#5 0#5 5#12) := by
    rw [hpc]
    decide
  have hjump : instructionAt endlessLoopInstructions (vm.arch.toRv64i.pc + 4#64) =
      some (.jal 0#5 0xFFFFE#20) := by
    rw [hpc]
    decide
  have hback : instructionAt endlessLoopInstructions
      (vm.arch.toRv64i.pc + 4#64 + halfWords 0xFFFFE#20) =
        some (.immediate .addi 1#5 0#5 5#12) := by
    rw [hpc]
    decide
  exact .instruction hfirst ⟨trivial, trivial⟩ (.instruction hjump ⟨trivial, trivial⟩
    (.instruction hback ⟨trivial, trivial⟩ (.done _)))

/-- **`Run` ends an assembled program in the state of its list of instructions**, if
they lead past its end within the limit, or one of them ends in a fault of the memory. -/
theorem assembleFile_run {input : List Char} {program : AssembledProgram} {p : Parser}
    {is : List Instruction} {vm : RVSSVM} {n : Nat} {t : Rv64i.State}
    (h : assembleFile cfg reader fixed fuel lineFuel input = .ok program)
    (hparse : parseFile cfg reader fixed fuel input = .ok p)
    (hdenotes : List.Forall₂ (fun unit i => Denotes unit.1 i) p.intermediateCode is)
    (hapart : SectionsApart cfg is.length)
    (hload : (RVSSVM.new cfg).loadProgram cfg program = .ok vm)
    (hrun : Run is (Allowed is) n vm.arch.toRv64i t) (hend : 4 * is.length ≤ t.pc.toNat)
    (hlimit : n ≤ cfg.instructionExecutionLimit.toNat + 1) :
    (∃ rounds vm', vm.run cfg fpu rounds = some (.ok vm') ∧ vm'.arch.toRv64i = t) ∨
      ∃ k < n, ∃ vm' e, RVSSVM.AfterInstructions cfg fpu k vm vm' ∧
        vm'.runInstruction cfg fpu = .error e ∧ e.1.IsMemory := by
  have hready := ready_of_loadProgram hapart (textBuffer_eq_encode h hparse hdenotes) hload
  have hfollows : Follows cfg fpu n vm t := Ready.follows hrun hready rfl
  rcases hfollows with ⟨vm', hafter, ht⟩ | hfault
  · have hsize : vm'.programSize = vm.programSize :=
      congrArg RVSSVM.LoopState.programSize hafter.loopState
    have hpc : vm'.programCounter = t.pc := congrArg Rv64i.State.pc ht
    have hpast : vm'.programSize ≤ vm'.programCounter := by
      rw [BitVec.le_def, hsize, hready.size, hpc]
      exact hend
    obtain ⟨rounds, hrounds⟩ := exists_run_of_afterInstructions
      (stopRequested_of_loadProgram hload) hafter hlimit hpast
    exact .inl ⟨rounds, vm'.reportEnd, hrounds, by rw [RVSSVM.arch_reportEnd, ht]⟩
  · exact .inr hfault

def countdownParser : Parser :=
  (parseFile {} .zeros (fun _ => "") 30 countdown).toOption.getD { rest := [] }

theorem units_countdown : countdownParser.intermediateCode =
    [({ lineNumber := 1#32, instructionIndex := some 0#32, opcode := "addi", rd := "x1",
        rs1 := "x0", imm := "2" }, true),
     ({ lineNumber := 3#32, instructionIndex := some 1#32, opcode := "addi", rd := "x1",
        rs1 := "x1", imm := "-1" }, true),
     ({ lineNumber := 4#32, instructionIndex := some 2#32, opcode := "bne", rs1 := "x1",
        rs2 := "x0", imm := "-4", label := "loop" }, true)] := by
  decide +kernel

def countdownInstructions : List Instruction :=
  [.immediate .addi 1#5 0#5 2#12, .immediate .addi 1#5 1#5 0xFFF#12, .branch .bne 1#5 0#5 0xFFE#12]

/-- The five instructions of the countdown: the branch is taken once. -/
def countdownRun (s : Rv64i.State) : Rv64i.State :=
  [Instruction.immediate .addi 1#5 0#5 2#12, .immediate .addi 1#5 1#5 0xFFF#12,
    .branch .bne 1#5 0#5 0xFFE#12, .immediate .addi 1#5 1#5 0xFFF#12,
    .branch .bne 1#5 0#5 0xFFE#12].foldl (fun s i => i.exec s) s

/-- The instruction that loads two. -/
theorem exec_countdown_load (s : Rv64i.State) (hpc : s.pc = 0#64) :
    ((Instruction.immediate .addi 1#5 0#5 2#12).exec s).pc = 4#64 ∧
      ((Instruction.immediate .addi 1#5 0#5 2#12).exec s).x.read 1#5 = 2#64 := by
  constructor
  · show s.pc + 4#64 = 4#64
    rw [hpc]
    rfl
  · refine (s.x.read_write_self (by decide) _).trans ?_
    show s.x.read 0#5 + (2#12).signExtend 64 = 2#64
    rw [s.x.read_zero]
    rfl

/-- The instruction that counts. -/
theorem exec_countdown_add (s : Rv64i.State) (hpc : s.pc = 4#64) :
    ((Instruction.immediate .addi 1#5 1#5 0xFFF#12).exec s).pc = 8#64 ∧
      ((Instruction.immediate .addi 1#5 1#5 0xFFF#12).exec s).x.read 1#5 =
        s.x.read 1#5 - 1#64 := by
  constructor
  · show s.pc + 4#64 = 8#64
    rw [hpc]
    rfl
  · refine (s.x.read_write_self (by decide) _).trans ?_
    show s.x.read 1#5 + (0xFFF#12).signExtend 64 = s.x.read 1#5 - 1#64
    rw [BitVec.sub_eq_add_neg]
    rfl

/-- The branch. -/
theorem exec_countdown_branch (s : Rv64i.State) (hpc : s.pc = 8#64) :
    ((Instruction.branch .bne 1#5 0#5 0xFFE#12).exec s).pc =
        (if s.x.read 1#5 = 0#64 then 12#64 else 4#64) ∧
      ((Instruction.branch .bne 1#5 0#5 0xFFE#12).exec s).x = s.x := by
  refine ⟨?_, rfl⟩
  show (if (s.x.read 1#5 != s.x.read 0#5) = true then s.pc + halfWords 0xFFE#12
    else s.pc + 4#64) = _
  rw [s.x.read_zero, hpc]
  by_cases hzero : s.x.read 1#5 = 0#64
  · rw [if_neg (fun h => bne_iff_ne.mp h hzero), if_pos hzero]
    rfl
  · rw [if_pos (bne_iff_ne.mpr hzero), if_neg hzero]
    rfl

/-- From the start of the program the instructions are a run, and lead past its end. -/
theorem run_countdown (s : Rv64i.State) (hpc : s.pc = 0#64) :
    Run countdownInstructions (Allowed countdownInstructions) 5 s (countdownRun s) ∧
      (countdownRun s).pc = 12#64 := by
  set s₁ := (Instruction.immediate .addi 1#5 0#5 2#12).exec s with hs₁
  set s₂ := (Instruction.immediate .addi 1#5 1#5 0xFFF#12).exec s₁ with hs₂
  set s₃ := (Instruction.branch .bne 1#5 0#5 0xFFE#12).exec s₂ with hs₃
  set s₄ := (Instruction.immediate .addi 1#5 1#5 0xFFF#12).exec s₃ with hs₄
  obtain ⟨hpc₁, hx₁⟩ := exec_countdown_load s hpc
  obtain ⟨hpc₂, hx₂⟩ := exec_countdown_add s₁ hpc₁
  obtain ⟨hpc₃, hx₃⟩ := exec_countdown_branch s₂ hpc₂
  rw [← hs₁] at hpc₁ hx₁
  rw [← hs₂, hx₁] at hx₂
  rw [← hs₂] at hpc₂
  rw [← hs₃, hx₂, if_neg (by decide)] at hpc₃
  rw [← hs₃] at hx₃
  obtain ⟨hpc₄, hx₄⟩ := exec_countdown_add s₃ hpc₃
  rw [← hs₄] at hpc₄
  rw [← hs₄, hx₃, hx₂] at hx₄
  obtain ⟨hpc₅, -⟩ := exec_countdown_branch s₄ hpc₄
  rw [hx₄, if_pos (by decide)] at hpc₅
  have hload : instructionAt countdownInstructions s.pc =
      some (.immediate .addi 1#5 0#5 2#12) := hpc ▸ rfl
  have hadd : ∀ {t : Rv64i.State}, t.pc = 4#64 → instructionAt countdownInstructions t.pc =
      some (.immediate .addi 1#5 1#5 0xFFF#12) := fun h => h ▸ rfl
  have hbranch : ∀ {t : Rv64i.State}, t.pc = 8#64 → instructionAt countdownInstructions t.pc =
      some (.branch .bne 1#5 0#5 0xFFE#12) := fun h => h ▸ rfl
  refine ⟨?_, hpc₅⟩
  exact .instruction hload ⟨trivial, trivial⟩ (.instruction (hadd hpc₁) ⟨trivial, trivial⟩
    (.instruction (hbranch hpc₂) ⟨trivial, trivial⟩ (.instruction (hadd hpc₃) ⟨trivial, trivial⟩
      (.instruction (hbranch hpc₄) ⟨trivial, trivial⟩ (.done _)))))

theorem assembleFile_run_countdown :
    ∃ program vm, assembleFile {} .zeros (fun _ => "") 30 (2 ^ 32 + 1) countdown = .ok program ∧
      (RVSSVM.new {}).loadProgram {} program = .ok vm ∧
      ((∃ rounds vm', vm.run {} .zeros rounds = some (.ok vm') ∧
        vm'.arch.toRv64i = countdownRun vm.arch.toRv64i) ∨
      ∃ k < 5, ∃ vm' e, RVSSVM.AfterInstructions {} .zeros k vm vm' ∧
        vm'.runInstruction {} .zeros = .error e ∧ e.1.IsMemory) := by
  have hok := eq_ok_getD
    (x := assembleFile {} .zeros (fun _ => "") 30 (2 ^ 32 + 1) countdown) {} (by decide +kernel)
  have hparse := eq_ok_getD (x := parseFile {} .zeros (fun _ => "") 30 countdown)
    { rest := [] } (by decide +kernel)
  have hload := eq_ok_getD (x := (RVSSVM.new {}).loadProgram {} _) (RVSSVM.new {})
    (show ((RVSSVM.new {}).loadProgram {} ((assembleFile {} .zeros (fun _ => "") 30 (2 ^ 32 + 1)
      countdown).toOption.getD {})).toOption.isSome = true by decide +kernel)
  have hdenotes : List.Forall₂ (fun unit i => Denotes unit.1 i)
      countdownParser.intermediateCode countdownInstructions := by
    rw [units_countdown]
    refine .cons (.immediate rfl ?_ ?_ ?_) (.cons (.immediate rfl ?_ ?_ ?_)
      (.cons (.branch rfl ?_ ?_ ?_) .nil))
    all_goals decide +kernel
  set vm := ((RVSSVM.new {}).loadProgram {} _).toOption.getD (RVSSVM.new {})
  have hpc : vm.arch.toRv64i.pc = 0#64 := by decide +kernel
  obtain ⟨hrun, hend⟩ := run_countdown vm.arch.toRv64i hpc
  refine ⟨_, _, hok, hload, assembleFile_run hok hparse hdenotes
    ⟨by decide, by decide, by decide⟩ hload hrun ?_ (by decide)⟩
  rw [hend]
  decide

end RiscvSim

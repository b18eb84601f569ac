import Mathlib.Tactic.IntervalCases
import RiscvSim.Assembler.CodeGenerator
import RiscvSim.Lib.Rv64i

/-!
# The words of the code generator

The code generator shifts the fields of an instruction to their places and
combines them; the result is the encoding of the manual (`rWord`, `iWord`, …).

* **`generateUnitCode_of_mem`**: the sets of mnemonics are apart, so the word of a
  unit is the one that the generator of its set makes.
-/

namespace RiscvSim

open Lib Lib.Rv64i

/-! ### Layouts -/

section Layouts

variable (funct7 opcode : BitVec 7) (rs2 rs1 rd : BitVec 5) (funct3 : BitVec 3) (imm : BitVec 32)

theorem rWord :
    funct7.setWidth 32 <<< 25 ||| rs2.setWidth 32 <<< 20 ||| rs1.setWidth 32 <<< 15 |||
      funct3.setWidth 32 <<< 12 ||| rd.setWidth 32 <<< 7 ||| opcode.setWidth 32 =
    rType funct7 rs2 rs1 funct3 rd opcode := by
  refine BitVec.eq_of_getLsbD_eq fun i hi => Eq.trans ?_ BitVec.getLsbD_append.symm
  simp only [BitVec.getLsbD_or, BitVec.getLsbD_shiftLeft, BitVec.getLsbD_setWidth,
    BitVec.getLsbD_append]
  interval_cases i <;> simp

/-- Only the low twelve bits of the immediate remain. -/
theorem iWord :
    imm <<< 20 ||| rs1.setWidth 32 <<< 15 ||| funct3.setWidth 32 <<< 12 ||| rd.setWidth 32 <<< 7 |||
      opcode.setWidth 32 =
    iType (imm.setWidth 12) rs1 funct3 rd opcode := by
  refine BitVec.eq_of_getLsbD_eq fun i hi => Eq.trans ?_ BitVec.getLsbD_append.symm
  simp only [BitVec.getLsbD_or, BitVec.getLsbD_shiftLeft, BitVec.getLsbD_setWidth,
    BitVec.getLsbD_append]
  interval_cases i <;> simp

/-- The six bits above a shift amount have to be clear. -/
theorem shiftWord (funct6 shamt : BitVec 6) :
    funct6.setWidth 32 <<< 26 ||| shamt.setWidth 32 <<< 20 ||| rs1.setWidth 32 <<< 15 |||
      funct3.setWidth 32 <<< 12 ||| rd.setWidth 32 <<< 7 ||| opcode.setWidth 32 =
    iType (funct6 ++ shamt) rs1 funct3 rd opcode := by
  refine BitVec.eq_of_getLsbD_eq fun i hi => Eq.trans ?_ BitVec.getLsbD_append.symm
  simp only [BitVec.getLsbD_or, BitVec.getLsbD_shiftLeft, BitVec.getLsbD_setWidth,
    BitVec.getLsbD_append]
  interval_cases i <;> simp

theorem sWord :
    ((imm >>> 5) &&& 0b1111111#32) <<< 25 ||| rs2.setWidth 32 <<< 20 ||| rs1.setWidth 32 <<< 15 |||
      funct3.setWidth 32 <<< 12 ||| (imm &&& 0b11111#32) <<< 7 ||| opcode.setWidth 32 =
    sType (imm.setWidth 12) rs2 rs1 funct3 opcode := by
  refine BitVec.eq_of_getLsbD_eq fun i hi => Eq.trans ?_ BitVec.getLsbD_append.symm
  simp only [BitVec.getLsbD_or, BitVec.getLsbD_shiftLeft, BitVec.getLsbD_setWidth,
    BitVec.getLsbD_append, BitVec.getLsbD_and,
    BitVec.getLsbD_ushiftRight, BitVec.getLsbD_extractLsb']
  interval_cases i <;> simp

/-- The lowest bit of the offset is dropped. -/
theorem bWord :
    (imm.sshiftRight 12 &&& 0b1#32) <<< 31 ||| (imm.sshiftRight 5 &&& 0b111111#32) <<< 25 |||
      rs2.setWidth 32 <<< 20 ||| rs1.setWidth 32 <<< 15 ||| funct3.setWidth 32 <<< 12 |||
      (imm.sshiftRight 1 &&& 0b1111#32) <<< 8 ||| (imm.sshiftRight 11 &&& 0b1#32) <<< 7 |||
      opcode.setWidth 32 =
    bType (imm.extractLsb' 1 12) rs2 rs1 funct3 opcode := by
  refine BitVec.eq_of_getLsbD_eq fun i hi => Eq.trans ?_ BitVec.getLsbD_append.symm
  simp only [BitVec.getLsbD_or, BitVec.getLsbD_shiftLeft, BitVec.getLsbD_setWidth,
    BitVec.getLsbD_append, BitVec.getLsbD_and,
    BitVec.getLsbD_sshiftRight, BitVec.getLsbD_extractLsb']
  interval_cases i <;> simp

theorem uWord :
    (imm &&& 0xFFFFF#32) <<< 12 ||| rd.setWidth 32 <<< 7 ||| opcode.setWidth 32 =
    uType (imm.setWidth 20) rd opcode := by
  refine BitVec.eq_of_getLsbD_eq fun i hi => Eq.trans ?_ BitVec.getLsbD_append.symm
  simp only [BitVec.getLsbD_or, BitVec.getLsbD_shiftLeft, BitVec.getLsbD_setWidth,
    BitVec.getLsbD_append, BitVec.getLsbD_and]
  interval_cases i <;> simp

/-- The lowest bit of the offset is dropped. -/
theorem jWord :
    (imm &&& 0x100000#32) <<< 11 ||| (imm &&& 0x7FE#32) <<< 20 ||| (imm &&& 0x800#32) <<< 9 |||
      (imm &&& 0xFF000#32) <<< 0 ||| rd.setWidth 32 <<< 7 ||| opcode.setWidth 32 =
    jType (imm.extractLsb' 1 20) rd opcode := by
  refine BitVec.eq_of_getLsbD_eq fun i hi => Eq.trans ?_ BitVec.getLsbD_append.symm
  simp only [BitVec.getLsbD_or, BitVec.getLsbD_shiftLeft, BitVec.getLsbD_setWidth,
    BitVec.getLsbD_append, BitVec.getLsbD_and,
    BitVec.getLsbD_extractLsb']
  interval_cases i <;> simp

end Layouts

/-! ### The classes of mnemonics -/

/-- The sets of mnemonics in the order in which they are tried, with their generators. -/
def generators : List (List String × (ICUnit → Except AssemblerError (BitVec 32))) :=
  [(rTypeInstructions, generateRTypeMachineCode), (i1TypeInstructions, generateI1TypeMachineCode),
   (i2TypeInstructions, generateI2TypeMachineCode), (i3TypeInstructions, generateI3TypeMachineCode),
   (sTypeInstructions, generateSTypeMachineCode), (bTypeInstructions, generateBTypeMachineCode),
   (uTypeInstructions, generateUTypeMachineCode), (jTypeInstructions, generateJTypeMachineCode),
   (csrRInstructions, generateCsrRTypeMachineCode), (csrIInstructions, generateCsrITypeMachineCode),
   (fdExtensionRTypeInstructions, generateFdRTypeMachineCode),
   (fdExtensionR1TypeInstructions, generateFdR1TypeMachineCode),
   (fdExtensionR2TypeInstructions, generateFdR2TypeMachineCode),
   (fdExtensionR3TypeInstructions, generateFdR3TypeMachineCode),
   (fdExtensionR4TypeInstructions, generateFdR4TypeMachineCode),
   (fdExtensionITypeInstructions, generateFdITypeMachineCode),
   (fdExtensionSTypeInstructions, generateFdSTypeMachineCode)]

theorem getD_find?_cons {α β : Type} {p : α → Bool} {f : α → β} {d : β} (a : α) (l : List α) :
    (((a :: l).find? p).map f).getD d = if p a then f a else ((l.find? p).map f).getD d := by
  rw [List.find?_cons]
  cases p a <;> rfl

theorem generateUnitCode_eq (block : ICUnit) :
    generateUnitCode block =
      ((generators.find? fun g => g.1.contains block.opcode).map fun g => g.2 block).getD
        (.error (.invalidInstructionType block.opcode)) := by
  unfold generators
  simp only [getD_find?_cons]
  rfl

theorem find?_of_pairwise {α : Type} {p : α → Bool} {l : List α} {a : α}
    (hl : l.Pairwise fun b c => p b = true → p c = false) (ha : a ∈ l) (hp : p a = true) :
    l.find? p = some a := by
  induction l with
  | nil => cases ha
  | cons b l ih =>
    obtain ⟨hb, hl⟩ := List.pairwise_cons.mp hl
    rcases List.mem_cons.mp ha with rfl | ha
    · exact List.find?_cons_of_pos hp
    · have hpb : ¬p b = true := fun h => Bool.noConfusion (hp.symm.trans (hb a ha h))
      rw [List.find?_cons_of_neg hpb, ih hl ha]

/-- No mnemonic is in two of the sets. -/
theorem pairwise_generators :
    (generators.map Prod.fst).Pairwise fun l l' => l.all (fun opcode => !l'.contains opcode) := by
  decide +kernel

/-- The generator of the set a mnemonic is in. -/
theorem generateUnitCode_of_mem {block : ICUnit} {l : List String}
    {f : ICUnit → Except AssemblerError (BitVec 32)} (hg : (l, f) ∈ generators)
    (h : l.contains block.opcode = true) : generateUnitCode block = f block := by
  have hdisjoint : generators.Pairwise fun g g' =>
      g.1.contains block.opcode = true → g'.1.contains block.opcode = false := by
    refine (List.pairwise_map.mp pairwise_generators).imp fun {g g'} hall hmem => ?_
    have hnot := List.all_eq_true.mp hall block.opcode (List.contains_iff_mem.mp hmem)
    rwa [Bool.not_eq_true'] at hnot
  rw [generateUnitCode_eq, find?_of_pairwise hdisjoint hg h]
  rfl

/-! ### Words of units -/

section Units

variable {block : ICUnit} {rd rs1 rs2 : BitVec 5} {imm : BitVec 32}

theorem generateI1_eq {encoding : I1TypeInstructionEncoding}
    (hmap : i1TypeInstructionEncodingMap.lookup block.opcode = some encoding)
    (hrd : extractRegisterIndex block.rd = .ok (rd.setWidth 32))
    (hrs1 : extractRegisterIndex block.rs1 = .ok (rs1.setWidth 32))
    (himm : immediateOf block.imm = .ok imm) :
    generateI1TypeMachineCode block =
      .ok (iType (imm.setWidth 12) rs1 encoding.funct3 rd encoding.opcode) := by
  unfold generateI1TypeMachineCode lookupAt
  rw [hmap, hrd, hrs1, himm]
  simp only [ok_bind, pure_eq_ok, iWord]

theorem generateU_eq {encoding : UTypeInstructionEncoding}
    (hmap : uTypeInstructionEncodingMap.lookup block.opcode = some encoding)
    (hrd : extractRegisterIndex block.rd = .ok (rd.setWidth 32))
    (himm : immediateOf block.imm = .ok imm) :
    generateUTypeMachineCode block = .ok (uType (imm.setWidth 20) rd encoding.opcode) := by
  unfold generateUTypeMachineCode lookupAt
  rw [hmap, hrd, himm]
  simp only [ok_bind, pure_eq_ok, uWord]

end Units

end RiscvSim

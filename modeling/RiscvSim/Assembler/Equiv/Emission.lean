import RiscvSim.Assembler.Equiv.CodeGenerator
import RiscvSim.Assembler.Equiv.Operands
import RiscvSim.Assembler.Parser

/-!
# Lines that emit instructions

The words of the units the parser makes for pseudo instructions, and what a line
adds to the intermediate code (`Parser.Emits`).
-/

namespace RiscvSim

open Lib Lib.Rv64i

/-! ### The words of the units -/

section Units

variable {block : ICUnit} {rd rs1 : BitVec 5} {imm : BitVec 32}

theorem generateUnitCode_of_i1Type {encoding : I1TypeInstructionEncoding}
    (hmap : i1TypeInstructionEncodingMap.lookup block.opcode = some encoding)
    (hmem : i1TypeInstructions.contains block.opcode = true)
    (hrd : extractRegisterIndex block.rd = .ok (rd.setWidth 32))
    (hrs1 : extractRegisterIndex block.rs1 = .ok (rs1.setWidth 32))
    (himm : immediateOf block.imm = .ok imm) :
    generateUnitCode block =
      .ok (iType (imm.setWidth 12) rs1 encoding.funct3 rd encoding.opcode) := by
  have hg : (i1TypeInstructions, generateI1TypeMachineCode) ∈ generators := by simp [generators]
  rw [generateUnitCode_of_mem hg hmem, generateI1_eq hmap hrd hrs1 himm]

theorem generateUnitCode_addi (hopcode : block.opcode = "addi")
    (hrd : extractRegisterIndex block.rd = .ok (rd.setWidth 32))
    (hrs1 : extractRegisterIndex block.rs1 = .ok (rs1.setWidth 32))
    (himm : immediateOf block.imm = .ok imm) :
    generateUnitCode block = .ok (Instruction.immediate .addi rd rs1 (imm.setWidth 12)).encode := by
  have hmap : i1TypeInstructionEncodingMap.lookup block.opcode = some ⟨0b0010011#7, 0b000#3⟩ := by
    rw [hopcode]
    decide +kernel
  rw [generateUnitCode_of_i1Type hmap (by rw [hopcode]; decide +kernel) hrd hrs1 himm]
  rfl

/-- The loads that take the name of a data label. -/
def labelLoads : List (String × LoadOp) :=
  [("lb", .lb), ("lh", .lh), ("lw", .lw), ("ld", .ld)]

theorem generateUnitCode_load {op : LoadOp} (hop : (block.opcode, op) ∈ labelLoads)
    (hrd : extractRegisterIndex block.rd = .ok (rd.setWidth 32))
    (hrs1 : extractRegisterIndex block.rs1 = .ok (rs1.setWidth 32))
    (himm : immediateOf block.imm = .ok imm) :
    generateUnitCode block = .ok (Instruction.load op rd rs1 (imm.setWidth 12)).encode := by
  have hall : ∀ entry ∈ labelLoads,
      i1TypeInstructionEncodingMap.lookup entry.1 = some ⟨0b0000011#7, entry.2.funct3⟩ ∧
        i1TypeInstructions.contains entry.1 = true := by
    decide +kernel
  obtain ⟨hmap, hmem⟩ := hall _ hop
  rw [generateUnitCode_of_i1Type hmap hmem hrd hrs1 himm]
  rfl

theorem generateUnitCode_of_uType {encoding : UTypeInstructionEncoding}
    (hmap : uTypeInstructionEncodingMap.lookup block.opcode = some encoding)
    (hmem : uTypeInstructions.contains block.opcode = true)
    (hrd : extractRegisterIndex block.rd = .ok (rd.setWidth 32))
    (himm : immediateOf block.imm = .ok imm) :
    generateUnitCode block = .ok (uType (imm.setWidth 20) rd encoding.opcode) := by
  have hg : (uTypeInstructions, generateUTypeMachineCode) ∈ generators := by simp [generators]
  rw [generateUnitCode_of_mem hg hmem, generateU_eq hmap hrd himm]

theorem generateUnitCode_lui (hopcode : block.opcode = "lui")
    (hrd : extractRegisterIndex block.rd = .ok (rd.setWidth 32))
    (himm : immediateOf block.imm = .ok imm) :
    generateUnitCode block = .ok (Instruction.lui rd (imm.setWidth 20)).encode :=
  generateUnitCode_of_uType (by rw [hopcode]; decide +kernel) (by rw [hopcode]; decide +kernel)
    hrd himm

theorem generateUnitCode_auipc (hopcode : block.opcode = "auipc")
    (hrd : extractRegisterIndex block.rd = .ok (rd.setWidth 32))
    (himm : immediateOf block.imm = .ok imm) :
    generateUnitCode block = .ok (Instruction.auipc rd (imm.setWidth 20)).encode :=
  generateUnitCode_of_uType (by rw [hopcode]; decide +kernel) (by rw [hopcode]; decide +kernel)
    hrd himm

end Units

namespace Parser

variable {cfg : VmConfig} {p p' : Parser} {l : List Instruction} {rd : BitVec 5}

/-! ### Emitted units -/

/-- `p'` is `p` with the units of the instructions `l` appended, and no error. -/
structure Emits (p p' : Parser) (l : List Instruction) : Prop where
  errors : p'.errors = p.errors
  symbolTable : p'.symbolTable = p.symbolTable
  units : ∃ units, p'.intermediateCode = p.intermediateCode ++ units ∧
    generateMachineCode units = .ok (l.map Instruction.encode)

theorem Emits.refl (p : Parser) : Emits p p [] where
  errors := rfl
  symbolTable := rfl
  units := ⟨[], (List.append_nil _).symm, rfl⟩

theorem Emits.emit (h : Emits p p' l) {block : ICUnit} {i : Instruction} (resolved : Bool)
    (hcode : generateUnitCode block = .ok i.encode) :
    Emits p (p'.emit block resolved) (l ++ [i]) where
  errors := h.errors
  symbolTable := h.symbolTable
  units := by
    obtain ⟨units, happend, hunits⟩ := h.units
    refine ⟨units ++ [(block, resolved)], ?_, ?_⟩
    · show p'.intermediateCode ++ [(block, resolved)] = _
      rw [happend, List.append_assoc]
    · unfold generateMachineCode at hunits ⊢
      rw [List.mapM_append, hunits, ok_bind, List.mapM_cons, hcode, List.map_append]
      rfl

theorem Emits.skipCurrentLine (h : Emits p p' l) : Emits p p'.skipCurrentLine l :=
  ⟨h.errors, h.symbolTable, h.units⟩

/-- The words of the units that have been appended. -/
theorem Emits.code (h : Emits p p' l) :
    generateMachineCode (p'.intermediateCode.drop p.intermediateCode.length) =
      .ok (l.map Instruction.encode) := by
  obtain ⟨units, happend, hunits⟩ := h.units
  rw [happend, List.drop_left, hunits]

/-! ### Syntaxes -/

theorem parseSyntaxes_of_true {type : SyntaxType} {types : List SyntaxType}
    (h : p.parseSyntax cfg type = .ok (true, p')) :
    parseSyntaxes cfg (type :: types) p = .ok (true, p') := by
  unfold parseSyntaxes
  rw [h]
  rfl

theorem parseSyntaxes_of_false {type : SyntaxType} {types : List SyntaxType}
    (h : p.parseSyntax cfg type = .ok (false, p)) :
    parseSyntaxes cfg (type :: types) p = parseSyntaxes cfg types p := by
  rw [parseSyntaxes, h]
  rfl

/-- An instruction one of whose syntaxes fits. -/
theorem parseTextItem_of_valid (htype : p.currentToken.type = .opcode)
    (henabled : disabledExtension cfg p.currentToken.value = none)
    (h : parseSyntaxes cfg (syntaxesOf p.currentToken.value) p = .ok (true, p')) :
    p.parseTextItem cfg = .ok p' := by
  unfold parseTextItem parseInstruction
  rw [htype, if_neg (by decide), if_pos rfl, henabled]
  show parseSyntaxes cfg (syntaxesOf p.currentToken.value) p >>= _ = _
  rw [h]
  rfl

/-- An instruction one of whose syntaxes throws. -/
theorem parseTextItem_of_error (htype : p.currentToken.type = .opcode)
    (henabled : disabledExtension cfg p.currentToken.value = none) {e : AssemblerError}
    (h : parseSyntaxes cfg (syntaxesOf p.currentToken.value) p = .error e) :
    p.parseTextItem cfg = .error e := by
  unfold parseTextItem parseInstruction
  rw [htype, if_neg (by decide), if_pos rfl, henabled]
  show parseSyntaxes cfg (syntaxesOf p.currentToken.value) p >>= _ = _
  rw [h]
  rfl

/-- A line whose mnemonic has the syntax of a pseudo instruction only. -/
theorem parseTextItem_of_pseudo (htype : p.currentToken.type = .opcode)
    (henabled : disabledExtension cfg p.currentToken.value = none)
    (hforms : syntaxesOf p.currentToken.value = [.pseudo])
    (h : p.parsePseudo cfg = .ok (true, p')) : p.parseTextItem cfg = .ok p' := by
  refine parseTextItem_of_valid htype henabled ?_
  rw [hforms]
  exact parseSyntaxes_of_true h

/-! ### Operands -/

theorem exists_regName {n : Nat} (h : registerNumber (p.peekToken n).value = .ok (rd.setWidth 32)) :
    ∃ reg, p.regName n = .ok reg ∧
      extractRegisterIndex (truncated 5 reg) = .ok (rd.setWidth 32) :=
  bind_eq_ok.mp h

theorem numberAt_of_toText {n : Nat} {value : Int} (h : (p.peekToken n).value = toText value)
    (hlow : -2 ^ 63 ≤ value) (hhigh : value < 2 ^ 63) : p.numberAt n = .ok value := by
  unfold numberAt
  rw [h, toList_toText, stoll_toDecimal hlow hhigh]
  rfl

end Parser

end RiscvSim

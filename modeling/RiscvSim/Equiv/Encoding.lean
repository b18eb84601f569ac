import RiscvSim.Assembler.Equiv.Files
import RiscvSim.Assembler.Equiv.Patterns
import RiscvSim.Vm.Equiv.Immediates

/-!
# Encoding and decoding

The fields of a word that the machines extract, and the number their immediate
generator makes of it, are the operands of the unit it was generated from
(`CodeClass.Decodes`).

* **`assembleFile_decodes`**: the words of an assembled file say what its units say.
* **`sameUnits_of_textBuffer_eq`**: files with the same words have the same instructions.
-/

namespace RiscvSim

open Lib Rv64i

/-! ### Numbers in fields -/

/-- A signed number that fits a field survives the sign extension. -/
theorem signExtend_setWidth_ofInt {n : Nat} (hn : n ≤ 32) {imm : Int}
    (hlow : -((2 ^ n : Nat) : Int) ≤ 2 * imm) (hhigh : 2 * imm < ((2 ^ n : Nat) : Int)) :
    ((BitVec.ofInt 32 imm).setWidth n).signExtend 32 = BitVec.ofInt 32 imm := by
  have hle : 2 ^ n ≤ 2 ^ 32 := Nat.pow_le_pow_right (by decide) hn
  refine BitVec.eq_of_toInt_eq ?_
  rw [BitVec.toInt_signExtend_of_le hn, toInt_setWidth_of_le hn, BitVec.toInt_ofInt,
    Int.bmod_bmod_of_dvd (Nat.pow_dvd_pow 2 hn), Int.bmod_eq_of_le (by omega) (by omega),
    Int.bmod_eq_of_le (by omega) (by omega)]

/-- A number that fits a field survives the extension by zeros. -/
theorem setWidth_setWidth_ofInt {n : Nat} (hn : n ≤ 32) {imm : Int} (hlow : 0 ≤ imm)
    (hhigh : imm < ((2 ^ n : Nat) : Int)) :
    ((BitVec.ofInt 32 imm).setWidth n).setWidth 32 = BitVec.ofInt 32 imm := by
  have hle : 2 ^ n ≤ 2 ^ 32 := Nat.pow_le_pow_right (by decide) hn
  apply BitVec.eq_of_toNat_eq
  rw [BitVec.toNat_setWidth, BitVec.toNat_setWidth, BitVec.toNat_ofInt,
    Nat.mod_eq_of_lt (a := _ % 2 ^ n), Nat.mod_eq_of_lt]
  all_goals omega

/-- A distance in half words keeps all bits but the lowest. -/
theorem signExtend_halfWords {n : Nat} (hpos : 0 < n) (hn : n < 32) (y : BitVec (n + 1)) :
    ((y.signExtend 32).extractLsb' 1 n ++ 0#1).signExtend 32 = y.signExtend 32 &&& ~~~1#32 := by
  have hfield : (y.signExtend 32).extractLsb' 1 n ++ 0#1 = y &&& ~~~1#(n + 1) := by
    refine BitVec.eq_of_getLsbD_eq fun i hi => ?_
    rw [BitVec.getLsbD_append, BitVec.getLsbD_and, BitVec.getLsbD_not, BitVec.getLsbD_one]
    cases i with
    | zero => simp
    | succ i =>
      have hi' : i < n := by omega
      simp [BitVec.getLsbD_signExtend, hi', show 1 + i = i + 1 from Nat.add_comm 1 i]
      omega
  have hmsb : (1#(n + 1)).msb = false := by
    rw [BitVec.msb_one, decide_eq_false_iff_not]
    omega
  have hone : (1#(n + 1)).signExtend 32 = 1#32 := by
    rw [BitVec.signExtend_eq_setWidth_of_msb_false hmsb]
    exact BitVec.setWidth_ofNat_one_eq_ofNat_one_of_lt (by omega)
  rw [hfield, BitVec.signExtend_and, BitVec.signExtend_not (by omega), hone]

/-- A distance that fits its field loses its lowest bit. -/
theorem halfWords_ofInt {n : Nat} (hpos : 0 < n) (hn : n < 32) {imm : Int}
    (hlow : -((2 ^ (n + 1) : Nat) : Int) ≤ 2 * imm)
    (hhigh : 2 * imm < ((2 ^ (n + 1) : Nat) : Int)) :
    ((BitVec.ofInt 32 imm).extractLsb' 1 n ++ 0#1).signExtend 32 =
      BitVec.ofInt 32 imm &&& ~~~1#32 := by
  have hfits := signExtend_setWidth_ofInt (n := n + 1) (by omega) hlow hhigh
  have hwords := signExtend_halfWords hpos hn ((BitVec.ofInt 32 imm).setWidth (n + 1))
  rwa [hfits] at hwords

/-- A mask of low bits is a field. -/
theorem and_mask_eq {m : Nat} (n : Nat) (x : BitVec m) :
    x &&& BitVec.ofNat m (2 ^ n - 1) = (x.setWidth n).setWidth m := by
  refine BitVec.eq_of_getLsbD_eq fun i hi => ?_
  rw [BitVec.getLsbD_and, BitVec.getLsbD_ofNat, Nat.testBit_two_pow_sub_one,
    BitVec.getLsbD_setWidth, BitVec.getLsbD_setWidth]
  by_cases hlt : i < n <;> simp [hlt, hi]

/-! ### The immediates the machines read -/

section Immediates

variable {w : BitVec 32}

/-- A field is a shifted word behind a mask. -/
theorem ushiftRight_and_mask (w : BitVec 32) (start n : Nat) :
    (w >>> start) &&& BitVec.ofNat 32 (2 ^ n - 1) = (w.extractLsb' start n).setWidth 32 := by
  rw [and_mask_eq]
  congr 1
  refine BitVec.eq_of_getLsbD_eq fun i hi => ?_
  rw [BitVec.getLsbD_setWidth, BitVec.getLsbD_ushiftRight, BitVec.getLsbD_extractLsb']

/-- ADDIW, which the generator leaves out, has the field of the others. -/
theorem iTypeImmediate_eq {opcode : BitVec 7}
    (h : opcode = 0b0011011#7 ∨ IsITypeOpcode opcode) (hopcode : opcodeOf w = opcode) :
    iTypeImmediate w = (w.extractLsb' 20 12).signExtend 32 := by
  unfold iTypeImmediate
  split
  case isTrue => rfl
  case isFalse hne =>
    subst hopcode
    exact immGenerator_of_iType (h.resolve_left hne)

/-- A floating-point load has the immediate of the other loads. -/
theorem immGenerator_of_fdIType (h : opcodeOf w = 0b0000111#7) :
    immGenerator w = (w.extractLsb' 20 12).signExtend 32 := by
  have himm : immGenerator w = signExtendBits ((w >>> 20) &&& 0xFFF#32) 12 := by
    unfold immGenerator
    rw [h]
    rfl
  have hfield : (w >>> 20) &&& 0xFFF#32 = (w.extractLsb' 20 12).setWidth 32 :=
    ushiftRight_and_mask w 20 12
  rw [himm, hfield, signExtendBits_setWidth (by decide) (by decide)]

/-- A floating-point store has the immediate of the other stores. -/
theorem immGenerator_of_fdSType (h : opcodeOf w = 0b0100111#7) :
    immGenerator w = (w.extractLsb' 25 7 ++ w.extractLsb' 7 5).signExtend 32 := by
  have himm : immGenerator w = signExtendBits
      (((w >>> 7) &&& 0x1F#32) ||| (((w >>> 25) &&& 0x7F#32) <<< 5)) 12 := by
    unfold immGenerator
    rw [h]
    rfl
  have hlow : (w >>> 7) &&& 0x1F#32 = (w.extractLsb' 7 5).setWidth 32 :=
    ushiftRight_and_mask w 7 5
  have hhigh : (w >>> 25) &&& 0x7F#32 = (w.extractLsb' 25 7).setWidth 32 :=
    ushiftRight_and_mask w 25 7
  have hfield : ((w.extractLsb' 7 5).setWidth 32 ||| (w.extractLsb' 25 7).setWidth 32 <<< 5) =
      (w.extractLsb' 25 7 ++ w.extractLsb' 7 5).setWidth 32 := by
    refine BitVec.eq_of_getLsbD_eq fun i hi => ?_
    rw [BitVec.getLsbD_or, BitVec.getLsbD_shiftLeft, BitVec.getLsbD_setWidth,
      BitVec.getLsbD_setWidth, BitVec.getLsbD_setWidth, BitVec.getLsbD_append]
    by_cases hlt : i < 5
    · simp [hlt, hi]
    · have hi' : i - 5 < 32 := by omega
      simp [hlt, hi, hi']
  rw [himm, hlow, hhigh, hfield]
  exact signExtendBits_setWidth (by decide) (by decide) _

theorem immGenerator_of_uType (h : opcodeOf w = 0b0110111#7 ∨ opcodeOf w = 0b0010111#7) :
    immGenerator w = (w.extractLsb' 12 20).setWidth 32 := by
  have himm : immGenerator w = (w &&& 0xFFFFF000#32) >>> 12 := by
    unfold immGenerator
    rcases h with h | h <;> rw [h] <;> rfl
  have hfield : (w &&& 0xFFFFF000#32) >>> 12 = (w >>> 12) &&& 0xFFFFF#32 := by
    rw [BitVec.ushiftRight_and_distrib]
    rfl
  rw [himm, hfield]
  exact ushiftRight_and_mask w 12 20

end Immediates

/-! ### The classes -/

namespace CodeClass

variable {c : CodeClass} {block : ICUnit} {opcode funct7 : BitVec 7} {funct3 : BitVec 3}
  {rd rs1 rs2 rs3 : BitVec 5} {imm : BitVec 32}

/-- A word with three registers. -/
theorem decodes_rFormat
    (hpattern : (block.opcode, { opcode, funct3 := some funct3, funct7 := some funct7 }) ∈
      c.patterns)
    (hrd : extractRegisterIndex block.rd = .ok (rd.setWidth 32))
    (hrs1 : extractRegisterIndex block.rs1 = .ok (rs1.setWidth 32))
    (hrs2 : extractRegisterIndex block.rs2 = .ok (rs2.setWidth 32))
    (hrs3 : c.rs3 = false) (himm : c.range.isSome = false) (hcsr : c.csr = false)
    (hrm : c.rm = false) :
    c.Decodes block (Rv64i.rType funct7 rs2 rs1 funct3 rd opcode) := by
  obtain ⟨hopcode, hrd', hfunct3, hrs1', hrs2', hfunct7⟩ :=
    @rType_fields funct7 opcode rs2 rs1 rd funct3
  set w := Rv64i.rType funct7 rs2 rs1 funct3 rd opcode
  constructor
  case pattern =>
    exact ⟨_, hpattern, hopcode, fun _ h => hfunct3.trans (Option.some.inj h),
      fun _ h => hfunct7.trans (Option.some.inj h), nofun, nofun, nofun⟩
  case rd => exact fun _ => by rw [rdOf, hrd', hrd]
  case rs1 => exact fun _ => by rw [rs1Of, hrs1', hrs1]
  case rs2 => exact fun _ => by rw [rs2Of, hrs2', hrs2]
  case rs3 => exact fun h => Bool.noConfusion (hrs3.symm.trans h)
  case imm => exact fun h => Bool.noConfusion (himm.symm.trans h)
  case csr => exact fun h => Bool.noConfusion (hcsr.symm.trans h)
  case rm => exact fun h => Bool.noConfusion (hrm.symm.trans h)

/-- A word with two registers and an immediate. -/
theorem decodes_iFormat
    (hpattern : (block.opcode, { opcode, funct3 := some funct3 }) ∈ c.patterns)
    (hrd : extractRegisterIndex block.rd = .ok (rd.setWidth 32))
    (hrs1 : extractRegisterIndex block.rs1 = .ok (rs1.setWidth 32))
    (himm : immediateOf block.imm = .ok imm)
    (hread : c.read (Rv64i.iType (imm.setWidth 12) rs1 funct3 rd opcode) = c.kept imm)
    (hrs2 : c.rs2 = false) (hrs3 : c.rs3 = false) (hcsr : c.csr = false) (hrm : c.rm = false) :
    c.Decodes block (Rv64i.iType (imm.setWidth 12) rs1 funct3 rd opcode) := by
  obtain ⟨hopcode, hrd', hfunct3, hrs1', -⟩ := @iType_fields opcode rs1 rd funct3 (imm.setWidth 12)
  set w := Rv64i.iType (imm.setWidth 12) rs1 funct3 rd opcode
  constructor
  case pattern =>
    exact ⟨_, hpattern, hopcode, fun _ h => hfunct3.trans (Option.some.inj h), nofun, nofun, nofun,
      nofun⟩
  case rd => exact fun _ => by rw [rdOf, hrd', hrd]
  case rs1 => exact fun _ => by rw [rs1Of, hrs1', hrs1]
  case imm => exact fun _ => by rw [himm, hread]; rfl
  case rs2 => exact fun h => Bool.noConfusion (hrs2.symm.trans h)
  case rs3 => exact fun h => Bool.noConfusion (hrs3.symm.trans h)
  case csr => exact fun h => Bool.noConfusion (hcsr.symm.trans h)
  case rm => exact fun h => Bool.noConfusion (hrm.symm.trans h)

/-- A word whose immediate is in two fields. -/
theorem decodes_sFormat
    (hpattern : (block.opcode, { opcode, funct3 := some funct3 }) ∈ c.patterns)
    (hrs1 : extractRegisterIndex block.rs1 = .ok (rs1.setWidth 32))
    (hrs2 : extractRegisterIndex block.rs2 = .ok (rs2.setWidth 32))
    (himm : immediateOf block.imm = .ok imm)
    (hread : c.read (Rv64i.sType (imm.setWidth 12) rs2 rs1 funct3 opcode) = c.kept imm)
    (hrd : c.rd = false) (hrs3 : c.rs3 = false) (hcsr : c.csr = false) (hrm : c.rm = false) :
    c.Decodes block (Rv64i.sType (imm.setWidth 12) rs2 rs1 funct3 opcode) := by
  obtain ⟨hopcode, hfunct3, hrs1', hrs2', -⟩ :=
    @sType_fields opcode rs2 rs1 funct3 (imm.setWidth 12)
  set w := Rv64i.sType (imm.setWidth 12) rs2 rs1 funct3 opcode
  constructor
  case pattern =>
    exact ⟨_, hpattern, hopcode, fun _ h => hfunct3.trans (Option.some.inj h), nofun, nofun, nofun,
      nofun⟩
  case rs1 => exact fun _ => by rw [rs1Of, hrs1', hrs1]
  case rs2 => exact fun _ => by rw [rs2Of, hrs2', hrs2]
  case imm => exact fun _ => by rw [himm, hread]; rfl
  case rd => exact fun h => Bool.noConfusion (hrd.symm.trans h)
  case rs3 => exact fun h => Bool.noConfusion (hrs3.symm.trans h)
  case csr => exact fun h => Bool.noConfusion (hcsr.symm.trans h)
  case rm => exact fun h => Bool.noConfusion (hrm.symm.trans h)

theorem decodes_rType (h : UnitClass.rType.Fits block) :
    ∃ w, generateRTypeMachineCode block = .ok w ∧ rType.Decodes block w := by
  obtain ⟨e, he, hpattern⟩ := exists_pattern (mem_codeClasses_of_getElem? 0 rfl)
    rTypeInstructionEncodingMap
    (fun e => { opcode := e.opcode, funct3 := some e.funct3, funct7 := some e.funct7 }) rfl
    h.mnemonic
  obtain ⟨rd, hrd⟩ := h.rd rfl
  obtain ⟨rs1, hrs1⟩ := h.rs1 rfl
  obtain ⟨rs2, hrs2⟩ := h.rs2 rfl
  refine ⟨_, ?_, decodes_rFormat hpattern hrd hrs1 hrs2 rfl rfl rfl rfl⟩
  unfold generateRTypeMachineCode
  rw [he, hrd, hrs1, hrs2]
  exact congrArg Except.ok (rWord ..)

theorem decodes_fdRType (h : UnitClass.fdRType.Fits block) :
    ∃ w, generateFdRTypeMachineCode block = .ok w ∧ fdRType.Decodes block w := by
  obtain ⟨e, he, hpattern⟩ := exists_pattern (mem_codeClasses_of_getElem? 10 rfl)
    fdRTypeInstructionEncodingMap
    (fun e => { opcode := e.opcode, funct3 := some e.funct3, funct7 := some e.funct7 }) rfl
    h.mnemonic
  obtain ⟨rd, hrd⟩ := h.rd rfl
  obtain ⟨rs1, hrs1⟩ := h.rs1 rfl
  obtain ⟨rs2, hrs2⟩ := h.rs2 rfl
  refine ⟨_, ?_, decodes_rFormat hpattern hrd hrs1 hrs2 rfl rfl rfl rfl⟩
  unfold generateFdRTypeMachineCode
  rw [he, hrd, hrs1, hrs2]
  exact congrArg Except.ok (rWord ..)

theorem decodes_i1Type (h : UnitClass.i1Type.Fits block) :
    ∃ w, generateI1TypeMachineCode block = .ok w ∧ i1Type.Decodes block w := by
  obtain ⟨e, he, hpattern⟩ := exists_pattern (mem_codeClasses_of_getElem? 1 rfl)
    i1TypeInstructionEncodingMap
    (fun e => { opcode := e.opcode, funct3 := some e.funct3 }) rfl h.mnemonic
  obtain ⟨rd, hrd⟩ := h.rd rfl
  obtain ⟨rs1, hrs1⟩ := h.rs1 rfl
  obtain ⟨imm, hlow, hhigh, himm⟩ := h.imm _ rfl
  have hlow : -2048 ≤ imm := hlow
  have hhigh : imm ≤ 2047 := hhigh
  refine ⟨_, ?_, decodes_iFormat hpattern hrd hrs1 himm ?_ rfl rfl rfl rfl⟩
  · unfold generateI1TypeMachineCode
    rw [he, hrd, hrs1, himm]
    exact congrArg Except.ok (iWord ..)
  · obtain ⟨hopcode, -, -, -, hfield⟩ :=
      @iType_fields e.opcode rs1 rd e.funct3 ((BitVec.ofInt 32 imm).setWidth 12)
    set w := Rv64i.iType ((BitVec.ofInt 32 imm).setWidth 12) rs1 e.funct3 rd e.opcode
    have hall : ∀ entry ∈ i1TypeInstructionEncodingMap,
        entry.2.opcode = 0b0011011#7 ∨ entry.2.opcode = 0b0010011#7 ∨
          entry.2.opcode = 0b0000011#7 ∨ entry.2.opcode = 0b1100111#7 := by
      decide
    show iTypeImmediate w = BitVec.ofInt 32 imm
    rw [iTypeImmediate_eq (hall _ (mem_of_lookupAt he)) hopcode, hfield,
      signExtend_setWidth_ofInt (by decide) (by omega) (by omega)]

theorem decodes_fdIType (h : UnitClass.fdIType.Fits block) :
    ∃ w, generateFdITypeMachineCode block = .ok w ∧ fdIType.Decodes block w := by
  obtain ⟨e, he, hpattern⟩ := exists_pattern (mem_codeClasses_of_getElem? 15 rfl)
    fdITypeInstructionEncodingMap
    (fun e => { opcode := e.opcode, funct3 := some e.funct3 }) rfl h.mnemonic
  obtain ⟨rd, hrd⟩ := h.rd rfl
  obtain ⟨rs1, hrs1⟩ := h.rs1 rfl
  obtain ⟨imm, hlow, hhigh, himm⟩ := h.imm _ rfl
  have hlow : -2048 ≤ imm := hlow
  have hhigh : imm ≤ 2047 := hhigh
  refine ⟨_, ?_, decodes_iFormat hpattern hrd hrs1 himm ?_ rfl rfl rfl rfl⟩
  · unfold generateFdITypeMachineCode
    rw [he, hrd, hrs1, himm]
    exact congrArg Except.ok (iWord ..)
  · obtain ⟨hopcode, -, -, -, hfield⟩ :=
      @iType_fields e.opcode rs1 rd e.funct3 ((BitVec.ofInt 32 imm).setWidth 12)
    set w := Rv64i.iType ((BitVec.ofInt 32 imm).setWidth 12) rs1 e.funct3 rd e.opcode
    have hall : ∀ entry ∈ fdITypeInstructionEncodingMap, entry.2.opcode = 0b0000111#7 := by
      decide
    show immGenerator w = BitVec.ofInt 32 imm
    rw [immGenerator_of_fdIType (hopcode.trans (hall _ (mem_of_lookupAt he))), hfield,
      signExtend_setWidth_ofInt (by decide) (by omega) (by omega)]

theorem decodes_i2Type (h : UnitClass.i2Type.Fits block) :
    ∃ w, generateI2TypeMachineCode block = .ok w ∧ i2Type.Decodes block w := by
  obtain ⟨e, he, hpattern⟩ := exists_pattern (mem_codeClasses_of_getElem? 2 rfl)
    i2TypeInstructionEncodingMap
    (fun e => { opcode := e.opcode, funct3 := some e.funct3, funct6 := some e.funct6 }) rfl
    h.mnemonic
  obtain ⟨rd, hrd⟩ := h.rd rfl
  obtain ⟨rs1, hrs1⟩ := h.rs1 rfl
  obtain ⟨imm, hlow, hhigh, himm⟩ := h.imm _ rfl
  have hlow : 0 ≤ imm := hlow
  have hhigh : imm ≤ 31 := hhigh
  obtain ⟨shamt, hshamt⟩ : ∃ shamt : BitVec 6, BitVec.ofInt 32 imm = shamt.setWidth 32 :=
    ⟨_, (setWidth_setWidth_ofInt (by decide) hlow (by omega)).symm⟩
  rw [hshamt] at himm
  have hword : generateI2TypeMachineCode block =
      .ok (Rv64i.iType (e.funct6 ++ shamt) rs1 e.funct3 rd e.opcode) := by
    unfold generateI2TypeMachineCode
    rw [he, hrd, hrs1, himm]
    exact congrArg Except.ok (shiftWord ..)
  refine ⟨_, hword, ?_⟩
  obtain ⟨hopcode, hrd', hfunct3, hrs1', -⟩ :=
    @iType_fields e.opcode rs1 rd e.funct3 (e.funct6 ++ shamt)
  obtain ⟨hfield, hfunct6⟩ := @shift_fields e.opcode rs1 rd e.funct3 e.funct6 shamt
  set w := Rv64i.iType (e.funct6 ++ shamt) rs1 e.funct3 rd e.opcode
  constructor
  case pattern =>
    exact ⟨_, hpattern, hopcode, fun _ h => hfunct3.trans (Option.some.inj h), nofun,
      fun _ h => hfunct6.trans (Option.some.inj h), nofun, nofun⟩
  case rd => exact fun _ => by rw [rdOf, hrd', hrd]
  case rs1 => exact fun _ => by rw [rs1Of, hrs1', hrs1]
  case imm =>
    intro _
    show _ = Except.ok ((w.extractLsb' 20 6).setWidth 32)
    rw [himm, hfield]
    rfl
  all_goals exact nofun

theorem decodes_i3Type (h : UnitClass.i3Type.Fits block) :
    ∃ w, generateI3TypeMachineCode block = .ok w ∧ i3Type.Decodes block w := by
  obtain ⟨e, he, hpattern⟩ := exists_pattern (mem_codeClasses_of_getElem? 3 rfl)
    i3TypeInstructionEncodingMap
    (fun e => { opcode := e.opcode, funct3 := some e.funct3 }) rfl h.mnemonic
  refine ⟨Rv64i.rType 0#7 0#5 0#5 e.funct3 0#5 e.opcode, ?_, ?_⟩
  case refine_1 =>
    unfold generateI3TypeMachineCode
    rw [he]
    refine congrArg Except.ok (Eq.trans ?_ (rWord ..))
    simp
  obtain ⟨hopcode, -, hfunct3, -⟩ := @rType_fields 0#7 e.opcode 0#5 0#5 0#5 e.funct3
  constructor
  case pattern =>
    exact ⟨_, hpattern, hopcode, fun _ h => hfunct3.trans (Option.some.inj h), nofun, nofun, nofun,
      nofun⟩
  all_goals exact nofun

theorem decodes_sType (h : UnitClass.sType.Fits block) :
    ∃ w, generateSTypeMachineCode block = .ok w ∧ sType.Decodes block w := by
  obtain ⟨e, he, hpattern⟩ := exists_pattern (mem_codeClasses_of_getElem? 4 rfl)
    sTypeInstructionEncodingMap
    (fun e => { opcode := e.opcode, funct3 := some e.funct3 }) rfl h.mnemonic
  obtain ⟨rs1, hrs1⟩ := h.rs1 rfl
  obtain ⟨rs2, hrs2⟩ := h.rs2 rfl
  obtain ⟨imm, hlow, hhigh, himm⟩ := h.imm _ rfl
  have hlow : -2048 ≤ imm := hlow
  have hhigh : imm ≤ 2047 := hhigh
  refine ⟨_, ?_, decodes_sFormat hpattern hrs1 hrs2 himm ?_ rfl rfl rfl rfl⟩
  · unfold generateSTypeMachineCode
    rw [he, hrs1, hrs2, himm]
    exact congrArg Except.ok (sWord ..)
  · obtain ⟨hopcode, -, -, -, hfield⟩ :=
      @sType_fields e.opcode rs2 rs1 e.funct3 ((BitVec.ofInt 32 imm).setWidth 12)
    set w := Rv64i.sType ((BitVec.ofInt 32 imm).setWidth 12) rs2 rs1 e.funct3 e.opcode
    have hall : ∀ entry ∈ sTypeInstructionEncodingMap, entry.2.opcode = 0b0100011#7 := by
      decide
    show immGenerator w = BitVec.ofInt 32 imm
    rw [immGenerator_of_sType (hopcode.trans (hall _ (mem_of_lookupAt he))), hfield,
      signExtend_setWidth_ofInt (by decide) (by omega) (by omega)]

theorem decodes_fdSType (h : UnitClass.fdSType.Fits block) :
    ∃ w, generateFdSTypeMachineCode block = .ok w ∧ fdSType.Decodes block w := by
  obtain ⟨e, he, hpattern⟩ := exists_pattern (mem_codeClasses_of_getElem? 16 rfl)
    fdSTypeInstructionEncodingMap
    (fun e => { opcode := e.opcode, funct3 := some e.funct3 }) rfl h.mnemonic
  obtain ⟨rs1, hrs1⟩ := h.rs1 rfl
  obtain ⟨rs2, hrs2⟩ := h.rs2 rfl
  obtain ⟨imm, hlow, hhigh, himm⟩ := h.imm _ rfl
  have hlow : -2048 ≤ imm := hlow
  have hhigh : imm ≤ 2047 := hhigh
  refine ⟨_, ?_, decodes_sFormat hpattern hrs1 hrs2 himm ?_ rfl rfl rfl rfl⟩
  · unfold generateFdSTypeMachineCode
    rw [he, hrs1, hrs2, himm]
    exact congrArg Except.ok (sWord ..)
  · obtain ⟨hopcode, -, -, -, hfield⟩ :=
      @sType_fields e.opcode rs2 rs1 e.funct3 ((BitVec.ofInt 32 imm).setWidth 12)
    set w := Rv64i.sType ((BitVec.ofInt 32 imm).setWidth 12) rs2 rs1 e.funct3 e.opcode
    have hall : ∀ entry ∈ fdSTypeInstructionEncodingMap, entry.2.opcode = 0b0100111#7 := by
      decide
    show immGenerator w = BitVec.ofInt 32 imm
    rw [immGenerator_of_fdSType (hopcode.trans (hall _ (mem_of_lookupAt he))), hfield,
      signExtend_setWidth_ofInt (by decide) (by omega) (by omega)]

theorem decodes_bType (h : UnitClass.bType.Fits block) :
    ∃ w, generateBTypeMachineCode block = .ok w ∧ bType.Decodes block w := by
  obtain ⟨e, he, hpattern⟩ := exists_pattern (mem_codeClasses_of_getElem? 5 rfl)
    bTypeInstructionEncodingMap
    (fun e => { opcode := e.opcode, funct3 := some e.funct3 }) rfl h.mnemonic
  obtain ⟨rs1, hrs1⟩ := h.rs1 rfl
  obtain ⟨rs2, hrs2⟩ := h.rs2 rfl
  obtain ⟨imm, hlow, hhigh, himm⟩ := h.imm _ rfl
  have hlow : -4096 ≤ imm := hlow
  have hhigh : imm ≤ 4095 := hhigh
  have hword : generateBTypeMachineCode block =
      .ok (Rv64i.bType ((BitVec.ofInt 32 imm).extractLsb' 1 12) rs2 rs1 e.funct3 e.opcode) := by
    unfold generateBTypeMachineCode
    rw [he, hrs1, hrs2, himm]
    exact congrArg Except.ok (bWord ..)
  refine ⟨_, hword, ?_⟩
  obtain ⟨hopcode, hfunct3, hrs1', hrs2', hfield⟩ :=
    @bType_fields e.opcode rs2 rs1 e.funct3 ((BitVec.ofInt 32 imm).extractLsb' 1 12)
  set w := Rv64i.bType ((BitVec.ofInt 32 imm).extractLsb' 1 12) rs2 rs1 e.funct3 e.opcode
  have hall : ∀ entry ∈ bTypeInstructionEncodingMap, entry.2.opcode = 0b1100011#7 := by
    decide
  have hread : immGenerator w = BitVec.ofInt 32 imm &&& ~~~1#32 := by
    rw [immGenerator_of_bType (hopcode.trans (hall _ (mem_of_lookupAt he))), hfield]
    exact halfWords_ofInt (n := 12) (by decide) (by decide) (by omega) (by omega)
  constructor
  case pattern =>
    exact ⟨_, hpattern, hopcode, fun _ h => hfunct3.trans (Option.some.inj h), nofun, nofun, nofun,
      nofun⟩
  case rs1 => exact fun _ => by rw [rs1Of, hrs1', hrs1]
  case rs2 => exact fun _ => by rw [rs2Of, hrs2', hrs2]
  case imm =>
    intro _
    rw [himm]
    exact congrArg Except.ok hread.symm
  all_goals exact nofun

theorem decodes_uType (h : UnitClass.uType.Fits block) :
    ∃ w, generateUTypeMachineCode block = .ok w ∧ uType.Decodes block w := by
  obtain ⟨e, he, hpattern⟩ := exists_pattern (mem_codeClasses_of_getElem? 6 rfl)
    uTypeInstructionEncodingMap
    (fun e => { opcode := e.opcode }) rfl h.mnemonic
  obtain ⟨rd, hrd⟩ := h.rd rfl
  obtain ⟨imm, -, -, himm⟩ := h.imm _ rfl
  have hword : generateUTypeMachineCode block =
      .ok (Rv64i.uType ((BitVec.ofInt 32 imm).setWidth 20) rd e.opcode) := by
    unfold generateUTypeMachineCode
    rw [he, hrd, himm]
    exact congrArg Except.ok (uWord ..)
  refine ⟨_, hword, ?_⟩
  obtain ⟨hopcode, hrd', hfield⟩ :=
    @uType_fields e.opcode rd ((BitVec.ofInt 32 imm).setWidth 20)
  set w := Rv64i.uType ((BitVec.ofInt 32 imm).setWidth 20) rd e.opcode
  have hall : ∀ entry ∈ uTypeInstructionEncodingMap,
      entry.2.opcode = 0b0110111#7 ∨ entry.2.opcode = 0b0010111#7 := by
    decide
  have hread : immGenerator w = BitVec.ofInt 32 imm &&& 0xFFFFF#32 := by
    have hopcode := hall _ (mem_of_lookupAt he)
    rw [← ‹opcodeOf w = e.opcode›] at hopcode
    rw [immGenerator_of_uType hopcode, hfield]
    exact (and_mask_eq 20 _).symm
  constructor
  case pattern => exact ⟨_, hpattern, hopcode, nofun, nofun, nofun, nofun, nofun⟩
  case rd => exact fun _ => by rw [rdOf, hrd', hrd]
  case imm =>
    intro _
    rw [himm]
    exact congrArg Except.ok hread.symm
  all_goals exact nofun

theorem decodes_jType (h : UnitClass.jType.Fits block) :
    ∃ w, generateJTypeMachineCode block = .ok w ∧ jType.Decodes block w := by
  obtain ⟨e, he, hpattern⟩ := exists_pattern (mem_codeClasses_of_getElem? 7 rfl)
    jTypeInstructionEncodingMap
    (fun e => { opcode := e.opcode }) rfl h.mnemonic
  obtain ⟨rd, hrd⟩ := h.rd rfl
  obtain ⟨imm, hlow, hhigh, himm⟩ := h.imm _ rfl
  have hlow : -1048576 ≤ imm := hlow
  have hhigh : imm ≤ 1048575 := hhigh
  have hword : generateJTypeMachineCode block =
      .ok (Rv64i.jType ((BitVec.ofInt 32 imm).extractLsb' 1 20) rd e.opcode) := by
    unfold generateJTypeMachineCode
    rw [he, hrd, himm]
    exact congrArg Except.ok (jWord ..)
  refine ⟨_, hword, ?_⟩
  obtain ⟨hopcode, hrd', hfield⟩ :=
    @jType_fields e.opcode rd ((BitVec.ofInt 32 imm).extractLsb' 1 20)
  set w := Rv64i.jType ((BitVec.ofInt 32 imm).extractLsb' 1 20) rd e.opcode
  have hall : ∀ entry ∈ jTypeInstructionEncodingMap, entry.2.opcode = 0b1101111#7 := by
    decide
  have hread : immGenerator w = BitVec.ofInt 32 imm &&& ~~~1#32 := by
    rw [immGenerator_of_jType (hopcode.trans (hall _ (mem_of_lookupAt he))), hfield]
    exact halfWords_ofInt (n := 20) (by decide) (by decide) (by omega) (by omega)
  constructor
  case pattern => exact ⟨_, hpattern, hopcode, nofun, nofun, nofun, nofun, nofun⟩
  case rd => exact fun _ => by rw [rdOf, hrd', hrd]
  case imm =>
    intro _
    rw [himm]
    exact congrArg Except.ok hread.symm
  all_goals exact nofun

/-- The number of a control register has the place of an immediate. -/
theorem csrWord (csr : BitVec 32) (rs1 : BitVec 5) (funct3 : BitVec 3) (rd : BitVec 5)
    (opcode : BitVec 7) :
    (csr &&& 0xFFF#32) <<< 20 ||| rs1.setWidth 32 <<< 15 ||| funct3.setWidth 32 <<< 12 |||
      rd.setWidth 32 <<< 7 ||| opcode.setWidth 32 =
    Rv64i.iType (csr.setWidth 12) rs1 funct3 rd opcode := by
  have hfield : csr &&& 0xFFF#32 = (csr.setWidth 12).setWidth 32 := and_mask_eq 12 csr
  rw [hfield, iWord, BitVec.setWidth_setWidth_of_le _ (by decide), BitVec.setWidth_eq]

theorem decodes_csrRType (h : UnitClass.csrRType.Fits block) :
    ∃ w, generateCsrRTypeMachineCode block = .ok w ∧ csrRType.Decodes block w := by
  obtain ⟨e, he, hpattern⟩ := exists_pattern (mem_codeClasses_of_getElem? 8 rfl)
    csrRTypeInstructionEncodingMap
    (fun e => { opcode := e.opcode, funct3 := some e.funct3 }) rfl h.mnemonic
  obtain ⟨rd, hrd⟩ := h.rd rfl
  obtain ⟨rs1, hrs1⟩ := h.rs1 rfl
  have hword : generateCsrRTypeMachineCode block =
      .ok (Rv64i.iType (block.csr.setWidth 12) rs1 e.funct3 rd e.opcode) := by
    unfold generateCsrRTypeMachineCode
    rw [he, hrd, hrs1]
    exact congrArg Except.ok (csrWord ..)
  refine ⟨_, hword, ?_⟩
  obtain ⟨hopcode, hrd', hfunct3, hrs1', hfield⟩ :=
    @iType_fields e.opcode rs1 rd e.funct3 (block.csr.setWidth 12)
  set w := Rv64i.iType (block.csr.setWidth 12) rs1 e.funct3 rd e.opcode
  constructor
  case pattern =>
    exact ⟨_, hpattern, hopcode, fun _ h => hfunct3.trans (Option.some.inj h), nofun, nofun, nofun,
      nofun⟩
  case rd => exact fun _ => by rw [rdOf, hrd', hrd]
  case rs1 => exact fun _ => by rw [rs1Of, hrs1', hrs1]
  case csr =>
    intro _
    rw [hfield]
    exact and_mask_eq 12 block.csr
  all_goals exact nofun

theorem decodes_csrIType (h : UnitClass.csrIType.Fits block) :
    ∃ w, generateCsrITypeMachineCode block = .ok w ∧ csrIType.Decodes block w := by
  obtain ⟨e, he, hpattern⟩ := exists_pattern (mem_codeClasses_of_getElem? 9 rfl)
    csrITypeInstructionEncodingMap
    (fun e => { opcode := e.opcode, funct3 := some e.funct3 }) rfl h.mnemonic
  obtain ⟨rd, hrd⟩ := h.rd rfl
  obtain ⟨imm, hlow, hhigh, himm⟩ := h.imm _ rfl
  have hlow : 0 ≤ imm := hlow
  have hhigh : imm ≤ 31 := hhigh
  obtain ⟨zimm, hzimm⟩ : ∃ zimm : BitVec 5, BitVec.ofInt 32 imm = zimm.setWidth 32 :=
    ⟨_, (setWidth_setWidth_ofInt (by decide) hlow (by omega)).symm⟩
  rw [hzimm] at himm
  have hmask : zimm.setWidth 32 &&& 0b11111#32 = zimm.setWidth 32 := by
    refine (and_mask_eq 5 _).trans ?_
    rw [BitVec.setWidth_setWidth_of_le zimm (by decide), BitVec.setWidth_eq]
  have hword : generateCsrITypeMachineCode block =
      .ok (Rv64i.iType (block.csr.setWidth 12) zimm e.funct3 rd e.opcode) := by
    unfold generateCsrITypeMachineCode
    rw [he, hrd, himm]
    simp only [ok_bind, hmask]
    exact congrArg Except.ok (csrWord ..)
  refine ⟨_, hword, ?_⟩
  obtain ⟨hopcode, hrd', hfunct3, hrs1', hfield⟩ :=
    @iType_fields e.opcode zimm rd e.funct3 (block.csr.setWidth 12)
  set w := Rv64i.iType (block.csr.setWidth 12) zimm e.funct3 rd e.opcode
  constructor
  case pattern =>
    exact ⟨_, hpattern, hopcode, fun _ h => hfunct3.trans (Option.some.inj h), nofun, nofun, nofun,
      nofun⟩
  case rd => exact fun _ => by rw [rdOf, hrd', hrd]
  case imm =>
    intro _
    show _ = Except.ok ((rs1Of w).setWidth 32)
    rw [himm, rs1Of, hrs1']
    rfl
  case csr =>
    intro _
    rw [hfield]
    exact and_mask_eq 12 block.csr
  all_goals exact nofun

/-- A rounding mode has the place of `funct3`. -/
theorem roundingMode_eq (rm : BitVec 8) :
    (rm &&& 0b111#8).setWidth 32 = (rm.setWidth 3).setWidth 32 := by
  have hfield : rm &&& 0b111#8 = (rm.setWidth 3).setWidth 8 := and_mask_eq 3 rm
  rw [hfield, BitVec.setWidth_setWidth (by decide)]

theorem decodes_fdR1Type (h : UnitClass.fdR1Type.Fits block) :
    ∃ w, generateFdR1TypeMachineCode block = .ok w ∧ fdR1Type.Decodes block w := by
  obtain ⟨e, he, hpattern⟩ := exists_pattern (mem_codeClasses_of_getElem? 11 rfl)
    fdR1TypeInstructionEncodingMap
    (fun e => { opcode := e.opcode, funct7 := some e.funct7 }) rfl h.mnemonic
  obtain ⟨rd, hrd⟩ := h.rd rfl
  obtain ⟨rs1, hrs1⟩ := h.rs1 rfl
  obtain ⟨rs2, hrs2⟩ := h.rs2 rfl
  have hword : generateFdR1TypeMachineCode block =
      .ok (Rv64i.rType e.funct7 rs2 rs1 (block.rm.setWidth 3) rd e.opcode) := by
    unfold generateFdR1TypeMachineCode
    rw [he, hrd, hrs1, hrs2]
    simp only [ok_bind, roundingMode_eq]
    exact congrArg Except.ok (rWord ..)
  refine ⟨_, hword, ?_⟩
  obtain ⟨hopcode, hrd', hfunct3, hrs1', hrs2', hfunct7⟩ :=
    @rType_fields e.funct7 e.opcode rs2 rs1 rd (block.rm.setWidth 3)
  set w := Rv64i.rType e.funct7 rs2 rs1 (block.rm.setWidth 3) rd e.opcode
  constructor
  case pattern =>
    exact ⟨_, hpattern, hopcode, nofun, fun _ h => hfunct7.trans (Option.some.inj h), nofun, nofun,
      nofun⟩
  case rd => exact fun _ => by rw [rdOf, hrd', hrd]
  case rs1 => exact fun _ => by rw [rs1Of, hrs1', hrs1]
  case rs2 => exact fun _ => by rw [rs2Of, hrs2', hrs2]
  case rm =>
    intro _
    rw [funct3Of, hfunct3]
    exact and_mask_eq 3 block.rm
  all_goals exact nofun

theorem decodes_fdR2Type (h : UnitClass.fdR2Type.Fits block) :
    ∃ w, generateFdR2TypeMachineCode block = .ok w ∧ fdR2Type.Decodes block w := by
  obtain ⟨e, he, hpattern⟩ := exists_pattern (mem_codeClasses_of_getElem? 12 rfl)
    fdR2TypeInstructionEncodingMap
    (fun e => { opcode := e.opcode, funct7 := some e.funct7, funct5 := some e.funct5 }) rfl
    h.mnemonic
  obtain ⟨rd, hrd⟩ := h.rd rfl
  obtain ⟨rs1, hrs1⟩ := h.rs1 rfl
  have hword : generateFdR2TypeMachineCode block =
      .ok (Rv64i.rType e.funct7 e.funct5 rs1 (block.rm.setWidth 3) rd e.opcode) := by
    unfold generateFdR2TypeMachineCode
    rw [he, hrd, hrs1]
    simp only [ok_bind, roundingMode_eq]
    exact congrArg Except.ok (rWord ..)
  refine ⟨_, hword, ?_⟩
  obtain ⟨hopcode, hrd', hfunct3, hrs1', hfunct5, hfunct7⟩ :=
    @rType_fields e.funct7 e.opcode e.funct5 rs1 rd (block.rm.setWidth 3)
  set w := Rv64i.rType e.funct7 e.funct5 rs1 (block.rm.setWidth 3) rd e.opcode
  constructor
  case pattern =>
    exact ⟨_, hpattern, hopcode, nofun, fun _ h => hfunct7.trans (Option.some.inj h), nofun,
      fun _ h => hfunct5.trans (Option.some.inj h), nofun⟩
  case rd => exact fun _ => by rw [rdOf, hrd', hrd]
  case rs1 => exact fun _ => by rw [rs1Of, hrs1', hrs1]
  case rm =>
    intro _
    rw [funct3Of, hfunct3]
    exact and_mask_eq 3 block.rm
  all_goals exact nofun

theorem decodes_fdR3Type (h : UnitClass.fdR3Type.Fits block) :
    ∃ w, generateFdR3TypeMachineCode block = .ok w ∧ fdR3Type.Decodes block w := by
  obtain ⟨e, he, hpattern⟩ := exists_pattern (mem_codeClasses_of_getElem? 13 rfl)
    fdR3TypeInstructionEncodingMap
    (fun e => { opcode := e.opcode, funct3 := some e.funct3, funct7 := some e.funct7,
                funct5 := some e.funct5 }) rfl h.mnemonic
  obtain ⟨rd, hrd⟩ := h.rd rfl
  obtain ⟨rs1, hrs1⟩ := h.rs1 rfl
  have hword : generateFdR3TypeMachineCode block =
      .ok (Rv64i.rType e.funct7 e.funct5 rs1 e.funct3 rd e.opcode) := by
    unfold generateFdR3TypeMachineCode
    rw [he, hrd, hrs1]
    exact congrArg Except.ok (rWord ..)
  refine ⟨_, hword, ?_⟩
  obtain ⟨hopcode, hrd', hfunct3, hrs1', hfunct5, hfunct7⟩ :=
    @rType_fields e.funct7 e.opcode e.funct5 rs1 rd e.funct3
  set w := Rv64i.rType e.funct7 e.funct5 rs1 e.funct3 rd e.opcode
  constructor
  case pattern =>
    exact ⟨_, hpattern, hopcode, fun _ h => hfunct3.trans (Option.some.inj h),
      fun _ h => hfunct7.trans (Option.some.inj h), nofun,
      fun _ h => hfunct5.trans (Option.some.inj h), nofun⟩
  case rd => exact fun _ => by rw [rdOf, hrd', hrd]
  case rs1 => exact fun _ => by rw [rs1Of, hrs1', hrs1]
  all_goals exact nofun

/-- The third source register and `funct2` have the place of `funct7`. -/
theorem r4Field (rs3 : BitVec 5) (funct2 : BitVec 2) :
    rs3.setWidth 32 <<< 27 ||| funct2.setWidth 32 <<< 25 =
      (rs3 ++ funct2).setWidth 32 <<< 25 := by
  refine BitVec.eq_of_getLsbD_eq fun i hi => ?_
  simp only [BitVec.getLsbD_or, BitVec.getLsbD_shiftLeft, BitVec.getLsbD_setWidth,
    BitVec.getLsbD_append]
  interval_cases i <;> simp

theorem decodes_fdR4Type (h : UnitClass.fdR4Type.Fits block) :
    ∃ w, generateFdR4TypeMachineCode block = .ok w ∧ fdR4Type.Decodes block w := by
  obtain ⟨e, he, hpattern⟩ := exists_pattern (mem_codeClasses_of_getElem? 14 rfl)
    fdR4TypeInstructionEncodingMap
    (fun e => { opcode := e.opcode, funct2 := some e.funct2 }) rfl h.mnemonic
  obtain ⟨rd, hrd⟩ := h.rd rfl
  obtain ⟨rs1, hrs1⟩ := h.rs1 rfl
  obtain ⟨rs2, hrs2⟩ := h.rs2 rfl
  obtain ⟨rs3, hrs3⟩ := h.rs3 rfl
  have hword : generateFdR4TypeMachineCode block =
      .ok (Rv64i.rType (rs3 ++ e.funct2) rs2 rs1 (block.rm.setWidth 3) rd e.opcode) := by
    unfold generateFdR4TypeMachineCode
    rw [he, hrd, hrs1, hrs2, hrs3]
    simp only [ok_bind, roundingMode_eq, r4Field]
    exact congrArg Except.ok (rWord ..)
  refine ⟨_, hword, ?_⟩
  obtain ⟨hopcode, hrd', hfunct3, hrs1', hrs2', -⟩ :=
    @rType_fields (rs3 ++ e.funct2) e.opcode rs2 rs1 rd (block.rm.setWidth 3)
  set w := Rv64i.rType (rs3 ++ e.funct2) rs2 rs1 (block.rm.setWidth 3) rd e.opcode
  have hfunct2 : w.extractLsb' 25 2 = e.funct2 :=
    field_append (by decide) (field_append (by decide) (field_append (by decide)
      (field_append (by decide) (field_append (by decide) field_right))))
  have hrs3' : w.extractLsb' 27 5 = rs3 :=
    field_append (by decide) (field_append (by decide) (field_append (by decide)
      (field_append (by decide) (field_append (by decide) (field_append (by decide)
        BitVec.extractLsb'_eq_self)))))
  constructor
  case pattern =>
    exact ⟨_, hpattern, hopcode, nofun, nofun, nofun, nofun,
      fun _ h => hfunct2.trans (Option.some.inj h)⟩
  case rd => exact fun _ => by rw [rdOf, hrd', hrd]
  case rs1 => exact fun _ => by rw [rs1Of, hrs1', hrs1]
  case rs2 => exact fun _ => by rw [rs2Of, hrs2', hrs2]
  case rs3 => exact fun _ => by rw [hrs3', hrs3]
  case rm =>
    intro _
    rw [funct3Of, hfunct3]
    exact and_mask_eq 3 block.rm
  all_goals exact nofun

variable {c' : CodeClass} {block' : ICUnit} {w : BitVec 32}

/-- A unit that fits its class has a word that says what it says. -/
theorem exists_decodes (hc : c ∈ codeClasses) (h : c.Fits block) :
    ∃ w, generateUnitCode block = .ok w ∧ c.Decodes block w := by
  have hclass : c.toUnitClass ∈ unitClasses := by
    rw [← toUnitClass_codeClasses]
    exact List.mem_map_of_mem hc
  rw [generateUnitCode_of_class hclass h.mnemonic]
  simp only [codeClasses, List.mem_cons, List.not_mem_nil, or_false] at hc
  rcases hc with rfl | rfl | rfl | rfl | rfl | rfl | rfl | rfl | rfl | rfl | rfl | rfl | rfl |
    rfl | rfl | rfl | rfl
  · exact decodes_rType h
  · exact decodes_i1Type h
  · exact decodes_i2Type h
  · exact decodes_i3Type h
  · exact decodes_sType h
  · exact decodes_bType h
  · exact decodes_uType h
  · exact decodes_jType h
  · exact decodes_csrRType h
  · exact decodes_csrIType h
  · exact decodes_fdRType h
  · exact decodes_fdR1Type h
  · exact decodes_fdR2Type h
  · exact decodes_fdR3Type h
  · exact decodes_fdR4Type h
  · exact decodes_fdIType h
  · exact decodes_fdSType h

/-- Two units with the same mnemonic and operands, as far as a word can tell. -/
structure Same (c : CodeClass) (block block' : ICUnit) : Prop where
  opcode : block.opcode = block'.opcode
  rd : c.rd = true → extractRegisterIndex block.rd = extractRegisterIndex block'.rd
  rs1 : c.rs1 = true → extractRegisterIndex block.rs1 = extractRegisterIndex block'.rs1
  rs2 : c.rs2 = true → extractRegisterIndex block.rs2 = extractRegisterIndex block'.rs2
  rs3 : c.rs3 = true → extractRegisterIndex block.rs3 = extractRegisterIndex block'.rs3
  imm : c.range.isSome = true →
    (immediateOf block.imm).map c.kept = (immediateOf block'.imm).map c.kept
  csr : c.csr = true → block.csr &&& 0xFFF#32 = block'.csr &&& 0xFFF#32
  rm : c.rm = true → block.rm &&& 0b111#8 = block'.rm &&& 0b111#8

/-- No word has patterns of two classes. -/
theorem Decodes.class_unique (hc : c ∈ codeClasses) (hc' : c' ∈ codeClasses)
    (h : c.Decodes block w) (h' : c'.Decodes block' w) : c = c' := by
  obtain ⟨p, hp, hmatches⟩ := h.pattern
  obtain ⟨p', hp', hmatches'⟩ := h'.pattern
  -- patterns of different classes fix some field of the word in different ways
  by_contra hne
  have hapart : codeClasses.Pairwise fun c c' => ∀ entry ∈ c.patterns, ∀ entry' ∈ c'.patterns,
      entry.2.apart entry'.2 = true := (List.pairwise_flatMap.mp pairwise_wordPatterns).2
  have : Std.Symm fun c c' : CodeClass => ∀ entry ∈ c.patterns, ∀ entry' ∈ c'.patterns,
      entry.2.apart entry'.2 = true :=
    ⟨fun _ _ happart entry hentry entry' hentry' =>
      (WordPattern.apart_comm _ _).trans (happart entry' hentry' entry hentry)⟩
  have happart : p.apart p' = true := hapart.forall hc hc' hne _ hp _ hp'
  rw [hmatches.apart_eq_false hmatches'] at happart
  cases happart

/-- A word says one thing only. -/
theorem Decodes.same (hc : c ∈ codeClasses) (h : c.Decodes block w) (h' : c.Decodes block' w) :
    c.Same block block' := by
  obtain ⟨p, hp, hmatches⟩ := h.pattern
  obtain ⟨p', hp', hmatches'⟩ := h'.pattern
  constructor
  case opcode =>
    exact opcode_of_matches (List.mem_flatMap.mpr ⟨c, hc, hp⟩) (List.mem_flatMap.mpr ⟨c, hc, hp'⟩)
      hmatches hmatches'
  case rd => exact fun hrd => (h.rd hrd).trans (h'.rd hrd).symm
  case rs1 => exact fun hrs1 => (h.rs1 hrs1).trans (h'.rs1 hrs1).symm
  case rs2 => exact fun hrs2 => (h.rs2 hrs2).trans (h'.rs2 hrs2).symm
  case rs3 => exact fun hrs3 => (h.rs3 hrs3).trans (h'.rs3 hrs3).symm
  case imm => exact fun himm => (h.imm himm).trans (h'.imm himm).symm
  case csr => exact fun hcsr => (h.csr hcsr).trans (h'.csr hcsr).symm
  case rm => exact fun hrm => (h.rm hrm).trans (h'.rm hrm).symm

end CodeClass

/-! ### Assembled files -/

variable {cfg : VmConfig} {reader : FloatReader} {fixed : BitVec 64 → String}
  {fuel lineFuel : Nat}

/-- The words of a program without errors say what its units say. -/
theorem decodes_of_encodable : ∀ {code : List (ICUnit × Bool)} {words : List (BitVec 32)},
    (∀ unit ∈ code, Encodable unit.1) → generateMachineCode code = .ok words →
      List.Forall₂ (fun unit w => ∃ c ∈ codeClasses, c.Decodes unit.1 w) code words := by
  intro code
  induction code with
  | nil =>
    rintro words - h
    obtain rfl := Except.ok.inj h
    exact .nil
  | cons unit code ih =>
    intro words hunits h
    have hcons : generateMachineCode (unit :: code) = (do
        let word ← generateUnitCode unit.1
        let words ← generateMachineCode code
        pure (word :: words)) := List.mapM_cons
    rw [hcons] at h
    obtain ⟨word, hword, h⟩ := bind_eq_ok.mp h
    obtain ⟨words', hwords, h⟩ := bind_eq_ok.mp h
    obtain rfl := Except.ok.inj h
    refine .cons ?_ (ih (fun unit' hmem => hunits unit' (List.mem_cons_of_mem unit hmem)) hwords)
    rcases hunits unit List.mem_cons_self with ⟨c, hc, hfits⟩ | hfence
    · rw [← toUnitClass_codeClasses] at hc
      obtain ⟨d, hd, rfl⟩ := List.mem_map.mp hc
      obtain ⟨w, hw, hdecodes⟩ := CodeClass.exists_decodes hd hfits
      obtain rfl := Except.ok.inj (hword.symm.trans hw)
      exact ⟨d, hd, hdecodes⟩
    · rw [generateUnitCode_of_fence hfence] at hword
      cases hword

/-- The parser's part of `assembleFile`. -/
def parseFile (cfg : VmConfig) (reader : FloatReader) (fixed : BitVec 64 → String) (fuel : Nat)
    (input : List Char) : Except AssemblerError Parser := do
  let tokens ← Lexer.getTokenList reader fixed input
  Parser.parse cfg reader fuel (tokens.map (·.1))

/-- The tokens of an assembled file. -/
theorem assembleFile_eq_ok {input : List Char} {program : AssembledProgram}
    (hsize : input.length < 2 ^ 31)
    (h : assembleFile cfg reader fixed fuel lineFuel input = .ok program) :
    ∃ tokens, Lexed input tokens ∧ assemble cfg reader fuel lineFuel tokens = .ok program ∧
      parseFile cfg reader fixed fuel input = Parser.parse cfg reader fuel tokens := by
  obtain ⟨pairs, hpairs, h⟩ := bind_eq_ok.mp h
  have hpairs : Lexer.getTokenList reader fixed input = .ok pairs := mapError_eq_ok.mp hpairs
  rcases lexed_or_conversion hsize with ⟨tokens, hread, hlexed⟩ | ⟨e, he⟩
  · rw [hpairs] at hread
    obtain rfl := Except.ok.inj hread
    refine ⟨_, hlexed, h, ?_⟩
    unfold parseFile
    rw [hpairs]
    rfl
  · rw [hpairs] at he
    cases he

/-- A program comes from a parse without errors. -/
theorem parse_of_assemble {tokens : List Token} {program : AssembledProgram}
    (h : assemble cfg reader fuel lineFuel tokens = .ok program) :
    ∃ p, Parser.parse cfg reader fuel tokens = .ok p ∧ p.errors.count = 0#32 ∧
      generateMachineCode p.intermediateCode = .ok program.textBuffer := by
  obtain ⟨p, hp, h⟩ := bind_eq_ok.mp h
  by_cases hcount : p.errors.count = 0#32
  case neg =>
    rw [if_neg hcount] at h
    cases h
  rw [if_pos hcount] at h
  obtain ⟨words, hwords, h⟩ := bind_eq_ok.mp h
  obtain ⟨mapping, -, h⟩ := bind_eq_ok.mp h
  obtain rfl := Except.ok.inj h
  exact ⟨p, mapError_eq_ok.mp hp, hcount, mapError_eq_ok.mp hwords⟩

/-- The words that `assemble` makes say what the units say. -/
theorem decodes_of_assemble {tokens : List Token} {program : AssembledProgram}
    (hreadable : ∀ token ∈ tokens, token.Readable) (hlength : Parser.pending tokens < 2 ^ 30)
    (hsize : tokens.length ≤ 2 ^ 31)
    (h : assemble cfg reader fuel lineFuel tokens = .ok program) :
    ∃ p, Parser.parse cfg reader fuel tokens = .ok p ∧
      List.Forall₂ (fun unit w => ∃ c ∈ codeClasses, c.Decodes unit.1 w) p.intermediateCode
        program.textBuffer := by
  obtain ⟨p, hp, hcount, hwords⟩ := parse_of_assemble h
  have hunits := Parser.encodable_of_parse hreadable hsize hp
    ((Parser.count_eq_zero_iff hp hlength).mp hcount)
  exact ⟨p, hp, decodes_of_encodable (fun unit hmem => (hunits unit hmem).2) hwords⟩

theorem assembleFile_decodes_of_lt {input : List Char} {program : AssembledProgram}
    (hsize : input.length < 2 ^ 30)
    (h : assembleFile cfg reader fixed fuel lineFuel input = .ok program) :
    ∃ p, parseFile cfg reader fixed fuel input = .ok p ∧
      List.Forall₂ (fun unit w => ∃ c ∈ codeClasses, c.Decodes unit.1 w) p.intermediateCode
        program.textBuffer := by
  obtain ⟨tokens, hlexed, hassemble, hparse⟩ := assembleFile_eq_ok (by omega) h
  have hlength := hlexed.length
  have hpending := hlexed.pending
  rw [hparse]
  exact decodes_of_assemble hlexed.readable (by omega) (by omega) hassemble

/-- **The words of an assembled file say what its units say**: the pattern of each
word is that of the unit's mnemonic, and the machines extract its registers, its
immediate, its control register and its rounding mode. -/
theorem assembleFile_decodes {input : List Char} {program : AssembledProgram}
    (hsize : input.length < 2 ^ 30)
    (h : assembleFile cfg reader fixed fuel lineFuel input = .ok program) :
    ∃ p, parseFile cfg reader fixed fuel input = .ok p ∧
      List.Forall₂ (fun unit w => ∃ c ∈ codeClasses, c.Decodes unit.1 w) p.intermediateCode
        program.textBuffer :=
  assembleFile_decodes_of_lt hsize h

/-- Counts down from two, with a branch to a label. -/
def countdown : List Char :=
  "addi x1, x0, 2\nloop:\naddi x1, x1, -1\nbne x1, x0, loop\n".toList

theorem assembleFile_decodes_countdown :
    ∃ p, parseFile {} .zeros (fun _ => "") 30 countdown = .ok p ∧
      List.Forall₂ (fun unit w => ∃ c ∈ codeClasses, c.Decodes unit.1 w) p.intermediateCode
        [0x00200093#32, 0xFFF08093#32, 0xFE009EE3#32] := by
  have hok := eq_ok_getD
    (x := assembleFile {} .zeros (fun _ => "") 30 (2 ^ 32 + 1) countdown) {} (by decide +kernel)
  obtain ⟨p, hp, hdecodes⟩ := assembleFile_decodes (by decide) hok
  refine ⟨p, hp, ?_⟩
  have htext : ((assembleFile {} .zeros (fun _ => "") 30 (2 ^ 32 + 1)
      countdown).toOption.getD {}).textBuffer =
        [0x00200093#32, 0xFFF08093#32, 0xFE009EE3#32] := by
    decide +kernel
  rwa [htext] at hdecodes

/-- Units with the same words. -/
theorem same_of_decodes {code code' : List (ICUnit × Bool)} {words : List (BitVec 32)}
    (h : List.Forall₂ (fun unit w => ∃ c ∈ codeClasses, c.Decodes unit.1 w) code words) :
    List.Forall₂ (fun unit w => ∃ c ∈ codeClasses, c.Decodes unit.1 w) code' words →
      List.Forall₂ (fun unit unit' => ∃ c ∈ codeClasses, c.Same unit.1 unit'.1) code code' := by
  induction h generalizing code' with
  | nil =>
    intro h'
    cases h'
    exact .nil
  | cons hunit _ ih =>
    intro h'
    cases h' with
    | cons hunit' h' =>
      obtain ⟨c, hc, hdecodes⟩ := hunit
      obtain ⟨c', hc', hdecodes'⟩ := hunit'
      obtain rfl := hdecodes.class_unique hc hc' hdecodes'
      exact .cons ⟨c, hc, hdecodes.same hc hdecodes'⟩ (ih h')

/-- **Files with the same words have the same instructions**, as far as a word can
tell: the distances of branches and jumps lose their lowest bit, and the
immediates of LUI and AUIPC all but twenty bits. -/
theorem sameUnits_of_textBuffer_eq {input input' : List Char} {program program' : AssembledProgram}
    (hsize : input.length < 2 ^ 30) (hsize' : input'.length < 2 ^ 30)
    (h : assembleFile cfg reader fixed fuel lineFuel input = .ok program)
    (h' : assembleFile cfg reader fixed fuel lineFuel input' = .ok program')
    (htext : program.textBuffer = program'.textBuffer) :
    ∃ p p', parseFile cfg reader fixed fuel input = .ok p ∧
      parseFile cfg reader fixed fuel input' = .ok p' ∧
      List.Forall₂ (fun unit unit' => ∃ c ∈ codeClasses, c.Same unit.1 unit'.1) p.intermediateCode
        p'.intermediateCode := by
  obtain ⟨p, hp, hdecodes⟩ := assembleFile_decodes_of_lt hsize h
  obtain ⟨p', hp', hdecodes'⟩ := assembleFile_decodes_of_lt hsize' h'
  rw [← htext] at hdecodes'
  exact ⟨p, p', hp, hp', same_of_decodes hdecodes hdecodes'⟩

/-- The same instructions, with a pseudo instruction and a distance. -/
def countdownDistance : List Char :=
  "li x1, 2\naddi x1, x1, -1\nbne x1, x0, -4\n".toList

theorem sameUnits_of_textBuffer_eq_countdown :
    ∃ p p', parseFile {} .zeros (fun _ => "") 30 countdown = .ok p ∧
      parseFile {} .zeros (fun _ => "") 30 countdownDistance = .ok p' ∧
      List.Forall₂ (fun unit unit' => ∃ c ∈ codeClasses, c.Same unit.1 unit'.1) p.intermediateCode
        p'.intermediateCode := by
  have hok := eq_ok_getD (x := assembleFile {} .zeros (fun _ => "") 30 (2 ^ 32 + 1) countdown)
    {} (by decide +kernel)
  have hok' := eq_ok_getD
    (x := assembleFile {} .zeros (fun _ => "") 30 (2 ^ 32 + 1) countdownDistance) {}
    (by decide +kernel)
  exact sameUnits_of_textBuffer_eq (by decide) (by decide) hok hok' (by decide +kernel)

end RiscvSim

import RiscvSim.Assembler.Equiv.Emission
import RiscvSim.Lib.SplitImmediate
import RiscvSim.Vm.Rvss.Equiv.Sequence

/-!
# Loading an immediate

What the instructions do that the parser emits for `li`, once they are encoded
and lie at the program counter of the single-cycle machine.

* **`Parser.li_loads_iff`**: `li` loads its immediate exactly when that is below
  `2 ^ 31 - 2 ^ 11`.
-/

namespace RiscvSim

open Lib Lib.Rv64i

namespace Parser

variable {p : Parser} {rd : BitVec 5}

/-- The instructions `li` stands for. -/
def liInstructions (rd : BitVec 5) (imm : Int) : List Instruction :=
  let x := BitVec.ofInt 64 imm
  if -2048 ≤ imm ∧ imm ≤ 2047 then
    [.immediate .addi rd 0#5 ((BitVec.ofInt 32 imm).setWidth 12)]
  else if lowerPart x = 0#32 then [.lui rd ((upperPart x).setWidth 20)]
  else [.lui rd ((upperPart x).setWidth 20), .immediate .addi rd rd ((lowerPart x).setWidth 12)]

example : liInstructions 5#5 0x12345FFF =
    [.lui 5#5 0x12346#20, .immediate .addi 5#5 5#5 0xFFF#12] := by
  decide +kernel

theorem parseLi_emits {imm : Int} (hline : p.matchesLine [.gpRegister, .comma, .num] = true)
    (hreg : registerNumber (p.peekToken 1).value = .ok (rd.setWidth 32))
    (hnum : (p.peekToken 3).value = toText imm) (hlow : -2147483648 ≤ imm)
    (hhigh : imm ≤ 2147483647) :
    ∃ p', p.parseLi = .ok (true, p') ∧ Emits p p' (liInstructions rd imm) := by
  obtain ⟨reg, hname, hindex⟩ := exists_regName hreg
  have himm := numberAt_of_toText hnum (by omega) (by omega)
  have hx0 : extractRegisterIndex (truncated 5 "x0") = .ok ((0#5).setWidth 32) := by decide +kernel
  have haddi : truncated 20 "addi" = "addi" := truncated_mnemonic _ (by simp)
  have hlui : truncated 20 "lui" = "lui" := truncated_mnemonic _ (by simp)
  have himmediate : ∀ {v : Int}, -2 ^ 31 ≤ v → v < 2 ^ 31 →
      immediateOf (truncated 32 (toText v)) = .ok (BitVec.ofInt 32 v) :=
    immediateOf_truncated_toText
  unfold parseLi liInstructions
  rw [if_pos hline, himm, ok_bind, hname, ok_bind]
  by_cases hsmall : -2048 ≤ imm ∧ imm ≤ 2047
  · rw [if_pos hsmall, if_pos hsmall, hnum]
    refine ⟨_, rfl, (((Emits.refl p).emit true ?_ : Emits p _ ([] ++ [_]))).skipCurrentLine⟩
    exact generateUnitCode_addi haddi hindex hx0 (himmediate (by omega) (by omega))
  · have hupper : upperPart (BitVec.ofInt 64 imm) = BitVec.ofInt 32 ((imm + 2 ^ 11) / 2 ^ 12) :=
      upperPart_ofInt (by omega) (by omega)
    have hlower : lowerPart (BitVec.ofInt 64 imm) =
        BitVec.ofInt 32 (imm - (imm + 2 ^ 11) / 2 ^ 12 * 2 ^ 12) :=
      lowerPart_ofInt (by omega) (by omega)
    have hzero : lowerPart (BitVec.ofInt 64 imm) = 0#32 ↔
        imm - (imm + 2 ^ 11) / 2 ^ 12 * 2 ^ 12 = 0 := by
      rw [hlower, ← BitVec.toInt_inj, BitVec.toInt_ofInt, Int.bmod_eq_of_le (by omega) (by omega)]
      rfl
    rw [if_neg hsmall, if_neg hsmall, if_pos ⟨hlow, hhigh⟩, hupper]
    dsimp only
    set block := ((p.newBlock.setOpcode "lui").setRd reg).setImm (toText ((imm + 2 ^ 11) / 2 ^ 12))
    have hblock : generateUnitCode block =
        .ok (Instruction.lui rd ((BitVec.ofInt 32 ((imm + 2 ^ 11) / 2 ^ 12)).setWidth 20)).encode :=
      generateUnitCode_lui hlui hindex (himmediate (by omega) (by omega))
    have hemits := (Emits.refl p).emit true hblock
    by_cases hz : imm - (imm + 2 ^ 11) / 2 ^ 12 * 2 ^ 12 = 0
    · rw [if_neg (not_not_intro hz), if_pos (hzero.mpr hz)]
      exact ⟨_, rfl, hemits.skipCurrentLine⟩
    · rw [if_pos hz, if_neg fun h => hz (hzero.mp h), hlower]
      refine ⟨_, rfl, (hemits.emit true ?_).skipCurrentLine⟩
      exact generateUnitCode_addi haddi hindex hindex
        (himmediate (by omega) (by omega))

theorem toInt_ofInt_of_li {imm : Int} (hlow : -2147483648 ≤ imm) (hhigh : imm ≤ 2147483647) :
    (BitVec.ofInt 64 imm).toInt = imm := by
  rw [BitVec.toInt_ofInt, Int.bmod_eq_of_le (by omega) (by omega)]

/-- What the instructions of `li` compute. -/
theorem exec_liInstructions (hrd : rd ≠ 0#5) {imm : Int} (hlow : -2147483648 ≤ imm)
    (hhigh : imm ≤ 2147483647) (s : State) :
    ∃ value, (value = BitVec.ofInt 64 imm ↔ imm < 2 ^ 31 - 2 ^ 11) ∧
      (liInstructions rd imm).foldl Instruction.exec s =
        { s with
          pc := s.pc + 4#64 * BitVec.ofNat 64 (liInstructions rd imm).length
          x := s.x.write rd value } := by
  have hjoin := join_parts_iff (BitVec.ofInt 64 imm)
  rw [toInt_ofInt_of_li hlow hhigh, IsSplit] at hjoin
  have hrange : (-2 ^ 31 - 2 ^ 11 ≤ imm ∧ imm < 2 ^ 31 - 2 ^ 11) ↔ imm < 2 ^ 31 - 2 ^ 11 := by
    omega
  unfold liInstructions
  dsimp only
  split
  · rename_i hsmall
    refine ⟨BitVec.ofInt 64 imm, ⟨fun _ => by omega, fun _ => rfl⟩, ?_⟩
    show s.next rd (s.x.read 0#5 + _) = _
    rw [s.x.read_zero, BitVec.zero_add, signExtend_ofInt hsmall.1 hsmall.2]
    rfl
  · split
    · rename_i hzero
      refine ⟨_, ?_, rfl⟩
      rw [hzero] at hjoin
      have hnone : ((0#32).setWidth 12).signExtend 64 = 0#64 := by decide
      rw [hnone, BitVec.add_zero] at hjoin
      exact hjoin.trans hrange
    · exact ⟨_, hjoin.trans hrange, exec_lui_addi s _ _ hrd⟩

/-- **`li` loads its immediate exactly when it is below `2 ^ 31 - 2 ^ 11`.**  The
line of any `li` with an immediate of 32 bits is accepted, and its words, at the
program counter of any machine, are executed one after the other; they set the
register to the immediate and leave the other ones and the memory alone, unless
the rounded upper part is that of a negative number. -/
theorem li_loads_iff (cfg : VmConfig) (fpu : FloatUnit) {imm : Int}
    (htype : p.currentToken.type = .opcode) (hli : p.currentToken.value = "li")
    (hline : p.matchesLine [.gpRegister, .comma, .num] = true)
    (hreg : registerNumber (p.peekToken 1).value = .ok (rd.setWidth 32)) (hrd : rd ≠ 0#5)
    (hnum : (p.peekToken 3).value = toText imm) (hlow : -2147483648 ≤ imm)
    (hhigh : imm ≤ 2147483647) :
    ∃ p' words, p.parseTextItem cfg = .ok p' ∧ p'.errors = p.errors ∧
      generateMachineCode (p'.intermediateCode.drop p.intermediateCode.length) = .ok words ∧
      ∀ vm : RVSSVM, vm.memoryController.HoldsAt vm.programCounter words →
        ((∃ vm', rounds (RVSSVM.runInstruction cfg fpu) words.length vm = .ok vm' ∧
          vm'.arch.toRv64i =
            { pc := vm.programCounter + 4#64 * BitVec.ofNat 64 words.length
              x := vm.registers.toRegisters.write rd (BitVec.ofInt 64 imm)
              memory := vm.memoryController.contents }) ↔
          imm < 2 ^ 31 - 2 ^ 11) := by
  obtain ⟨p', hparse, hemits⟩ := parseLi_emits hline hreg hnum hlow hhigh
  have henabled : disabledExtension cfg p.currentToken.value = none := by
    rw [hli]
    rfl
  have hpseudo : p.parsePseudo cfg = .ok (true, p') := by
    unfold parsePseudo
    rw [hli, if_neg (by decide), if_neg (by decide), if_pos rfl, hparse]
  refine ⟨p', _, parseTextItem_of_pseudo htype henabled (by rw [hli]; decide +kernel) hpseudo,
    hemits.errors, hemits.code, fun vm hwords => ?_⟩
  have hplain : ∀ i ∈ liInstructions rd imm, i.IsPlain := by
    unfold liInstructions
    dsimp only
    split
    · simp [Instruction.IsPlain]
    · split <;> simp [Instruction.IsPlain]
  obtain ⟨vm', hrun, hstate, -⟩ := RVSSVM.rounds_computes cfg fpu hplain hwords
  obtain ⟨value, hvalue, hexec⟩ := exec_liInstructions hrd hlow hhigh vm.arch.toRv64i
  rw [hexec] at hstate
  rw [List.length_map, ← hvalue]
  constructor
  · rintro ⟨vm₁, hrun₁, hstate₁⟩
    obtain rfl := Except.ok.inj (hrun.symm.trans hrun₁)
    have hread := congrArg (fun s : State => s.x.read rd) (hstate.symm.trans hstate₁)
    simp only [Registers.read_write_self _ hrd] at hread
    exact hread
  · rintro rfl
    exact ⟨vm', hrun, hstate⟩

/-- The parser before the line `li a0, imm`. -/
def atLi (imm : Int) : Parser where
  rest := [⟨.opcode, "li", 1#32⟩, ⟨.gpRegister, "a0", 1#32⟩, ⟨.comma, ",", 1#32⟩,
    ⟨.num, toText imm, 1#32⟩]

/-- `li a0, 305419896` takes `lui a0, 74565` and `addi a0, a0, 1656`. -/
theorem li_loads_iff_twoWords :
    ∃ p' words, (atLi 305419896).parseTextItem {} = .ok p' ∧ p'.errors = {} ∧
      generateMachineCode (p'.intermediateCode.drop 0) = .ok words ∧
      ∀ vm : RVSSVM, vm.memoryController.HoldsAt vm.programCounter words →
        ((∃ vm', rounds (RVSSVM.runInstruction {} .zeros) words.length vm = .ok vm' ∧
          vm'.arch.toRv64i =
            { pc := vm.programCounter + 4#64 * BitVec.ofNat 64 words.length
              x := vm.registers.toRegisters.write 10#5 (BitVec.ofInt 64 305419896)
              memory := vm.memoryController.contents }) ↔
          (305419896 : Int) < 2 ^ 31 - 2 ^ 11) :=
  li_loads_iff {} .zeros rfl rfl (by decide) (by decide +kernel) (by decide) rfl (by decide)
    (by decide)

/-- `li a0, 2147483647` sets the register to `-2147483649`. -/
theorem li_max :
    ∃ p' vm vm', (atLi 2147483647).parseTextItem {} = .ok p' ∧ p'.errors = {} ∧
      generateMachineCode p'.intermediateCode = .ok [0x80000537#32, 0xfff50513#32] ∧
      (RVSSVM.new {}).loadProgram {} { textBuffer := [0x80000537#32, 0xfff50513#32] } = .ok vm ∧
      rounds (RVSSVM.runInstruction {} .zeros) 2 vm = .ok vm' ∧
      vm'.registers.readGpr 10#5 = 0xffffffff7fffffff#64 ∧
      vm'.registers.readGpr 10#5 ≠ BitVec.ofInt 64 2147483647 := by
  let vm : RVSSVM := ((RVSSVM.new {}).loadProgram {}
    { textBuffer := [0x80000537#32, 0xfff50513#32] }).toOption.getD (.new {})
  have hload : (RVSSVM.new {}).loadProgram {}
      { textBuffer := [0x80000537#32, 0xfff50513#32] } = .ok vm :=
    eq_ok_getD _ (by decide +kernel)
  exact ⟨_, vm, _, eq_ok_getD (atLi 0) (by decide +kernel), by decide +kernel, by decide +kernel,
    hload, eq_ok_getD (.new {}) (by decide +kernel), by decide +kernel, by decide +kernel⟩

end Parser

end RiscvSim

import RiscvSim.Assembler.Equiv.Emission
import RiscvSim.Lib.SplitImmediate
import RiscvSim.Vm.Rvss.Equiv.Sequence

/-!
# Addresses of data labels

What the instructions do that the parser emits for `la` and for a load from a
data label, once they are encoded and lie at the program counter of the
single-cycle machine.

* **`Parser.label_reached_iff`**: they reach the label exactly when its distance
  is in the range of AUIPC and ADDI, and a load that it has a register for the address.
-/

namespace RiscvSim

open Lib Lib.Rv64i

/-- The distance of an address of the data section from the next instruction. -/
def Parser.distance (p : Parser) (cfg : VmConfig) (address : BitVec 64) : BitVec 64 :=
  cfg.dataSectionStart + address - instructionAddress p.instructionIndex

namespace RVSSVM

variable (cfg : VmConfig) (fpu : FloatUnit) {vm : RVSSVM}

/-- The first instruction completes, and the second one loads from `address`. -/
def LoadsFrom (cfg : VmConfig) (fpu : FloatUnit) (op : LoadOp) (rd : BitVec 5) (vm : RVSSVM)
    (address : BitVec 64) : Prop :=
  ∃ vm₁, vm.runInstruction cfg fpu = .ok vm₁ ∧
    (stateAfter (vm₁.runInstruction cfg fpu)).executionResult = address ∧
    ∀ vm₂, vm₁.runInstruction cfg fpu = .ok vm₂ →
      vm₂.arch.toRv64i =
        vm₁.arch.toRv64i.next rd (op.eval vm.memoryController.contents address)

/-- A load at the program counter. -/
theorem runInstruction_of_load {op : LoadOp} {rd rs1 : BitVec 5} {imm : BitVec 12}
    (hf : vm.memoryController.readWord vm.programCounter =
      .ok (Instruction.load op rd rs1 imm).encode) :
    (stateAfter (vm.runInstruction cfg fpu)).executionResult = vm.arch.toRv64i.address rs1 imm ∧
      ∀ vm', vm.runInstruction cfg fpu = .ok vm' →
        vm'.arch.toRv64i = (Instruction.load op rd rs1 imm).exec vm.arch.toRv64i := by
  have hint := isIntegerInstruction_encode (Instruction.load op rd rs1 imm)
  have hbs : vm.memoryController.blockSize ≠ 0#32 := Memory.blockSize_of_readWord hf
  constructor
  · obtain ⟨hopcode, -, -, hrs1, himm⟩ :=
      @fields_iType rd rs1 op.funct3 0b0000011#7 imm (.inr (.inl rfl))
    have hresult : resultOf vm.arch (Instruction.load op rd rs1 imm).encode =
        .ok (vm.arch.toRv64i.address rs1 imm) := by
      show resultOf vm.arch (iType imm rs1 op.funct3 rd 0b0000011#7) = _
      rw [resultOf_of_access (.inl hopcode), hrs1, himm]
      rfl
    exact executionResult_runInstruction cfg fpu hf hint hresult
  · intro vm' hrun
    have hcomputes : Computes vm.arch ((Instruction.load op rd rs1 imm).exec vm.arch.toRv64i)
        (execWord cfg vm.arch (Instruction.load op rd rs1 imm).encode) := computes_load op hbs
    exact hcomputes.state _ (runInstruction_integer hf hint hrun).1

/-- AUIPC and a load, whose second register is that of the first. -/
theorem loadsFrom_iff {op : LoadOp} {rd : BitVec 5} {upper : BitVec 20} {lower : BitVec 12}
    (hwords : vm.memoryController.HoldsAt vm.programCounter
      [(Instruction.auipc rd upper).encode, (Instruction.load op rd rd lower).encode])
    (address : BitVec 64) :
    LoadsFrom cfg fpu op rd vm address ↔
      (if rd = 0#5 then 0#64 else vm.programCounter + upperImmediate upper) +
        lower.signExtend 64 = address := by
  obtain ⟨hfirst, hsecond, -⟩ := hwords
  obtain ⟨vm₁, hrun, hstate, hpc, hmemory⟩ :=
    runInstruction_of_isPlain cfg fpu (show (Instruction.auipc rd upper).IsPlain from trivial) hfirst
  rw [← hpc, ← hmemory] at hsecond
  obtain ⟨hresult, hload⟩ := runInstruction_of_load cfg fpu hsecond
  have haddress : vm₁.arch.toRv64i.address rd lower =
      (if rd = 0#5 then 0#64 else vm.programCounter + upperImmediate upper) +
        lower.signExtend 64 := by
    rw [hstate]
    show (vm.arch.toRv64i.x.write rd _).read rd + _ = _
    by_cases hrd : rd = 0#5
    · rw [if_pos hrd, hrd, Registers.read_write_zero, Registers.read_zero]
    · rw [if_neg hrd, Registers.read_write_self _ hrd]
      rfl
  rw [← haddress]
  constructor
  · rintro ⟨vm₁', hrun', hresult', -⟩
    obtain rfl := Except.ok.inj (hrun.symm.trans hrun')
    rw [← hresult', hresult]
  · intro heq
    refine ⟨vm₁, hrun, hresult.trans heq, fun vm₂ hrun₂ => ?_⟩
    rw [hload vm₂ hrun₂, ← heq, ← hmemory]
    rfl

end RVSSVM

/-- Where the two instructions of a load reach `target` from `pc`: with `x0` the
load has the lower part of the distance alone. -/
def ReachesFrom (rd : BitVec 5) (pc target : BitVec 64) : Prop :=
  if rd = 0#5 then pc.setWidth 12 = 0#12 ∧ -2048 ≤ target.toInt ∧ target.toInt < 2048
  else IsSplit (target - pc).toInt

theorem base_add_iff (rd : BitVec 5) (pc target : BitVec 64) :
    (if rd = 0#5 then 0#64
      else pc + upperImmediate ((upperPart (target - pc)).setWidth 20)) +
        ((lowerPart (target - pc)).setWidth 12).signExtend 64 = target ↔
      ReachesFrom rd pc target := by
  unfold ReachesFrom
  split
  · rw [BitVec.zero_add, setWidth_lowerPart, signExtend_distance_iff]
  · rw [← join_parts_iff, BitVec.add_assoc, BitVec.add_comm pc, ← BitVec.eq_sub_iff_add_eq]

namespace Parser

variable {cfg : VmConfig} {p p' : Parser} {rd : BitVec 5} {address : BitVec 64}

/-! ### The lines -/

/-- A line with a label operand has no number in its place. -/
theorem not_matchesLine_of_labelRef
    (hline : p.matchesLine [.gpRegister, .comma, .labelRef] = true) :
    p.matchesLine [.gpRegister, .comma, .num, .lparen, .gpRegister, .rparen] = false := by
  unfold matchesLine at hline ⊢
  simp only [List.zipIdx_cons, List.zipIdx_nil, List.all_cons, List.all_nil, Bool.and_eq_true,
    beq_iff_eq] at hline
  have htype : (p.peekToken (1 + 1 + 1)).type = .labelRef := hline.1.2.2.1.2
  simp [List.zipIdx_cons, htype]

/-- The units for the two parts of a distance. -/
theorem immediateOf_part (part : BitVec 32) :
    immediateOf (truncated 32 (toText part.toInt)) = .ok part := by
  have hlow := part.le_toInt
  have hhigh := part.toInt_lt
  rw [immediateOf_truncated_toText (by omega) (by omega), BitVec.ofInt_toInt]

theorem splitOffset_eq (p : Parser) (cfg : VmConfig) (address : BitVec 64) :
    p.splitOffset cfg address =
      (upperPart (p.distance cfg address), lowerPart (p.distance cfg address)) :=
  rfl

/-- The default distance from the first instruction to the data. -/
example : ({ rest := [] } : Parser).splitOffset {} 0xFFC#64 = (0x10001#32, -4#32) := by
  decide +kernel

theorem parseLa_emits (hline : p.matchesLine [.gpRegister, .comma, .labelRef] = true)
    (hreg : registerNumber (p.peekToken 1).value = .ok (rd.setWidth 32))
    (haddress : p.dataAddress (p.peekToken 3).value = some address) :
    ∃ p', p.parseLa cfg = .ok (true, p') ∧
      Emits p p' [.auipc rd ((upperPart (p.distance cfg address)).setWidth 20),
        .immediate .addi rd rd ((lowerPart (p.distance cfg address)).setWidth 12)] := by
  obtain ⟨reg, hname, hindex⟩ := exists_regName hreg
  have hauipc : truncated 20 "auipc" = "auipc" := truncated_mnemonic _ (by simp)
  have haddi : truncated 20 "addi" = "addi" := truncated_mnemonic _ (by simp)
  unfold parseLa
  rw [if_pos hline, hname, ok_bind, haddress]
  dsimp only
  rw [splitOffset_eq]
  refine ⟨_, rfl, (((Emits.refl p).emit true ?_).emit true ?_).skipCurrentLine⟩
  · exact generateUnitCode_auipc hauipc hindex (immediateOf_part _)
  · exact generateUnitCode_addi haddi hindex hindex (immediateOf_part _)

theorem parseOGprCDl_emits {op : LoadOp} (hop : (p.currentToken.value, op) ∈ labelLoads)
    (hline : p.matchesLine [.gpRegister, .comma, .labelRef] = true)
    (hreg : registerNumber (p.peekToken 1).value = .ok (rd.setWidth 32))
    (haddress : p.dataAddress (p.peekToken 3).value = some address) :
    ∃ p', p.parseOGprCDl cfg = .ok (true, p') ∧
      Emits p p' [.auipc rd ((upperPart (p.distance cfg address)).setWidth 20),
        .load op rd rd ((lowerPart (p.distance cfg address)).setWidth 12)] := by
  obtain ⟨reg, hname, hindex⟩ := exists_regName hreg
  have hauipc : truncated 20 "auipc" = "auipc" := truncated_mnemonic _ (by simp)
  have hopcode : truncated 20 p.currentToken.value = p.currentToken.value := by
    have hall : ∀ entry ∈ labelLoads, truncated 20 entry.1 = entry.1 := by
      intro entry hentry
      refine truncated_mnemonic _ ?_
      simp only [labelLoads, List.mem_cons, List.not_mem_nil, or_false] at hentry
      rcases hentry with rfl | rfl | rfl | rfl <;> simp
    exact hall (p.currentToken.value, op) hop
  unfold parseOGprCDl
  rw [if_pos hline, hname, ok_bind, haddress]
  dsimp only
  rw [splitOffset_eq]
  refine ⟨_, rfl, (((Emits.refl p).emit true ?_).emit true ?_).skipCurrentLine⟩
  · exact generateUnitCode_auipc hauipc hindex (immediateOf_part _)
  · refine generateUnitCode_load ?_ hindex hindex (immediateOf_part _)
    show (truncated 20 p.currentToken.value, op) ∈ labelLoads
    rwa [hopcode]

/-! ### Items of the text section -/

theorem parseTextItem_la (htype : p.currentToken.type = .opcode)
    (hla : p.currentToken.value = "la") {p' : Parser} (h : p.parseLa cfg = .ok (true, p')) :
    p.parseTextItem cfg = .ok p' := by
  have henabled : disabledExtension cfg p.currentToken.value = none := by
    rw [hla]
    rfl
  have hpseudo : p.parsePseudo cfg = .ok (true, p') := by
    unfold parsePseudo
    rw [if_pos hla, h]
  exact parseTextItem_of_pseudo htype henabled (by rw [hla]; decide +kernel) hpseudo

/-- The syntaxes of a load on a line with a label. -/
theorem parseSyntaxes_labelLoad (cfg : VmConfig) {op : LoadOp}
    (hop : (p.currentToken.value, op) ∈ labelLoads)
    (hline : p.matchesLine [.gpRegister, .comma, .labelRef] = true) :
    disabledExtension cfg p.currentToken.value = none ∧
      parseSyntaxes cfg (syntaxesOf p.currentToken.value) p = parseSyntaxes cfg [.oGprCDl] p := by
  have hall : ∀ entry ∈ labelLoads, syntaxesOf entry.1 = [.oGprCILpGprRp, .oGprCDl] ∧
      isValidMExtensionInstruction entry.1 = false ∧
      isValidFExtensionInstruction entry.1 = false ∧
      isValidDExtensionInstruction entry.1 = false := by
    decide +kernel
  obtain ⟨hforms, hm, hf, hd⟩ := hall (p.currentToken.value, op) hop
  have henabled : disabledExtension cfg p.currentToken.value = none := by
    unfold disabledExtension
    rw [hm, hf, hd]
    rfl
  have hother : p.parseSyntax cfg .oGprCILpGprRp = .ok (false, p) := by
    show p.parseOGprCILpGprRp = _
    unfold parseOGprCILpGprRp
    rw [not_matchesLine_of_labelRef hline]
    rfl
  refine ⟨henabled, ?_⟩
  rw [show syntaxesOf p.currentToken.value = _ from hforms, parseSyntaxes_of_false hother]

theorem parseTextItem_labelLoad {op : LoadOp} (hop : (p.currentToken.value, op) ∈ labelLoads)
    (htype : p.currentToken.type = .opcode)
    (hline : p.matchesLine [.gpRegister, .comma, .labelRef] = true) {p' : Parser}
    (h : p.parseOGprCDl cfg = .ok (true, p')) : p.parseTextItem cfg = .ok p' := by
  obtain ⟨henabled, hsyntaxes⟩ := parseSyntaxes_labelLoad cfg hop hline
  refine parseTextItem_of_valid htype henabled ?_
  rw [hsyntaxes]
  exact parseSyntaxes_of_true h

/-- A label that is not one of the data section is reported. -/
theorem label_rejected (htype : p.currentToken.type = .opcode)
    (hname : p.currentToken.value = "la" ∨ ∃ op, (p.currentToken.value, op) ∈ labelLoads)
    (hline : p.matchesLine [.gpRegister, .comma, .labelRef] = true)
    (hreg : registerNumber (p.peekToken 1).value = .ok (rd.setWidth 32))
    (haddress : p.dataAddress (p.peekToken 3).value = none) :
    ∃ p' error, p.parseTextItem cfg = .ok p' ∧
      p'.errors.parseErrors = p.errors.parseErrors ++ [error] := by
  obtain ⟨reg, hname', -⟩ := exists_regName hreg
  rcases hname with hla | ⟨op, hop⟩
  · have h : p.parseLa cfg = .ok (true,
        (p.reportError p.currentToken.lineNumber "Invalid label reference").skipCurrentLine) := by
      unfold parseLa
      rw [if_pos hline, hname', ok_bind, haddress]
      rfl
    exact ⟨_, _, parseTextItem_la htype hla h, rfl⟩
  · have h : p.parseOGprCDl cfg = .ok (p.rejectLine 3 "Invalid label reference") := by
      unfold parseOGprCDl
      rw [if_pos hline, hname', ok_bind, haddress]
      rfl
    exact ⟨_, _, parseTextItem_labelLoad hop htype hline h, rfl⟩

/-- **`la` and the loads from a label reach it exactly when it is in their
range.**  The line of any of them is accepted when its label is one of the data
section, and reported otherwise.  Of the accepted ones, `la` sets its register to
the address exactly when the distance of the label is in the range of AUIPC and
ADDI; the loads read from the address exactly then too, unless they load into
`x0`, which cannot hold the upper part. -/
theorem label_reached_iff (cfg : VmConfig) (fpu : FloatUnit)
    (htype : p.currentToken.type = .opcode)
    (hname : p.currentToken.value = "la" ∨ ∃ op, (p.currentToken.value, op) ∈ labelLoads)
    (hline : p.matchesLine [.gpRegister, .comma, .labelRef] = true)
    (hreg : registerNumber (p.peekToken 1).value = .ok (rd.setWidth 32)) :
    (p.dataAddress (p.peekToken 3).value = none →
      ∃ p' error, p.parseTextItem cfg = .ok p' ∧
        p'.errors.parseErrors = p.errors.parseErrors ++ [error]) ∧
    ∀ address, p.dataAddress (p.peekToken 3).value = some address →
      ∃ p' words, p.parseTextItem cfg = .ok p' ∧ p'.errors = p.errors ∧
        generateMachineCode (p'.intermediateCode.drop p.intermediateCode.length) = .ok words ∧
        ∀ vm : RVSSVM, vm.programCounter = instructionAddress p.instructionIndex →
          vm.memoryController.HoldsAt vm.programCounter words →
          (p.currentToken.value = "la" → rd ≠ 0#5 →
            ((∃ vm', rounds (RVSSVM.runInstruction cfg fpu) 2 vm = .ok vm' ∧
              vm'.arch.toRv64i =
                { pc := vm.programCounter + 4#64 * 2#64
                  x := vm.registers.toRegisters.write rd (cfg.dataSectionStart + address)
                  memory := vm.memoryController.contents }) ↔
              IsSplit (p.distance cfg address).toInt)) ∧
          ∀ op, (p.currentToken.value, op) ∈ labelLoads →
            (RVSSVM.LoadsFrom cfg fpu op rd vm (cfg.dataSectionStart + address) ↔
              ReachesFrom rd vm.programCounter (cfg.dataSectionStart + address)) := by
  have hexclusive : ∀ op, ("la", op) ∉ labelLoads := by
    intro op hop
    simp [labelLoads] at hop
  have hunique : ∀ {name op op'}, (name, op) ∈ labelLoads → (name, op') ∈ labelLoads →
      op = op' := by
    intro name op op' hop hop'
    simp only [labelLoads, List.mem_cons, List.not_mem_nil, or_false, Prod.mk.injEq] at hop hop'
    rcases hop with ⟨rfl, rfl⟩ | ⟨rfl, rfl⟩ | ⟨rfl, rfl⟩ | ⟨rfl, rfl⟩ <;> simp_all
  refine ⟨label_rejected htype hname hline hreg, fun address haddress => ?_⟩
  rcases hname with hla | ⟨op, hop⟩
  · obtain ⟨p', hparse, hemits⟩ := parseLa_emits hline hreg haddress
    refine ⟨p', _, parseTextItem_la htype hla hparse, hemits.errors, hemits.code,
      fun vm hpc hwords => ⟨fun _ hrd => ?_, fun op hop => ?_⟩⟩
    · have hdistance : cfg.dataSectionStart + address - vm.programCounter =
          p.distance cfg address := by
        rw [hpc]
        rfl
      have hplain : ∀ i ∈ [Instruction.auipc rd ((upperPart (p.distance cfg address)).setWidth 20),
          .immediate .addi rd rd ((lowerPart (p.distance cfg address)).setWidth 12)],
          i.IsPlain := by
        simp [Instruction.IsPlain]
      obtain ⟨vm', hrun, hstate, -⟩ := RVSSVM.rounds_computes cfg fpu hplain hwords
      rw [exec_auipc_addi vm.arch.toRv64i _ _ hrd] at hstate
      have hvalue := base_add_iff rd vm.programCounter (cfg.dataSectionStart + address)
      rw [if_neg hrd, ReachesFrom, if_neg hrd, hdistance] at hvalue
      rw [← hvalue]
      constructor
      · rintro ⟨vm₁, hrun₁, hstate₁⟩
        obtain rfl := Except.ok.inj (hrun.symm.trans hrun₁)
        have hread := congrArg (fun s : State => s.x.read rd) (hstate.symm.trans hstate₁)
        simp only [Registers.read_write_self _ hrd] at hread
        exact hread
      · intro heq
        refine ⟨vm', hrun, hstate.trans ?_⟩
        rw [← heq]
        rfl
    · rw [hla] at hop
      exact absurd hop (hexclusive op)
  · obtain ⟨p', hparse, hemits⟩ := parseOGprCDl_emits hop hline hreg haddress
    refine ⟨p', _, parseTextItem_labelLoad hop htype hline hparse, hemits.errors, hemits.code,
      fun vm hpc hwords => ⟨fun hla => ?_, fun op' hop' => ?_⟩⟩
    · rw [hla] at hop
      exact absurd hop (hexclusive op)
    · obtain rfl := hunique hop hop'
      have hdistance : p.distance cfg address =
          cfg.dataSectionStart + address - vm.programCounter := by
        rw [hpc]
        rfl
      rw [hdistance] at hwords
      rw [RVSSVM.loadsFrom_iff cfg fpu hwords, base_add_iff]

/-- The parser before the line `la a0, v`, with `v` at the start of the data section. -/
def atLa : Parser where
  rest := [⟨.opcode, "la", 1#32⟩, ⟨.gpRegister, "a0", 1#32⟩, ⟨.comma, ",", 1#32⟩,
    ⟨.labelRef, "v", 1#32⟩]
  symbolTable := fun name => if name = "v" then some ⟨0#64, 1, true⟩ else none

theorem label_reached_iff_start :
    ∃ p' words, atLa.parseTextItem {} = .ok p' ∧ p'.errors = {} ∧
      generateMachineCode (p'.intermediateCode.drop 0) = .ok words ∧
      ∀ vm : RVSSVM, vm.programCounter = 0#64 →
        vm.memoryController.HoldsAt vm.programCounter words →
        ((∃ vm', rounds (RVSSVM.runInstruction {} .zeros) 2 vm = .ok vm' ∧
          vm'.arch.toRv64i =
            { pc := vm.programCounter + 4#64 * 2#64
              x := vm.registers.toRegisters.write 10#5 (0x10000000#64 + 0#64)
              memory := vm.memoryController.contents }) ↔
          IsSplit (atLa.distance {} 0#64).toInt) := by
  have h := (@label_reached_iff atLa 10#5 {} .zeros rfl (.inl rfl) (by decide)
    (by decide +kernel)).2 0#64 (by decide)
  obtain ⟨p', words, hparse, herrors, hcode, hall⟩ := h
  exact ⟨p', words, hparse, herrors, hcode, fun vm hpc hwords =>
    (hall vm hpc hwords).1 rfl (by decide)⟩

/-- A program that loads the address of its only data label. -/
def laProgram : List Token :=
  [⟨.directive, "data", 1#32⟩, ⟨.label, "v", 2#32⟩, ⟨.directive, "word", 2#32⟩,
    ⟨.num, "7", 2#32⟩, ⟨.directive, "text", 3#32⟩, ⟨.opcode, "la", 4#32⟩,
    ⟨.gpRegister, "a0", 4#32⟩, ⟨.comma, ",", 4#32⟩, ⟨.labelRef, "v", 4#32⟩, ⟨.eof, "", 4#32⟩]

/-- With the data section at `2 ^ 31`, `la` sets its register to `-2 ^ 31`. -/
theorem la_misses_label :
    ∃ cfg p vm vm', ({} : VmConfig).modifyConfig "Memory" "data_section_start" "0x80000000" =
        .ok cfg ∧
      parse cfg .zeros 10 laProgram = .ok p ∧ p.errors.count = 0#32 ∧
      p.symbolTable "v" = some ⟨0#64, 2, true⟩ ∧
      generateMachineCode p.intermediateCode = .ok [0x80000517#32, 0x00050513#32] ∧
      (RVSSVM.new cfg).loadProgram cfg
        { dataBuffer := p.dataBuffer, textBuffer := [0x80000517#32, 0x00050513#32] } = .ok vm ∧
      rounds (RVSSVM.runInstruction cfg .zeros) 2 vm = .ok vm' ∧
      vm'.registers.readGpr 10#5 = 0xffffffff80000000#64 ∧
      vm'.registers.readGpr 10#5 ≠ cfg.dataSectionStart + 0#64 := by
  let cfg : VmConfig := { dataSectionStart := 0x80000000#64 }
  let p : Parser := (parse cfg .zeros 10 laProgram).toOption.getD { rest := [] }
  let vm : RVSSVM := ((RVSSVM.new cfg).loadProgram cfg
    { dataBuffer := p.dataBuffer
      textBuffer := [0x80000517#32, 0x00050513#32] }).toOption.getD (.new {})
  have hparse : parse cfg .zeros 10 laProgram = .ok p := eq_ok_getD _ (by decide +kernel)
  have hload : (RVSSVM.new cfg).loadProgram cfg
      { dataBuffer := p.dataBuffer, textBuffer := [0x80000517#32, 0x00050513#32] } = .ok vm :=
    eq_ok_getD _ (by decide +kernel)
  exact ⟨cfg, p, vm, _, by decide +kernel, hparse, by decide +kernel, by decide +kernel,
    by decide +kernel, hload, eq_ok_getD (.new {}) (by decide +kernel), by decide +kernel,
    by decide +kernel⟩

end Parser

end RiscvSim

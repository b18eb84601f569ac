import RiscvSim.Lib.Rv64i
import RiscvSim.Vm.Equiv.MemoryContents
import RiscvSim.Vm.Rvss.Equiv.AluInstructions

/-!
# The single-cycle machine implements RV64I

The program counter, the registers and the contents of the memory are a state
of the base instruction set (`RVSSVM.toRv64i`).  One lemma a format computes
`execWord` on an encoded instruction.

* **`runInstruction_rv64i`**: an instruction without a fault of the memory is
  executed as the manual prescribes.
-/

namespace RiscvSim

open Lib Rv64i

/-- The general-purpose registers as an instruction sees them. -/
def RegisterFile.toRegisters (r : RegisterFile) : Registers where
  read := r.readGpr
  read_zero := r.readGpr_zero

theorem RegisterFile.toRegisters_writeGpr (r : RegisterFile) (rd : BitVec 5) (value : BitVec 64) :
    (r.writeGpr rd value).toRegisters = r.toRegisters.write rd value := by
  apply Registers.ext
  funext i
  exact r.readGpr_writeGpr rd i value

/-- The state of the instruction set. -/
def ArchState.toRv64i (s : ArchState) : Rv64i.State where
  pc := s.pc
  x := s.registers.toRegisters
  memory := s.memory.contents

/-- The state after an instruction that writes `rd` and goes on to the next one. -/
def ArchState.advance (s : ArchState) (rd : BitVec 5) (value : BitVec 64) : ArchState where
  pc := s.pc + 4#64
  registers := s.registers.writeGpr rd value
  memory := s.memory

namespace RVSSVM

variable {cfg : VmConfig} {fpu : FloatUnit} {s : ArchState} {w : BitVec 32}

/-! ### One formula a format -/

/-- The address of a load or a store. -/
theorem resultOf_of_access (h : opcodeOf w = 0b0000011#7 ∨ opcodeOf w = 0b0100011#7) :
    resultOf s w = .ok (s.registers.readGpr (rs1Of w) + offset64 (immGenerator w)) := by
  unfold resultOf aluOf RVSSControlUnit.setControlSignals RVSSControlUnit.getAluSignal
  rcases h with h | h <;> rw [h] <;> rfl

/-- A load or a store goes on to the next instruction. -/
theorem nextOf_of_access (h : opcodeOf w = 0b0000011#7 ∨ opcodeOf w = 0b0100011#7)
    (x : BitVec 64) : nextOf s w x = s.pc + 4#64 := by
  unfold nextOf
  rcases h with h | h <;> rw [h] <;> rfl

theorem execWord_of_load (h : opcodeOf w = 0b0000011#7) :
    execWord cfg s w =
      (loadInteger s.memory (funct3Of w)
        (s.registers.readGpr (rs1Of w) + offset64 (immGenerator w)) 0#64).map fun value => {
      pc := s.pc + 4#64
      registers := s.registers.writeGpr (rdOf w) value
      memory := s.memory } := by
  have hload : ∀ x, loadOf s w x = loadInteger s.memory (funct3Of w) x 0#64 := by
    intro x
    unfold loadOf RVSSControlUnit.setControlSignals
    rw [h]
    rfl
  have hstore : ∀ x, storeOf cfg s w x = .ok s.memory := by
    intro x
    unfold storeOf RVSSControlUnit.setControlSignals
    rw [h]
    rfl
  have hregs : ∀ x v np, integerResult (RVSSControlUnit.setControlSignals w).regWrite w x v np
      s.registers = s.registers.writeGpr (rdOf w) v := by
    intro x v np
    unfold integerResult RVSSControlUnit.setControlSignals
    rw [h]
    rfl
  unfold execWord
  rw [resultOf_of_access (.inl h), ok_bind, hload, hstore, nextOf_of_access (.inl h)]
  cases loadInteger s.memory (funct3Of w)
      (s.registers.readGpr (rs1Of w) + offset64 (immGenerator w)) 0#64 with
  | error e => rfl
  | ok value =>
    rw [ok_bind, ok_bind, hregs]
    rfl

theorem execWord_of_store (h : opcodeOf w = 0b0100011#7) {n : Nat}
    {write : Memory → Except (Fault × Memory) Memory}
    (hwrite : storeInteger cfg (funct3Of w)
      (s.registers.readGpr (rs1Of w) + offset64 (immGenerator w))
      (s.registers.readGpr (rs2Of w)) = some (n, write)) :
    execWord cfg s w = (forgetState (write s.memory)).map fun memory => {
      pc := s.pc + 4#64
      registers := s.registers
      memory := memory } := by
  have hload : ∀ x, loadOf s w x = .ok 0#64 := by
    intro x
    unfold loadOf RVSSControlUnit.setControlSignals
    rw [h]
    rfl
  have hstore : storeOf cfg s w (s.registers.readGpr (rs1Of w) + offset64 (immGenerator w)) =
      forgetState (write s.memory) := by
    unfold storeOf
    rw [if_pos (RVSSControlUnit.memWrite_setControlSignals.mpr (.inl h)), hwrite]
  have hregs : ∀ x v np, integerResult (RVSSControlUnit.setControlSignals w).regWrite w x v np
      s.registers = s.registers := by
    intro x v np
    unfold integerResult RVSSControlUnit.setControlSignals
    rw [h]
    rfl
  unfold execWord
  rw [resultOf_of_access (.inr h), ok_bind, hload, ok_bind, hstore, nextOf_of_access (.inr h),
    hregs]
  cases forgetState (write s.memory) with
  | error e => rfl
  | ok memory => rfl

theorem execWord_of_branch (h : opcodeOf w = 0b1100011#7) {x : BitVec 64} {overflow : Bool}
    (halu : Alu.execute (RVSSControlUnit.bTypeAluSignal (funct3Of w))
      (s.registers.readGpr (rs1Of w)) (s.registers.readGpr (rs2Of w)) = .ok (x, overflow)) :
    execWord cfg s w = .ok { s with
      pc :=
        if branchFlagOf (funct3Of w) x false then s.pc + offset64 (immGenerator w)
        else s.pc + 4#64 } := by
  have hresult : resultOf s w = .ok x := by
    have hop : aluOf s w = Alu.execute (RVSSControlUnit.bTypeAluSignal (funct3Of w))
        (s.registers.readGpr (rs1Of w)) (s.registers.readGpr (rs2Of w)) := by
      unfold aluOf RVSSControlUnit.setControlSignals RVSSControlUnit.getAluSignal
      rw [h]
      rfl
    unfold resultOf
    rw [hop, halu, h]
    rfl
  unfold execWord
  rw [hresult, ok_bind, nextOf_of_branch h]
  unfold loadOf storeOf integerResult RVSSControlUnit.setControlSignals
  rw [h]
  rfl

theorem execWord_of_jal (h : opcodeOf w = 0b1101111#7) :
    execWord cfg s w = .ok { s with
      pc := s.pc + offset64 (immGenerator w)
      registers := s.registers.writeGpr (rdOf w) (s.pc + 4#64) } := by
  unfold execWord resultOf aluOf loadOf storeOf nextOf integerResult
    RVSSControlUnit.setControlSignals RVSSControlUnit.getAluSignal
  rw [h]
  rfl

theorem execWord_of_jalr (h : opcodeOf w = 0b1100111#7) :
    execWord cfg s w = .ok { s with
      pc := s.registers.readGpr (rs1Of w) + offset64 (immGenerator w)
      registers := s.registers.writeGpr (rdOf w) (s.pc + 4#64) } := by
  unfold execWord resultOf aluOf loadOf storeOf nextOf integerResult
    RVSSControlUnit.setControlSignals RVSSControlUnit.getAluSignal
  rw [h]
  rfl

/-! ### The operations -/

theorem toNat_and_63 (b : BitVec 64) : (b &&& 63#64).toNat = (b.setWidth 6).toNat := by
  rw [BitVec.toNat_and, BitVec.toNat_setWidth]
  exact Nat.and_two_pow_sub_one_eq_mod _ 6

theorem ofBool_eq_ofComparison (holds : Bool) :
    (BitVec.ofBool holds).setWidth 64 = ofComparison holds := by
  cases holds <;> rfl

theorem execute_registerOp (op : RegisterOp) (a b : BitVec 64) :
    ∃ overflow, Alu.execute (RVSSControlUnit.rTypeAluSignal op.funct3 op.funct7) a b =
      .ok (op.eval a b, overflow) := by
  cases op with
  | add | sub | xor | or | and => exact ⟨_, rfl⟩
  | sll =>
    refine ⟨false, ?_⟩
    show Except.ok (a <<< (b &&& 63#64).toNat, false) = _
    rw [toNat_and_63]
    rfl
  | srl =>
    refine ⟨false, ?_⟩
    show Except.ok (a >>> (b &&& 63#64).toNat, false) = _
    rw [toNat_and_63]
    rfl
  | sra =>
    refine ⟨false, ?_⟩
    show Except.ok (a.sshiftRight (b &&& 63#64).toNat, false) = _
    rw [toNat_and_63]
    rfl
  | slt =>
    refine ⟨false, ?_⟩
    show Except.ok ((BitVec.ofBool (a.slt b)).setWidth 64, false) = _
    rw [ofBool_eq_ofComparison]
    rfl
  | sltu =>
    refine ⟨false, ?_⟩
    show Except.ok ((BitVec.ofBool (a.ult b)).setWidth 64, false) = _
    rw [ofBool_eq_ofComparison]
    rfl

theorem execute_immediateOp (op : ImmediateOp) (funct7 : BitVec 7) (a b : BitVec 64) :
    ∃ overflow, Alu.execute (RVSSControlUnit.iTypeAluSignal op.registerOp.funct3 funct7) a b =
      .ok (op.registerOp.eval a b, overflow) := by
  have hsignal : RVSSControlUnit.iTypeAluSignal op.registerOp.funct3 funct7 =
      RVSSControlUnit.rTypeAluSignal op.registerOp.funct3 op.registerOp.funct7 := by
    cases op <;> rfl
  rw [hsignal]
  exact execute_registerOp op.registerOp a b

/-- A shift by an amount below 32, whose word has the `funct7` of its mnemonic. -/
theorem execute_shiftOp (op : ShiftOp) {funct7 : BitVec 7} {shamt : BitVec 6}
    (hfunct7 : funct7.toNat = 2 * op.funct6.toNat) (a : BitVec 64) {b : BitVec 64}
    (hb : b &&& 63#64 = shamt.setWidth 64 &&& 63#64) :
    ∃ overflow, Alu.execute (RVSSControlUnit.iTypeAluSignal op.funct3 funct7) a b =
      .ok (op.eval a shamt, overflow) := by
  have hamount : (b &&& 63#64).toNat = shamt.toNat := by
    rw [hb, toNat_and_63, BitVec.setWidth_setWidth_of_le _ (by decide), BitVec.setWidth_eq]
  have hcongr : ∀ op', op' = .kSll ∨ op' = .kSrl ∨ op' = .kSra →
      Alu.execute op' a b = Alu.execute op' a (shamt.setWidth 64) :=
    fun op' h => execute_shift_congr h a hb
  rw [hb] at hamount
  cases op with
  | slli =>
    refine ⟨false, ?_⟩
    show Alu.execute .kSll a b = _
    rw [hcongr _ (.inl rfl)]
    show Except.ok (a <<< (shamt.setWidth 64 &&& 63#64).toNat, false) = _
    rw [hamount]
    rfl
  | srli =>
    obtain rfl : funct7 = 0b0000000#7 := BitVec.eq_of_toNat_eq hfunct7
    refine ⟨false, ?_⟩
    show Alu.execute .kSrl a b = _
    rw [hcongr _ (.inr (.inl rfl))]
    show Except.ok (a >>> (shamt.setWidth 64 &&& 63#64).toNat, false) = _
    rw [hamount]
    rfl
  | srai =>
    obtain rfl : funct7 = 0b0100000#7 := BitVec.eq_of_toNat_eq hfunct7
    refine ⟨false, ?_⟩
    show Alu.execute .kSra a b = _
    rw [hcongr _ (.inr (.inr rfl))]
    show Except.ok (a.sshiftRight (shamt.setWidth 64 &&& 63#64).toNat, false) = _
    rw [hamount]
    rfl

/-- The comparison of a branch, by the ALU and the flag. -/
theorem execute_branchCondition (condition : BranchCondition) (a b : BitVec 64) :
    ∃ x overflow, Alu.execute (RVSSControlUnit.bTypeAluSignal condition.funct3) a b =
        .ok (x, overflow) ∧ branchFlagOf condition.funct3 x false = condition.holds a b := by
  have hzero : a - b = 0#64 ↔ a = b := by
    constructor
    · intro h
      rw [← BitVec.sub_add_cancel a b, h, BitVec.zero_add]
    · rintro rfl
      exact BitVec.sub_self a
  have hone : ∀ holds : Bool, ((BitVec.ofBool holds).setWidth 64 == 1#64) = holds := by decide
  have hnone : ∀ holds : Bool, ((BitVec.ofBool holds).setWidth 64 == 0#64) = !holds := by decide
  cases condition with
  | beq =>
    refine ⟨a - b, _, rfl, ?_⟩
    show (a - b == 0#64) = (a == b)
    rw [Bool.eq_iff_iff, beq_iff_eq, beq_iff_eq, hzero]
  | bne =>
    refine ⟨a - b, _, rfl, ?_⟩
    show (a - b != 0#64) = (a != b)
    rw [Bool.eq_iff_iff, bne_iff_ne, bne_iff_ne, ne_eq, hzero]
  | blt => exact ⟨_, _, rfl, hone (a.slt b)⟩
  | bge => exact ⟨_, _, rfl, hnone (a.slt b)⟩
  | bltu => exact ⟨_, _, rfl, hone (a.ult b)⟩
  | bgeu => exact ⟨_, _, rfl, hnone (a.ult b)⟩

/-- A load that succeeds has the value of its bytes, extended. -/
theorem loadInteger_loadOp (op : LoadOp) {m : Memory} {a v x : BitVec 64}
    (h : loadInteger m op.funct3 a v = .ok x) : x = op.eval m.contents a := by
  have hsized : ∀ {n : Nat} (f : BitVec (8 * n) → BitVec 64),
      (m.readSized n a >>= fun value => pure (f value)) = .ok x →
        x = f (m.contents.load n a) := by
    intro n f h
    obtain ⟨value, hread, rfl⟩ := bind_pure_eq_ok.mp h
    rw [Memory.load_of_readSized hread]
  cases op with
  | lb =>
    refine hsized (n := 1) (fun value => value.signExtend 64) ?_
    rw [← Memory.readByte_eq_readSized]
    exact h
  | lbu =>
    refine hsized (n := 1) (fun value => value.setWidth 64) ?_
    rw [← Memory.readByte_eq_readSized]
    exact h
  | lh => exact hsized (n := 2) (fun value => value.signExtend 64) h
  | lhu => exact hsized (n := 2) (fun value => value.setWidth 64) h
  | lw => exact hsized (n := 4) (fun value => value.signExtend 64) h
  | lwu => exact hsized (n := 4) (fun value => value.setWidth 64) h
  | ld =>
    have hread : m.readSized 8 a = .ok x := h
    rw [Memory.load_of_readSized hread]
    exact (BitVec.signExtend_eq _).symm

/-- A store is a checked write of its width. -/
theorem storeInteger_storeOp (op : StoreOp) (a v : BitVec 64) :
    storeInteger cfg op.funct3 a v =
      some (op.width, fun m => m.writeSized cfg op.width a (v.setWidth (8 * op.width))) := by
  cases op with
  | sb =>
    show some (1, fun m : Memory => m.writeByte cfg a (v.setWidth 8)) = _
    rw [funext fun m => Memory.writeByte_eq_writeSized m a (v.setWidth 8)]
    rfl
  | sh | sw => rfl
  | sd =>
    show some (8, fun m : Memory => m.writeDoubleWord cfg a v) = _
    rw [show v.setWidth (8 * StoreOp.sd.width) = v from BitVec.setWidth_eq v]
    rfl

/-! ### One instruction -/

/-- The outcome is the state `t` of the instruction set, with the other banks
unchanged, or a fault of the memory. -/
structure Computes (s : ArchState) (t : Rv64i.State) (out : Except Fault ArchState) : Prop where
  fails : FailsWith Fault.IsMemory out
  state : ∀ s', out = .ok s' → s'.toRv64i = t
  fpr : ∀ s', out = .ok s' → s'.registers.fpr = s.registers.fpr
  csr : ∀ s', out = .ok s' → s'.registers.csr = s.registers.csr

theorem banks_writeGpr (r : RegisterFile) (rd : BitVec 5) (value : BitVec 64) :
    (r.writeGpr rd value).fpr = r.fpr ∧ (r.writeGpr rd value).csr = r.csr := by
  unfold RegisterFile.writeGpr
  split <;> exact ⟨rfl, rfl⟩

/-- An outcome that writes a register and leaves the memory alone. -/
theorem computes_write (pc : BitVec 64) (rd : BitVec 5) (value : BitVec 64) :
    Computes s { s.toRv64i with pc := pc, x := s.toRv64i.x.write rd value } (.ok {
      pc := pc
      registers := s.registers.writeGpr rd value
      memory := s.memory }) where
  fails := .ok _
  state := fun s' h => by
    obtain rfl := Except.ok.inj h
    unfold ArchState.toRv64i
    rw [RegisterFile.toRegisters_writeGpr]
  fpr := fun s' h => by
    obtain rfl := Except.ok.inj h
    exact (banks_writeGpr _ _ _).1
  csr := fun s' h => by
    obtain rfl := Except.ok.inj h
    exact (banks_writeGpr _ _ _).2

theorem computes_error {t : Rv64i.State} {e : Fault} (h : e.IsMemory) :
    Computes s t (.error e) where
  fails := .error h
  state := fun _ h => nomatch h
  fpr := fun _ h => nomatch h
  csr := fun _ h => nomatch h

/-- An outcome that moves the program counter only. -/
theorem computes_pc (pc : BitVec 64) :
    Computes s { s.toRv64i with pc := pc } (.ok { s with pc := pc }) where
  fails := .ok _
  state := fun s' h => by
    obtain rfl := Except.ok.inj h
    rfl
  fpr := fun s' h => by
    obtain rfl := Except.ok.inj h
    rfl
  csr := fun s' h => by
    obtain rfl := Except.ok.inj h
    rfl

variable {rd rs1 rs2 : BitVec 5} {funct3 : BitVec 3} {opcode : BitVec 7}

/-- The fields and the offset of an I-type word. -/
theorem fields_iType {imm : BitVec 12} (h : IsITypeOpcode opcode) :
    opcodeOf (iType imm rs1 funct3 rd opcode) = opcode ∧
    rdOf (iType imm rs1 funct3 rd opcode) = rd ∧
    funct3Of (iType imm rs1 funct3 rd opcode) = funct3 ∧
    rs1Of (iType imm rs1 funct3 rd opcode) = rs1 ∧
    offset64 (immGenerator (iType imm rs1 funct3 rd opcode)) = imm.signExtend 64 := by
  obtain ⟨hopcode, hrd, hfunct3, hrs1, himm⟩ := @iType_fields opcode rs1 rd funct3 imm
  refine ⟨hopcode, hrd, hfunct3, hrs1, ?_⟩
  rw [immGenerator_of_iType (by rw [show opcodeOf _ = opcode from hopcode]; exact h),
    offset64_signExtend (by decide), himm]

theorem execWord_register (op : RegisterOp) :
    execWord cfg s (Instruction.register op rd rs1 rs2).encode =
      .ok (s.advance rd (op.eval (s.registers.readGpr rs1) (s.registers.readGpr rs2))) := by
  obtain ⟨hopcode, hrd, hfunct3, hrs1, hrs2, hfunct7⟩ := @rType_fields op.funct7 0b0110011#7
    rs2 rs1 rd op.funct3
  set w := (Instruction.register op rd rs1 rs2).encode with hw
  have hopcode : opcodeOf w = 0b0110011#7 := hopcode
  have hrd : rdOf w = rd := hrd
  have hfunct3 : funct3Of w = op.funct3 := hfunct3
  have hrs1 : rs1Of w = rs1 := hrs1
  have hrs2 : rs2Of w = rs2 := hrs2
  have hfunct7 : funct7Of w = op.funct7 := hfunct7
  obtain ⟨overflow, halu⟩ :=
    execute_registerOp op (s.registers.readGpr rs1) (s.registers.readGpr rs2)
  rw [execWord_of_isAluOpcode (.inl hopcode), aluOf_of_rType hopcode, hfunct3, hfunct7, hrs1,
    hrs2, hrd, halu]
  rfl

theorem computes_register (op : RegisterOp) :
    Computes s ((Instruction.register op rd rs1 rs2).exec s.toRv64i)
      (execWord cfg s (Instruction.register op rd rs1 rs2).encode) := by
  rw [execWord_register op]
  exact computes_write _ _ _

theorem execWord_immediate (op : ImmediateOp) {imm : BitVec 12} :
    execWord cfg s (Instruction.immediate op rd rs1 imm).encode =
      .ok (s.advance rd (op.registerOp.eval (s.registers.readGpr rs1) (imm.signExtend 64))) := by
  show execWord cfg s (iType imm rs1 op.registerOp.funct3 rd 0b0010011#7) = _
  obtain ⟨hopcode, hrd, hfunct3, hrs1, himm⟩ := @fields_iType rd rs1 op.registerOp.funct3
    0b0010011#7 imm (.inl rfl)
  obtain ⟨overflow, halu⟩ := execute_immediateOp op
    (funct7Of (iType imm rs1 op.registerOp.funct3 rd 0b0010011#7))
    (s.registers.readGpr rs1) (imm.signExtend 64)
  rw [execWord_of_isAluOpcode (.inr hopcode), aluOf_of_iType hopcode, hfunct3, hrs1, himm, hrd,
    halu]
  rfl

theorem computes_immediate (op : ImmediateOp) {imm : BitVec 12} :
    Computes s ((Instruction.immediate op rd rs1 imm).exec s.toRv64i)
      (execWord cfg s (Instruction.immediate op rd rs1 imm).encode) := by
  rw [execWord_immediate op]
  exact computes_write _ _ _

theorem execWord_shift (op : ShiftOp) {shamt : BitVec 6} (hshort : shamt.toNat < 32) :
    execWord cfg s (Instruction.shift op rd rs1 shamt).encode =
      .ok (s.advance rd (op.eval (s.registers.readGpr rs1) shamt)) := by
  show execWord cfg s (iType (op.funct6 ++ shamt) rs1 op.funct3 rd 0b0010011#7) = _
  obtain ⟨hopcode, hrd, hfunct3, hrs1, himm⟩ := @fields_iType rd rs1 op.funct3
    0b0010011#7 (op.funct6 ++ shamt) (.inl rfl)
  obtain ⟨hshamt, hfunct6⟩ := @shift_fields 0b0010011#7 rs1 rd op.funct3 op.funct6 shamt
  set w := iType (op.funct6 ++ shamt) rs1 op.funct3 rd 0b0010011#7 with hw
  have hfunct7 : (funct7Of w).toNat = 2 * op.funct6.toNat := by
    rw [funct7_of_shift, hfunct6, show shamtOf w = shamt from hshamt]
    omega
  have hamount : offset64 (immGenerator w) &&& 63#64 = shamt.setWidth 64 &&& 63#64 := by
    rw [offset64_and_63 hopcode, show shamtOf w = shamt from hshamt]
  obtain ⟨overflow, halu⟩ := execute_shiftOp op hfunct7 (s.registers.readGpr rs1) hamount
  rw [execWord_of_isAluOpcode (.inr hopcode), aluOf_of_iType hopcode, hfunct3, hrs1, hrd, halu]
  rfl

theorem computes_shift (op : ShiftOp) {shamt : BitVec 6} (hshort : shamt.toNat < 32) :
    Computes s ((Instruction.shift op rd rs1 shamt).exec s.toRv64i)
      (execWord cfg s (Instruction.shift op rd rs1 shamt).encode) := by
  rw [execWord_shift op hshort]
  exact computes_write _ _ _

theorem computes_load (op : LoadOp) {imm : BitVec 12} (hbs : s.memory.blockSize ≠ 0#32) :
    Computes s ((Instruction.load op rd rs1 imm).exec s.toRv64i)
      (execWord cfg s (Instruction.load op rd rs1 imm).encode) := by
  show Computes s _ (execWord cfg s (iType imm rs1 op.funct3 rd 0b0000011#7))
  obtain ⟨hopcode, hrd, hfunct3, hrs1, himm⟩ := @fields_iType rd rs1 op.funct3
    0b0000011#7 imm (.inr (.inl rfl))
  rw [execWord_of_load hopcode, hfunct3, hrs1, hrd, himm]
  cases hload : loadInteger s.memory op.funct3 (s.registers.readGpr rs1 + imm.signExtend 64)
      0#64 with
  | error e =>
    have he : e.IsMemory := failsWith_loadInteger hbs e hload
    exact computes_error he
  | ok value =>
    obtain rfl := loadInteger_loadOp op hload
    exact computes_write _ _ _

theorem computes_store (op : StoreOp) {imm : BitVec 12} (hbs : s.memory.blockSize ≠ 0#32) :
    Computes s ((Instruction.store op rs1 rs2 imm).exec s.toRv64i)
      (execWord cfg s (Instruction.store op rs1 rs2 imm).encode) := by
  show Computes s _ (execWord cfg s (sType imm rs2 rs1 op.funct3 0b0100011#7))
  obtain ⟨hopcode, hfunct3, hrs1, hrs2, himm⟩ := @sType_fields 0b0100011#7
    rs2 rs1 op.funct3 imm
  set w := sType imm rs2 rs1 op.funct3 0b0100011#7 with hw
  have hopcode : opcodeOf w = 0b0100011#7 := hopcode
  have hoffset : offset64 (immGenerator w) = imm.signExtend 64 := by
    rw [immGenerator_of_sType hopcode, himm, offset64_signExtend (by decide)]
  have haddress : s.registers.readGpr (rs1Of w) + offset64 (immGenerator w) =
      s.toRv64i.address rs1 imm := by
    rw [hoffset, show rs1Of w = rs1 from hrs1]
    rfl
  have hstore := @storeInteger_storeOp cfg op (s.toRv64i.address rs1 imm)
    (s.registers.readGpr rs2)
  rw [← haddress, ← show funct3Of w = op.funct3 from hfunct3,
    ← show rs2Of w = rs2 from hrs2] at hstore
  rw [execWord_of_store hopcode hstore, haddress, show rs2Of w = rs2 from hrs2]
  cases hwrite : s.memory.writeSized cfg op.width (s.toRv64i.address rs1 imm)
      ((s.registers.readGpr rs2).setWidth (8 * op.width)) with
  | error e =>
    have he : e.1.IsMemory := s.memory.failsWith_writeSized hbs e hwrite
    exact computes_error he
  | ok memory =>
    have hwidth : op.width ≤ 2 ^ 64 := by cases op <;> decide
    refine ⟨.ok _, fun s' h => ?_, fun s' h => ?_, fun s' h => ?_⟩ <;>
      obtain rfl := Except.ok.inj h
    · have hcontents := Memory.contents_of_writeSized hwidth hwrite
      unfold ArchState.toRv64i
      rw [hcontents]
      rfl
    · rfl
    · rfl

theorem computes_branch (condition : BranchCondition) {imm : BitVec 12} :
    Computes s ((Instruction.branch condition rs1 rs2 imm).exec s.toRv64i)
      (execWord cfg s (Instruction.branch condition rs1 rs2 imm).encode) := by
  show Computes s _ (execWord cfg s (bType imm rs2 rs1 condition.funct3 0b1100011#7))
  obtain ⟨hopcode, hfunct3, hrs1, hrs2, himm⟩ := @bType_fields 0b1100011#7
    rs2 rs1 condition.funct3 imm
  set w := bType imm rs2 rs1 condition.funct3 0b1100011#7 with hw
  have hopcode : opcodeOf w = 0b1100011#7 := hopcode
  have hfunct3 : funct3Of w = condition.funct3 := hfunct3
  have hoffset : offset64 (immGenerator w) = halfWords imm := by
    rw [immGenerator_of_bType hopcode, himm]
    exact offset64_signExtend (n := 13) (by decide) _
  obtain ⟨x, overflow, halu, hflag⟩ :=
    execute_branchCondition condition (s.registers.readGpr rs1) (s.registers.readGpr rs2)
  rw [← hfunct3, ← show rs1Of w = rs1 from hrs1, ← show rs2Of w = rs2 from hrs2] at halu
  rw [execWord_of_branch hopcode halu, hoffset, hfunct3, hflag]
  exact computes_pc _

theorem execWord_lui {imm : BitVec 20} :
    execWord cfg s (Instruction.lui rd imm).encode =
      .ok (s.advance rd (upperImmediate imm)) := by
  show execWord cfg s (uType imm rd 0b0110111#7) = _
  obtain ⟨hopcode, hrd, himm⟩ := @uType_fields 0b0110111#7 rd imm
  set w := uType imm rd 0b0110111#7 with hw
  have hopcode : opcodeOf w = 0b0110111#7 := hopcode
  have hbase : upperBase s w = 0#64 := by
    unfold upperBase
    rw [hopcode]
    rfl
  rw [execWord_of_upper (.inl hopcode), shiftLeft_immGenerator_of_uType (.inl hopcode), himm,
    hbase, BitVec.zero_add, show rdOf w = rd from hrd]
  rfl

theorem computes_lui {imm : BitVec 20} :
    Computes s ((Instruction.lui rd imm).exec s.toRv64i)
      (execWord cfg s (Instruction.lui rd imm).encode) := by
  rw [execWord_lui]
  exact computes_write _ _ _

theorem execWord_auipc {imm : BitVec 20} :
    execWord cfg s (Instruction.auipc rd imm).encode =
      .ok (s.advance rd (s.pc + upperImmediate imm)) := by
  show execWord cfg s (uType imm rd 0b0010111#7) = _
  obtain ⟨hopcode, hrd, himm⟩ := @uType_fields 0b0010111#7 rd imm
  set w := uType imm rd 0b0010111#7 with hw
  have hopcode : opcodeOf w = 0b0010111#7 := hopcode
  have hbase : upperBase s w = s.pc := by
    unfold upperBase
    rw [hopcode]
    rfl
  rw [execWord_of_upper (.inr hopcode), shiftLeft_immGenerator_of_uType (.inr hopcode), himm,
    hbase, show rdOf w = rd from hrd]
  rfl

theorem computes_auipc {imm : BitVec 20} :
    Computes s ((Instruction.auipc rd imm).exec s.toRv64i)
      (execWord cfg s (Instruction.auipc rd imm).encode) := by
  rw [execWord_auipc]
  exact computes_write _ _ _

theorem computes_jal {imm : BitVec 20} :
    Computes s ((Instruction.jal rd imm).exec s.toRv64i)
      (execWord cfg s (Instruction.jal rd imm).encode) := by
  show Computes s _ (execWord cfg s (jType imm rd 0b1101111#7))
  obtain ⟨hopcode, hrd, himm⟩ := @jType_fields 0b1101111#7 rd imm
  set w := jType imm rd 0b1101111#7 with hw
  have hopcode : opcodeOf w = 0b1101111#7 := hopcode
  have hoffset : offset64 (immGenerator w) = halfWords imm := by
    rw [immGenerator_of_jType hopcode, himm]
    exact offset64_signExtend (n := 21) (by decide) _
  rw [execWord_of_jal hopcode, hoffset, show rdOf w = rd from hrd]
  exact computes_write _ _ _

/-- An even target keeps its lowest bit. -/
theorem and_not_one {n : Nat} {x : BitVec n} (h : 2 ∣ x.toNat) : x &&& ~~~1#n = x := by
  have hbit : x.getLsbD 0 = false := by
    rw [BitVec.getLsbD, Nat.testBit_zero, decide_eq_false_iff_not]
    omega
  apply BitVec.eq_of_getLsbD_eq
  intro i hi
  rw [BitVec.getLsbD_and, BitVec.getLsbD_not, BitVec.getLsbD_one]
  cases i with
  | zero =>
    rw [hbit]
    rfl
  | succ i => simp [hi]

theorem computes_jalr {imm : BitVec 12} (heven : 2 ∣ (s.toRv64i.address rs1 imm).toNat) :
    Computes s ((Instruction.jalr rd rs1 imm).exec s.toRv64i)
      (execWord cfg s (Instruction.jalr rd rs1 imm).encode) := by
  show Computes s _ (execWord cfg s (iType imm rs1 0b000#3 rd 0b1100111#7))
  obtain ⟨hopcode, hrd, -, hrs1, himm⟩ := @fields_iType rd rs1 0b000#3
    0b1100111#7 imm (.inr (.inr rfl))
  have hexec : (Instruction.jalr rd rs1 imm).exec s.toRv64i = { s.toRv64i with
      pc := s.toRv64i.address rs1 imm
      x := s.toRv64i.x.write rd (s.pc + 4#64) } := by
    unfold Instruction.exec
    dsimp only
    rw [and_not_one heven]
    rfl
  rw [execWord_of_jalr hopcode, himm, hrs1, hrd, hexec]
  exact computes_write _ _ _

/-- A shift by less than 32, and a JALR to an even address. -/
def IsCovered (t : Rv64i.State) : Instruction → Prop
  | .shift _ _ _ shamt => shamt.toNat < 32
  | .jalr _ rs1 imm => 2 ∣ (t.address rs1 imm).toNat
  | _ => True

/-- What `execWord` makes of an encoded instruction. -/
theorem computes_encode {i : Instruction} (hbs : s.memory.blockSize ≠ 0#32)
    (h : IsCovered s.toRv64i i) :
    Computes s (i.exec s.toRv64i) (execWord cfg s i.encode) := by
  cases i with
  | register op rd rs1 rs2 => exact computes_register op
  | immediate op rd rs1 imm => exact computes_immediate op
  | shift op rd rs1 shamt => exact computes_shift op h
  | load op rd rs1 imm => exact computes_load op hbs
  | store op rs1 rs2 imm => exact computes_store op hbs
  | branch condition rs1 rs2 imm => exact computes_branch condition
  | lui rd imm => exact computes_lui
  | auipc rd imm => exact computes_auipc
  | jal rd imm => exact computes_jal
  | jalr rd rs1 imm => exact computes_jalr h

theorem isIntegerInstruction_encode (i : Instruction) : isIntegerInstruction i.encode = true := by
  have hplain : ∀ {w : BitVec 32} {opcode : BitVec 7}, opcodeOf w = opcode →
      opcode ∈ [0b0110011#7, 0b0010011#7, 0b0100011#7, 0b0110111#7, 0b0010111#7, 0b1101111#7,
        0b1100111#7] → isIntegerInstruction w = true := by
    intro w opcode hopcode hmem
    unfold isIntegerInstruction
    rw [hopcode]
    simp only [List.mem_cons, List.not_mem_nil, or_false] at hmem
    rcases hmem with rfl | rfl | rfl | rfl | rfl | rfl | rfl <;> rfl
  cases i with
  | register op rd rs1 rs2 => exact hplain rType_fields.1 (by decide)
  | immediate op rd rs1 imm => exact hplain iType_fields.1 (by decide)
  | shift op rd rs1 shamt => exact hplain iType_fields.1 (by decide)
  | store op rs1 rs2 imm => exact hplain sType_fields.1 (by decide)
  | lui rd imm => exact hplain uType_fields.1 (by decide)
  | auipc rd imm => exact hplain uType_fields.1 (by decide)
  | jal rd imm => exact hplain jType_fields.1 (by decide)
  | jalr rd rs1 imm => exact hplain iType_fields.1 (by decide)
  | load op rd rs1 imm =>
    have hopcode : opcodeOf (Instruction.load op rd rs1 imm).encode = 0b0000011#7 :=
      iType_fields.1
    have hfunct3 : funct3Of (Instruction.load op rd rs1 imm).encode = op.funct3 :=
      iType_fields.2.2.1
    unfold isIntegerInstruction
    rw [hopcode]
    show (funct3Of _ != 0b111#3) = true
    rw [hfunct3]
    cases op <;> rfl
  | branch condition rs1 rs2 imm =>
    have hopcode : opcodeOf (Instruction.branch condition rs1 rs2 imm).encode = 0b1100011#7 :=
      bType_fields.1
    have hfunct3 : funct3Of (Instruction.branch condition rs1 rs2 imm).encode =
        condition.funct3 := bType_fields.2.1
    unfold isIntegerInstruction
    rw [hopcode]
    show (funct3Of _ != 0b010#3 && funct3Of _ != 0b011#3) = true
    rw [hfunct3]
    cases condition <;> rfl

/-- **The machine implements RV64I.**  An instruction of the base set whose word
is at the program counter, with no fault of the memory, changes the program
counter, the registers and the contents of the memory as the manual prescribes
and leaves the other register banks alone, whatever the other members of the
machine hold. -/
theorem runInstruction_rv64i (cfg : VmConfig) (fpu : FloatUnit) (vm : RVSSVM) (i : Instruction)
    (hf : vm.memoryController.readWord vm.programCounter = .ok i.encode)
    (hcovered : IsCovered vm.arch.toRv64i i)
    (hmemory : ∀ e, vm.runInstruction cfg fpu = .error e → ¬e.1.IsMemory) :
    ∃ vm', vm.runInstruction cfg fpu = .ok vm' ∧
      vm'.arch.toRv64i = i.exec vm.arch.toRv64i ∧
      vm'.registers.fpr = vm.registers.fpr ∧ vm'.registers.csr = vm.registers.csr := by
  have hbs : vm.memoryController.blockSize ≠ 0#32 := Memory.blockSize_of_readWord hf
  have hint := isIntegerInstruction_encode i
  have hcomputes : Computes vm.arch (i.exec vm.arch.toRv64i) (execWord cfg vm.arch i.encode) :=
    computes_encode hbs hcovered
  cases hrun : vm.runInstruction cfg fpu with
  | error e =>
    have hfault := execWord_of_fault hf hint hrun (hmemory e hrun)
    exact absurd (hcomputes.fails e.1 hfault) (hmemory e hrun)
  | ok vm' =>
    have hexec := (runInstruction_integer hf hint hrun).1
    exact ⟨vm', rfl, hcomputes.state _ hexec, hcomputes.fpr _ hexec, hcomputes.csr _ hexec⟩

/-- `addi x1, x0, 5`. -/
theorem runInstruction_rv64i_addi :
    ∃ vm', (before 0x00500093#32).runInstruction {} .zeros = .ok vm' ∧
      vm'.arch.toRv64i =
        (Instruction.immediate .addi 1#5 0#5 5#12).exec (before 0x00500093#32).arch.toRv64i ∧
      vm'.registers.fpr = (before 0x00500093#32).registers.fpr ∧
      vm'.registers.csr = (before 0x00500093#32).registers.csr := by
  have hok := eq_ok_getD (x := (before 0x00500093#32).runInstruction {} .zeros) (new {})
    (by decide +kernel)
  exact runInstruction_rv64i {} .zeros (before 0x00500093#32) _ (by decide +kernel) trivial
    fun e he => nomatch hok.symm.trans he

end RVSSVM

end RiscvSim

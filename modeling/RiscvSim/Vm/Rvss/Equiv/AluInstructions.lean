import RiscvSim.Vm.Equiv.Immediates
import RiscvSim.Vm.Rvss.Equiv.Agreement

/-!
# The instructions that name an ALU operation

A mnemonic of the R, I1 and I2 tables that is neither a load nor JALR names an
operation of the ALU.  Both machines compute it for the 64-bit mnemonics
(`execWord_of_named`), except for a right shift by an immediate of 32 or more,
where they write zero; the 32-bit mnemonics leave the registers alone.

* **`writesResult_iff`**: exactly when both machines leave the result of the
  named operation in the destination.
-/

namespace RiscvSim

open Lib RV5SControlUnit

/-- The operation of the ALU that a mnemonic names. -/
def aluOpOfMnemonic (mnemonic : String) : Option AluOp :=
  match mnemonic with
  | "add" | "addi" => some .kAdd
  | "sub" => some .kSub
  | "xor" | "xori" => some .kXor
  | "or" | "ori" => some .kOr
  | "and" | "andi" => some .kAnd
  | "sll" | "slli" => some .kSll
  | "srl" | "srli" => some .kSrl
  | "sra" | "srai" => some .kSra
  | "slt" | "slti" => some .kSlt
  | "sltu" | "sltiu" => some .kSltu
  | "addw" | "addiw" => some .kAddw
  | "subw" => some .kSubw
  | "sllw" | "slliw" => some .kSllw
  | "srlw" | "srliw" => some .kSrlw
  | "sraw" | "sraiw" => some .kSraw
  | "mul" => some .kMul
  | "mulh" => some .kMulh
  | "mulhsu" => some .kMulhsu
  | "mulhu" => some .kMulhu
  | "div" => some .kDiv
  | "divu" => some .kDivu
  | "rem" => some .kRem
  | "remu" => some .kRemu
  | "mulw" => some .kMulw
  | "divw" => some .kDivw
  | "divuw" => some .kDivuw
  | "remw" => some .kRemw
  | "remuw" => some .kRemuw
  | _ => none

/-- The shift amount of an I2-type word. -/
def shamtOf (w : BitVec 32) : BitVec 6 :=
  w.extractLsb' 20 6

/-- `w` encodes a mnemonic that names the operation `op`; in state `s` its
second operand is `b`. -/
inductive Names (s : ArchState) (w : BitVec 32) (op : AluOp) : BitVec 64 → Prop
  | register (e : String × RTypeInstructionEncoding) (he : e ∈ rTypeInstructionEncodingMap)
      (hop : aluOpOfMnemonic e.1 = some op) (opcode : opcodeOf w = e.2.opcode)
      (funct3 : funct3Of w = e.2.funct3) (funct7 : funct7Of w = e.2.funct7) :
      Names s w op (s.registers.readGpr (rs2Of w))
  | immediate (e : String × I1TypeInstructionEncoding) (he : e ∈ i1TypeInstructionEncodingMap)
      (hop : aluOpOfMnemonic e.1 = some op) (opcode : opcodeOf w = e.2.opcode)
      (funct3 : funct3Of w = e.2.funct3) :
      Names s w op ((w.extractLsb' 20 12).signExtend 64)
  | shift (e : String × I2TypeInstructionEncoding) (he : e ∈ i2TypeInstructionEncodingMap)
      (hop : aluOpOfMnemonic e.1 = some op) (opcode : opcodeOf w = e.2.opcode)
      (funct3 : funct3Of w = e.2.funct3) (funct6 : w.extractLsb' 26 6 = e.2.funct6) :
      Names s w op ((shamtOf w).setWidth 64)

/-- A 32-bit mnemonic. -/
def IsWordForm (w : BitVec 32) : Prop :=
  opcodeOf w = 0b0111011#7 ∨ opcodeOf w = 0b0011011#7

/-- A right shift by an immediate whose top bit the machines take for a bit of `funct7`. -/
def IsLongShift (w : BitVec 32) : Prop :=
  opcodeOf w = 0b0010011#7 ∧ funct3Of w = 0b101#3 ∧ 32 ≤ (shamtOf w).toNat

variable {cfg : VmConfig} {fpu : FloatUnit} {s : ArchState} {w : BitVec 32} {op : AluOp}
  {b : BitVec 64}

/-! ### The operands of the immediate formats -/

theorem offset64_of_iType (h : opcodeOf w = 0b0010011#7) :
    offset64 (immGenerator w) = (w.extractLsb' 20 12).signExtend 64 := by
  unfold offset64
  rw [immGenerator_of_iType (.inl h)]
  apply BitVec.eq_of_toInt_eq
  rw [BitVec.toInt_signExtend_of_le (by decide), BitVec.toInt_signExtend_of_le (by decide),
    BitVec.toInt_signExtend_of_le (by decide)]

theorem offset64_and_63 (h : opcodeOf w = 0b0010011#7) :
    offset64 (immGenerator w) &&& 63#64 = (shamtOf w).setWidth 64 &&& 63#64 := by
  rw [offset64_of_iType h]
  unfold shamtOf
  ext i hi
  simp only [BitVec.getElem_and, BitVec.getElem_signExtend, BitVec.getElem_setWidth]
  interval_cases i <;> simp

theorem funct7_of_shift :
    (funct7Of w).toNat = 2 * (w.extractLsb' 26 6).toNat + (shamtOf w).toNat / 32 := by
  unfold funct7Of shamtOf
  simp only [BitVec.extractLsb'_toNat, Nat.shiftRight_eq_div_pow]
  omega

/-! ### The tables -/

/-- The control unit knows the mnemonics of the R table. -/
theorem rType_row : ∀ e ∈ rTypeInstructionEncodingMap, ∀ op, aluOpOfMnemonic e.1 = some op →
    e.2.opcode = 0b0111011#7 ∧
        RVSSControlUnit.rTypeWordAluSignal e.2.funct3 e.2.funct7 = op ∨
      e.2.opcode = 0b0110011#7 ∧ RVSSControlUnit.rTypeAluSignal e.2.funct3 e.2.funct7 = op := by
  decide +kernel

/-- The control unit knows the mnemonics of the I1 table, whatever the field of `funct7`. -/
theorem i1Type_row : ∀ e ∈ i1TypeInstructionEncodingMap, ∀ op, aluOpOfMnemonic e.1 = some op →
    e.2.opcode = 0b0011011#7 ∨
      e.2.opcode = 0b0010011#7 ∧ e.2.funct3 ≠ 0b101#3 ∧
        ∀ funct7, RVSSControlUnit.iTypeAluSignal e.2.funct3 funct7 = op := by
  decide +kernel

/-- A right shift has the `funct7` of its mnemonic when the shift amount is below 32. -/
theorem i2Type_row : ∀ e ∈ i2TypeInstructionEncodingMap, ∀ op, aluOpOfMnemonic e.1 = some op →
    e.2.opcode = 0b0011011#7 ∨
      e.2.opcode = 0b0010011#7 ∧ (op = .kSll ∨ op = .kSrl ∨ op = .kSra) ∧
        (e.2.funct3 = 0b001#3 ∧ op = .kSll ∨ e.2.funct3 = 0b101#3) ∧
        (∀ funct7 : BitVec 7, funct7.toNat = 2 * e.2.funct6.toNat →
          RVSSControlUnit.iTypeAluSignal e.2.funct3 funct7 = op) ∧
        ∀ funct7 : BitVec 7, funct7.toNat = 2 * e.2.funct6.toNat + 1 → e.2.funct3 = 0b101#3 →
          RVSSControlUnit.iTypeAluSignal e.2.funct3 funct7 = .kNone := by
  decide +kernel

/-! ### The 64-bit mnemonics -/

/-- The opcodes of the 64-bit ALU instructions. -/
def IsAluOpcode (opcode : BitVec 7) : Prop :=
  opcode = 0b0110011#7 ∨ opcode = 0b0010011#7

theorem execWord_of_isAluOpcode (h : IsAluOpcode (opcodeOf w)) :
    RVSSVM.execWord cfg s w = (RVSSVM.aluOf s w).map fun r => {
      pc := s.pc + 4#64
      registers := s.registers.writeGpr (rdOf w) r.1
      memory := s.memory } := by
  unfold RVSSVM.execWord RVSSVM.resultOf RVSSVM.loadOf RVSSVM.storeOf RVSSVM.nextOf
    RVSSVM.integerResult RVSSControlUnit.setControlSignals
  rcases h with h | h <;> rw [h] <;> cases RVSSVM.aluOf s w <;> rfl

/-- An ALU word with a destination is no NOP: the two machines execute it alike. -/
theorem execWord_eq_exec_of_isAluOpcode (h : IsAluOpcode (opcodeOf w)) (hrd : rdOf w ≠ 0#5) :
    RVSSVM.execWord cfg s w = s.exec cfg w := by
  have hne : ∀ v : BitVec 32, rdOf v = 0#5 → w ≠ v := by
    rintro v hv rfl
    exact hrd hv
  have hnop : (getControlSignals w).isNop = false := by
    unfold getControlSignals
    rw [if_neg (hne _ rfl), if_neg (hne _ rfl), if_neg (hne _ rfl)]
    rcases h with h | h <;> rw [h] <;> rfl
  have hopcode : ∀ opcode : BitVec 7, opcode ≠ 0b0110011#7 → opcode ≠ 0b0010011#7 →
      opcodeOf w ≠ opcode := by
    rintro opcode h1 h2 rfl
    exact h.elim h1 h2
  exact RVSSVM.execWord_eq_exec hnop (hopcode _ (by decide) (by decide))
    (hopcode _ (by decide) (by decide)) (hopcode _ (by decide) (by decide))

theorem aluOf_of_rType (h : opcodeOf w = 0b0110011#7) :
    RVSSVM.aluOf s w =
      Alu.execute (RVSSControlUnit.rTypeAluSignal (funct3Of w) (funct7Of w))
        (s.registers.readGpr (rs1Of w)) (s.registers.readGpr (rs2Of w)) := by
  unfold RVSSVM.aluOf RVSSControlUnit.setControlSignals RVSSControlUnit.getAluSignal
  rw [h]
  rfl

theorem aluOf_of_iType (h : opcodeOf w = 0b0010011#7) :
    RVSSVM.aluOf s w =
      Alu.execute (RVSSControlUnit.iTypeAluSignal (funct3Of w) (funct7Of w))
        (s.registers.readGpr (rs1Of w)) (offset64 (immGenerator w)) := by
  unfold RVSSVM.aluOf RVSSControlUnit.setControlSignals RVSSControlUnit.getAluSignal
  rw [h]
  rfl

/-- The shifts look at the low six bits of their operand only. -/
theorem execute_shift_congr (hop : op = .kSll ∨ op = .kSrl ∨ op = .kSra) (a : BitVec 64)
    {b b' : BitVec 64} (hb : b &&& 63#64 = b' &&& 63#64) :
    Alu.execute op a b = Alu.execute op a b' := by
  rcases hop with rfl | rfl | rfl <;> simp only [Alu.execute, hb]

/-- A 64-bit mnemonic that is no long shift has its own operation and operands. -/
theorem aluOf_of_names (h : Names s w op b) (hword : ¬IsWordForm w) (hshift : ¬IsLongShift w) :
    IsAluOpcode (opcodeOf w) ∧
      RVSSVM.aluOf s w = Alu.execute op (s.registers.readGpr (rs1Of w)) b := by
  cases h with
  | register e he hop opcode funct3 funct7 =>
    rcases rType_row e he op hop with ⟨ho, -⟩ | ⟨ho, hsignal⟩
    · exact absurd (.inl (opcode.trans ho)) hword
    · refine ⟨.inl (opcode.trans ho), ?_⟩
      rw [aluOf_of_rType (opcode.trans ho), funct3, funct7, hsignal]
  | immediate e he hop opcode funct3 =>
    rcases i1Type_row e he op hop with ho | ⟨ho, -, hsignal⟩
    · exact absurd (.inr (opcode.trans ho)) hword
    · refine ⟨.inr (opcode.trans ho), ?_⟩
      rw [aluOf_of_iType (opcode.trans ho), funct3, hsignal, offset64_of_iType (opcode.trans ho)]
  | shift e he hop opcode funct3 funct6 =>
    rcases i2Type_row e he op hop with ho | ⟨ho, hkind, hfunct3, hsignal, -⟩
    · exact absurd (.inr (opcode.trans ho)) hword
    · have hopcode := opcode.trans ho
      refine ⟨.inr hopcode, ?_⟩
      rw [aluOf_of_iType hopcode, funct3, execute_shift_congr hkind _ (offset64_and_63 hopcode).symm]
      rcases hfunct3 with ⟨hf3, rfl⟩ | hf3
      · rw [hf3]
        rfl
      · have hshort : (shamtOf w).toNat < 32 := by
          by_contra hlong
          exact hshift ⟨hopcode, funct3.trans hf3, by omega⟩
        rw [hsignal _ (by rw [funct7_of_shift, funct6]; omega)]

/-- A long shift has no operation: its result is zero. -/
theorem aluOf_of_isLongShift (h : Names s w op b) (hshift : IsLongShift w) :
    RVSSVM.aluOf s w = .ok (0#64, false) := by
  obtain ⟨hopcode, hf3, hlong⟩ := hshift
  have hrow : ∀ {opcode : BitVec 7}, opcodeOf w = opcode → opcode = 0b0110011#7 ∨
      opcode = 0b0111011#7 ∨ opcode = 0b0011011#7 → False := by
    rintro opcode rfl ho
    rw [hopcode] at ho
    exact absurd ho (by decide)
  cases h with
  | register e he hop opcode funct3 funct7 =>
    rcases rType_row e he op hop with ⟨ho, -⟩ | ⟨ho, -⟩
    · exact (hrow opcode (.inr (.inl ho))).elim
    · exact (hrow opcode (.inl ho)).elim
  | immediate e he hop opcode funct3 =>
    rcases i1Type_row e he op hop with ho | ⟨-, hne, -⟩
    · exact (hrow opcode (.inr (.inr ho))).elim
    · exact absurd (funct3.symm.trans hf3) hne
  | shift e he hop opcode funct3 funct6 =>
    rcases i2Type_row e he op hop with ho | ⟨-, -, -, -, hnone⟩
    · exact (hrow opcode (.inr (.inr ho))).elim
    · have hlt : (shamtOf w).toNat < 64 := (shamtOf w).isLt
      rw [aluOf_of_iType hopcode, funct3,
        hnone (funct7Of w) (by rw [funct7_of_shift, funct6]; omega) (funct3.symm.trans hf3)]
      rfl

/-! ### The 32-bit mnemonics -/

theorem aluOf_of_isWordForm (h : Names s w op b) (hword : IsWordForm w)
    (hok : ∃ r, Alu.execute op (s.registers.readGpr (rs1Of w)) b = .ok r) :
    ∃ r, RVSSVM.aluOf s w = .ok r := by
  rcases hword with hw | hw
  · cases h with
    | register e he hop opcode funct3 funct7 =>
      rcases rType_row e he op hop with ⟨ho, hsignal⟩ | ⟨ho, -⟩
      · have halu : RVSSVM.aluOf s w =
            Alu.execute op (s.registers.readGpr (rs1Of w)) (s.registers.readGpr (rs2Of w)) := by
          rw [← hsignal, ← funct3, ← funct7]
          unfold RVSSVM.aluOf RVSSControlUnit.setControlSignals RVSSControlUnit.getAluSignal
          rw [hw]
          rfl
        rw [halu]
        exact hok
      · exact absurd (hw.symm.trans (opcode.trans ho)) (by decide)
    | immediate e he hop opcode funct3 =>
      rcases i1Type_row e he op hop with ho | ⟨ho, -⟩ <;>
        exact absurd (hw.symm.trans (opcode.trans ho)) (by decide)
    | shift e he hop opcode funct3 funct6 =>
      rcases i2Type_row e he op hop with ho | ⟨ho, -⟩ <;>
        exact absurd (hw.symm.trans (opcode.trans ho)) (by decide)
  · exact RVSSVM.aluOf_of_wordImmediate hw

/-! ### The result in the destination -/

/-- The outcome `out` of `w` is the result of the operation in the destination,
with the other registers unchanged, or the trap of the operation. -/
def WritesResult (s : ArchState) (w : BitVec 32) (op : AluOp) (b : BitVec 64)
    (out : Except Fault ArchState) : Prop :=
  out.map (fun s' => s'.registers.readGpr) =
    (Alu.execute op (s.registers.readGpr (rs1Of w)) b).map fun r i =>
      if i = rdOf w then r.1 else s.registers.readGpr i

/-- The machines leave the result of the operation in the destination: for a
32-bit mnemonic when it is there already, for a long shift when it is zero. -/
def LeavesResult (s : ArchState) (w : BitVec 32) (op : AluOp) (b : BitVec 64) : Prop :=
  (IsWordForm w → ∃ r, Alu.execute op (s.registers.readGpr (rs1Of w)) b = .ok r ∧
    s.registers.readGpr (rdOf w) = r.1) ∧
  (IsLongShift w → ∃ r, Alu.execute op (s.registers.readGpr (rs1Of w)) b = .ok r ∧ r.1 = 0#64)

/-- A machine that completes without touching the other registers. -/
theorem writesResult_ok_iff {s' : ArchState}
    (hframe : ∀ i, i ≠ rdOf w → s'.registers.readGpr i = s.registers.readGpr i) :
    WritesResult s w op b (.ok s') ↔
      ∃ r, Alu.execute op (s.registers.readGpr (rs1Of w)) b = .ok r ∧
        s'.registers.readGpr (rdOf w) = r.1 := by
  unfold WritesResult
  cases Alu.execute op (s.registers.readGpr (rs1Of w)) b with
  | error e =>
    constructor
    · intro h
      cases h
    · rintro ⟨r, h, -⟩
      cases h
  | ok r =>
    constructor
    · intro h
      have hrd : s'.registers.readGpr (rdOf w) =
          if rdOf w = rdOf w then r.1 else s.registers.readGpr (rdOf w) :=
        congrFun (Except.ok.inj h) (rdOf w)
      rw [if_pos rfl] at hrd
      exact ⟨r, rfl, hrd⟩
    · rintro ⟨r', h, hrd⟩
      obtain rfl := Except.ok.inj h
      refine congrArg Except.ok (funext fun i => ?_)
      show s'.registers.readGpr i = if i = rdOf w then r.1 else s.registers.readGpr i
      by_cases hi : i = rdOf w
      · rw [if_pos hi, hi]
        exact hrd
      · rw [if_neg hi]
        exact hframe i hi

/-- The instruction sets of the two machines leave the result exactly then. -/
theorem writesResult_execWord_iff (h : Names s w op b) (hrd : rdOf w ≠ 0#5) :
    WritesResult s w op b (RVSSVM.execWord cfg s w) ∧ WritesResult s w op b (s.exec cfg w) ↔
      LeavesResult s w op b := by
  unfold LeavesResult
  by_cases hword : IsWordForm w
  · have hshift : ¬IsLongShift w := by
      rintro ⟨ho, -⟩
      rcases hword with hw | hw <;> exact absurd (hw.symm.trans ho) (by decide)
    have hunchanged := @writesResult_ok_iff s w op b { s with pc := s.pc + 4#64 }
      fun _ _ => rfl
    rw [ArchState.exec_of_isNop (RVSSVM.isNop_of_word hword), hunchanged,
      RVSSVM.execWord_of_word hword, and_iff_left fun h => absurd h hshift,
      forall_prop_of_true hword]
    refine and_iff_right_of_imp ?_
    intro hleft
    obtain ⟨r, hr, hv⟩ := hleft
    obtain ⟨r', hr'⟩ := aluOf_of_isWordForm h hword ⟨r, hr⟩
    rw [hr']
    exact hunchanged.mpr ⟨r, hr, hv⟩
  · rw [and_iff_right fun h => absurd h hword]
    by_cases hshift : IsLongShift w
    · have hopcode : IsAluOpcode (opcodeOf w) := .inr hshift.1
      rw [← execWord_eq_exec_of_isAluOpcode hopcode hrd, and_self,
        execWord_of_isAluOpcode hopcode, aluOf_of_isLongShift h hshift, forall_prop_of_true hshift]
      refine (writesResult_ok_iff fun i hi => s.registers.readGpr_writeGpr_of_ne _ hi).trans ?_
      rw [RegisterFile.readGpr_writeGpr_self _ _ hrd]
      simp only [eq_comm]
    · obtain ⟨hopcode, halu⟩ := aluOf_of_names h hword hshift
      rw [← execWord_eq_exec_of_isAluOpcode hopcode hrd, and_self,
        execWord_of_isAluOpcode hopcode, halu]
      refine iff_of_true ?_ fun h => absurd h hshift
      cases hr : Alu.execute op (s.registers.readGpr (rs1Of w)) b with
      | error e =>
        unfold WritesResult
        rw [hr]
        rfl
      | ok r =>
        refine (writesResult_ok_iff fun i hi => s.registers.readGpr_writeGpr_of_ne _ hi).mpr
          ⟨r, hr, ?_⟩
        exact s.registers.readGpr_writeGpr_self r.1 hrd

/-! ### The two machines -/

theorem opcode_of_names (h : Names s w op b) :
    IsAluOpcode (opcodeOf w) ∨ IsWordForm w := by
  by_cases hword : IsWordForm w
  · exact .inr hword
  · by_cases hshift : IsLongShift w
    · exact .inl (.inr hshift.1)
    · exact .inl (aluOf_of_names h hword hshift).1

namespace RVSSVM

variable {vm : RVSSVM}

theorem isIntegerInstruction_of_alu (h : IsAluOpcode (opcodeOf w) ∨ IsWordForm w) :
    isIntegerInstruction w = true := by
  unfold isIntegerInstruction
  rcases h with (h | h) | h | h <;> rw [h] <;> rfl

theorem accessMemory_of_off {load : Except Fault (BitVec 64)}
    {store : Option (Nat × (Memory → Except (Fault × Memory) Memory))}
    (hread : vm.controlUnit.memRead = false) (hwrite : vm.controlUnit.memWrite = false) :
    vm.accessMemory load store = .ok vm := by
  unfold accessMemory
  simp only [hread, hwrite, Bool.false_eq_true, if_false, throwAt_ok, ok_bind]
  rfl

/-- An ALU instruction does not access the memory. -/
theorem not_isMemory_of_alu (vm : RVSSVM) {e : Fault × RVSSVM} (hf : vm.arch.fetch = .ok w)
    (hop : IsAluOpcode (opcodeOf w) ∨ IsWordForm w) (h : vm.runInstruction cfg fpu = .error e) :
    ¬e.1.IsMemory := by
  have hint := isIntegerInstruction_of_alu hop
  have hcontrol : (RVSSControlUnit.setControlSignals w).memRead = false ∧
      (RVSSControlUnit.setControlSignals w).memWrite = false := by
    unfold RVSSControlUnit.setControlSignals
    rcases hop with (h | h) | h | h <;> rw [h] <;> exact ⟨rfl, rfl⟩
  rw [runInstruction_eq hf hint] at h
  rcases executeInteger_eq vm hint with ⟨e', hresult, herr⟩ | ⟨x, np, ra, bf, -, hok, -⟩
  · rw [herr] at h
    obtain rfl := Except.error.inj h
    unfold resultOf at hresult
    cases halu : aluOf vm.arch w with
    | ok r =>
      rw [halu] at hresult
      cases hresult
    | error e'' =>
      rw [halu] at hresult
      obtain rfl := Except.error.inj hresult
      rw [Alu.execute_error halu]
      exact id
  · rw [hok, ok_bind] at h
    have haccess : (vm.executed w x np ra bf (nextOf vm.arch w x)).writeMemory cfg =
        .ok (vm.executed w x np ra bf (nextOf vm.arch w x)) := by
      rw [writeMemory_eq rfl hint]
      exact accessMemory_of_off hcontrol.1 hcontrol.2
    rw [haccess] at h
    cases h

/-- A step executes the word at the program counter. -/
theorem registers_of_step (cfg : VmConfig) (fpu : FloatUnit) (hpc : vm.programCounter < vm.programSize) :
    (forgetState (vm.step cfg fpu)).map (fun vm' => vm'.registers.readGpr) =
      (forgetState (vm.startDelta.runInstruction cfg fpu)).map fun vm' =>
        vm'.registers.readGpr := by
  unfold step recordInstruction
  rw [if_pos hpc]
  cases vm.startDelta.runInstruction cfg fpu with
  | error e => rfl
  | ok vm' =>
    show Except.ok (vm'.commitDelta.reportStep).registers.readGpr = _
    unfold reportStep
    split <;> rfl

end RVSSVM

/-- **An ALU instruction leaves its result** in the destination, in both
machines, exactly when it is not a 32-bit mnemonic (unless the destination
holds the result already) and not a right shift by 32 or more (unless its
result is zero). -/
theorem writesResult_iff {vm : RVSSVM} {pipe : RV5SEXVM} (h : Names vm.arch w op b)
    (hrd : rdOf w ≠ 0#5) (hf : vm.memoryController.readWord vm.programCounter = .ok w)
    (hpc : vm.programCounter < vm.programSize) (hempty : Rv5sVm.IsEmpty pipe)
    (hsame : Rv5sVm.arch pipe = vm.arch) :
    WritesResult vm.arch w op b ((forgetState (vm.step cfg fpu)).map RVSSVM.arch) ∧
        WritesResult vm.arch w op b
          ((forgetState (RV5SEXVM.passAlone cfg (pipe.fetched w))).map Rv5sVm.arch) ↔
      LeavesResult vm.arch w op b := by
  have hop := opcode_of_names h
  have hstart : vm.startDelta.arch = vm.arch := rfl
  have hrun : (forgetState (vm.startDelta.runInstruction cfg fpu)).map RVSSVM.arch =
      RVSSVM.execWord cfg vm.startDelta.arch w :=
    RVSSVM.runInstruction_eq_execWord hf (RVSSVM.isIntegerInstruction_of_alu hop) fun e he =>
      vm.startDelta.not_isMemory_of_alu hf hop he
  have hstep : WritesResult vm.arch w op b ((forgetState (vm.step cfg fpu)).map RVSSVM.arch) ↔
      WritesResult vm.arch w op b (RVSSVM.execWord cfg vm.arch w) := by
    have hregs := RVSSVM.registers_of_step cfg fpu hpc
    rw [← hstart, ← hrun]
    unfold WritesResult
    have hmap : ∀ x : Except Fault RVSSVM, (x.map RVSSVM.arch).map
        (fun s' => s'.registers.readGpr) = x.map fun vm' => vm'.registers.readGpr := by
      intro x
      cases x <;> rfl
    rw [hmap, hmap, hregs]
  rw [hstep, RV5SEXVM.passAlone_eq_exec cfg hempty, hsame]
  exact writesResult_execWord_iff h hrd

/-- The machines before the word `w`, with the value five in `x2`. -/
def RVSSVM.beforeFive (w : BitVec 32) : RVSSVM :=
  { RVSSVM.before w with programSize := 4#64, registers := RegisterFile.reset.writeGpr 2#5 5#64 }

def RV5SEXVM.beforeFive (w : BitVec 32) : RV5SEXVM :=
  { RV5SEXVM.before w with registers := RegisterFile.reset.writeGpr 2#5 5#64 }

/-- `add x1, x2, x3` -/
theorem writesResult_iff_add :
    WritesResult (RVSSVM.beforeFive 0x003100b3#32).arch 0x003100b3#32 .kAdd 0#64
        ((forgetState ((RVSSVM.beforeFive 0x003100b3#32).step {} .zeros)).map RVSSVM.arch) ∧
      WritesResult (RVSSVM.beforeFive 0x003100b3#32).arch 0x003100b3#32 .kAdd 0#64
        ((forgetState (RV5SEXVM.passAlone {}
          ((RV5SEXVM.beforeFive 0x003100b3#32).fetched 0x003100b3#32))).map Rv5sVm.arch) := by
  have hnames : Names (RVSSVM.beforeFive 0x003100b3#32).arch 0x003100b3#32 .kAdd 0#64 :=
    Names.register ("add", ⟨0b0110011#7, 0b000#3, 0b0000000#7⟩) (by decide) rfl rfl rfl rfl
  refine (writesResult_iff hnames (by decide) (by decide +kernel) (by decide +kernel)
    ⟨rfl, rfl, rfl, rfl⟩ rfl).mpr ⟨fun h => ?_, fun h => ?_⟩
  · rcases h with h | h <;> exact absurd h (by decide)
  · exact absurd h.1 (by decide)

/-- `addw x1, x2, x3`: neither machine writes the sum. -/
theorem addw_writes_nothing :
    Names (RVSSVM.beforeFive 0x003100bb#32).arch 0x003100bb#32 .kAddw 0#64 ∧
      rdOf 0x003100bb#32 = 1#5 ∧
      (Alu.execute .kAddw 5#64 0#64).map Prod.fst = .ok 5#64 ∧
      (∃ vm', (RVSSVM.beforeFive 0x003100bb#32).step {} .zeros = .ok vm' ∧
        vm'.registers.readGpr 1#5 = 0#64) ∧
      (∃ pipe', RV5SEXVM.passAlone {}
          ((RV5SEXVM.beforeFive 0x003100bb#32).fetched 0x003100bb#32) = .ok pipe' ∧
        pipe'.registers.readGpr 1#5 = 0#64) := by
  refine ⟨?_, by decide, by decide, ⟨_, eq_ok_getD (RVSSVM.before 0) (by decide +kernel),
    by decide +kernel⟩, ⟨_, eq_ok_getD (RV5SEXVM.before 0) (by decide +kernel),
    by decide +kernel⟩⟩
  exact Names.register ("addw", ⟨0b0111011#7, 0b000#3, 0b0000000#7⟩) (by decide) rfl rfl rfl rfl

end RiscvSim

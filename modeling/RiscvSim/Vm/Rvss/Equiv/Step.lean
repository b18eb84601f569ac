import RiscvSim.Vm.Rvss.Equiv.ControlUnit
import RiscvSim.Vm.Rvss.Equiv.Delta

/-!
# An integer instruction of the single-cycle machine

The parts of `runInstruction` on an integer word: execute (`executeInteger_eq`),
memory access (`accessMemory_eq_ok`) and write-back.

* **`runInstruction_integer`**: an instruction that completes computes
  `execWord`, and the delta grows by what it changed.
* **`execWord_of_fault`**: one that does not complete, and has no memory fault,
  is one on which `execWord` traps.
-/

namespace RiscvSim

open Lib RVSSControlUnit

namespace RVSSVM

variable {cfg : VmConfig} {fpu : FloatUnit} {vm vm' : RVSSVM} {w : BitVec 32}

/-- The machine after the fetch and the decode of `w`. -/
def decoded (vm : RVSSVM) (w : BitVec 32) : RVSSVM :=
  { vm with
    currentInstruction := w
    programCounter := vm.programCounter + 4#64
    controlUnit := setControlSignals w }

/-- The machine after the execute stage of `w`. -/
def executed (vm : RVSSVM) (w : BitVec 32) (executionResult nextPc returnAddress : BitVec 64)
    (branchFlag : Bool) (programCounter : BitVec 64) : RVSSVM :=
  { vm.decoded w with
    executionResult := executionResult
    nextPc := nextPc
    returnAddress := returnAddress
    branchFlag := branchFlag
    programCounter := programCounter }

theorem fetch_eq_ok (hf : vm.arch.fetch = .ok w) :
    vm.fetch = .ok { vm with
      currentInstruction := w
      programCounter := vm.programCounter + 4#64 } := by
  have hread : vm.memoryController.readWord vm.programCounter = .ok w := hf
  unfold fetch
  rw [hread]
  rfl

theorem execute_of_integer (hint : isIntegerInstruction w = true) :
    (vm.decoded w).execute cfg fpu = (vm.decoded w).executeInteger := by
  have hsystem := (opcode_of_isIntegerInstruction hint).1
  unfold execute
  dsimp only [decoded]
  rw [if_neg fun h => hsystem h.1, if_neg (by rw [not_isFInstruction hint]; decide),
    if_neg (by rw [not_isDInstruction hint]; decide), if_neg hsystem]

/-- The calls of an integer instruction. -/
theorem runInstruction_eq (hf : vm.arch.fetch = .ok w) (hint : isIntegerInstruction w = true) :
    vm.runInstruction cfg fpu = (do
      let e ← (vm.decoded w).executeInteger
      let m ← e.writeMemory cfg
      pure m.writeBack.retire) := by
  unfold runInstruction
  rw [fetch_eq_ok hf, ok_bind]
  show ((vm.decoded w).execute cfg fpu >>= _) = _
  rw [execute_of_integer hint]

/-! ### Execute -/

/-- `w` is a jump. -/
def IsJump (w : BitVec 32) : Prop :=
  opcodeOf w = 0b1100111#7 ∨ opcodeOf w = 0b1101111#7

/-- The flag of a conditional branch is set anew, whatever it was. -/
theorem branchFlagOf_eq (hint : isIntegerInstruction w = true) (hb : opcodeOf w = 0b1100011#7)
    (x : BitVec 64) (flag flag' : Bool) :
    branchFlagOf (funct3Of w) x flag = branchFlagOf (funct3Of w) x flag' := by
  obtain ⟨h2, h3⟩ := (opcode_of_isIntegerInstruction hint).2.2.2.2.2 hb
  have hcases : ∀ funct3 : BitVec 3, funct3 ≠ 0b010#3 → funct3 ≠ 0b011#3 →
      funct3 = 0b000#3 ∨ funct3 = 0b001#3 ∨ funct3 = 0b100#3 ∨ funct3 = 0b101#3 ∨
        funct3 = 0b110#3 ∨ funct3 = 0b111#3 := by decide
  rcases hcases _ h2 h3 with h | h | h | h | h | h <;> rw [h] <;> rfl

theorem executeBranch_of_jump (h : IsJump vm.currentInstruction) :
    vm.executeBranch = { vm with
      nextPc := vm.programCounter
      returnAddress := vm.programCounter - 4#64 + 4#64
      programCounter :=
        if opcodeOf vm.currentInstruction = 0b1100111#7 then
          vm.programCounter - 4#64 + (-(vm.programCounter - 4#64) + vm.executionResult)
        else vm.programCounter - 4#64 + offset64 (immGenerator vm.currentInstruction) } := by
  unfold executeBranch
  exact if_pos h

theorem executeBranch_of_branch (h : opcodeOf vm.currentInstruction = 0b1100011#7) :
    vm.executeBranch = { vm with
      branchFlag := branchFlagOf (funct3Of vm.currentInstruction) vm.executionResult
        vm.branchFlag } := by
  unfold executeBranch
  dsimp only
  rw [h, if_neg (by decide), if_pos rfl]

theorem takeBranch_of_ne (h : opcodeOf vm.currentInstruction ≠ 0b1100011#7) :
    vm.takeBranch = vm := by
  unfold takeBranch
  exact if_neg fun h' => h h'.2

theorem takeBranch_of_branch (h : opcodeOf vm.currentInstruction = 0b1100011#7) :
    vm.takeBranch = { vm with
      programCounter :=
        if vm.branchFlag then
          vm.programCounter - 4#64 + offset64 (immGenerator vm.currentInstruction)
        else vm.programCounter } := by
  unfold takeBranch
  by_cases hf : vm.branchFlag = true
  · rw [if_pos ⟨hf, h⟩, if_pos hf]
  · rw [if_neg fun h' => hf h'.1, if_neg hf]

theorem nextOf_of_branch {s : ArchState} {x : BitVec 64} (h : opcodeOf w = 0b1100011#7) :
    nextOf s w x = if branchFlagOf (funct3Of w) x false then s.pc + offset64 (immGenerator w)
      else s.pc + 4#64 := by
  unfold nextOf
  rw [h]
  rfl

/-- Jumps and branches leave the program counter where `nextOf` says. -/
theorem redirect_eq (vm : RVSSVM) (hint : isIntegerInstruction w = true) (x : BitVec 64) :
    ∃ np ra bf, redirect { vm.decoded w with executionResult := x } =
        vm.executed w x np ra bf (nextOf vm.arch w x) ∧
      (IsJump w → np = vm.programCounter + 4#64) := by
  have hsub : vm.programCounter + 4#64 - 4#64 = vm.programCounter := BitVec.add_sub_cancel _ _
  unfold redirect
  by_cases hb : opcodeOf w = 0b1100011#7
  · have hbranch : (setControlSignals w).branch = true := branch_setControlSignals.mpr (.inl hb)
    have hjump : ¬IsJump w := by
      intro h
      rcases h with h | h <;> exact absurd (hb.symm.trans h) (by decide)
    have hpc : (if branchFlagOf (funct3Of w) x vm.branchFlag then
          vm.programCounter + 4#64 - 4#64 + offset64 (immGenerator w)
        else vm.programCounter + 4#64) = nextOf vm.arch w x := by
      rw [nextOf_of_branch hb, hsub, branchFlagOf_eq hint hb x vm.branchFlag false]
      rfl
    refine ⟨vm.nextPc, vm.returnAddress, branchFlagOf (funct3Of w) x vm.branchFlag, ?_,
      fun h => absurd h hjump⟩
    rw [if_pos (show (vm.decoded w).controlUnit.branch = true from hbranch),
      executeBranch_of_branch hb, takeBranch_of_branch hb]
    exact congrArg (vm.executed w x _ _ _) hpc
  by_cases hjump : IsJump w
  · have hbranch : (setControlSignals w).branch = true :=
      branch_setControlSignals.mpr (.inr hjump.symm)
    have hpc : (if opcodeOf w = 0b1100111#7 then
          vm.programCounter + 4#64 - 4#64 + (-(vm.programCounter + 4#64 - 4#64) + x)
        else vm.programCounter + 4#64 - 4#64 + offset64 (immGenerator w)) =
        nextOf vm.arch w x := by
      unfold nextOf
      rw [hsub]
      rcases hjump with h | h
      · rw [h, if_pos rfl, ← BitVec.add_assoc, BitVec.add_right_neg, BitVec.zero_add]
        rfl
      · rw [h, if_neg (by decide)]
        rfl
    refine ⟨vm.programCounter + 4#64, vm.programCounter + 4#64 - 4#64 + 4#64, vm.branchFlag, ?_,
      fun _ => rfl⟩
    rw [if_pos (show (vm.decoded w).controlUnit.branch = true from hbranch),
      executeBranch_of_jump hjump, takeBranch_of_ne hb]
    exact congrArg (vm.executed w x _ _ _) hpc
  · have hbranch : ¬(setControlSignals w).branch = true := by
      intro h
      rcases branch_setControlSignals.mp h with h | h | h
      · exact hb h
      · exact hjump (.inr h)
      · exact hjump (.inl h)
    have hpc : nextOf vm.arch w x = vm.programCounter + 4#64 := by
      unfold nextOf
      split
      · exact absurd (.inl ‹_›) hjump
      · exact absurd (.inr ‹_›) hjump
      · exact absurd ‹_› hb
      · rfl
    refine ⟨vm.nextPc, vm.returnAddress, vm.branchFlag, ?_, fun h => absurd h hjump⟩
    rw [if_neg (show ¬(vm.decoded w).controlUnit.branch = true from hbranch),
      takeBranch_of_ne hb, hpc]
    rfl

theorem executeAuipc_of_eq (h : opcodeOf w = 0b0010111#7) {x np ra : BitVec 64} {bf : Bool}
    {pc : BitVec 64} :
    (vm.executed w x np ra bf pc).executeAuipc =
      vm.executed w (pc - 4#64 + (immGenerator w <<< 12).signExtend 64) np ra bf pc := by
  unfold executeAuipc
  exact if_pos h

theorem executeAuipc_of_ne (h : opcodeOf w ≠ 0b0010111#7) {x np ra : BitVec 64} {bf : Bool}
    {pc : BitVec 64} :
    (vm.executed w x np ra bf pc).executeAuipc = vm.executed w x np ra bf pc := by
  unfold executeAuipc
  exact if_neg h

theorem executeInteger_of_alu (vm : RVSSVM) (w : BitVec 32) :
    (vm.decoded w).executeInteger =
      (throwAt (vm.decoded w) (aluOf vm.arch w) >>= fun r =>
        pure (redirect { vm.decoded w with executionResult := r.1 }).executeAuipc) :=
  rfl

/-- Execute computes the result of the instruction and redirects the fetch. -/
theorem executeInteger_eq (vm : RVSSVM) (hint : isIntegerInstruction w = true) :
    (∃ e, resultOf vm.arch w = .error e ∧
      (vm.decoded w).executeInteger = .error (e, vm.decoded w)) ∨
    ∃ x np ra bf, resultOf vm.arch w = .ok x ∧
      (vm.decoded w).executeInteger =
        .ok (vm.executed w x np ra bf (nextOf vm.arch w x)) ∧
      (IsJump w → np = vm.programCounter + 4#64) := by
  unfold resultOf
  rw [executeInteger_of_alu]
  cases hr : aluOf vm.arch w with
  | error e => exact .inl ⟨e, rfl, rfl⟩
  | ok r =>
    refine .inr ?_
    obtain ⟨np, ra, bf, hredirect, hjump⟩ := redirect_eq vm hint r.1
    rw [throwAt_ok, ok_bind, ok_bind, hredirect]
    by_cases ha : opcodeOf w = 0b0010111#7
    · have hnext : ∀ x, nextOf vm.arch w x = vm.programCounter + 4#64 := by
        intro x
        unfold nextOf
        rw [ha]
        rfl
      refine ⟨_, np, ra, bf, rfl, ?_, hjump⟩
      rw [executeAuipc_of_eq ha, if_pos ha, hnext, hnext, BitVec.add_sub_cancel]
      rfl
    · refine ⟨_, np, ra, bf, rfl, ?_, hjump⟩
      rw [executeAuipc_of_ne ha, if_neg ha]
      rfl

/-! ### Memory access and write-back -/

/-- A load of an integer word always has a value of its own. -/
theorem loadInteger_congr {m : Memory} (hne : funct3Of w ≠ 0b111#3) (x v v' : BitVec 64) :
    loadInteger m (funct3Of w) x v = loadInteger m (funct3Of w) x v' := by
  unfold loadInteger
  have hcases : ∀ funct3 : BitVec 3, funct3 ≠ 0b111#3 →
      funct3 = 0b000#3 ∨ funct3 = 0b001#3 ∨ funct3 = 0b010#3 ∨ funct3 = 0b011#3 ∨
        funct3 = 0b100#3 ∨ funct3 = 0b101#3 ∨ funct3 = 0b110#3 := by decide
  rcases hcases _ hne with h | h | h | h | h | h | h <;> rw [h] <;> rfl

/-- Write-back looks at the loaded value for loads only, at the return address for jumps only. -/
theorem integerResult_congr {regWrite : Bool} {x v v' np np' : BitVec 64} {r : RegisterFile}
    (hload : opcodeOf w = 0b0000011#7 → v = v') (hjump : IsJump w → np = np') :
    integerResult regWrite w x v np r = integerResult regWrite w x v' np' r := by
  unfold integerResult
  dsimp only
  split
  · split
    · rfl
    · rfl
    · rfl
    · rw [hload ‹_›]
    · rw [hjump (.inl ‹_›)]
    · rw [hjump (.inr ‹_›)]
    · rfl
    · rfl
  · rfl

/-- What an integer instruction does to the machine around the changes of its delta. -/
structure Ticks (vm vm' : RVSSVM) : Prop where
  instructionsRetired : vm'.instructionsRetired = vm.instructionsRetired + 1#32
  cycleS : vm'.cycleS = vm.cycleS + 1#32
  undoStack : vm'.undoStack = vm.undoStack
  redoStack : vm'.redoStack = vm.redoStack
  programSize : vm'.programSize = vm.programSize
  breakpoints : vm'.breakpoints = vm.breakpoints

/-- The current delta grows by the changes between the registers and the memory of two states. -/
def GrowsDelta (vm vm' : RVSSVM) : Prop :=
  ∃ registerChanges memoryChanges,
    vm'.currentDelta = { vm.currentDelta with
      registerChanges := vm.currentDelta.registerChanges ++ registerChanges
      memoryChanges := vm.currentDelta.memoryChanges ++ memoryChanges } ∧
    RecordsRegisters registerChanges vm.registers vm'.registers ∧
    RecordsMemory memoryChanges vm.memoryController vm'.memoryController

/-- The changes are genuine ones, of the bytes the integer instruction `w` stores
to and of a general-purpose register. -/
structure ChangesOf (cfg : VmConfig) (s : ArchState) (w : BitVec 32)
    (registerChanges : List RegisterChange) (memoryChanges : List MemoryChange) : Prop where
  register : ∀ c ∈ registerChanges, c.oldValue ≠ c.newValue
  memory : ∀ c ∈ memoryChanges, c.oldBytesVec ≠ c.newBytesVec ∧
    resultOf s w = .ok c.address ∧ (setControlSignals w).memWrite = true ∧
    ∃ write, storeInteger cfg (funct3Of w) c.address (s.registers.readGpr (rs2Of w)) =
      some (c.oldBytesVec.length, write)

/-- The registers change in the destination only. -/
theorem read_integerResult {regWrite : Bool} {x v np : BitVec 64} {r : RegisterFile}
    {i : RegisterName} (hi : i ≠ .gpr (rdOf w)) :
    (integerResult regWrite w x v np r).read i = r.read i := by
  have hwrite : ∀ value, (r.writeGpr (rdOf w) value).read i = r.read i := fun value =>
    r.read_write_of_ne value hi
  unfold integerResult
  dsimp only
  split
  · split <;> first | exact hwrite _ | rfl
  · rfl

theorem integerResult_of_rd_eq_zero {regWrite : Bool} {x v np : BitVec 64} {r : RegisterFile}
    (hrd : rdOf w = 0#5) : integerResult regWrite w x v np r = r := by
  unfold integerResult
  dsimp only
  rw [hrd]
  split
  · split <;> rfl
  · rfl

theorem writeMemory_eq (hw : vm.currentInstruction = w) (hint : isIntegerInstruction w = true) :
    vm.writeMemory cfg = vm.accessMemory
      (loadInteger vm.memoryController (funct3Of w) vm.executionResult vm.memoryResult)
      (storeInteger cfg (funct3Of w) vm.executionResult
        (vm.registers.readGpr (rs2Of w))) := by
  obtain rfl := hw
  unfold writeMemory
  dsimp only
  rw [if_neg fun h => (opcode_of_isIntegerInstruction hint).1 h.1,
    if_neg (by rw [not_isFInstruction hint]; decide),
    if_neg (by rw [not_isDInstruction hint]; decide)]
  rfl

theorem writeBack_eq (hw : vm.currentInstruction = w) (hint : isIntegerInstruction w = true) :
    vm.writeBack = vm.writeBackInteger := by
  obtain rfl := hw
  have hsystem := (opcode_of_isIntegerInstruction hint).1
  unfold writeBack
  dsimp only
  rw [if_neg fun h => hsystem h.1, if_neg (by rw [not_isFInstruction hint]; decide),
    if_neg (by rw [not_isDInstruction hint]; decide), if_neg hsystem]

/-- The destination is recorded by the write-back. -/
theorem writeBackInteger_eq (vm : RVSSVM) :
    ∃ changes, RecordsRegisters changes vm.registers
        (integerResult vm.controlUnit.regWrite vm.currentInstruction vm.executionResult
          vm.memoryResult vm.nextPc vm.registers) ∧
      (∀ c ∈ changes, c.oldValue ≠ c.newValue) ∧
      vm.writeBackInteger = { vm with
        registers := integerResult vm.controlUnit.regWrite vm.currentInstruction
          vm.executionResult vm.memoryResult vm.nextPc vm.registers
        currentDelta := { vm.currentDelta with
          registerChanges := vm.currentDelta.registerChanges ++ changes } } := by
  refine ⟨_, recordsRegisters_of_frame (.inr rfl) (fun i hi => read_integerResult hi)
    fun hz => integerResult_of_rd_eq_zero (RegisterName.gpr.inj hz),
    fun c hc => (ne_of_mem_registerChange hc).2, ?_⟩
  exact recordRegister_eq _ _ _ _

/-- The load of an integer word, when the machine has loaded `loaded`. -/
theorem loadOf_eq (hint : isIntegerInstruction w = true) {s : ArchState} {x v loaded : BitVec 64}
    (hload : (setControlSignals w).memRead = true →
      loadInteger s.memory (funct3Of w) x v = .ok loaded) :
    ∃ value, loadOf s w x = .ok value ∧ (opcodeOf w = 0b0000011#7 → value = loaded) := by
  unfold loadOf
  by_cases hread : (setControlSignals w).memRead = true
  · obtain ⟨_, hfload, _, _, hne, _⟩ := opcode_of_isIntegerInstruction hint
    have hopcode : opcodeOf w = 0b0000011#7 :=
      (memRead_setControlSignals.mp hread).resolve_right hfload
    rw [if_pos hread, loadInteger_congr (hne hopcode) x 0#64 v, hload hread]
    exact ⟨loaded, rfl, fun _ => rfl⟩
  · rw [if_neg hread]
    exact ⟨0#64, rfl, fun h => absurd (memRead_setControlSignals.mpr (.inl h)) hread⟩

/-- An integer instruction that completes computes `execWord`, and the delta
grows by exactly what it changed. -/
theorem runInstruction_changes (hf : vm.arch.fetch = .ok w) (hint : isIntegerInstruction w = true)
    (h : vm.runInstruction cfg fpu = .ok vm') :
    execWord cfg vm.arch w = .ok vm'.arch ∧
      (∃ registerChanges memoryChanges,
        vm'.currentDelta = { vm.currentDelta with
          registerChanges := vm.currentDelta.registerChanges ++ registerChanges
          memoryChanges := vm.currentDelta.memoryChanges ++ memoryChanges } ∧
        RecordsRegisters registerChanges vm.registers vm'.registers ∧
        RecordsMemory memoryChanges vm.memoryController vm'.memoryController ∧
        ChangesOf cfg vm.arch w registerChanges memoryChanges) ∧
      Ticks vm vm' := by
  rw [runInstruction_eq hf hint] at h
  obtain ⟨e, he, h⟩ := bind_eq_ok.mp h
  obtain ⟨m, hm, h⟩ := bind_eq_ok.mp h
  obtain rfl := Except.ok.inj h
  rcases executeInteger_eq vm hint with ⟨_, _, herr⟩ | ⟨x, np, ra, bf, hx, hok, hjump⟩
  · rw [herr] at he
    cases he
  obtain rfl := Except.ok.inj (hok.symm.trans he)
  rw [writeMemory_eq rfl hint] at hm
  obtain ⟨loaded, memory, memoryChanges, hload, hstore, hmemory, hchanges, hm⟩ :=
    accessMemory_eq_ok (fun n write heq => frames_storeInteger heq) hm
  obtain ⟨value, hvalue, hloaded⟩ := loadOf_eq (s := vm.arch) hint hload
  have hw : m.currentInstruction = w := by rw [hm]; rfl
  have hregs : m.registers = vm.registers := by rw [hm]; rfl
  have hcontrol : m.controlUnit = setControlSignals w := by rw [hm]; rfl
  have hx' : m.executionResult = x := by rw [hm]; rfl
  have hloaded' : m.memoryResult = loaded := by rw [hm]
  have hnp : m.nextPc = np := by rw [hm]; rfl
  obtain ⟨registerChanges, hregisters, hgenuine, hb⟩ := writeBackInteger_eq m
  have hresult : integerResult m.controlUnit.regWrite m.currentInstruction m.executionResult
      m.memoryResult m.nextPc m.registers =
      integerResult (setControlSignals w).regWrite w x value (vm.programCounter + 4#64)
        vm.registers := by
    rw [hw, hregs, hcontrol, hx', hloaded', hnp]
    exact integerResult_congr (fun hl => (hloaded hl).symm) hjump
  rw [hresult] at hb hregisters
  rw [hregs] at hregisters
  rw [writeBack_eq hw hint, hb]
  refine ⟨?_, ⟨registerChanges, memoryChanges, ?_, hregisters, ?_, hgenuine, ?_⟩, ?_⟩
  · have hstoreOf : storeOf cfg vm.arch w x = .ok memory := hstore
    have hpc : m.programCounter = nextOf vm.arch w x := by rw [hm]; rfl
    have hmem : m.memoryController = memory := by rw [hm]
    unfold execWord
    have hvalueOf : loadOf vm.arch w x = .ok value := hvalue
    rw [hx, ok_bind, hvalueOf, ok_bind, hstoreOf, ok_bind, ← hpc, ← hmem]
    rfl
  · dsimp only
    rw [hm]
    rfl
  · have hmem : m.memoryController = memory := by rw [hm]
    dsimp only
    rw [hmem]
    exact hmemory
  · intro c hc
    obtain ⟨hwrite, ⟨write, hstored⟩, haddress, hne⟩ := hchanges c hc
    rw [haddress]
    exact ⟨hne, hx, hwrite, write, hstored⟩
  · rw [hm]
    exact ⟨rfl, rfl, rfl, rfl, rfl, rfl⟩

/-- **An integer instruction that completes** computes `execWord`, and the
delta grows by what it changed. -/
theorem runInstruction_integer (hf : vm.arch.fetch = .ok w) (hint : isIntegerInstruction w = true)
    (h : vm.runInstruction cfg fpu = .ok vm') :
    execWord cfg vm.arch w = .ok vm'.arch ∧ GrowsDelta vm vm' ∧ Ticks vm vm' := by
  obtain ⟨hexec, ⟨registerChanges, memoryChanges, hdelta, hregisters, hmemory, -⟩, hticks⟩ :=
    runInstruction_changes hf hint h
  exact ⟨hexec, ⟨registerChanges, memoryChanges, hdelta, hregisters, hmemory⟩, hticks⟩

/-! ### Faults -/

theorem failsWith_readBytes {m : Memory} (hbs : m.blockSize ≠ 0#32) {n : Nat}
    {address : BitVec 64} : FailsWith Fault.IsMemory (m.readBytes n address) :=
  .mapM (fun _ => m.failsWith_readByte hbs) _

theorem failsWith_loadInteger {m : Memory} (hbs : m.blockSize ≠ 0#32) {funct3 : BitVec 3}
    {address v : BitVec 64} : FailsWith Fault.IsMemory (loadInteger m funct3 address v) := by
  have hpure : ∀ {n : Nat} {x : Except Fault (BitVec n)} (f : BitVec n → BitVec 64),
      FailsWith Fault.IsMemory x → FailsWith Fault.IsMemory (x >>= fun a => pure (f a)) :=
    fun f hx => hx.bind fun a _ => .ok (f a)
  unfold loadInteger
  split
  · exact hpure _ (m.failsWith_readByte hbs)
  · exact hpure _ (m.failsWith_readSized hbs)
  · exact hpure _ (m.failsWith_readSized hbs)
  · exact m.failsWith_readSized hbs
  · exact hpure _ (m.failsWith_readByte hbs)
  · exact hpure _ (m.failsWith_readSized hbs)
  · exact hpure _ (m.failsWith_readSized hbs)
  · exact .ok v

theorem storeInteger_eq_some {m : Memory} (hbs : m.blockSize ≠ 0#32) {funct3 : BitVec 3}
    {address value : BitVec 64} {n : Nat} {write : Memory → Except (Fault × Memory) Memory}
    (h : storeInteger cfg funct3 address value = some (n, write)) :
    FailsWith (fun e => e.1.IsMemory) (write m) ∧
      ∀ m', write m = .ok m' → m'.blockSize = m.blockSize := by
  unfold storeInteger at h
  split at h
  · obtain ⟨-, rfl⟩ := Prod.mk.inj (Option.some.inj h)
    refine ⟨m.failsWith_writeByte hbs, fun m' hm' => ?_⟩
    exact (Memory.sizes_of_write ((Memory.writeByte_eq _ _ _).symm.trans hm')).2
  · obtain ⟨-, rfl⟩ := Prod.mk.inj (Option.some.inj h)
    exact ⟨m.failsWith_writeSized hbs, fun m' hm' => (Memory.sizes_of_writeSized hm').2⟩
  · obtain ⟨-, rfl⟩ := Prod.mk.inj (Option.some.inj h)
    exact ⟨m.failsWith_writeSized hbs, fun m' hm' => (Memory.sizes_of_writeSized hm').2⟩
  · obtain ⟨-, rfl⟩ := Prod.mk.inj (Option.some.inj h)
    exact ⟨m.failsWith_writeSized hbs, fun m' hm' => (Memory.sizes_of_writeSized hm').2⟩
  · cases h

/-- The memory access of an integer instruction fails with a fault of the memory only. -/
theorem failsWith_writeMemory (vm : RVSSVM) (hw : vm.currentInstruction = w)
    (hint : isIntegerInstruction w = true) (hbs : vm.memoryController.blockSize ≠ 0#32) :
    FailsWith (fun e => e.1.IsMemory) (vm.writeMemory cfg) := by
  rw [writeMemory_eq hw hint]
  unfold accessMemory
  refine (failsWith_throwAt ?_).bind fun loaded _ => ?_
  · split
    · exact failsWith_loadInteger hbs
    · exact .ok _
  dsimp only
  split
  · split
    · obtain ⟨hwrite, hsize⟩ := storeInteger_eq_some hbs ‹_›
      unfold storeRecorded
      refine (failsWith_throwAt (failsWith_readBytes hbs)).bind fun _ _ => ?_
      refine (failsWith_throwWith hwrite).bind fun m' hm' => ?_
      have hbs' : m'.blockSize ≠ 0#32 := by
        rw [hsize m' (throwWith_eq_ok.mp hm')]
        exact hbs
      exact (failsWith_throwAt (failsWith_readBytes hbs')).bind fun _ _ => .ok _
    · exact .ok _
  · exact .ok _

/-- **An integer instruction that traps**, and has no memory fault, is one on
which `execWord` traps. -/
theorem execWord_of_fault {e : Fault × RVSSVM} (hf : vm.arch.fetch = .ok w)
    (hint : isIntegerInstruction w = true) (h : vm.runInstruction cfg fpu = .error e)
    (hmemory : ¬e.1.IsMemory) : execWord cfg vm.arch w = .error e.1 := by
  have hbs : vm.memoryController.blockSize ≠ 0#32 := Memory.blockSize_of_readWord hf
  rw [runInstruction_eq hf hint] at h
  rcases executeInteger_eq vm hint with ⟨e', hresult, herr⟩ | ⟨x, np, ra, bf, hx, hok, hjump⟩
  · rw [herr] at h
    obtain rfl := Except.error.inj h
    unfold execWord
    rw [hresult]
    rfl
  · rw [hok, ok_bind] at h
    have hfails : FailsWith (fun e => e.1.IsMemory) (do
        let m ← (vm.executed w x np ra bf (nextOf vm.arch w x)).writeMemory cfg
        pure m.writeBack.retire) :=
      (failsWith_writeMemory (vm.executed w x np ra bf _) rfl hint hbs).bind
        fun _ _ => .ok _
    exact absurd (hfails e h) hmemory

end RVSSVM

end RiscvSim

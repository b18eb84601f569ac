import RiscvSim.Lib.Run
import RiscvSim.Vm.Rvss.Equiv.Rv64i

/-!
# Sequences of instructions

What the single-cycle machine makes of words that lie one after another at its
program counter.

* **`rounds_computes`**: instructions on registers only are executed one after the other.
* **`executionResult_runInstruction`**: an integer instruction leaves its
  execution result behind, also where the memory access fails.
-/

namespace RiscvSim

open Lib Lib.Rv64i

/-- The memory holds the words from the given address on. -/
def Memory.HoldsAt (m : Memory) : BitVec 64 → List (BitVec 32) → Prop
  | _, [] => True
  | address, w :: words => m.readWord address = .ok w ∧ m.HoldsAt (address + 4#64) words

/-- The instructions that neither jump nor look at the memory. -/
def Lib.Rv64i.Instruction.IsPlain : Instruction → Prop
  | .register .. | .immediate .. | .lui .. | .auipc .. => True
  | _ => False

namespace RVSSVM

variable (cfg : VmConfig) (fpu : FloatUnit) {vm : RVSSVM} {w : BitVec 32} {s : ArchState}

/-- The machine an instruction leaves behind, whether it completes or not. -/
def stateAfter (out : Except (Fault × RVSSVM) RVSSVM) : RVSSVM :=
  match out with
  | .ok vm => vm
  | .error e => e.2

/-- An instruction without a memory access completes when `execWord` has an outcome. -/
theorem runInstruction_of_noAccess (hf : vm.arch.fetch = .ok w)
    (hint : isIntegerInstruction w = true)
    (hread : (RVSSControlUnit.setControlSignals w).memRead = false)
    (hwrite : (RVSSControlUnit.setControlSignals w).memWrite = false)
    (hexec : execWord cfg vm.arch w = .ok s) :
    ∃ vm', vm.runInstruction cfg fpu = .ok vm' ∧ vm'.arch = s := by
  have hok : ∃ vm', vm.runInstruction cfg fpu = .ok vm' := by
    rw [runInstruction_eq hf hint]
    rcases executeInteger_eq vm hint with ⟨e, hresult, -⟩ | ⟨x, np, ra, bf, -, hok, -⟩
    · unfold execWord at hexec
      rw [hresult] at hexec
      cases hexec
    · rw [hok, ok_bind, writeMemory_eq rfl hint]
      unfold accessMemory
      have hread' : (vm.executed w x np ra bf (nextOf vm.arch w x)).controlUnit.memRead = false :=
        hread
      have hwrite' : (vm.executed w x np ra bf (nextOf vm.arch w x)).controlUnit.memWrite = false :=
        hwrite
      rw [hread']
      simp only [Bool.false_eq_true, if_false, throwAt_ok, ok_bind, hwrite', pure_eq_ok]
      exact ⟨_, rfl⟩
  obtain ⟨vm', hrun⟩ := hok
  have hexec' := (runInstruction_integer hf hint hrun).1
  exact ⟨vm', hrun, Except.ok.inj (hexec'.symm.trans hexec)⟩

/-- The memory access changes neither the instruction nor its execution result. -/
theorem stateAfter_storeRecorded (vm : RVSSVM) (n : Nat)
    (write : Memory → Except (Fault × Memory) Memory) :
    (stateAfter (vm.storeRecorded n write)).executionResult = vm.executionResult ∧
      (stateAfter (vm.storeRecorded n write)).currentInstruction = vm.currentInstruction := by
  unfold storeRecorded
  dsimp only
  cases vm.memoryController.readBytes n vm.executionResult with
  | error e => exact ⟨rfl, rfl⟩
  | ok oldBytesVec =>
    rw [throwAt_ok, ok_bind]
    cases write vm.memoryController with
    | error e => exact ⟨rfl, rfl⟩
    | ok memory =>
      rw [throwWith_ok, ok_bind]
      cases memory.readBytes n vm.executionResult with
      | error e => exact ⟨rfl, rfl⟩
      | ok newBytesVec =>
        rw [throwAt_ok, ok_bind]
        unfold recordMemory
        show (stateAfter (.ok (ite _ _ _))).executionResult = _ ∧
          (stateAfter (.ok (ite _ _ _))).currentInstruction = _
        split <;> exact ⟨rfl, rfl⟩

theorem stateAfter_accessMemory (vm : RVSSVM) (load : Except Fault (BitVec 64))
    (store : Option (Nat × (Memory → Except (Fault × Memory) Memory))) :
    (stateAfter (vm.accessMemory load store)).executionResult = vm.executionResult ∧
      (stateAfter (vm.accessMemory load store)).currentInstruction = vm.currentInstruction := by
  unfold accessMemory
  cases (if vm.controlUnit.memRead then load else .ok vm.memoryResult) with
  | error e => exact ⟨rfl, rfl⟩
  | ok memoryResult =>
    rw [throwAt_ok, ok_bind]
    dsimp only
    split
    · cases store with
      | none => exact ⟨rfl, rfl⟩
      | some s => exact stateAfter_storeRecorded { vm with memoryResult := memoryResult } s.1 s.2
    · exact ⟨rfl, rfl⟩

/-- An integer instruction leaves its execution result behind. -/
theorem executionResult_runInstruction {x : BitVec 64} (hf : vm.arch.fetch = .ok w)
    (hint : isIntegerInstruction w = true) (hx : resultOf vm.arch w = .ok x) :
    (stateAfter (vm.runInstruction cfg fpu)).executionResult = x := by
  rcases executeInteger_eq vm hint with ⟨e, hresult, -⟩ | ⟨x', np, ra, bf, hx', hok, -⟩
  · cases hresult.symm.trans hx
  obtain rfl := Except.ok.inj (hx'.symm.trans hx)
  rw [runInstruction_eq hf hint, hok, ok_bind]
  set vm₁ := vm.executed w x' np ra bf (nextOf vm.arch w x')
  obtain ⟨hresult, hw⟩ := stateAfter_accessMemory vm₁
    (loadInteger vm₁.memoryController (funct3Of w) vm₁.executionResult vm₁.memoryResult)
    (storeInteger cfg (funct3Of w) vm₁.executionResult (vm₁.registers.readGpr (rs2Of w)))
  have hw₁ : vm₁.currentInstruction = w := rfl
  rw [← writeMemory_eq hw₁ hint] at hresult hw
  cases hm : vm₁.writeMemory cfg with
  | error e =>
    rw [hm] at hresult
    exact hresult
  | ok m =>
    rw [hm] at hresult hw
    have hw : m.currentInstruction = w := hw
    obtain ⟨_, -, -, hb⟩ := writeBackInteger_eq m
    rw [ok_bind, writeBack_eq hw hint, hb]
    exact hresult

/-! ### Plain instructions -/

/-- What a plain instruction does to the state. -/
theorem execWord_of_isPlain (s : ArchState) {i : Instruction} (h : i.IsPlain) :
    ∃ rd value, execWord cfg s i.encode = .ok (s.advance rd value) ∧
      i.exec s.toRv64i = s.toRv64i.next rd value := by
  cases i with
  | register op rd rs1 rs2 => exact ⟨rd, _, execWord_register op, rfl⟩
  | immediate op rd rs1 imm => exact ⟨rd, _, execWord_immediate op, rfl⟩
  | lui rd imm => exact ⟨rd, _, execWord_lui, rfl⟩
  | auipc rd imm => exact ⟨rd, _, execWord_auipc, rfl⟩
  | _ => exact absurd h id

theorem toRv64i_advance (s : ArchState) (rd : BitVec 5) (value : BitVec 64) :
    (s.advance rd value).toRv64i = s.toRv64i.next rd value := by
  unfold ArchState.advance ArchState.toRv64i State.next
  rw [RegisterFile.toRegisters_writeGpr]

theorem controls_of_isPlain {i : Instruction} (h : i.IsPlain) :
    (RVSSControlUnit.setControlSignals i.encode).memRead = false ∧
      (RVSSControlUnit.setControlSignals i.encode).memWrite = false := by
  have hplain : opcodeOf i.encode = 0b0110011#7 ∨ opcodeOf i.encode = 0b0010011#7 ∨
      opcodeOf i.encode = 0b0110111#7 ∨ opcodeOf i.encode = 0b0010111#7 := by
    cases i with
    | register op rd rs1 rs2 => exact .inl rType_fields.1
    | immediate op rd rs1 imm => exact .inr (.inl iType_fields.1)
    | lui rd imm => exact .inr (.inr (.inl uType_fields.1))
    | auipc rd imm => exact .inr (.inr (.inr uType_fields.1))
    | _ => exact absurd h id
  constructor
  · rw [← Bool.not_eq_true, RVSSControlUnit.memRead_setControlSignals]
    rcases hplain with h | h | h | h <;> rw [h] <;> decide
  · rw [← Bool.not_eq_true, RVSSControlUnit.memWrite_setControlSignals]
    rcases hplain with h | h | h | h <;> rw [h] <;> decide

/-- A plain instruction at the program counter completes, and leaves the memory as it is. -/
theorem runInstruction_of_isPlain {i : Instruction} (h : i.IsPlain)
    (hf : vm.memoryController.readWord vm.programCounter = .ok i.encode) :
    ∃ vm', vm.runInstruction cfg fpu = .ok vm' ∧
      vm'.arch.toRv64i = i.exec vm.arch.toRv64i ∧
      vm'.programCounter = vm.programCounter + 4#64 ∧
      vm'.memoryController = vm.memoryController := by
  obtain ⟨rd, value, hexec, hstate⟩ := execWord_of_isPlain cfg vm.arch h
  obtain ⟨hread, hwrite⟩ := controls_of_isPlain h
  obtain ⟨vm', hrun, harch⟩ := runInstruction_of_noAccess cfg fpu hf
    (isIntegerInstruction_encode i) hread hwrite hexec
  refine ⟨vm', hrun, ?_, ?_, ?_⟩
  · rw [harch, toRv64i_advance, hstate]
  · exact congrArg ArchState.pc harch
  · exact congrArg ArchState.memory harch

/-- **Plain instructions one after another** are executed in order. -/
theorem rounds_computes {l : List Instruction} (h : ∀ i ∈ l, i.IsPlain)
    (hf : vm.memoryController.HoldsAt vm.programCounter (l.map Instruction.encode)) :
    ∃ vm', rounds (runInstruction cfg fpu) l.length vm = .ok vm' ∧
      vm'.arch.toRv64i = l.foldl Instruction.exec vm.arch.toRv64i ∧
      vm'.memoryController = vm.memoryController := by
  induction l generalizing vm with
  | nil => exact ⟨vm, rfl, rfl, rfl⟩
  | cons i l ih =>
    obtain ⟨hfetch, hrest⟩ := hf
    obtain ⟨vm₁, hrun, hstate, hpc, hmemory⟩ :=
      runInstruction_of_isPlain cfg fpu (h i List.mem_cons_self) hfetch
    have hrest' : vm₁.memoryController.HoldsAt vm₁.programCounter (l.map Instruction.encode) := by
      rwa [hpc, hmemory]
    obtain ⟨vm', hrounds, hstate', hmemory'⟩ :=
      ih (fun j hj => h j (List.mem_cons_of_mem i hj)) hrest'
    refine ⟨vm', ?_, ?_, hmemory'.trans hmemory⟩
    · show vm.runInstruction cfg fpu >>= rounds (runInstruction cfg fpu) l.length = _
      rw [hrun, ok_bind, hrounds]
    · rw [hstate', hstate, List.foldl_cons]

end RVSSVM

end RiscvSim

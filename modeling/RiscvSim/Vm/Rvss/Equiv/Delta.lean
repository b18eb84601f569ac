import RiscvSim.Lib.Journal
import RiscvSim.Vm.Equiv.MainMemory
import RiscvSim.Vm.Rvss.RvssVm

/-!
# What a delta says about two states

`RecordsRegisters` and `RecordsMemory` relate recorded changes to the registers
and the memory before and after them.

* **`recordsRegisters_of_frame`**: the change recorded for a register says how
  the registers differ.
* **`storeRecorded_eq_ok`**: a store records what it changed, and nothing if it
  changed nothing.
-/

namespace RiscvSim

open Lib

/-! ### Registers -/

namespace RegisterFile

variable {r r' : RegisterFile} {name i : RegisterName} {value : BitVec 64}

theorem read_write_of_ne (r : RegisterFile) (value : BitVec 64) (h : i ≠ name) :
    (r.write value name).read i = r.read i := by
  cases name with
  | gpr n =>
    cases i with
    | gpr k => exact r.readGpr_writeGpr_of_ne value fun hk => h (by rw [hk])
    | csr k =>
      show (r.writeGpr n value).csr k = r.csr k
      unfold writeGpr
      split <;> rfl
    | fpr k =>
      show (r.writeGpr n value).fpr k = r.fpr k
      unfold writeGpr
      split <;> rfl
  | csr n =>
    cases i with
    | csr k => exact if_neg fun hk => h (by rw [hk])
    | gpr k => rfl
    | fpr k => rfl
  | fpr n =>
    cases i with
    | fpr k => exact if_neg fun hk => h (by rw [hk])
    | gpr k => rfl
    | csr k => rfl

theorem read_write_self (r : RegisterFile) (value : BitVec 64) (h : name ≠ .gpr 0#5) :
    (r.write value name).read name = value := by
  cases name with
  | gpr n => exact r.readGpr_writeGpr_self value fun hn => h (by rw [hn])
  | csr n => exact if_pos rfl
  | fpr n => exact if_pos rfl

theorem write_gpr_zero (r : RegisterFile) (value : BitVec 64) :
    r.write value (.gpr 0#5) = r :=
  rfl

end RegisterFile

/-- The changes are those from `r` to `r'`.  A change recorded for `x0` may have
any new value: the write to `x0` is dropped. -/
structure RecordsRegisters (changes : List RegisterChange) (r r' : RegisterFile) : Prop where
  old : ∀ c ∈ changes, c.oldValue = r.read c.register
  new : ∀ c ∈ changes, c.register = .gpr 0#5 ∨ c.newValue = r'.read c.register
  frame : ∀ i, (∀ c ∈ changes, c.register ≠ i) → r'.read i = r.read i

namespace RVSSVM

variable {cfg : VmConfig} {r r' : RegisterFile}

/-- The change that is recorded for one register. -/
def registerChange (register : RegisterName) (oldReg newReg : BitVec 64) : List RegisterChange :=
  if oldReg ≠ newReg then [⟨register, oldReg, newReg⟩] else []

theorem ne_of_mem_registerChange {register : RegisterName} {oldReg newReg : BitVec 64}
    {c : RegisterChange} (h : c ∈ registerChange register oldReg newReg) :
    c = ⟨register, oldReg, newReg⟩ ∧ c.oldValue ≠ c.newValue := by
  unfold registerChange at h
  split at h
  · rename_i hne
    rw [List.mem_singleton.mp h]
    exact ⟨rfl, hne⟩
  · cases h

theorem recordRegister_eq (vm : RVSSVM) (register : RegisterName) (oldReg newReg : BitVec 64) :
    vm.recordRegister register oldReg newReg = { vm with currentDelta := { vm.currentDelta with
      registerChanges :=
        vm.currentDelta.registerChanges ++ registerChange register oldReg newReg } } := by
  unfold recordRegister registerChange pushRegisterChange
  by_cases h : oldReg ≠ newReg
  · rw [if_pos h, if_pos h]
  · rw [if_neg h, if_neg h, List.append_nil]

/-- A recorded write of one register. -/
theorem recordsRegisters_of_frame {register : RegisterName} {newReg : BitVec 64}
    (hnew : register = .gpr 0#5 ∨ newReg = r'.read register)
    (hframe : ∀ i, i ≠ register → r'.read i = r.read i)
    (hzero : register = .gpr 0#5 → r' = r) :
    RecordsRegisters (registerChange register (r.read register) newReg) r r' := by
  unfold registerChange
  by_cases h : r.read register ≠ newReg
  · rw [if_pos h]
    refine ⟨fun c hc => ?_, fun c hc => ?_, fun i hi => ?_⟩
    · rw [List.mem_singleton.mp hc]
    · rw [List.mem_singleton.mp hc]
      exact hnew
    · exact hframe i (hi _ (List.mem_singleton.mpr rfl)).symm
  · rw [if_neg h]
    refine ⟨fun c hc => (nomatch hc), fun c hc => (nomatch hc), fun i _ => ?_⟩
    by_cases hi : i = register
    · rcases hnew with hz | hnew
      · rw [hzero hz]
      · rw [hi, ← hnew, not_not.mp h]
    · exact hframe i hi

end RVSSVM

/-! ### Memory -/

/-- The byte at `a` is one of `n` bytes at `address`. -/
def Covers (address : BitVec 64) (n : Nat) (a : BitVec 64) : Prop :=
  ∃ i < n, a = address + BitVec.ofNat 64 i

/-- The bytes are those of `m` from `address` on. -/
def Memory.HoldsBytes (m : Memory) (address : BitVec 64) (bytes : List (BitVec 8)) : Prop :=
  ∀ i x, bytes[i]? = some x → m.read (address + BitVec.ofNat 64 i) = .ok x

/-- The changes are those from `m` to `m'`. -/
structure RecordsMemory (changes : List MemoryChange) (m m' : Memory) : Prop where
  length : ∀ c ∈ changes, c.newBytesVec.length = c.oldBytesVec.length
  old : ∀ c ∈ changes, m.HoldsBytes c.address c.oldBytesVec
  new : ∀ c ∈ changes, m'.HoldsBytes c.address c.newBytesVec
  frame : ∀ a, (∀ c ∈ changes, ¬Covers c.address c.oldBytesVec.length a) → m.FramesAt m' a

namespace Memory

variable {cfg : VmConfig} {m m' target : Memory} {a address : BitVec 64}
  {bytes : List (BitVec 8)}

theorem readBytes_eq_ok {n : Nat} (h : m.readBytes n address = .ok bytes) :
    bytes.length = n ∧ m.HoldsBytes address bytes := by
  have hall := mapM_eq_ok.mp h
  have hlength : bytes.length = n := by rw [← hall.length_eq, List.length_range]
  refine ⟨hlength, fun i x hx => ?_⟩
  have hi : i < bytes.length := (List.getElem?_eq_some_iff.mp hx).1
  have hrange : i < (List.range n).length := by rw [List.length_range]; omega
  have hget := (List.forall₂_iff_get.mp hall).2 i hrange hi
  rw [List.get_eq_getElem, List.getElem_range, readByte_eq] at hget
  rw [List.getElem?_eq_getElem hi] at hx
  rw [← Option.some.inj hx]
  exact hget

/-- Writing bytes of `target` settles their addresses and leaves the others alone. -/
theorem readsBackAt_writeBytes (h : m.writeBytes cfg address bytes = .ok m')
    (hvalue : target.HoldsBytes address bytes)
    (ha : Covers address bytes.length a ∨ target.ReadsBackAt m a) : target.ReadsBackAt m' a := by
  unfold writeBytes at h
  refine settled_of_foldlM (fun (entry : BitVec 8 × Nat) a =>
    a = address + BitVec.ofNat 64 entry.2) target.ReadsBackAt ?_ h a ?_
  · rintro ⟨byte, i⟩ hmem s s' hw b hb
    dsimp only at hw hb
    rw [writeByte_eq] at hw
    by_cases hbi : b = address + BitVec.ofNat 64 i
    · intro x hx
      rw [hbi, read_of_write hw] at hx
      obtain rfl := Except.ok.inj hx
      rw [hbi]
      exact hvalue i byte (List.mem_zipIdx_iff_getElem?.mp hmem)
    · exact (hb.resolve_left hbi).trans (readsBackAt_of_write hw hbi)
  · refine ha.imp_left ?_
    rintro ⟨i, hi, rfl⟩
    exact ⟨(bytes[i], i), List.mem_zipIdx_iff_getElem?.mpr (List.getElem?_eq_getElem hi), rfl⟩

theorem reachable_of_writeBytes (hm : Reachable cfg m)
    (h : m.writeBytes cfg address bytes = .ok m') : Reachable cfg m' := by
  unfold writeBytes at h
  exact foldlM_invariant (Reachable cfg) (fun _ _ _ _ h₁ h₂ => reachable_of_writeByte h₁ h₂) hm h

end Memory

namespace RVSSVM

variable {cfg : VmConfig} {m m' target : Memory} {changes : List MemoryChange}
  {bytes : MemoryChange → List (BitVec 8)}

theorem reachable_of_applyMemoryChanges (hm : m.Reachable cfg)
    (h : applyMemoryChanges cfg bytes changes m = .ok m') : m'.Reachable cfg := by
  unfold applyMemoryChanges at h
  exact foldlM_invariant (Memory.Reachable cfg)
    (fun _ _ _ _ h₁ h₂ => Memory.reachable_of_writeBytes h₁ h₂) hm h

/-! ### Stores -/

/-- `write` changes at most `n` bytes at `address`. -/
def Frames (write : Memory → Except (Fault × Memory) Memory) (n : Nat) (address : BitVec 64) :
    Prop :=
  ∀ m m', write m = .ok m' → m'.memorySize = m.memorySize ∧
    ∀ a, ¬Covers address n a → m.ReadsBackAt m' a

theorem frames_writeByte {address : BitVec 64} {value : BitVec 8} :
    Frames (·.writeByte cfg address value) 1 address := by
  intro m m' h
  dsimp only at h
  rw [Memory.writeByte_eq] at h
  refine ⟨(Memory.sizes_of_write h).1, fun a ha => Memory.readsBackAt_of_write h ?_⟩
  rintro rfl
  exact ha ⟨0, Nat.one_pos, (BitVec.add_zero _).symm⟩

theorem frames_writeSized {n : Nat} {address : BitVec 64} {value : BitVec (8 * n)} :
    Frames (·.writeSized cfg n address value) n address := by
  intro m m' h
  refine ⟨(Memory.sizes_of_writeSized h).1, fun a ha => ?_⟩
  exact (Memory.framesAt_of_writeSized h fun i hi heq => ha ⟨i, hi, heq⟩).2

theorem frames_storeInteger {funct3 : BitVec 3} {address value : BitVec 64} {n : Nat}
    {write : Memory → Except (Fault × Memory) Memory}
    (h : storeInteger cfg funct3 address value = some (n, write)) : Frames write n address := by
  unfold storeInteger at h
  split at h
  · cases h
    exact frames_writeByte
  · cases h
    exact frames_writeSized
  · cases h
    exact frames_writeSized
  · cases h
    exact frames_writeSized
  · cases h

/-- A change of nothing. -/
theorem recordsMemory_nil (m : Memory) : RecordsMemory [] m m where
  length := fun _ hc => nomatch hc
  old := fun _ hc => nomatch hc
  new := fun _ hc => nomatch hc
  frame := fun a _ => .refl m a

/-- The change that is recorded for one store. -/
def memoryChange (change : MemoryChange) : List MemoryChange :=
  if change.oldBytesVec ≠ change.newBytesVec then [change] else []

theorem ne_of_mem_memoryChange {change c : MemoryChange} (h : c ∈ memoryChange change) :
    c = change ∧ c.oldBytesVec ≠ c.newBytesVec := by
  unfold memoryChange at h
  split at h
  · rename_i hne
    rw [List.mem_singleton.mp h]
    exact ⟨rfl, hne⟩
  · cases h

theorem recordMemory_eq (vm : RVSSVM) (change : MemoryChange) :
    vm.recordMemory change = { vm with currentDelta := { vm.currentDelta with
      memoryChanges := vm.currentDelta.memoryChanges ++ memoryChange change } } := by
  unfold recordMemory memoryChange pushMemoryChange
  by_cases h : change.oldBytesVec ≠ change.newBytesVec
  · rw [if_pos h, if_pos h]
  · rw [if_neg h, if_neg h, List.append_nil]

/-- The bytes before and after a write that changes at most these bytes tell what it changed. -/
theorem recordsMemory_memoryChange {c : MemoryChange}
    (hlength : c.newBytesVec.length = c.oldBytesVec.length)
    (hold : m.HoldsBytes c.address c.oldBytesVec) (hnew : m'.HoldsBytes c.address c.newBytesVec)
    (hsize : m'.memorySize = m.memorySize)
    (hframe : ∀ a, ¬Covers c.address c.oldBytesVec.length a → m.ReadsBackAt m' a) :
    RecordsMemory (memoryChange c) m m' := by
  unfold memoryChange
  by_cases h : c.oldBytesVec ≠ c.newBytesVec
  · rw [if_pos h]
    refine ⟨fun d hd => ?_, fun d hd => ?_, fun d hd => ?_,
      fun a ha => ⟨hsize, hframe a (ha c (List.mem_singleton.mpr rfl))⟩⟩
    · rwa [List.mem_singleton.mp hd]
    · rwa [List.mem_singleton.mp hd]
    · rwa [List.mem_singleton.mp hd]
  · rw [if_neg h]
    refine ⟨fun _ hc => (nomatch hc), fun _ hc => (nomatch hc), fun _ hc => (nomatch hc),
      fun a _ => ⟨hsize, ?_⟩⟩
    by_cases ha : Covers c.address c.oldBytesVec.length a
    · obtain ⟨i, hi, rfl⟩ := ha
      intro x hx
      have heq : c.oldBytesVec[i]? = some c.oldBytesVec[i] := List.getElem?_eq_getElem hi
      have h' : m'.read (c.address + BitVec.ofNat 64 i) = .ok c.oldBytesVec[i] :=
        hnew i _ (not_not.mp h ▸ heq)
      obtain rfl := Except.ok.inj (h'.symm.trans hx)
      exact hold i _ heq
    · exact hframe a ha

/-- A store that completes has written the memory and recorded what it changed. -/
theorem storeRecorded_eq_ok (vm : RVSSVM) {vm' : RVSSVM} {n : Nat}
    {write : Memory → Except (Fault × Memory) Memory} (hframes : Frames write n vm.executionResult)
    (h : vm.storeRecorded n write = .ok vm') :
    ∃ memory changes, write vm.memoryController = .ok memory ∧
      RecordsMemory changes vm.memoryController memory ∧
      (∀ c ∈ changes, c.address = vm.executionResult ∧ c.oldBytesVec.length = n ∧
        c.oldBytesVec ≠ c.newBytesVec) ∧
      vm' = { vm with
        memoryController := memory
        currentDelta := { vm.currentDelta with
          memoryChanges := vm.currentDelta.memoryChanges ++ changes } } := by
  unfold storeRecorded at h
  obtain ⟨oldBytesVec, hold, h⟩ := bind_eq_ok.mp h
  obtain ⟨memory, hwrite, h⟩ := bind_eq_ok.mp h
  obtain ⟨newBytesVec, hnew, h⟩ := bind_eq_ok.mp h
  obtain rfl := Except.ok.inj h
  obtain ⟨hlen, hold⟩ := Memory.readBytes_eq_ok (throwAt_eq_ok.mp hold)
  obtain ⟨hlen', hnew⟩ := Memory.readBytes_eq_ok (throwAt_eq_ok.mp hnew)
  rw [throwWith_eq_ok] at hwrite
  obtain ⟨hsize, hframe⟩ := hframes _ _ hwrite
  refine ⟨memory, memoryChange ⟨vm.executionResult, oldBytesVec, newBytesVec⟩, hwrite, ?_,
    fun c hc => ?_, recordMemory_eq _ _⟩
  · refine recordsMemory_memoryChange (hlen'.trans hlen.symm) hold hnew hsize fun a ha => ?_
    exact hframe a (hlen ▸ ha)
  · obtain ⟨rfl, hne⟩ := ne_of_mem_memoryChange hc
    exact ⟨rfl, hlen, hne⟩

/-- A memory access that completes: the value loaded, the memory and the changes recorded. -/
theorem accessMemory_eq_ok {vm vm' : RVSSVM} {load : Except Fault (BitVec 64)}
    {store : Option (Nat × (Memory → Except (Fault × Memory) Memory))}
    (hframes : ∀ n write, store = some (n, write) → Frames write n vm.executionResult)
    (h : vm.accessMemory load store = .ok vm') :
    ∃ memoryResult memory changes, (vm.controlUnit.memRead = true → load = .ok memoryResult) ∧
      (if vm.controlUnit.memWrite then
        match store with
        | some (_, write) => forgetState (write vm.memoryController)
        | none => .ok vm.memoryController
      else .ok vm.memoryController) = .ok memory ∧
      RecordsMemory changes vm.memoryController memory ∧
      (∀ c ∈ changes, vm.controlUnit.memWrite = true ∧
        (∃ write, store = some (c.oldBytesVec.length, write)) ∧
        c.address = vm.executionResult ∧ c.oldBytesVec ≠ c.newBytesVec) ∧
      vm' = { vm with
        memoryResult := memoryResult
        memoryController := memory
        currentDelta := { vm.currentDelta with
          memoryChanges := vm.currentDelta.memoryChanges ++ changes } } := by
  unfold accessMemory at h
  obtain ⟨memoryResult, hload, h⟩ := bind_eq_ok.mp h
  rw [throwAt_eq_ok] at hload
  have hload' : vm.controlUnit.memRead = true → load = .ok memoryResult := by
    intro hread
    rwa [if_pos hread] at hload
  -- no store leaves the memory as it is
  have hnone : vm' = { vm with memoryResult := memoryResult } →
      vm' = { vm with
        memoryResult := memoryResult
        memoryController := vm.memoryController
        currentDelta := { vm.currentDelta with
          memoryChanges := vm.currentDelta.memoryChanges ++ [] } } := by
    rintro rfl
    rw [List.append_nil]
  by_cases hwrite : vm.controlUnit.memWrite = true
  · dsimp only at h
    rw [if_pos hwrite] at h
    rw [if_pos hwrite]
    cases store with
    | none =>
      exact ⟨memoryResult, vm.memoryController, [], hload', rfl, recordsMemory_nil _,
        fun c hc => (nomatch hc), hnone (Except.ok.inj h).symm⟩
    | some store =>
      obtain ⟨n, write⟩ := store
      obtain ⟨memory, changes, hw, hrec, hchanges, rfl⟩ :=
        storeRecorded_eq_ok { vm with memoryResult := memoryResult } (hframes n write rfl) h
      refine ⟨memoryResult, memory, changes, hload', forgetState_eq_ok.mpr hw, hrec,
        fun c hc => ?_, rfl⟩
      obtain ⟨haddress, hlength, hne⟩ := hchanges c hc
      exact ⟨hwrite, ⟨write, by rw [hlength]⟩, haddress, hne⟩
  · dsimp only at h
    rw [if_neg hwrite] at h
    rw [if_neg hwrite]
    exact ⟨memoryResult, vm.memoryController, [], hload', rfl, recordsMemory_nil _,
      fun c hc => (nomatch hc), hnone (Except.ok.inj h).symm⟩

end RVSSVM

end RiscvSim

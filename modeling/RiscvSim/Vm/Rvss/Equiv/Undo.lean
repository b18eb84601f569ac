import RiscvSim.Vm.Equiv.Loader
import RiscvSim.Vm.Equiv.SameMemory
import RiscvSim.Vm.Rvss.Equiv.Agreement

/-!
# Undoing the last step

`Undo` writes back all old values of the delta that `Step` has pushed.  `Run`
leaves the changes of its instructions in the current delta, and the next
`Step` pushes them together with its own.

* **`step_undo_iff`**: exactly when `Undo` takes a step back.
-/

namespace RiscvSim

open Lib RVSSControlUnit

namespace RVSSVM

variable {cfg : VmConfig} {fpu : FloatUnit} {vm vm' vm₀ : RVSSVM} {w : BitVec 32}

/-! ### One register at a time -/

section Registers

variable {value : RegisterChange → BitVec 64} {changes : List RegisterChange}
  {r r' : RegisterFile} {i : RegisterName}

theorem applyRegisterChanges_append (changes' : List RegisterChange) :
    applyRegisterChanges value (changes ++ changes') r =
      applyRegisterChanges value changes' (applyRegisterChanges value changes r) :=
  List.foldl_append

/-- A register that no change names keeps its value. -/
theorem read_applyRegisterChanges_of_not_mem (h : ∀ c ∈ changes, c.register ≠ i) :
    (applyRegisterChanges value changes r).read i = r.read i := by
  induction changes generalizing r with
  | nil => rfl
  | cons c changes ih =>
    refine (ih fun d hd => h d (List.mem_cons_of_mem c hd)).trans ?_
    exact r.read_write_of_ne _ (h c List.mem_cons_self).symm

/-- A register that every change naming it sets to `x`, and some change does. -/
theorem read_applyRegisterChanges_of_mem {x : BitVec 64} (hi : i ≠ .gpr 0#5)
    (hvalue : ∀ c ∈ changes, c.register = i → value c = x)
    (hmem : ∃ c ∈ changes, c.register = i) :
    (applyRegisterChanges value changes r).read i = x := by
  induction changes generalizing r with
  | nil =>
    obtain ⟨c, hc, -⟩ := hmem
    cases hc
  | cons c changes ih =>
    by_cases hlater : ∃ d ∈ changes, d.register = i
    · exact ih (fun d hd => hvalue d (List.mem_cons_of_mem c hd)) hlater
    · have hnot : ∀ d ∈ changes, d.register ≠ i := fun d hd hdi => hlater ⟨d, hd, hdi⟩
      have hc : c.register = i := by
        obtain ⟨d, hd, hdi⟩ := hmem
        rcases List.mem_cons.mp hd with rfl | hd
        · exact hdi
        · exact absurd hdi (hnot d hd)
      refine (read_applyRegisterChanges_of_not_mem hnot).trans ?_
      show (r.write (value c) c.register).read i = x
      rw [hc, RegisterFile.read_write_self r _ hi]
      exact hvalue c List.mem_cons_self hc

/-- What a register holds after changes depends on it alone. -/
theorem read_applyRegisterChanges_congr (h : r'.read i = r.read i) :
    (applyRegisterChanges value changes r').read i =
      (applyRegisterChanges value changes r).read i := by
  induction changes generalizing r r' with
  | nil => exact h
  | cons c changes ih =>
    refine ih ?_
    show (r'.write (value c) c.register).read i = (r.write (value c) c.register).read i
    by_cases hz : c.register = .gpr 0#5
    · rw [hz, RegisterFile.write_gpr_zero, RegisterFile.write_gpr_zero]
      exact h
    · by_cases hci : c.register = i
      · rw [← hci, RegisterFile.read_write_self _ _ hz, RegisterFile.read_write_self _ _ hz]
      · rw [RegisterFile.read_write_of_ne _ _ (Ne.symm hci),
          RegisterFile.read_write_of_ne _ _ (Ne.symm hci)]
        exact h

end Registers

/-! ### One byte at a time -/

section Memory

variable {bytes : MemoryChange → List (BitVec 8)} {changes : List MemoryChange}
  {m m' m₁ : Memory} {S : BitVec 64 → Prop}

/-- Writing recorded bytes into memories that are alike on `S`. -/
theorem alikeOn_applyMemoryChanges (h : m.AlikeOn cfg S m')
    (hw : applyMemoryChanges cfg bytes changes m = .ok m₁) :
    ∃ m₁', applyMemoryChanges cfg bytes changes m' = .ok m₁' ∧ m₁.AlikeOn cfg S m₁' := by
  unfold applyMemoryChanges at hw
  refine foldlM_simulates (Memory.AlikeOn cfg S) ?_ h hw
  intro s c s' t _ hst hs
  unfold Memory.writeBytes at hs
  refine foldlM_simulates (Memory.AlikeOn cfg S) ?_ hst hs
  rintro s ⟨byte, i⟩ s' t _ hst hs
  obtain ⟨t', ht', hst'⟩ := hst.writeByte hs
  exact ⟨t', ht', hst'.mono fun a ha => .inr ha⟩

/-- Recorded bytes that `m` holds can be written into every memory of the class. -/
theorem exists_applyMemoryChanges (h : m'.Reachable cfg) (hm : m.Reachable cfg)
    (hholds : ∀ c ∈ changes, m.HoldsBytes c.address (bytes c)) :
    ∃ m₁, applyMemoryChanges cfg bytes changes m' = .ok m₁ ∧ m₁.Reachable cfg := by
  unfold applyMemoryChanges
  refine foldlM_succeeds (Memory.Reachable cfg) (fun c hc s hs => ?_) h
  unfold Memory.writeBytes
  refine foldlM_succeeds (Memory.Reachable cfg) ?_ hs
  rintro ⟨byte, i⟩ hmem s hs
  have hread := hholds c hc i byte (List.mem_zipIdx_iff_getElem?.mp hmem)
  obtain ⟨s', hs'⟩ := (Memory.exists_write_iff hs).mpr ((Memory.exists_read_iff hm).mp ⟨byte, hread⟩)
  refine ⟨s', ?_, hs.write hs'⟩
  dsimp only
  rw [Memory.writeByte_eq]
  exact hs'

/-- An address that no change covers keeps its byte. -/
theorem read_applyMemoryChanges_of_not_covered (hm : m.Reachable cfg)
    (h : applyMemoryChanges cfg bytes changes m = .ok m₁) {a : BitVec 64}
    (ha : ∀ c ∈ changes, ¬Covers c.address (bytes c).length a) : m₁.read a = m.read a := by
  refine (Memory.read_eq_of_readsBackAt hm (reachable_of_applyMemoryChanges hm h) ?_)
  unfold applyMemoryChanges at h
  refine foldlM_invariant (fun s => m.ReadsBackAt s a) ?_ (.refl m a) h
  intro s c s' hc hs hw
  unfold Memory.writeBytes at hw
  refine foldlM_invariant (fun s => m.ReadsBackAt s a) ?_ hs hw
  rintro s ⟨byte, i⟩ s' hmem hs hw
  dsimp only at hw
  rw [Memory.writeByte_eq] at hw
  refine hs.trans (Memory.readsBackAt_of_write hw ?_)
  rintro rfl
  have hi : i < (bytes c).length :=
    (List.getElem?_eq_some_iff.mp (List.mem_zipIdx_iff_getElem?.mp hmem)).1
  exact ha c hc ⟨i, hi, rfl⟩

/-- A covered address holds the byte of `target` that the changes hold. -/
theorem read_applyMemoryChanges_of_covered {target : Memory} (hm : m.Reachable cfg)
    (ht : target.Reachable cfg) (h : applyMemoryChanges cfg bytes changes m = .ok m₁)
    (hholds : ∀ c ∈ changes, target.HoldsBytes c.address (bytes c)) {a : BitVec 64}
    (ha : ∃ c ∈ changes, Covers c.address (bytes c).length a) : m₁.read a = target.read a := by
  refine Memory.read_eq_of_readsBackAt ht (reachable_of_applyMemoryChanges hm h) ?_
  unfold applyMemoryChanges at h
  refine settled_of_foldlM (fun c a => Covers c.address (bytes c).length a) target.ReadsBackAt
    (fun c hc s s' hw b hb => ?_) h a (.inl ha)
  exact Memory.readsBackAt_writeBytes hw (hholds c hc) hb

theorem applyMemoryChanges_append (changes' : List MemoryChange) :
    applyMemoryChanges cfg bytes (changes ++ changes') m =
      applyMemoryChanges cfg bytes changes m >>= applyMemoryChanges cfg bytes changes' :=
  List.foldlM_append

end Memory

/-! ### Histories -/

/-- The instruction fetched next is an integer one. -/
def FetchesInteger (vm : RVSSVM) : Prop :=
  ∀ w, vm.arch.fetch = .ok w → isIntegerInstruction w = true

/-- The machines that runs, steps and undos of an integer program lead to.  A
run is taken apart into its rounds, so that the limit or a request may stop it. -/
inductive Reached (cfg : VmConfig) (fpu : FloatUnit) (vm₀ : RVSSVM) : RVSSVM → Prop
  | load : Reached cfg fpu vm₀ vm₀
  | startRun {vm : RVSSVM} (h : Reached cfg fpu vm₀ vm) : Reached cfg fpu vm₀ vm.clearStop
  | round {vm vm' : RVSSVM} (h : Reached cfg fpu vm₀ vm) (hpc : vm.programCounter < vm.programSize)
      (hint : vm.FetchesInteger) (hrun : vm.runInstruction cfg fpu = .ok vm') :
      Reached cfg fpu vm₀ vm'
  | requestStop {vm : RVSSVM} (h : Reached cfg fpu vm₀ vm) :
      Reached cfg fpu vm₀ { vm with stopRequested := true }
  | endRun {vm : RVSSVM} (h : Reached cfg fpu vm₀ vm) : Reached cfg fpu vm₀ vm.reportEnd
  | step {vm vm' : RVSSVM} (h : Reached cfg fpu vm₀ vm) (hint : vm.FetchesInteger)
      (hstep : vm.step cfg fpu = .ok vm') : Reached cfg fpu vm₀ vm'
  | undo {vm vm' : RVSSVM} (h : Reached cfg fpu vm₀ vm) (hundo : vm.undo cfg = .ok vm') :
      Reached cfg fpu vm₀ vm'

/-- `Run` as a whole. -/
theorem Reached.run (h : Reached cfg fpu vm₀ vm)
    (hint : ∀ v, Reached cfg fpu vm₀ v → v.FetchesInteger) {fuel : Nat}
    (hrun : vm.run cfg fpu fuel = some (.ok vm')) : Reached cfg fpu vm₀ vm' := by
  have hloop : ∀ {fuel : Nat} {n : BitVec 64} {v v' : RVSSVM}, Reached cfg fpu vm₀ v →
      v.runLoop cfg fpu fuel n = some (.ok v') → Reached cfg fpu vm₀ v' := by
    intro fuel
    induction fuel with
    | zero =>
      intro n v v' _ hrun
      cases hrun
    | succ fuel ih =>
      intro n v v' hv hrun
      unfold RVSSVM.runLoop at hrun
      split at hrun
      · cases hrun
        exact hv
      rename_i hgo
      split at hrun
      · cases hrun
        exact hv
      split at hrun
      · cases hrun
      · have hpc : v.programCounter < v.programSize := by
          simp only [Bool.or_eq_true, decide_eq_true_eq, not_or] at hgo
          exact BitVec.not_le.mp hgo.2
        exact ih (hv.round hpc (hint v hv) ‹_›) hrun
  obtain ⟨r, hr, hend⟩ := Option.map_eq_some_iff.mp hrun
  cases r with
  | error e => cases hend
  | ok v =>
    cases hend
    exact (hloop h.startRun hr).endRun

theorem fetch_of_runInstruction (h : vm.runInstruction cfg fpu = .ok vm') :
    ∃ w, vm.arch.fetch = .ok w := by
  obtain ⟨v, hv, -⟩ := bind_eq_ok.mp h
  obtain ⟨w, hw, -⟩ := bind_pure_eq_ok.mp hv
  exact ⟨w, throwAt_eq_ok.mp hw⟩

theorem reachable_of_storeInteger {funct3 : BitVec 3} {address value : BitVec 64} {n : Nat}
    {write : Memory → Except (Fault × Memory) Memory} {m m' : Memory}
    (h : storeInteger cfg funct3 address value = some (n, write)) (hm : m.Reachable cfg)
    (hw : write m = .ok m') : m'.Reachable cfg := by
  unfold storeInteger at h
  split at h
  · cases h
    exact Memory.reachable_of_writeByte hm hw
  · cases h
    exact Memory.reachable_of_writeSized hm hw
  · cases h
    exact Memory.reachable_of_writeSized hm hw
  · cases h
    exact Memory.reachable_of_writeSized hm hw
  · cases h

theorem reachable_of_execWord {s s' : ArchState} (hm : s.memory.Reachable cfg)
    (h : execWord cfg s w = .ok s') : s'.memory.Reachable cfg := by
  obtain ⟨x, -, h⟩ := bind_eq_ok.mp h
  obtain ⟨v, -, h⟩ := bind_eq_ok.mp h
  obtain ⟨m, hstore, h⟩ := bind_eq_ok.mp h
  obtain rfl := Except.ok.inj h
  show m.Reachable cfg
  unfold storeOf at hstore
  split at hstore
  · split at hstore
    · exact reachable_of_storeInteger ‹_› hm (forgetState_eq_ok.mp hstore)
    · obtain rfl := Except.ok.inj hstore
      exact hm
  · obtain rfl := Except.ok.inj hstore
    exact hm

/-- The parts of a step that completes an instruction. -/
theorem step_eq_ok (hpc : vm.programCounter < vm.programSize) (h : vm.step cfg fpu = .ok vm') :
    ∃ v, vm.startDelta.runInstruction cfg fpu = .ok v ∧ vm' = v.commitDelta.reportStep := by
  unfold step at h
  rw [if_pos hpc] at h
  obtain ⟨v, hv, h⟩ := bind_pure_eq_ok.mp h
  exact ⟨v, hv, h.symm⟩

theorem memoryController_reportStep (vm : RVSSVM) :
    vm.reportStep.memoryController = vm.memoryController := by
  unfold reportStep
  split <;> rfl

/-- The memory stays one of the class. -/
theorem Reached.reachable (h : Reached cfg fpu vm₀ vm)
    (h₀ : vm₀.memoryController.Reachable cfg) : vm.memoryController.Reachable cfg := by
  have hround : ∀ {v v' u : RVSSVM}, v.FetchesInteger → u.arch = v.arch →
      u.runInstruction cfg fpu = .ok v' → v.memoryController.Reachable cfg →
      v'.memoryController.Reachable cfg := by
    intro v v' u hint harch hrun hm
    obtain ⟨w, hw⟩ := fetch_of_runInstruction hrun
    have hexec := (runInstruction_integer hw (hint w (harch ▸ hw)) hrun).1
    rw [harch] at hexec
    exact reachable_of_execWord hm hexec
  induction h with
  | load => exact h₀
  | startRun _ ih => exact ih
  | round _ _ hint hrun ih => exact hround hint rfl hrun ih
  | requestStop _ ih => exact ih
  | endRun _ ih =>
    unfold reportEnd
    split
    · exact ih
    · exact ih
  | @step v v' _ hint hstep ih =>
    by_cases hpc : v.programCounter < v.programSize
    · obtain ⟨u, hrun, rfl⟩ := step_eq_ok hpc hstep
      have harch : v.startDelta.arch = v.arch := rfl
      have hu : u.memoryController.Reachable cfg := hround hint harch hrun ih
      rw [memoryController_reportStep]
      exact hu
    · unfold RVSSVM.step at hstep
      rw [if_neg hpc] at hstep
      obtain rfl := Except.ok.inj hstep
      exact ih
  | undo _ hundo ih =>
    unfold RVSSVM.undo at hundo
    split at hundo
    · obtain rfl := Except.ok.inj hundo
      exact ih
    · obtain ⟨m, hm, rfl⟩ := bind_pure_eq_ok.mp hundo
      exact reachable_of_applyMemoryChanges ih (throwWith_eq_ok.mp hm)

/-! ### The law -/

/-- Everything but the stacks is as before. -/
structure Restores (vm vm' : RVSSVM) : Prop where
  gprs : ∀ i, vm'.registers.readGpr i = vm.registers.readGpr i
  memory : ∀ a, vm'.memoryController.read a = vm.memoryController.read a
  programCounter : vm'.programCounter = vm.programCounter
  instructionsRetired : vm'.instructionsRetired = vm.instructionsRetired
  cycleS : vm'.cycleS = vm.cycleS

/-- The byte at `a` is one of the bytes that the integer instruction `w` stores
to, and the store leading to `s'` changes one of them. -/
def StoreChanges (cfg : VmConfig) (s : ArchState) (w : BitVec 32) (s' : ArchState)
    (a : BitVec 64) : Prop :=
  ∃ x n write, resultOf s w = .ok x ∧ (setControlSignals w).memWrite = true ∧
    storeInteger cfg (funct3Of w) x (s.registers.readGpr (rs2Of w)) = some (n, write) ∧
    Covers x n a ∧ ∃ b, Covers x n b ∧ s'.memory.read b ≠ s.memory.read b

/-- The old values in the current delta are those the registers and the memory
have, except where the instruction `w`, which leads to `s'`, makes a change of its own. -/
structure PendingHarmless (cfg : VmConfig) (vm : RVSSVM) (w : BitVec 32) (s' : ArchState) :
    Prop where
  gprs : ∀ i, s'.registers.readGpr i = vm.registers.readGpr i →
    (applyRegisterChanges (·.oldValue) vm.currentDelta.registerChanges vm.registers).readGpr i =
      vm.registers.readGpr i
  memory : ∃ m, applyMemoryChanges cfg (·.oldBytesVec) vm.currentDelta.memoryChanges
      vm.memoryController = .ok m ∧
    ∀ a, ¬StoreChanges cfg vm.arch w s' a → m.read a = vm.memoryController.read a

/-- A change of a register is recorded, and what is recorded is a change. -/
theorem exists_registerChange_iff {registerChanges : List RegisterChange}
    {memoryChanges : List MemoryChange} {r' : RegisterFile}
    (hrec : RecordsRegisters registerChanges vm.registers r')
    (hchanges : ChangesOf cfg vm.arch w registerChanges memoryChanges) {i : BitVec 5}
    (hi : i ≠ 0#5) :
    (∃ c ∈ registerChanges, c.register = .gpr i) ↔ r'.readGpr i ≠ vm.registers.readGpr i := by
  constructor
  · rintro ⟨c, hc, hci⟩ hsame
    have hold : c.oldValue = vm.registers.readGpr i := (hrec.old c hc).trans (by rw [hci]; rfl)
    have hnew : c.newValue = r'.readGpr i := by
      rcases hrec.new c hc with hz | hnew
      · exact absurd (RegisterName.gpr.inj (hci.symm.trans hz)) hi
      · exact hnew.trans (by rw [hci]; rfl)
    exact hchanges.register c hc (by rw [hold, hnew, hsame])
  · intro hne
    by_contra hnot
    exact hne (hrec.frame (.gpr i) fun c hc hci => hnot ⟨c, hc, hci⟩)

/-- The bytes recorded are those of a store that changes one of them. -/
theorem exists_memoryChange_iff {registerChanges : List RegisterChange}
    {memoryChanges : List MemoryChange} {s s' : ArchState}
    (hm : s.memory.Reachable cfg) (hm' : s'.memory.Reachable cfg)
    (hrec : RecordsMemory memoryChanges s.memory s'.memory)
    (hchanges : ChangesOf cfg s w registerChanges memoryChanges) {a : BitVec 64} :
    (∃ c ∈ memoryChanges, Covers c.address c.oldBytesVec.length a) ↔
      StoreChanges cfg s w s' a := by
  constructor
  · rintro ⟨c, hc, hcov⟩
    obtain ⟨hne, hx, hwrite, write, hstore⟩ := hchanges.memory c hc
    refine ⟨c.address, _, write, hx, hwrite, hstore, hcov, ?_⟩
    by_contra hall
    refine hne (List.ext_getElem? fun j => ?_)
    by_cases hj : j < c.oldBytesVec.length
    · have hj' : j < c.newBytesVec.length := by rw [hrec.length c hc]; exact hj
      have hold := hrec.old c hc j _ (List.getElem?_eq_getElem hj)
      have hnew := hrec.new c hc j _ (List.getElem?_eq_getElem hj')
      have hread : s'.memory.read (c.address + BitVec.ofNat 64 j) =
          s.memory.read (c.address + BitVec.ofNat 64 j) := by
        by_contra hdiff
        exact hall ⟨_, ⟨j, hj, rfl⟩, hdiff⟩
      rw [hold, hnew] at hread
      rw [List.getElem?_eq_getElem hj, List.getElem?_eq_getElem hj', Except.ok.inj hread]
    · have hj' : ¬j < c.newBytesVec.length := by rw [hrec.length c hc]; exact hj
      rw [List.getElem?_eq_none (Nat.le_of_not_lt hj), List.getElem?_eq_none (Nat.le_of_not_lt hj')]
  · rintro ⟨x, n, write, hx, -, hstore, hcov, b, hb, hne⟩
    have hex : ∃ c ∈ memoryChanges, Covers c.address c.oldBytesVec.length b := by
      by_contra hnot
      refine hne (Memory.read_eq_of_readsBackAt hm hm' (hrec.frame b fun c hc hcb => ?_).2)
      exact hnot ⟨c, hc, hcb⟩
    obtain ⟨c, hc, -⟩ := hex
    obtain ⟨-, hx', -, write', hstore'⟩ := hchanges.memory c hc
    obtain rfl := Except.ok.inj (hx'.symm.trans hx)
    have hn := (Prod.mk.inj (Option.some.inj (hstore'.symm.trans hstore))).1
    exact ⟨c, hc, hn ▸ hcov⟩

/-- The registers after an undo of pending changes and those of the step. -/
theorem gprs_undo_iff {registerChanges : List RegisterChange}
    {memoryChanges : List MemoryChange} (pending : List RegisterChange) {r' : RegisterFile}
    (hrec : RecordsRegisters registerChanges vm.registers r')
    (hchanges : ChangesOf cfg vm.arch w registerChanges memoryChanges) :
    (∀ i, (applyRegisterChanges (·.oldValue) (pending ++ registerChanges) r').readGpr i =
        vm.registers.readGpr i) ↔
      ∀ i, r'.readGpr i = vm.registers.readGpr i →
        (applyRegisterChanges (·.oldValue) pending vm.registers).readGpr i =
          vm.registers.readGpr i := by
  refine forall_congr' fun i => ?_
  by_cases hi : i = 0#5
  · subst hi
    exact iff_of_true rfl fun _ => rfl
  have hiff := exists_registerChange_iff hrec hchanges hi
  have hne : RegisterName.gpr i ≠ .gpr 0#5 := fun h => hi (RegisterName.gpr.inj h)
  rw [applyRegisterChanges_append]
  by_cases hsame : r'.readGpr i = vm.registers.readGpr i
  · have hnot : ∀ c ∈ registerChanges, c.register ≠ .gpr i := fun c hc hci =>
      hiff.mp ⟨c, hc, hci⟩ hsame
    have hown : (applyRegisterChanges (·.oldValue) registerChanges
        (applyRegisterChanges (·.oldValue) pending r')).readGpr i =
        (applyRegisterChanges (·.oldValue) pending r').readGpr i :=
      read_applyRegisterChanges_of_not_mem hnot
    have hpending : (applyRegisterChanges (·.oldValue) pending r').readGpr i =
        (applyRegisterChanges (·.oldValue) pending vm.registers).readGpr i :=
      read_applyRegisterChanges_congr (i := .gpr i) hsame
    rw [hown, hpending]
    exact ⟨fun h _ => h, fun h => h hsame⟩
  · refine iff_of_true ?_ fun h => absurd h hsame
    exact read_applyRegisterChanges_of_mem hne
      (fun c hc hci => (hrec.old c hc).trans (by rw [hci]; rfl)) (hiff.mpr hsame)

/-- The memory after an undo of pending changes and those of the step. -/
theorem memory_undo_iff {registerChanges : List RegisterChange}
    {memoryChanges : List MemoryChange} (pending : List MemoryChange) {s s' : ArchState}
    (hm : s.memory.Reachable cfg) (hm' : s'.memory.Reachable cfg)
    (hrec : RecordsMemory memoryChanges s.memory s'.memory)
    (hchanges : ChangesOf cfg s w registerChanges memoryChanges) :
    (∃ m, applyMemoryChanges cfg (·.oldBytesVec) (pending ++ memoryChanges) s'.memory = .ok m ∧
        ∀ a, m.read a = s.memory.read a) ↔
      ∃ m, applyMemoryChanges cfg (·.oldBytesVec) pending s.memory = .ok m ∧
        ∀ a, ¬StoreChanges cfg s w s' a → m.read a = s.memory.read a := by
  have hiff : ∀ a, (∃ c ∈ memoryChanges, Covers c.address c.oldBytesVec.length a) ↔
      StoreChanges cfg s w s' a := fun a => exists_memoryChange_iff hm hm' hrec hchanges
  have halike : s.memory.AlikeOn cfg (fun a => ¬StoreChanges cfg s w s' a) s'.memory := by
    refine ⟨hm, hm', fun a ha => Memory.read_eq_of_readsBackAt hm hm' ?_⟩
    exact (hrec.frame a fun c hc hcov => ha ((hiff a).mp ⟨c, hc, hcov⟩)).2
  -- what the two undos have in common
  have hboth : ∀ {p p' m : Memory}, p.AlikeOn cfg (fun a => ¬StoreChanges cfg s w s' a) p' →
      applyMemoryChanges cfg (·.oldBytesVec) memoryChanges p' = .ok m →
      ((∀ a, m.read a = s.memory.read a) ↔
        ∀ a, ¬StoreChanges cfg s w s' a → p.read a = s.memory.read a) := by
    intro p p' m hp happly
    refine forall_congr' fun a => ?_
    by_cases ha : StoreChanges cfg s w s' a
    · exact iff_of_true (read_applyMemoryChanges_of_covered hp.right hm happly hrec.old
        ((hiff a).mpr ha)) fun h => absurd ha h
    · have hcov : m.read a = p'.read a := read_applyMemoryChanges_of_not_covered hp.right happly
        fun c hc hc' => ha ((hiff a).mp ⟨c, hc, hc'⟩)
      rw [hcov, hp.read a ha]
      exact ⟨fun h _ => h, fun h => h ha⟩
  rw [applyMemoryChanges_append]
  constructor
  · rintro ⟨m, hundo, hsame⟩
    obtain ⟨p', hp', hown⟩ := bind_eq_ok.mp hundo
    obtain ⟨p, hp, halike'⟩ := alikeOn_applyMemoryChanges halike.symm hp'
    exact ⟨p, hp, (hboth halike'.symm hown).mp hsame⟩
  · rintro ⟨p, hp, hsame⟩
    obtain ⟨p', hp', halike'⟩ := alikeOn_applyMemoryChanges halike hp
    obtain ⟨m, hown, -⟩ := exists_applyMemoryChanges halike'.right hm hrec.old
    exact ⟨m, by rw [hp']; exact hown, (hboth halike' hown).mpr hsame⟩

/-- `Undo` of a delta on top of the stack. -/
theorem undo_of_cons (cfg : VmConfig) (vm : RVSSVM) {last : StepDelta} {undoStack : List StepDelta}
    (h : vm.undoStack = last :: undoStack) (vm' : RVSSVM) :
    vm.undo cfg = .ok vm' ↔
      ∃ m, applyMemoryChanges cfg (·.oldBytesVec) last.memoryChanges vm.memoryController = .ok m ∧
        vm' = { vm with
          undoStack := undoStack
          registers := applyRegisterChanges (·.oldValue) last.registerChanges vm.registers
          memoryController := m
          programCounter := last.oldPc
          instructionsRetired := vm.instructionsRetired - 1#32
          cycleS := vm.cycleS - 1#32
          redoStack := last :: vm.redoStack
          outputStatus := .undoCompleted } := by
  unfold undo
  rw [h]
  dsimp only
  constructor
  · intro h
    obtain ⟨m, hm, rfl⟩ := bind_pure_eq_ok.mp h
    exact ⟨m, throwWith_eq_ok.mp hm, rfl⟩
  · rintro ⟨m, hm, rfl⟩
    exact bind_pure_eq_ok.mpr ⟨m, throwWith_eq_ok.mpr hm, rfl⟩

/-- `Undo` takes a step back exactly when the pending changes are harmless. -/
theorem step_undo_iff_of_reachable (hm : vm.memoryController.Reachable cfg)
    (hpc : vm.programCounter < vm.programSize) (hf : vm.arch.fetch = .ok w)
    (hint : isIntegerInstruction w = true) (hstep : vm.step cfg fpu = .ok vm') {s' : ArchState}
    (hexec : execWord cfg vm.arch w = .ok s') :
    (∃ vm₂, vm'.undo cfg = .ok vm₂ ∧ Restores vm vm₂) ↔ PendingHarmless cfg vm w s' := by
  obtain ⟨v, hrun, rfl⟩ := step_eq_ok hpc hstep
  have hf' : vm.startDelta.arch.fetch = .ok w := hf
  obtain ⟨hexec', ⟨registerChanges, memoryChanges, hdelta, hregisters, hmemory, hchanges⟩,
    hticks⟩ := runInstruction_changes hf' hint hrun
  have hexec'' : execWord cfg vm.arch w = .ok v.arch := hexec'
  obtain rfl := Except.ok.inj (hexec''.symm.trans hexec)
  obtain ⟨status, hreport⟩ : ∃ status, v.commitDelta.reportStep =
      { v.commitDelta with outputStatus := status } := by
    unfold reportStep
    split
    · exact ⟨_, rfl⟩
    · exact ⟨_, rfl⟩
  rw [hreport]
  have hregs := gprs_undo_iff vm.currentDelta.registerChanges hregisters hchanges
  have hmem := memory_undo_iff vm.currentDelta.memoryChanges hm
    (reachable_of_execWord hm hexec) hmemory hchanges
  have hlast : ({ v.currentDelta with newPc := v.programCounter } : StepDelta) =
      { registerChanges := vm.currentDelta.registerChanges ++ registerChanges
        memoryChanges := vm.currentDelta.memoryChanges ++ memoryChanges
        oldPc := vm.programCounter
        newPc := v.programCounter } := by
    rw [hdelta]
    rfl
  have hundo := fun vm₂ => undo_of_cons cfg { v.commitDelta with outputStatus := status } rfl vm₂
  rw [hlast] at hundo
  constructor
  · rintro ⟨vm₂, h₂, hrestores⟩
    obtain ⟨m, happly, rfl⟩ := (hundo vm₂).mp h₂
    exact ⟨hregs.mp hrestores.gprs, hmem.mp ⟨m, happly, hrestores.memory⟩⟩
  · rintro ⟨hgprs, hbytes⟩
    obtain ⟨m, happly, hsame⟩ := hmem.mpr hbytes
    refine ⟨_, (hundo _).mpr ⟨m, happly, rfl⟩, hregs.mpr hgprs, hsame, rfl, ?_, ?_⟩
    · show v.instructionsRetired - 1#32 = vm.instructionsRetired
      rw [hticks.instructionsRetired]
      exact BitVec.add_sub_cancel _ _
    · show v.cycleS - 1#32 = vm.cycleS
      rw [hticks.cycleS]
      exact BitVec.add_sub_cancel _ _

/-- **Along any history of runs, steps and undos of an integer program, `Undo`
takes back a step exactly when the changes that a run has left in the current
delta are harmless.** -/
theorem step_undo_iff (cfg : VmConfig) (fpu : FloatUnit) (program : AssembledProgram)
    (vm₀ : RVSSVM) (hload : (new cfg).loadProgram cfg program = .ok vm₀)
    (vm : RVSSVM) (hvm : Reached cfg fpu vm₀ vm) (hpc : vm.programCounter < vm.programSize)
    (w : BitVec 32) (hf : vm.arch.fetch = .ok w) (hint : isIntegerInstruction w = true)
    (s' : ArchState) (hexec : execWord cfg vm.arch w = .ok s')
    (vm₁ : RVSSVM) (hstep : vm.step cfg fpu = .ok vm₁) :
    (∃ vm₂, vm₁.undo cfg = .ok vm₂ ∧ Restores vm vm₂) ↔ PendingHarmless cfg vm w s' := by
  have h₀ : vm₀.memoryController.Reachable cfg := by
    obtain ⟨base, hbase, rfl⟩ := bind_pure_eq_ok.mp hload
    exact (frame_of_loadProgram (throwWith_eq_ok.mp hbase)).2.2.2 (.reset .new)
  exact step_undo_iff_of_reachable (hvm.reachable h₀) hpc hf hint hstep hexec

/-- Where no change is pending, the undo takes the step back. -/
theorem pendingHarmless_of_empty {s' : ArchState} (hr : vm.currentDelta.registerChanges = [])
    (hm : vm.currentDelta.memoryChanges = []) : PendingHarmless cfg vm w s' where
  gprs := fun _ _ => by rw [hr]; rfl
  memory := by
    rw [hm]
    exact ⟨_, rfl, fun _ _ => rfl⟩

/-- `addi x1, x0, 5` and `addi x2, x0, 7`. -/
def twoConstants : AssembledProgram where
  textBuffer := [0x00500093#32, 0x00700113#32]

example : ((new {}).loadProgram {} twoConstants).toOption.map (·.programSize) = some 8#64 := by
  decide +kernel

/-- A configuration whose runs stop after one instruction. -/
def oneInstruction : VmConfig where
  instructionExecutionLimit := 0#64

/-- With limit zero a run is one instruction. -/
theorem run_of_limit_zero (hlimit : cfg.instructionExecutionLimit = 0#64)
    (hpc : vm.programCounter < vm.programSize)
    (hround : vm.clearStop.runInstruction cfg fpu = .ok vm') (fuel : Nat) :
    vm.run cfg fpu (fuel + 2) = some (.ok vm'.reportEnd) := by
  have hloop : vm.clearStop.runLoop cfg fpu (fuel + 2) 0#64 = some (.ok vm') := by
    have hgo : ¬(vm.clearStop.stopRequested ||
        decide (vm.clearStop.programSize ≤ vm.clearStop.programCounter)) = true := by
      show ¬(false || decide (vm.programSize ≤ vm.programCounter)) = true
      rw [Bool.false_or, decide_eq_true_eq, BitVec.not_le]
      exact hpc
    unfold runLoop
    rw [if_neg hgo, hlimit, if_neg (by decide), hround]
    dsimp only
    unfold runLoop
    split
    · rfl
    · rw [hlimit, if_pos (by decide)]
  unfold RVSSVM.run
  rw [hloop]
  rfl

/-- `addi x1, x0, 0`, which changes nothing, and `addi x2, x0, 7`. -/
def zeroAndSeven : AssembledProgram where
  textBuffer := [0x00000093#32, 0x00700113#32]

/-- A step after a `Run` that has stopped at its limit with nothing changed. -/
theorem step_undo_iff_afterRun :
    ∃ vm₀ vm vm₁ vm₂, (new oneInstruction).loadProgram oneInstruction zeroAndSeven = .ok vm₀ ∧
      vm₀.run oneInstruction .zeros 5 = some (.ok vm) ∧ vm.programCounter = 4#64 ∧
      vm.step oneInstruction .zeros = .ok vm₁ ∧ vm₁.registers.readGpr 2#5 = 7#64 ∧
      vm₁.undo oneInstruction = .ok vm₂ ∧ Restores vm vm₂ := by
  let vm₀ : RVSSVM :=
    ((new oneInstruction).loadProgram oneInstruction zeroAndSeven).toOption.getD (new {})
  have hload : (new oneInstruction).loadProgram oneInstruction zeroAndSeven = .ok vm₀ :=
    eq_ok_getD _ (by decide +kernel)
  let vm' : RVSSVM := (vm₀.clearStop.runInstruction oneInstruction .zeros).toOption.getD (new {})
  have hround : vm₀.clearStop.runInstruction oneInstruction .zeros = .ok vm' :=
    eq_ok_getD _ (by decide +kernel)
  obtain ⟨vm₁, hstep, hseven⟩ := exists_ok_of_map (x := vm'.reportEnd.step oneInstruction .zeros)
    (f := fun vm => vm.registers.readGpr 2#5) (b := 7#64) (by decide +kernel)
  have hexec := eq_ok_getD (x := execWord oneInstruction vm'.reportEnd.arch 0x00700113#32)
    vm'.reportEnd.arch (by decide +kernel)
  have hstart : vm₀.programCounter < vm₀.programSize := by decide +kernel
  have hfetch : vm₀.clearStop.arch.fetch = .ok 0x00000093#32 := by decide +kernel
  have hpc : vm'.reportEnd.programCounter < vm'.reportEnd.programSize := by decide +kernel
  have hfour : vm'.reportEnd.programCounter = 4#64 := by decide +kernel
  have hfetch' : vm'.reportEnd.arch.fetch = .ok 0x00700113#32 := by decide +kernel
  have hregisters : vm'.reportEnd.currentDelta.registerChanges = [] := by decide +kernel
  have hmemory : vm'.reportEnd.currentDelta.memoryChanges = [] := by decide +kernel
  clear_value vm' vm₀
  -- the run is one round, after which its limit stops it
  have hreached : Reached oneInstruction .zeros vm₀ vm'.reportEnd := by
    refine .endRun (.round (.startRun .load) hstart (fun w hw => ?_) hround)
    obtain rfl := Except.ok.inj (hfetch.symm.trans hw)
    decide
  obtain ⟨vm₂, hundo, hrestores⟩ :=
    (step_undo_iff oneInstruction .zeros zeroAndSeven vm₀ hload _ hreached hpc
      0x00700113#32 hfetch' (by decide) _ hexec _ hstep).mpr
      (pendingHarmless_of_empty hregisters hmemory)
  exact ⟨vm₀, _, vm₁, vm₂, hload, run_of_limit_zero rfl hstart hround 3, hfour, hstep, hseven,
    hundo, hrestores⟩

/-- `Run` stops at its limit after `addi x1, x0, 5`; the `Undo` of the step after
it also takes back that instruction's change. -/
theorem undo_takes_back_run :
    ∃ vm₀ vm vm₁ vm₂, (new oneInstruction).loadProgram oneInstruction twoConstants = .ok vm₀ ∧
      vm₀.run oneInstruction .zeros 5 = some (.ok vm) ∧ vm.step oneInstruction .zeros = .ok vm₁ ∧
      vm₁.undo oneInstruction = .ok vm₂ ∧
      vm.registers.readGpr 1#5 = 5#64 ∧ vm₂.registers.readGpr 1#5 = 0#64 := by
  let vm₀ : RVSSVM :=
    ((new oneInstruction).loadProgram oneInstruction twoConstants).toOption.getD (new {})
  have hload : (new oneInstruction).loadProgram oneInstruction twoConstants = .ok vm₀ :=
    eq_ok_getD _ (by decide +kernel)
  let vm : RVSSVM := ((vm₀.run oneInstruction .zeros 5).bind Except.toOption).getD (new {})
  have hrun : vm₀.run oneInstruction .zeros 5 = some (.ok vm) :=
    eq_some_ok_getD _ (by decide +kernel)
  let vm₁ : RVSSVM := (vm.step oneInstruction .zeros).toOption.getD (new {})
  have hstep : vm.step oneInstruction .zeros = .ok vm₁ := eq_ok_getD _ (by decide +kernel)
  have hundo := eq_ok_getD (x := vm₁.undo oneInstruction) (new {}) (by decide +kernel)
  exact ⟨vm₀, vm, vm₁, _, hload, hrun, hstep, hundo, by decide +kernel, by decide +kernel⟩

end RVSSVM

end RiscvSim

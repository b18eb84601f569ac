import RiscvSim.Vm.Equiv.Alu
import RiscvSim.Vm.Equiv.Loader
import RiscvSim.Vm.Equiv.TornWrites
import RiscvSim.Vm.Rv5s.Equiv.Trace
import RiscvSim.Vm.Rv5s.ExVm

/-!
# Cycles that a memory access ends

Write-back is the first stage of a cycle, so the instruction in the last latch
has retired when the memory stage throws.  Nothing else has happened.

* **`RV5SEXVM.step_outOfRange`**: a cycle that an access ends leaves the
  machine as its write-back stage does, and a retry writes nothing new.
-/

namespace RiscvSim

open Lib

variable {cfg : VmConfig} {m m' : Memory}

/-! ### Stores that throw -/

namespace Memory

/-- A write out of range changes nothing in a memory of eight bytes or more. -/
theorem eq_of_outOfRange (h : m.Reachable cfg) (hsize : 8 ≤ cfg.memorySize.toNat)
    {call : MemoryCall} {b : BitVec 64} (hrun : call.run cfg m = .error (.outOfRange b, m')) :
    m' = m := by
  by_cases hbs : m.blockSize = 0#32
  · rw [run_eq_writeSized] at hrun
    unfold writeSized checkRange at hrun
    split at hrun
    · cases hrun
      rfl
    · -- the loop is left at its first byte
      have hfirst : ∃ e, m.writeGeneric cfg call.width call.address call.value = .error e ∧
          (e = (.outOfRange call.address, m) ∨ e = (.divideTrap, m)) := by
        have hpos := (width_bounds call).1
        by_cases ha : m.memorySize ≤ call.address
        · exact ⟨_, writeGeneric_of_error hpos fun x => write_of_le ha, .inl rfl⟩
        · exact ⟨_, writeGeneric_of_error hpos fun x =>
            write_of_blockSize_zero (BitVec.not_le.mp ha) hbs, .inr rfl⟩
      obtain ⟨e, he, rfl | rfl⟩ := hfirst
      · cases he.symm.trans hrun
        rfl
      · cases he.symm.trans hrun
  · have hwrite := represents_run (represents_of_reachable h hbs) hsize call
    split at hwrite
    · obtain ⟨m₁, hok, -⟩ := hwrite
      rw [hok] at hrun
      cases hrun
    · cases hwrite.symm.trans hrun
      rfl

/-- What a write leaves is a memory of the class, whether it throws or not. -/
theorem reachable_of_write_error (h : m.Reachable cfg) {a : BitVec 64} {v : BitVec 8} :
    FailsWith (fun e => e.2.Reachable cfg) (m.write cfg a v) := by
  intro e he
  by_cases ha : m.memorySize ≤ a
  · rw [write_of_le ha] at he
    cases he
    exact h
  rw [BitVec.not_le] at ha
  by_cases hbs : m.blockSize = 0#32
  · rw [write_of_blockSize_zero ha hbs] at he
    cases he
    exact h
  · obtain ⟨hms, hblock⟩ := sizes_of_reachable h
    obtain ⟨m', hok⟩ := (exists_write_iff h (v := v)).mpr ⟨hms ▸ ha, hblock ▸ hbs⟩
    rw [hok] at he
    cases he

theorem reachable_of_run_error (h : m.Reachable cfg) (call : MemoryCall) :
    FailsWith (fun e => e.2.Reachable cfg) (call.run cfg m) := by
  rw [run_eq_writeSized]
  refine (failsWith_throwAt_state h _).bind fun _ _ => ?_
  exact FailsWith.foldlM (Reachable cfg) (fun _ _ _ hm hw => hm.write hw)
    (fun _ _ hm => reachable_of_write_error hm) _ _ h

end Memory

/-- A store is a write call, or none. -/
theorem storeMemory_eq_run (op : MemWriteOp) (address data : BitVec 64) :
    (∃ call : MemoryCall, storeMemory cfg m op address data = call.run cfg m) ∨
      storeMemory cfg m op address data = .ok m := by
  cases op with
  | byte => exact .inl ⟨.writeByte address (data.setWidth 8), rfl⟩
  | half => exact .inl ⟨.writeHalfWord address (data.setWidth 16), rfl⟩
  | word => exact .inl ⟨.writeWord address (data.setWidth 32), rfl⟩
  | double => exact .inl ⟨.writeDoubleWord address data, rfl⟩
  | none => exact .inr rfl

namespace RV5SEXVM

variable {vm vm' : RV5SEXVM} {a : BitVec 64}

/-! ### Where a cycle throws -/

/-- The machine when the memory stage of a cycle starts: the flags are clear and
the instruction in the last latch has retired. -/
def beforeMemory (vm : RV5SEXVM) : RV5SEXVM :=
  writeBackStage { vm with stallRequest := false, flushPipeline := false }

theorem aluResult_error {control : ControlSignals} {pc dataA dataB : BitVec 64}
    {immediate : BitVec 32} {e : Fault}
    (h : aluResult control pc immediate dataA dataB = .error e) : e = .divideTrap := by
  unfold aluResult at h
  dsimp only at h
  cases hx : Alu.execute control.aluOp (aluOperands control pc immediate dataA dataB).1
      (aluOperands control pc immediate dataA dataB).2 with
  | ok x =>
    rw [hx] at h
    cases h
  | error e' =>
    rw [hx] at h
    cases h
    exact Alu.execute_error hx

/-- The execute stage throws only the trap of a division. -/
theorem failsWith_executeStage (vm : RV5SEXVM) :
    FailsWith (fun e => e.1 = .divideTrap) (executeStage vm) := by
  unfold executeStage
  dsimp only
  split
  · exact FailsWith.ok _
  split
  · exact FailsWith.ok _
  · refine FailsWith.bind ?_ fun _ _ => FailsWith.ok _
    exact @failsWith_throwAt _ _ _ _ (fun e => e = .divideTrap) fun _ => aluResult_error

/-- The fetch stage catches every access out of range. -/
theorem failsWith_fetchStage (vm : RV5SEXVM) :
    FailsWith (fun e => ∀ a, e.1 ≠ .outOfRange a) (fetchStage vm) := by
  intro e he
  unfold fetchStage at he
  split at he
  · cases he
  split at he
  · cases he
  split at he
  · cases he
  · cases he
  · rename_i hne _
    cases he
    exact hne

/-- Only the memory stage throws out of range. -/
theorem failsWith_runStages (vm : RV5SEXVM) :
    FailsWith (fun e => memoryStage cfg vm.beforeMemory = .error e ∨ ∀ a, e.1 ≠ .outOfRange a)
      (runStages cfg vm) := by
  unfold runStages
  refine FailsWith.bind (fun e he => .inl he) fun m _ => ?_
  refine FailsWith.bind ?_ fun e _ => ?_
  · intro e he
    right
    intro a ha
    have htrap : e.1 = .divideTrap := failsWith_executeStage m e he
    rw [ha] at htrap
    cases htrap
  · dsimp only
    split
    · exact FailsWith.ok _
    · exact fun e he => .inr (failsWith_fetchStage _ e he)

theorem memoryStage_of_step (h : step cfg vm = .error (.outOfRange a, vm')) :
    memoryStage cfg vm.beforeMemory = .error (.outOfRange a, vm') := by
  unfold step at h
  split at h
  · cases h
  cases hr : runStages cfg vm with
  | ok x =>
    rw [hr] at h
    cases h
  | error e =>
    rw [hr] at h
    cases h
    exact (failsWith_runStages vm _ hr).resolve_right fun hne => hne a rfl

/-- What an access that throws leaves: the machine before the memory stage, with
the memory that the store has left. -/
theorem memoryStage_error {e : Fault} (h : memoryStage cfg vm = .error (e, vm')) :
    vm.exMemReg.isValid = true ∧ ∃ m, vm' = vm.withMemory m ∧ (m = vm.memoryController ∨
      storeMemory cfg vm.memoryController vm.exMemReg.control.memWriteOp vm.exMemReg.aluResult
        vm.exMemReg.storeData = .error (e, m)) := by
  unfold memoryStage Rv5sVm.memoryStage at h
  dsimp only at h
  split at h
  · cases h
  rename_i hvalid
  refine ⟨by simpa using hvalid, ?_⟩
  split at h
  · cases h
  split at h
  · -- a load
    cases hload : loadMemory vm.memoryController vm.exMemReg.control.memReadOp
        vm.exMemReg.aluResult with
    | ok x =>
      rw [hload] at h
      cases h
    | error e' =>
      rw [hload] at h
      cases h
      exact ⟨vm.memoryController, rfl, .inl rfl⟩
  · split at h
    · -- a store
      cases hstore : storeMemory cfg vm.memoryController vm.exMemReg.control.memWriteOp
          vm.exMemReg.aluResult vm.exMemReg.storeData with
      | ok x =>
        rw [hstore] at h
        cases h
      | error e' =>
        rw [hstore] at h
        cases h
        exact ⟨e'.2, rfl, .inr rfl⟩
    · cases h

/-! ### Reachable machines -/

/-- The machines a session leads to: programs are loaded, cycles complete or are
ended by an access, and all members but the memory may be set from outside. -/
inductive Reached (cfg : VmConfig) : RV5SEXVM → Prop where
  | new : Reached cfg (new cfg)
  | reset {vm : RV5SEXVM} (h : Reached cfg vm) : Reached cfg (reset cfg vm)
  | loadProgram {vm vm' : RV5SEXVM} (h : Reached cfg vm) (program : AssembledProgram)
      (hload : vm.loadProgram cfg program = .ok vm') : Reached cfg vm'
  | cycle {vm vm' : RV5SEXVM} (h : Reached cfg vm) (hstep : step cfg vm = .ok vm') :
      Reached cfg vm'
  | fault {vm vm' : RV5SEXVM} (h : Reached cfg vm) {a : BitVec 64}
      (hstep : step cfg vm = .error (.outOfRange a, vm')) : Reached cfg vm'
  | edit {vm vm' : RV5SEXVM} (h : Reached cfg vm)
      (hm : vm'.memoryController = vm.memoryController) : Reached cfg vm'

theorem memory_resolveBranch (vm : RV5SEXVM) (x : BitVec 64) :
    (resolveBranch vm x).memoryController = vm.memoryController := by
  unfold resolveBranch
  dsimp only
  split
  · split
    · rfl
    split <;> rfl
  · rfl

theorem memory_executeStage (h : executeStage vm = .ok vm') :
    vm'.memoryController = vm.memoryController := by
  unfold executeStage at h
  dsimp only at h
  split at h
  · cases h
    rfl
  split at h
  · cases h
    rfl
  · obtain ⟨x, -, rfl⟩ := bind_pure_eq_ok.mp h
    exact memory_resolveBranch _ x

theorem memory_predictBranch (vm : RV5SEXVM) (control : ControlSignals) :
    (predictBranch vm control).memoryController = vm.memoryController := by
  unfold predictBranch
  dsimp only
  split
  · rfl
  split
  · split <;> rfl
  · rfl

theorem memory_decodeStage (vm : RV5SEXVM) :
    (decodeStage vm).memoryController = vm.memoryController := by
  unfold decodeStage
  dsimp only
  split
  · rfl
  split
  · rfl
  split
  · rfl
  split
  · rfl
  split
  · rfl
  split
  · rfl
  · exact memory_predictBranch _ _

theorem memory_fetchStage (h : fetchStage vm = .ok vm') :
    vm'.memoryController = vm.memoryController := by
  unfold fetchStage at h
  split at h
  · cases h
    rfl
  split at h
  · cases h
    rfl
  split at h
  · cases h
    rfl
  · cases h
    rfl
  · cases h

theorem memory_writeBackStage (vm : RV5SEXVM) :
    (writeBackStage vm).memoryController = vm.memoryController := by
  unfold writeBackStage Rv5sVm.writeBackStage
  split <;> rfl

theorem memory_reportStep (vm : Rv5sVm) :
    vm.reportStep.memoryController = vm.memoryController := by
  unfold Rv5sVm.reportStep
  split <;> rfl

theorem reachable_of_step (hm : vm.memoryController.Reachable cfg) (h : step cfg vm = .ok vm') :
    vm'.memoryController.Reachable cfg := by
  unfold step at h
  split at h
  · cases h
    exact hm
  obtain ⟨vm₁, hrun, rfl⟩ := bind_pure_eq_ok.mp h
  rw [memory_reportStep]
  show vm₁.memoryController.Reachable cfg
  obtain ⟨m, hmem, hrun⟩ := bind_eq_ok.mp hrun
  obtain ⟨e, he, hrun⟩ := bind_eq_ok.mp hrun
  have hdecoded : (decodeStage e).memoryController.Reachable cfg := by
    rw [memory_decodeStage, memory_executeStage he]
    exact (memoryStage_ok hmem).1 ((memory_writeBackStage _).symm ▸ hm)
  dsimp only at hrun
  split at hrun
  · cases hrun
    exact hdecoded
  · rw [memory_fetchStage hrun]
    exact hdecoded

theorem reachable_of_fault (hm : vm.memoryController.Reachable cfg)
    (h : step cfg vm = .error (.outOfRange a, vm')) : vm'.memoryController.Reachable cfg := by
  have hm' : vm.beforeMemory.memoryController.Reachable cfg :=
    (memory_writeBackStage _).symm ▸ hm
  obtain ⟨-, m, rfl, rfl | hstore⟩ := memoryStage_error (memoryStage_of_step h)
  · exact hm'
  · rcases storeMemory_eq_run vm.beforeMemory.exMemReg.control.memWriteOp
        vm.beforeMemory.exMemReg.aluResult vm.beforeMemory.exMemReg.storeData with
      ⟨call, hcall⟩ | hnone
    · exact Memory.reachable_of_run_error hm' call _ (hcall.symm.trans hstore)
    · cases hnone.symm.trans hstore

theorem reachable_of_reached (h : Reached cfg vm) : vm.memoryController.Reachable cfg := by
  induction h with
  | new => exact .reset .new
  | reset _ ih => exact ih.reset
  | loadProgram _ _ hload ih =>
    obtain ⟨base, hbase, rfl⟩ := bind_pure_eq_ok.mp hload
    obtain ⟨-, -, -, hmemory⟩ := frame_of_loadProgram (throwWith_eq_ok.mp hbase)
    exact hmemory ih
  | cycle _ hstep ih => exact reachable_of_step ih hstep
  | fault _ hstep ih => exact reachable_of_fault ih hstep
  | edit _ hm ih => exact hm ▸ ih

/-! ### What is left of the cycle -/

/-- The fetch, the count of cycles and the latches are the same. -/
structure SamePipeline (vm vm' : RV5SEXVM) : Prop where
  programCounter : vm'.programCounter = vm.programCounter
  cycleS : vm'.cycleS = vm.cycleS
  ifIdReg : vm'.ifIdReg = vm.ifIdReg
  idExReg : vm'.idExReg = vm.idExReg
  exMemReg : vm'.exMemReg = vm.exMemReg
  memWbReg : vm'.memWbReg = vm.memWbReg

theorem samePipeline_beforeMemory (vm : RV5SEXVM) (m : Memory) :
    vm.SamePipeline (vm.beforeMemory.withMemory m) := by
  unfold beforeMemory writeBackStage Rv5sVm.writeBackStage
  split <;> exact ⟨rfl, rfl, rfl, rfl, rfl, rfl⟩

/-- What the write-back stage has done when the memory stage starts. -/
theorem beforeMemory_eq (vm : RV5SEXVM) :
    vm.beforeMemory = { vm with
      stallRequest := false
      flushPipeline := false
      instructionsRetired :=
        if vm.memWbReg.isValid then vm.instructionsRetired + 1#32 else vm.instructionsRetired
      registers :=
        if vm.memWbReg.isValid then vm.memWbReg.writeBack vm.registers else vm.registers } := by
  unfold beforeMemory writeBackStage Rv5sVm.writeBackStage
  dsimp only
  cases vm.memWbReg.isValid <;> rfl

/-- A latch writes its destination or no register. -/
theorem writeBack_eq (l : MemWbReg) :
    (∀ registers, l.writeBack registers = registers) ∨
      ∀ registers, l.writeBack registers = registers.writeGpr l.rdIndex l.writeBackData := by
  unfold MemWbReg.writeBack
  split
  · exact .inl fun _ => rfl
  split
  · exact .inl fun _ => rfl
  split
  · split
    · exact .inl fun _ => rfl
    · exact .inr fun _ => rfl
  · exact .inl fun _ => rfl

/-- A second write-back of the same latch writes nothing new. -/
theorem writeBack_writeBack (l : MemWbReg) (registers : RegisterFile) :
    l.writeBack (l.writeBack registers) = l.writeBack registers := by
  rcases writeBack_eq l with h | h
  · rw [h registers, h registers]
  · rw [h registers, h, RegisterFile.writeGpr_writeGpr]

/-- The memory stage does not look at the count of retired instructions. -/
theorem memoryStage_withRetired (cfg : VmConfig) (vm : RV5SEXVM) (retired : BitVec 32) :
    memoryStage cfg { vm with instructionsRetired := retired } =
      mapBoth (fun e => (e.1, { e.2 with instructionsRetired := retired }))
        (fun vm : RV5SEXVM => { vm with instructionsRetired := retired })
        (memoryStage cfg vm) := by
  unfold memoryStage Rv5sVm.memoryStage
  dsimp only
  refine ite_eq_map _ rfl (ite_eq_map _ rfl (ite_eq_map _ ?_ ?_))
  · show (throwAt _ (loadMemory vm.memoryController vm.exMemReg.control.memReadOp
      vm.exMemReg.aluResult) >>= _) = _
    cases loadMemory vm.memoryController vm.exMemReg.control.memReadOp
      vm.exMemReg.aluResult <;> rfl
  · show (throwWith _ (if vm.exMemReg.control.memWrite then
      storeMemory cfg vm.memoryController vm.exMemReg.control.memWriteOp
        vm.exMemReg.aluResult vm.exMemReg.storeData else .ok vm.memoryController) >>= _) = _
    cases (if vm.exMemReg.control.memWrite then
      storeMemory cfg vm.memoryController vm.exMemReg.control.memWriteOp
        vm.exMemReg.aluResult vm.exMemReg.storeData else .ok vm.memoryController) <;> rfl

/-- In a memory of eight bytes or more a cycle that an access ends stops where
the memory stage starts. -/
theorem eq_beforeMemory_of_step (hm : vm.memoryController.Reachable cfg)
    (hsize : 8 ≤ cfg.memorySize.toNat) (hstep : step cfg vm = .error (.outOfRange a, vm')) :
    vm' = vm.beforeMemory := by
  have hm' : vm.beforeMemory.memoryController.Reachable cfg :=
    (memory_writeBackStage _).symm ▸ hm
  obtain ⟨-, m, rfl, rfl | hstore⟩ := memoryStage_error (memoryStage_of_step hstep)
  · rfl
  · rcases storeMemory_eq_run vm.beforeMemory.exMemReg.control.memWriteOp
        vm.beforeMemory.exMemReg.aluResult vm.beforeMemory.exMemReg.storeData with
      ⟨call, hcall⟩ | hnone
    · obtain rfl := Memory.eq_of_outOfRange hm' hsize (hcall.symm.trans hstore)
      rfl
    · cases hnone.symm.trans hstore

/-- The next cycle starts its memory stage where the last one did, with the
instruction in the last latch counted once more. -/
theorem beforeMemory_beforeMemory (vm : RV5SEXVM) :
    vm.beforeMemory.beforeMemory = { vm.beforeMemory with
      instructionsRetired :=
        if vm.memWbReg.isValid then vm.beforeMemory.instructionsRetired + 1#32
        else vm.beforeMemory.instructionsRetired } := by
  rw [beforeMemory_eq vm.beforeMemory, beforeMemory_eq vm]
  dsimp only
  cases vm.memWbReg.isValid with
  | false => rfl
  | true => simp only [if_true, writeBack_writeBack]

/-- **A cycle that a memory access ends**: write-back has retired the
instruction in the last latch, and nothing else has happened.  In a memory of
eight bytes or more the store has written nothing, and the next cycle throws
again; it writes nothing new and only counts that instruction once more. -/
theorem step_outOfRange (h : Reached cfg vm) (hstep : step cfg vm = .error (.outOfRange a, vm')) :
    vm.SamePipeline vm' ∧
    vm'.instructionsRetired =
      (if vm.memWbReg.isValid then vm.instructionsRetired + 1#32 else vm.instructionsRetired) ∧
    vm'.registers =
      (if vm.memWbReg.isValid then vm.memWbReg.writeBack vm.registers else vm.registers) ∧
    (8 ≤ cfg.memorySize.toNat →
      vm'.memoryController = vm.memoryController ∧
      step cfg vm' = .error (.outOfRange a, { vm' with
        instructionsRetired :=
          if vm.memWbReg.isValid then vm'.instructionsRetired + 1#32
          else vm'.instructionsRetired })) := by
  have hm := reachable_of_reached h
  have hstage := memoryStage_of_step hstep
  obtain ⟨-, m, hvm', -⟩ := memoryStage_error hstage
  refine ⟨hvm' ▸ samePipeline_beforeMemory vm m, ?_, ?_, fun hsize => ?_⟩
  · rw [hvm', beforeMemory_eq]
    rfl
  · rw [hvm', beforeMemory_eq]
    rfl
  obtain rfl := eq_beforeMemory_of_step hm hsize hstep
  refine ⟨memory_writeBackStage _, ?_⟩
  have hrunning : vm.beforeMemory.outputStatus ≠ .programEnd := by
    rw [beforeMemory_eq]
    intro hend
    unfold step at hstep
    rw [if_pos hend] at hstep
    cases hstep
  have hagain := memoryStage_withRetired cfg vm.beforeMemory
    (if vm.memWbReg.isValid then vm.beforeMemory.instructionsRetired + 1#32
      else vm.beforeMemory.instructionsRetired)
  rw [hstage, ← beforeMemory_beforeMemory] at hagain
  unfold step
  rw [if_neg hrunning]
  unfold runStages
  show ((memoryStage cfg vm.beforeMemory.beforeMemory >>= _) >>= _) = _
  rw [hagain]
  rfl

/-- `addi x1, x0, 5` before `lw x2, -1(x0)`, which is out of range. -/
def loadPastEnd : AssembledProgram where
  textBuffer := [0x00500093#32, 0xFFF02103#32]

/-- In the fifth cycle of `loadPastEnd` the load is in the memory stage, and the
addition in the write-back stage retires. -/
theorem loadPastEnd_faults :
    ∃ vm a vm', Reached {} vm ∧ step {} vm = .error (.outOfRange a, vm') ∧
      vm.instructionsRetired = 0#32 ∧ vm'.instructionsRetired = 1#32 ∧
      vm.registers.readGpr 1#5 = 0#64 ∧ vm'.registers.readGpr 1#5 = 5#64 := by
  let fourCycles : Except (Fault × RV5SEXVM) RV5SEXVM :=
    (new {}).loadProgram {} loadPastEnd >>= step {} >>= step {} >>= step {} >>= step {}
  have hfour : fourCycles = .ok (fourCycles.toOption.getD (new {})) :=
    eq_ok_getD _ (by decide +kernel)
  generalize hvm : fourCycles.toOption.getD (new {}) = vm at hfour
  obtain ⟨vm₃, h₃, h₄⟩ := bind_eq_ok.mp hfour
  obtain ⟨vm₂, h₂, h₃⟩ := bind_eq_ok.mp h₃
  obtain ⟨vm₁, h₁, h₂⟩ := bind_eq_ok.mp h₂
  obtain ⟨vm₀, h₀, h₁⟩ := bind_eq_ok.mp h₁
  have hreached : Reached {} vm :=
    .cycle (.cycle (.cycle (.cycle (.loadProgram .new loadPastEnd h₀) h₁) h₂) h₃) h₄
  obtain ⟨hretired, hx1, hfault⟩ : vm.instructionsRetired = 0#32 ∧
      vm.registers.readGpr 1#5 = 0#64 ∧
      mapBoth (fun e => (e.1, e.2.instructionsRetired, e.2.registers.readGpr 1#5)) (fun _ => ())
        (step {} vm) = .error (.outOfRange (-1#64), 1#32, 5#64) := by
    rw [← hvm]
    decide +kernel
  cases hstep : step {} vm with
  | ok vm' =>
    rw [hstep] at hfault
    cases hfault
  | error e =>
    rw [hstep] at hfault
    obtain ⟨hkind, hafter⟩ := Prod.mk.inj (Except.error.inj hfault)
    obtain ⟨hretired', hx1'⟩ := Prod.mk.inj hafter
    exact ⟨vm, _, e.2, hreached, by rw [hstep, ← hkind], hretired, hretired', hx1, hx1'⟩

theorem step_outOfRange_loadPastEnd :
    ∃ vm a vm', step {} vm = .error (.outOfRange a, vm') ∧ vm.SamePipeline vm' ∧
      ∃ vm'', step {} vm' = .error (.outOfRange a, vm'') ∧ vm''.registers = vm'.registers := by
  obtain ⟨vm, a, vm', hreached, hstep, -⟩ := loadPastEnd_faults
  obtain ⟨hpipeline, -, -, hretry⟩ := step_outOfRange hreached hstep
  exact ⟨vm, a, vm', hstep, hpipeline, _, (hretry (by decide)).2, rfl⟩

/-- The cycle that the load ends has retired the addition and written its result. -/
theorem step_outOfRange_retires :
    ¬∀ (cfg : VmConfig) (vm vm' : RV5SEXVM) (a : BitVec 64), Reached cfg vm →
      step cfg vm = .error (.outOfRange a, vm') →
      vm'.instructionsRetired = vm.instructionsRetired ∧ vm'.registers = vm.registers := by
  intro h
  obtain ⟨vm, a, vm', hreached, hstep, hretired, hretired', -⟩ := loadPastEnd_faults
  have hsame := (h {} vm vm' a hreached hstep).1
  rw [hretired, hretired'] at hsame
  exact absurd hsame (by decide)

end RV5SEXVM

end RiscvSim

import RiscvSim.Vm.Equiv.Loader
import RiscvSim.Vm.Rv5s.Equiv.Trace
import RiscvSim.Vm.Rv5s.IdVm

/-!
# What survives a reset

`Reset` of the machine that decides branches in decode keeps the branch target
buffer, besides members that no stage reads.  A machine with such a past runs a
program as a fresh one does (`withPast`), until a fetch follows an entry of the
buffer from before the reset.

* **`reset_forgets`**: a program runs after a reset as on a fresh machine when
  no fetch of its run follows an entry from before the reset.
* **`reset_forgets_of_not_always`**: three of the four predictors never follow one.
-/

namespace RiscvSim

open Lib

/-- A buffer over an older one. -/
def BranchTargetBuffer.over (btb past : BranchTargetBuffer) : BranchTargetBuffer where
  table := fun pc => (btb.table pc).or (past.table pc)

namespace RV5SIDVM

variable {cfg : VmConfig}

/-- What a reset machine still has from before. -/
structure Past where
  btb : BranchTargetBuffer
  breakpoints : List (BitVec 64)
  inputQueue : List (List (BitVec 8))
  currentInstruction : BitVec 32

/-- The machine with a past. -/
def withPast (past : Past) (vm : RV5SIDVM) : RV5SIDVM :=
  { vm with
    btb := vm.btb.over past.btb
    breakpoints := past.breakpoints
    inputQueue := past.inputQueue
    currentInstruction := past.currentInstruction }

/-- A faulting machine with a past. -/
def faultWithPast (past : Past) (e : Fault × RV5SIDVM) : Fault × RV5SIDVM :=
  (e.1, e.2.withPast past)

variable {past : Past}

theorem writeBackStage_withPast (vm : RV5SIDVM) :
    (vm.withPast past).writeBackStage = vm.writeBackStage.withPast past := by
  unfold writeBackStage Rv5sVm.writeBackStage
  show (vm.withPast past).withBase (if !vm.memWbReg.isValid then _ else _) = _
  split <;> rfl

/-- The members of the base with a past. -/
def Past.onBase (past : Past) (base : Rv5sVm) : Rv5sVm :=
  { base with
    breakpoints := past.breakpoints
    inputQueue := past.inputQueue
    currentInstruction := past.currentInstruction }

theorem memoryStage_onBase (base : Rv5sVm) :
    (past.onBase base).memoryStage cfg =
      mapBoth (fun e => (e.1, past.onBase e.2)) past.onBase (base.memoryStage cfg) := by
  unfold Rv5sVm.memoryStage
  dsimp only
  refine ite_eq_map _ rfl (ite_eq_map _ rfl (ite_eq_map _ ?_ ?_))
  · show (throwAt _ (loadMemory base.memoryController base.exMemReg.control.memReadOp
      base.exMemReg.aluResult) >>= _) = _
    cases loadMemory base.memoryController base.exMemReg.control.memReadOp
      base.exMemReg.aluResult <;> rfl
  · show (throwWith _ (if base.exMemReg.control.memWrite then
      storeMemory cfg base.memoryController base.exMemReg.control.memWriteOp
        base.exMemReg.aluResult base.exMemReg.storeData else .ok base.memoryController) >>= _) = _
    cases (if base.exMemReg.control.memWrite then
      storeMemory cfg base.memoryController base.exMemReg.control.memWriteOp
        base.exMemReg.aluResult base.exMemReg.storeData else .ok base.memoryController) <;> rfl

theorem memoryStage_withPast (vm : RV5SIDVM) :
    (vm.withPast past).memoryStage cfg =
      mapBoth (faultWithPast past) (withPast past) (vm.memoryStage cfg) := by
  unfold memoryStage
  rw [show (vm.withPast past).toRv5sVm = past.onBase vm.toRv5sVm from rfl, memoryStage_onBase]
  cases vm.toRv5sVm.memoryStage cfg <;> rfl

theorem executeStage_withPast (vm : RV5SIDVM) :
    (vm.withPast past).executeStage =
      mapBoth (faultWithPast past) (withPast past) vm.executeStage := by
  unfold executeStage
  dsimp only
  refine ite_eq_map _ rfl (ite_eq_map _ rfl ?_)
  show (throwAt _ vm.toRv5sVm.executionResult >>= _) =
    mapBoth _ _ (throwAt _ vm.toRv5sVm.executionResult >>= _)
  cases vm.toRv5sVm.executionResult <;> rfl

theorem over_update (btb past : BranchTargetBuffer) (pc target : BitVec 64) :
    (btb.over past).update pc target = (btb.update pc target).over past := by
  unfold BranchTargetBuffer.over BranchTargetBuffer.update
  congr 1
  funext i
  by_cases hi : i = pc <;> simp [hi]

theorem resolveBranch_withPast (vm : RV5SIDVM) (control : ControlSignals) :
    (vm.withPast past).resolveBranch control = (vm.resolveBranch control).withPast past := by
  unfold resolveBranch
  dsimp only
  refine ite_eq_map _ (ite_eq_map _ ?_ ?_) rfl
  · unfold withPast
    rw [← over_update]
    rfl
  · unfold withPast
    rw [← over_update]
    rfl

theorem decodeStage_withPast (vm : RV5SIDVM) :
    (vm.withPast past).decodeStage = vm.decodeStage.withPast past := by
  unfold decodeStage
  dsimp only
  refine ite_eq_map _ rfl (ite_eq_map _ rfl (ite_eq_map _ rfl (ite_eq_map _ rfl
    (ite_eq_map _ rfl (ite_eq_map _ rfl ?_)))))
  exact resolveBranch_withPast
    { vm with nextIdExReg :=
        vm.toRv5sVm.decodedIdEx (RV5SControlUnit.getControlSignals vm.ifIdReg.instruction) } _

/-- The machine in front of the fetch of its next cycle. -/
def beforeFetch (cfg : VmConfig) (vm : RV5SIDVM) : Except (Fault × RV5SIDVM) RV5SIDVM := do
  let vm := { vm with stallRequest := false, flushPipeline := false }
  let vm ← memoryStage cfg (writeBackStage vm)
  let vm ← executeStage vm
  pure (decodeStage vm)

theorem runStages_eq_bind (vm : RV5SIDVM) :
    runStages cfg vm = beforeFetch cfg vm >>= fun vm =>
      if vm.stallRequest then pure vm else fetchStage vm := by
  unfold runStages beforeFetch
  simp only [bind_assoc, pure_bind]

theorem beforeFetch_withPast (vm : RV5SIDVM) :
    beforeFetch cfg (vm.withPast past) =
      mapBoth (faultWithPast past) (withPast past) (beforeFetch cfg vm) := by
  unfold beforeFetch
  dsimp only
  rw [show writeBackStage { vm.withPast past with stallRequest := false, flushPipeline := false } =
    (writeBackStage { vm with stallRequest := false, flushPipeline := false }).withPast past from
    writeBackStage_withPast { vm with stallRequest := false, flushPipeline := false },
    memoryStage_withPast]
  refine mapBoth_bind fun vm₁ _ => ?_
  rw [executeStage_withPast]
  refine mapBoth_bind fun vm₂ _ => ?_
  rw [decodeStage_withPast]
  rfl

/-- Whether the fetch of the next cycle follows an entry of `past` that the
machine's own buffer does not have. -/
def followsPast (cfg : VmConfig) (past : BranchTargetBuffer) (vm : RV5SIDVM) : Bool :=
  match beforeFetch cfg vm with
  | .ok vm =>
    !vm.stallRequest && !vm.flushPipeline && decide (vm.programCounter < vm.programSize) &&
      (vm.btb.table vm.programCounter).isNone && (past.lookup vm.programCounter).1 &&
      vm.branchPredictor.getPrediction vm.programCounter
  | .error _ => false

/-- What the fetch of the word `instruction` leaves, given what the buffer and the
predictor answer. -/
def fetchedWith (vm : RV5SIDVM) (instruction : BitVec 32) (follow : Bool) (target : BitVec 64) :
    RV5SIDVM :=
  { vm with
    programCounter := if follow then target else vm.programCounter + 4#64
    nextIfIdReg := {
      isValid := true
      instruction := instruction
      pc := vm.programCounter
      pcInc := vm.programCounter + 4#64
      predictedOutcome := follow
      predictedTarget := if follow then target else 0#64 } }

/-- The answer of a buffer over an older one, where the older one is not followed. -/
theorem lookup_over {btb past : BranchTargetBuffer} {pc : BitVec 64} {prediction : Bool}
    (h : ((btb.table pc).isNone && (past.lookup pc).1 && prediction) = false) :
    (btb.over past).lookup pc = btb.lookup pc ∨
      (((btb.over past).lookup pc).1 && prediction) = false ∧
        ((btb.lookup pc).1 && prediction) = false := by
  cases hentry : btb.table pc with
  | some entry =>
    left
    simp [BranchTargetBuffer.lookup, BranchTargetBuffer.over, hentry]
  | none =>
    right
    have hlookup : (btb.over past).lookup pc = past.lookup pc := by
      simp [BranchTargetBuffer.lookup, BranchTargetBuffer.over, hentry]
    have hmiss : btb.lookup pc = (false, 0#64) := by
      simp [BranchTargetBuffer.lookup, hentry]
    rw [hlookup, hmiss]
    rw [hentry] at h
    exact ⟨by simpa using h, rfl⟩

theorem fetchStage_withPast (vm : RV5SIDVM)
    (h : (!vm.flushPipeline && decide (vm.programCounter < vm.programSize) &&
      (vm.btb.table vm.programCounter).isNone && (past.btb.lookup vm.programCounter).1 &&
      vm.branchPredictor.getPrediction vm.programCounter) = false) :
    (vm.withPast past).fetchStage =
      mapBoth (faultWithPast past) (withPast past) vm.fetchStage := by
  unfold fetchStage
  by_cases hflush : vm.flushPipeline = true
  · rw [if_pos hflush]
    exact if_pos hflush
  rw [if_neg hflush]
  refine (if_neg hflush).trans ?_
  by_cases hsize : vm.programSize ≤ vm.programCounter
  · rw [if_pos hsize]
    exact if_pos hsize
  rw [if_neg hsize]
  refine (if_neg hsize).trans ?_
  have hlt : vm.programCounter < vm.programSize := BitVec.not_le.mp hsize
  have hpast : ((vm.btb.table vm.programCounter).isNone &&
      (past.btb.lookup vm.programCounter).1 &&
      vm.branchPredictor.getPrediction vm.programCounter) = false := by
    simpa [hflush, hlt] using h
  have hlookup := lookup_over hpast
  have hreadPast : (vm.withPast past).memoryController.readWord (vm.withPast past).programCounter =
      vm.memoryController.readWord vm.programCounter := rfl
  rw [hreadPast]
  cases hread : vm.memoryController.readWord vm.programCounter with
  | ok instruction =>
    show Except.ok ((vm.withPast past).fetchedWith instruction
        (((vm.btb.over past.btb).lookup vm.programCounter).1 &&
          vm.branchPredictor.getPrediction vm.programCounter)
        ((vm.btb.over past.btb).lookup vm.programCounter).2) =
      .ok ((vm.fetchedWith instruction
        ((vm.btb.lookup vm.programCounter).1 &&
          vm.branchPredictor.getPrediction vm.programCounter)
        (vm.btb.lookup vm.programCounter).2).withPast past)
    rcases hlookup with hsame | ⟨hover, hown⟩
    · rw [hsame]
      rfl
    · rw [hover, hown]
      rfl
  | error e => cases e <;> rfl

theorem reportStep_onBase (base : Rv5sVm) :
    (past.onBase base).endCycle.reportStep = past.onBase base.endCycle.reportStep := by
  unfold Rv5sVm.reportStep
  exact ite_eq_map _ rfl rfl

/-- A step of a machine with a past is the step of the machine without, unless
its fetch follows the past. -/
theorem step_withPast (vm : RV5SIDVM) (h : followsPast cfg past.btb vm = false) :
    step cfg (vm.withPast past) =
      mapBoth (faultWithPast past) (withPast past) (step cfg vm) := by
  unfold step
  refine ite_eq_map _ rfl ?_
  have hstages : runStages cfg (vm.withPast past) =
      mapBoth (faultWithPast past) (withPast past) (runStages cfg vm) := by
    rw [runStages_eq_bind, runStages_eq_bind, beforeFetch_withPast]
    refine mapBoth_bind fun vm₁ h₁ => ?_
    show (if vm₁.stallRequest then _ else _) = _
    by_cases hstall : vm₁.stallRequest = true
    · rw [if_pos hstall, if_pos hstall]
      rfl
    · rw [if_neg hstall, if_neg hstall]
      apply fetchStage_withPast
      rw [followsPast, h₁] at h
      simpa [hstall] using h
  rw [hstages]
  refine mapBoth_bind fun vm₁ _ => ?_
  exact congrArg (fun base => Except.ok ((vm₁.withPast past).withBase base))
    (reportStep_onBase vm₁.toRv5sVm)

/-- The machines a history of loads, runs and steps leads to. -/
inductive History (cfg : VmConfig) : RV5SIDVM → Prop
  | new : History cfg (.new cfg)
  | enableForwarding {vm : RV5SIDVM} (h : History cfg vm) (enable : Bool) :
      History cfg (vm.enableForwarding enable)
  | setBranchPredictorType {vm : RV5SIDVM} (h : History cfg vm) (type : BranchPredictorType) :
      History cfg (vm.setBranchPredictorType type)
  | reset {vm : RV5SIDVM} (h : History cfg vm) : History cfg (vm.reset cfg)
  | loadProgram {vm vm' : RV5SIDVM} {program : AssembledProgram} (h : History cfg vm)
      (hload : vm.loadProgram cfg program = .ok vm') : History cfg vm'
  | step {vm vm' : RV5SIDVM} (h : History cfg vm) (hstep : RV5SIDVM.step cfg vm = .ok vm') :
      History cfg vm'
  | run {vm vm' : RV5SIDVM} {fuel : Nat} (h : History cfg vm)
      (hrun : RV5SIDVM.run cfg fuel vm = some (.ok vm')) : History cfg vm'

/-- The memory, the predictor and the buffer are the same. -/
structure SameTables (vm vm' : RV5SIDVM) : Prop where
  memoryController : vm'.memoryController = vm.memoryController
  branchPredictor : vm'.branchPredictor = vm.branchPredictor
  btb : vm'.btb = vm.btb

theorem sameTables_writeBackStage (vm : RV5SIDVM) : vm.SameTables vm.writeBackStage := by
  unfold writeBackStage Rv5sVm.writeBackStage
  split <;> exact ⟨rfl, rfl, rfl⟩

theorem sameTables_of_executeStage {vm vm' : RV5SIDVM} (h : executeStage vm = .ok vm') :
    vm.SameTables vm' := by
  unfold executeStage at h
  dsimp only at h
  split at h
  · obtain rfl := Except.ok.inj h
    exact ⟨rfl, rfl, rfl⟩
  split at h
  · obtain rfl := Except.ok.inj h
    exact ⟨rfl, rfl, rfl⟩
  · obtain ⟨_, -, rfl⟩ := bind_pure_eq_ok.mp h
    exact ⟨rfl, rfl, rfl⟩

theorem sameTables_of_fetchStage {vm vm' : RV5SIDVM} (h : fetchStage vm = .ok vm') :
    vm.SameTables vm' := by
  unfold fetchStage at h
  split at h
  · obtain rfl := Except.ok.inj h
    exact ⟨rfl, rfl, rfl⟩
  split at h
  · obtain rfl := Except.ok.inj h
    exact ⟨rfl, rfl, rfl⟩
  split at h
  · obtain rfl := Except.ok.inj h
    exact ⟨rfl, rfl, rfl⟩
  · obtain rfl := Except.ok.inj h
    exact ⟨rfl, rfl, rfl⟩
  · cases h

theorem sameTables_reportStep (vm : RV5SIDVM) :
    vm.SameTables (vm.withBase vm.toRv5sVm.endCycle.reportStep) := by
  unfold Rv5sVm.reportStep
  split <;> exact ⟨rfl, rfl, rfl⟩

/-- The predictor says taken only where the buffer has an entry. -/
def PredictsOwn (vm : RV5SIDVM) : Prop :=
  ∀ pc, vm.branchPredictor.getPrediction pc = true → (vm.btb.table pc).isNone = false

theorem getPrediction_updateState (p : BranchPredictor) {pc i : BitVec 64} (h : i ≠ pc)
    (predicted actual : Bool) :
    (p.updateState pc predicted actual).getPrediction i = p.getPrediction i := by
  cases p <;> simp [BranchPredictor.updateState, BranchPredictor.getPrediction, h]

/-- A branch puts its outcome into the predictor and its target into the buffer. -/
theorem PredictsOwn.resolveBranch {vm : RV5SIDVM} (h : vm.PredictsOwn)
    (control : ControlSignals) : (vm.resolveBranch control).PredictsOwn := by
  have hupdate : ∀ (p : BranchPredictor) (btb : BranchTargetBuffer) (pc target : BitVec 64)
      (predicted actual : Bool),
      (∀ i, p.getPrediction i = true → (btb.table i).isNone = false) →
      ∀ i, (p.updateState pc predicted actual).getPrediction i = true →
        ((btb.update pc target).table i).isNone = false := by
    intro p btb pc target predicted actual hown i hi
    by_cases hpc : i = pc
    · simp [BranchTargetBuffer.update, hpc]
    · rw [getPrediction_updateState p hpc] at hi
      simpa [BranchTargetBuffer.update, hpc] using hown i hi
  unfold RV5SIDVM.resolveBranch
  dsimp only
  by_cases hbranch : control.branch = true
  · rw [if_pos hbranch]
    apply ite_of_both PredictsOwn
    · exact hupdate _ _ _ _ _ _ h
    · exact hupdate _ _ _ _ _ _ h
  · rw [if_neg hbranch]
    exact h

/-- What the decode stage does to the memory and the tables. -/
theorem memoryController_resolveBranch (vm : RV5SIDVM) (control : ControlSignals) :
    (vm.resolveBranch control).memoryController = vm.memoryController := by
  unfold resolveBranch
  dsimp only
  exact ite_of_both (fun v : RV5SIDVM => v.memoryController = vm.memoryController)
    (ite_of_both (fun v : RV5SIDVM => v.memoryController = vm.memoryController) rfl rfl) rfl

/-- A decode keeps what its branch keeps. -/
theorem decodeStage_of_resolveBranch (P : RV5SIDVM → Prop) (vm : RV5SIDVM)
    (hlatch : ∀ latch stall cycles, P { vm with
      nextIdExReg := latch, stallRequest := stall, stallCycles := cycles })
    (hbranch : ∀ latch control, P (({ vm with nextIdExReg := latch } : RV5SIDVM).resolveBranch
      control)) : P vm.decodeStage := by
  unfold decodeStage
  dsimp only
  refine ite_of_both P ?_ (ite_of_both P ?_ (ite_of_both P ?_ (ite_of_both P ?_
    (ite_of_both P ?_ (ite_of_both P ?_ ?_)))))
  · exact hlatch _ vm.stallRequest _
  · exact hlatch _ vm.stallRequest vm.stallCycles
  · exact hlatch _ vm.stallRequest vm.stallCycles
  · exact hlatch _ vm.stallRequest vm.stallCycles
  · exact hlatch _ vm.stallRequest vm.stallCycles
  · exact hlatch _ true vm.stallCycles
  · exact hbranch _ _

theorem memoryController_decodeStage (vm : RV5SIDVM) :
    vm.decodeStage.memoryController = vm.memoryController :=
  decodeStage_of_resolveBranch (fun v => v.memoryController = vm.memoryController) vm
    (fun _ _ _ => rfl) fun latch control =>
      memoryController_resolveBranch { vm with nextIdExReg := latch } control

theorem PredictsOwn.decodeStage {vm : RV5SIDVM} (h : vm.PredictsOwn) :
    vm.decodeStage.PredictsOwn :=
  decodeStage_of_resolveBranch PredictsOwn vm (fun _ _ _ => h) fun latch control =>
    @PredictsOwn.resolveBranch { vm with nextIdExReg := latch } h control

theorem PredictsOwn.of_sameTables {vm vm' : RV5SIDVM} (h : vm.PredictsOwn)
    (hsame : vm.SameTables vm') : vm'.PredictsOwn := by
  unfold PredictsOwn
  rw [hsame.branchPredictor, hsame.btb]
  exact h

/-- What holds in front of the fetch of a cycle. -/
theorem beforeFetch_ok {vm vm' : RV5SIDVM} (h : beforeFetch cfg vm = .ok vm') :
    (vm.memoryController.Reachable cfg → vm'.memoryController.Reachable cfg) ∧
      (vm.PredictsOwn → vm'.PredictsOwn) := by
  obtain ⟨m, hmem, h⟩ := bind_eq_ok.mp h
  obtain ⟨e, hexec, rfl⟩ := bind_pure_eq_ok.mp h
  obtain ⟨base, hbase, rfl⟩ := bind_pure_eq_ok.mp hmem
  have hwb := sameTables_writeBackStage { vm with stallRequest := false, flushPipeline := false }
  have he := sameTables_of_executeStage hexec
  obtain ⟨hreach, hpredictor⟩ := memoryStage_ok (throwWith_eq_ok.mp hbase)
  constructor
  · intro hm
    rw [memoryController_decodeStage, he.memoryController]
    exact hreach (hwb.memoryController.symm ▸ hm)
  · intro hown
    refine ((PredictsOwn.of_sameTables ?_ he).decodeStage)
    intro pc hpc
    have hpc : base.branchPredictor.getPrediction pc = true := hpc
    rw [hpredictor] at hpc
    have hown' : PredictsOwn { vm with stallRequest := false, flushPipeline := false } := hown
    exact hown'.of_sameTables hwb pc hpc

theorem step_ok {vm vm' : RV5SIDVM} (h : step cfg vm = .ok vm') :
    (vm.memoryController.Reachable cfg → vm'.memoryController.Reachable cfg) ∧
      (vm.PredictsOwn → vm'.PredictsOwn) := by
  unfold step at h
  split at h
  · obtain rfl := Except.ok.inj h
    exact ⟨id, id⟩
  obtain ⟨vm₁, hrun, rfl⟩ := bind_pure_eq_ok.mp h
  rw [runStages_eq_bind] at hrun
  obtain ⟨d, hd, hfetch⟩ := bind_eq_ok.mp hrun
  have hsame : d.SameTables vm₁ := by
    split at hfetch
    · obtain rfl := Except.ok.inj hfetch
      exact ⟨rfl, rfl, rfl⟩
    · exact sameTables_of_fetchStage hfetch
  have hreport := sameTables_reportStep vm₁
  obtain ⟨hreach, hown⟩ := beforeFetch_ok hd
  constructor
  · intro hm
    rw [hreport.memoryController, hsame.memoryController]
    exact hreach hm
  · exact fun h => ((hown h).of_sameTables hsame).of_sameTables hreport

theorem reachable_of_history {vm : RV5SIDVM} (h : History cfg vm) :
    vm.memoryController.Reachable cfg := by
  induction h with
  | new => exact .reset .new
  | enableForwarding _ _ ih => exact ih
  | setBranchPredictorType _ _ ih => exact ih
  | reset _ ih => exact ih.reset
  | loadProgram _ hload ih =>
    obtain ⟨base, hbase, rfl⟩ := bind_pure_eq_ok.mp hload
    obtain ⟨base', hbase', rfl⟩ := bind_pure_eq_ok.mp (throwWith_eq_ok.mp hbase)
    exact (frame_of_loadProgram (throwWith_eq_ok.mp hbase')).2.2.2 ih
  | step _ hstep ih => exact (step_ok hstep).1 ih
  | @run vm vm' fuel _ hrun ih =>
    obtain ⟨r, hloop, hr⟩ := Option.map_eq_some_iff.mp hrun
    have h0 : (startRun vm).memoryController.Reachable cfg := ih
    cases r with
    | error e => cases hr
    | ok s =>
      cases hr
      have hs : s.memoryController.Reachable cfg :=
        (reaches_of_runUntil hloop).1.invariant
          (fun vm : RV5SIDVM => vm.memoryController.Reachable cfg)
          (fun _ _ hm _ hs => (step_ok hs).1 hm) h0
      exact hs

/-- The outcome of a run. -/
structure Outcome where
  gprs : BitVec 5 → BitVec 64
  memory : Memory
  programCounter : BitVec 64
  instructionsRetired : BitVec 32
  cycleS : BitVec 32
  branchMispredictions : BitVec 32

def outcome (vm : RV5SIDVM) : Outcome where
  gprs := vm.registers.readGpr
  memory := vm.memoryController
  programCounter := vm.programCounter
  instructionsRetired := vm.instructionsRetired
  cycleS := vm.cycleS
  branchMispredictions := vm.branchMispredictions

/-- The outcome of a run, with the state of a fault forgotten. -/
def runOutcome (cfg : VmConfig) (fuel : Nat) (vm : RV5SIDVM) : Option (Except Fault Outcome) :=
  (run cfg fuel vm).map (mapBoth Prod.fst outcome)

/-- A machine with a past runs as the one without when no fetch of the run follows the past. -/
theorem runOutcome_withPast {vm vm' : RV5SIDVM}
    (hstart : startRun vm' = (startRun vm).withPast past)
    (h : ∀ s, Reaches (·.stopRequested) (step cfg) (startRun vm) s → s.stopRequested = false →
      followsPast cfg past.btb s = false) (fuel : Nat) :
    runOutcome cfg fuel vm' = runOutcome cfg fuel vm := by
  have hrun : runUntil (·.stopRequested) (step cfg) fuel (startRun vm') =
      (runUntil (·.stopRequested) (step cfg) fuel (startRun vm)).map
        (mapBoth (faultWithPast past) (withPast past)) := by
    rw [hstart]
    exact runUntil_map (s := startRun vm) (fun s => (rfl : (s.withPast past).stopRequested = _))
      fun s hreach hgo => step_withPast s (h s hreach hgo)
  unfold runOutcome run
  rw [hrun]
  cases runUntil (fun vm : RV5SIDVM => vm.stopRequested) (step cfg) fuel (startRun vm) with
  | none => rfl
  | some r => cases r <;> rfl

/-- A program is loaded after a reset as into a fresh machine with the past. -/
theorem loadProgram_reset {vm vm₂ : RV5SIDVM} {program : AssembledProgram}
    (hm : vm.memoryController.Reachable cfg)
    (hload : (new cfg).loadProgram cfg program = .ok vm₂) :
    ∃ past : Past, past.btb = vm.btb ∧ ∃ vm₁, (vm.reset cfg).loadProgram cfg program = .ok vm₁ ∧
      startRun vm₁ = (startRun vm₂).withPast past := by
  obtain ⟨base, hbase, rfl⟩ := bind_pure_eq_ok.mp hload
  obtain ⟨inner, hinner, rfl⟩ := bind_pure_eq_ok.mp (throwWith_eq_ok.mp hbase)
  obtain ⟨m₁, c₁, m₂, c₂, ht, hd, rfl⟩ := loadProgram_eq_ok.mp (throwWith_eq_ok.mp hinner)
  let loaded : VmBase := (vm.reset cfg).toVmBase.loaded program m₂ (c₁.setWidth 64)
  have hloaded : (vm.reset cfg).toVmBase.loadProgram cfg program = .ok loaded := by
    refine loadProgram_eq_ok.mpr ⟨m₁, c₁, m₂, c₂, ?_, hd, rfl⟩
    show loadText cfg vm.memoryController.reset program.textBuffer = _
    rw [Memory.reset_of_reachable hm]
    exact ht
  refine ⟨⟨vm.btb, loaded.breakpoints, vm.inputQueue, vm.currentInstruction⟩, rfl,
    (vm.reset cfg).withBase ((vm.reset cfg).toRv5sVm.withVmBase loaded), ?_, ?_⟩
  · refine bind_pure_eq_ok.mpr ⟨_, throwWith_eq_ok.mpr ?_, rfl⟩
    exact bind_pure_eq_ok.mpr ⟨_, throwWith_eq_ok.mpr hloaded, rfl⟩
  · rfl

theorem reset_forgets_of_followsPast {vm vm₂ : RV5SIDVM} {program : AssembledProgram}
    (h : History cfg vm) (hload : (new cfg).loadProgram cfg program = .ok vm₂)
    (hpast : ∀ s, Reaches (·.stopRequested) (RV5SIDVM.step cfg) (startRun vm₂) s →
      s.stopRequested = false → followsPast cfg vm.btb s = false) :
    ∃ vm₁, (vm.reset cfg).loadProgram cfg program = .ok vm₁ ∧
      ∀ fuel, runOutcome cfg fuel vm₁ = runOutcome cfg fuel vm₂ := by
  obtain ⟨past, hbtb, vm₁, hload₁, hstart⟩ := loadProgram_reset (reachable_of_history h) hload
  rw [← hbtb] at hpast
  exact ⟨vm₁, hload₁, runOutcome_withPast hstart hpast⟩

/-- **After any history, a program is loaded and run by a reset machine as by a
fresh one with the same configuration, when no fetch of its run follows an
entry of the branch target buffer from before the reset.** -/
theorem reset_forgets (cfg : VmConfig) (vm : RV5SIDVM) (h : History cfg vm)
    (program : AssembledProgram) (vm₂ : RV5SIDVM)
    (hload : (new cfg).loadProgram cfg program = .ok vm₂)
    (hpast : ∀ s, Reaches (·.stopRequested) (RV5SIDVM.step cfg) (startRun vm₂) s →
      s.stopRequested = false → followsPast cfg vm.btb s = false) :
    ∃ vm₁, (vm.reset cfg).loadProgram cfg program = .ok vm₁ ∧
      ∀ fuel, runOutcome cfg fuel vm₁ = runOutcome cfg fuel vm₂ :=
  reset_forgets_of_followsPast h hload hpast

/-- `addi x0, x0, 0` and a jump over one word. -/
def jumpAtFour : AssembledProgram where
  textBuffer := [0x00000013#32, 0x0080006f#32, 0x00000013#32]

/-- `addi x1, x0, 5` after a program with a jump at another address. -/
theorem reset_forgets_jumpAtFour :
    ∃ vm₀ vm, (new {}).loadProgram {} jumpAtFour = .ok vm₀ ∧ run {} 20 vm₀ = some (.ok vm) ∧
      (vm.btb.lookup 4#64).1 = true ∧
      ∃ vm₁ vm₂, (vm.reset {}).loadProgram {} { textBuffer := [0x00500093#32] } = .ok vm₁ ∧
        (new {}).loadProgram {} { textBuffer := [0x00500093#32] } = .ok vm₂ ∧
        ∀ fuel, runOutcome {} fuel vm₁ = runOutcome {} fuel vm₂ := by
  let vm₀ : RV5SIDVM := ((new {}).loadProgram {} jumpAtFour).toOption.getD (new {})
  have hload₀ : (new {}).loadProgram {} jumpAtFour = .ok vm₀ := eq_ok_getD _ (by decide +kernel)
  let vm : RV5SIDVM := ((run {} 20 vm₀).bind Except.toOption).getD (new {})
  have hrun : run {} 20 vm₀ = some (.ok vm) := eq_some_ok_getD _ (by decide +kernel)
  let vm₂ : RV5SIDVM :=
    ((new {}).loadProgram {} { textBuffer := [0x00500093#32] }).toOption.getD (new {})
  have hload₂ : (new {}).loadProgram {} { textBuffer := [0x00500093#32] } = .ok vm₂ :=
    eq_ok_getD _ (by decide +kernel)
  have hnot : ∀ k ≤ 6, followsPast {} vm.btb (after (RV5SIDVM.step {}) (startRun vm₂) k) = false := by
    decide +kernel
  have hstop : (after (RV5SIDVM.step {}) (startRun vm₂) 6).stopRequested = true := by
    decide +kernel
  obtain ⟨vm₁, hload₁, hsame⟩ := reset_forgets {} vm (.run (.loadProgram .new hload₀) hrun)
    { textBuffer := [0x00500093#32] } vm₂ hload₂ fun s hreach _ => by
      obtain ⟨k, hk, rfl⟩ := hreach.exists_after hstop
      exact hnot k hk
  exact ⟨vm₀, vm, hload₀, hrun, by decide +kernel, vm₁, vm₂, hload₁, hload₂, hsame⟩

/-- A jump over one word. -/
def jumpAtZero : AssembledProgram where
  textBuffer := [0x0080006f#32, 0x00000013#32]

/-- `addi x1, x0, 1` and two words like it for `x2` and `x3`. -/
def threeConstants : AssembledProgram where
  textBuffer := [0x00100093#32, 0x00200113#32, 0x00300193#32]

/-- After a program that starts with a jump, the machine jumps at the start of
a program without any jump. -/
theorem reset_keeps_jump :
    ∃ vm₀ vm vm₁ vm₂ r₁ r₂, (new {}).loadProgram {} jumpAtZero = .ok vm₀ ∧
      run {} 20 vm₀ = some (.ok vm) ∧
      (vm.reset {}).loadProgram {} threeConstants = .ok vm₁ ∧
      (new {}).loadProgram {} threeConstants = .ok vm₂ ∧
      run {} 20 vm₁ = some (.ok r₁) ∧ run {} 20 vm₂ = some (.ok r₂) ∧
      r₁.registers.readGpr 2#5 = 0#64 ∧ r₂.registers.readGpr 2#5 = 2#64 := by
  let vm₀ : RV5SIDVM := ((new {}).loadProgram {} jumpAtZero).toOption.getD (new {})
  let vm : RV5SIDVM := ((run {} 20 vm₀).bind Except.toOption).getD (new {})
  let vm₁ : RV5SIDVM := ((vm.reset {}).loadProgram {} threeConstants).toOption.getD (new {})
  let vm₂ : RV5SIDVM := ((new {}).loadProgram {} threeConstants).toOption.getD (new {})
  have hrun : run {} 20 vm₀ = some (.ok vm) := eq_some_ok_getD _ (by decide +kernel)
  have hrun₁ := eq_some_ok_getD (x := run {} 20 vm₁) (new {}) (by decide +kernel)
  have hrun₂ := eq_some_ok_getD (x := run {} 20 vm₂) (new {}) (by decide +kernel)
  exact ⟨vm₀, vm, vm₁, vm₂, _, _, eq_ok_getD _ (by decide +kernel), hrun,
    eq_ok_getD _ (by decide +kernel), eq_ok_getD _ (by decide +kernel), hrun₁, hrun₂,
    by decide +kernel, by decide +kernel⟩

/-- A predictor of the three that start without an entry says not taken everywhere. -/
theorem getPrediction_ofType {type : BranchPredictorType}
    (h : type = .staticTaken ∨ type = .dynamic1Bit ∨ type = .dynamic2Bit) (pc : BitVec 64) :
    (BranchPredictor.ofType type).getPrediction pc = false := by
  rcases h with rfl | rfl | rfl <;> rfl

/-- **With a predictor other than the one that always says taken, a reset
machine loads and runs every program as a fresh one.** -/
theorem reset_forgets_of_not_always (cfg : VmConfig)
    (htype : cfg.branchPredictorType = .staticTaken ∨ cfg.branchPredictorType = .dynamic1Bit ∨
      cfg.branchPredictorType = .dynamic2Bit)
    (vm : RV5SIDVM) (h : History cfg vm) (program : AssembledProgram) (vm₂ : RV5SIDVM)
    (hload : (new cfg).loadProgram cfg program = .ok vm₂) :
    ∃ vm₁, (vm.reset cfg).loadProgram cfg program = .ok vm₁ ∧
      ∀ fuel, runOutcome cfg fuel vm₁ = runOutcome cfg fuel vm₂ := by
  refine reset_forgets_of_followsPast h hload fun s hreach _ => ?_
  have h0 : (startRun vm₂).PredictsOwn := by
    obtain ⟨base, hbase, rfl⟩ := bind_pure_eq_ok.mp hload
    obtain ⟨inner, hinner, rfl⟩ := bind_pure_eq_ok.mp (throwWith_eq_ok.mp hbase)
    intro pc hpc
    have hpc : (BranchPredictor.ofType cfg.branchPredictorType).getPrediction pc = true := hpc
    rw [getPrediction_ofType htype] at hpc
    cases hpc
  have hown : s.PredictsOwn := hreach.invariant PredictsOwn (fun _ _ ho _ hs => (step_ok hs).2 ho) h0
  unfold followsPast
  cases hd : beforeFetch cfg s with
  | error e => rfl
  | ok d =>
    have hd' := (beforeFetch_ok hd).2 hown d.programCounter
    cases hp : d.branchPredictor.getPrediction d.programCounter with
    | false => simp [hp]
    | true => simp [hd' hp]

end RV5SIDVM

end RiscvSim

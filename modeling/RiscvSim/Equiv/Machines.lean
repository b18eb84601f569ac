import RiscvSim.Vm.Rv5s.Equiv.IdVm
import RiscvSim.Vm.Rv5s.Equiv.StallVm
import RiscvSim.Vm.Rvss.Equiv.RunLimit
import RiscvSim.Vm.Rvss.Equiv.Undo

/-!
# The machines on whole programs

A run of the single-cycle machine that ends its program is a run of the
abstract machine (`exists_trace`), as far as registers, memory and program
counter can tell, when its words are ones on which the control units agree.
Every pipeline then ends like it.

* **`runs_agree`**: a loaded program leaves the same registers, memory and
  program counter in the single-cycle machine, in the stalling pipeline, in the
  one that predicts branches, and in the one that decides them in decode.
-/

namespace RiscvSim

open RV5SControlUnit Lib

/-! ### States that look the same -/

namespace ArchState

variable {cfg : VmConfig} {s t s' : ArchState} {w : BitVec 32}

/-- An instruction sees no more of a state than `observe` shows. -/
theorem exec_congr (h : s.observe = t.observe) (hs : s.exec cfg w = .ok s') :
    ∃ t', t.exec cfg w = .ok t' ∧ t'.observe = s'.observe := by
  obtain ⟨hregs, hrest⟩ := Prod.mk.inj h
  obtain ⟨hmem, hpc⟩ := Prod.mk.inj hrest
  have hread : ∀ i, t.registers.readGpr i = s.registers.readGpr i := fun i => (congrFun hregs i).symm
  cases hnop : (getControlSignals w).isNop with
  | true =>
    rw [exec_of_isNop hnop] at hs ⊢
    obtain rfl := Except.ok.inj hs
    exact ⟨_, rfl, by rw [observe, observe, hregs, hmem, hpc]⟩
  | false =>
    obtain ⟨result, loaded, memory, halu, hload, hstore, rfl⟩ := (exec_eq_ok hnop).mp hs
    have hA : t.operandA w = s.operandA w := hread _
    have hB : t.operandB w = s.operandB w := hread _
    refine ⟨_, (exec_eq_ok hnop).mpr ⟨result, loaded, memory, ?_, ?_, ?_, rfl⟩, ?_⟩
    · rw [alu, hA, hB, ← hpc]
      exact halu
    · rw [load, ← hmem]
      exact hload
    · rw [store, hB, ← hmem]
      exact hstore
    · rw [hA, hB, ← hpc]
      refine congrArg (fun f => (f, memory, _)) (funext fun i => ?_)
      unfold writeResult
      split
      · rw [RegisterFile.readGpr_writeGpr, RegisterFile.readGpr_writeGpr, hread]
      · exact hread i

theorem fetch_congr (h : s.observe = t.observe) : t.fetch = s.fetch := by
  obtain ⟨-, hrest⟩ := Prod.mk.inj h
  obtain ⟨hmem, hpc⟩ := Prod.mk.inj hrest
  rw [fetch, fetch, hmem, hpc]

theorem storeAddresses_congr (h : s.observe = t.observe) : t.storeAddresses = s.storeAddresses := by
  have hA : ∀ w, t.operandA w = s.operandA w := fun w =>
    (congrFun (Prod.mk.inj h).1 (rs1IndexOf w)).symm
  unfold storeAddresses
  rw [fetch_congr h]
  simp only [hA]

theorem fetchAddresses_congr (h : s.observe = t.observe) :
    t.fetchAddresses = s.fetchAddresses := by
  obtain ⟨-, hpc⟩ := Prod.mk.inj (Prod.mk.inj h).2
  rw [fetchAddresses, fetchAddresses, hpc]

end ArchState

/-! ### The single-cycle machine -/

namespace RVSSVM

variable {cfg : VmConfig} {fpu : FloatUnit} {vm vm' : RVSSVM} {n : Nat}

/-- The instructions of a run one by one. -/
theorem AfterInstructions.exists_instruction {k : Nat} (h : AfterInstructions cfg fpu n vm vm')
    (hk : k < n) :
    ∃ vm₁ vm₂, AfterInstructions cfg fpu k vm vm₁ ∧ vm₁.programCounter < vm₁.programSize ∧
      vm₁.runInstruction cfg fpu = .ok vm₂ ∧ AfterInstructions cfg fpu (k + 1) vm vm₂ := by
  induction h generalizing k with
  | done => omega
  | @instruction n vm vm₁ _ hpc hrun _ ih =>
    cases k with
    | zero => exact ⟨vm, vm₁, .done vm, hpc, hrun, .instruction hpc hrun (.done vm₁)⟩
    | succ k =>
      obtain ⟨vm₂, vm₃, hbefore, hpc', hrun', hafter⟩ := ih (Nat.lt_of_succ_lt_succ hk)
      exact ⟨vm₂, vm₃, .instruction hpc hrun hbefore, hpc', hrun', .instruction hpc hrun hafter⟩

/-- The state after `k` instructions, computed. -/
theorem AfterInstructions.eq_after {k : Nat} (h : AfterInstructions cfg fpu k vm vm') :
    vm' = after (fun vm => vm.runInstruction cfg fpu) vm k := by
  induction k generalizing vm' with
  | zero =>
    cases h
    rfl
  | succ k ih =>
    obtain ⟨vm₁, vm₂, hbefore, -, hrun, hafter⟩ := h.exists_instruction (Nat.lt_succ_self k)
    obtain rfl := h.unique hafter
    change vm' = ((after _ vm k).runInstruction cfg fpu).toOption.getD _
    rw [← ih hbefore, hrun]
    rfl

/-- The words of a run are integer instructions of the assembler whose operands
the pipelines extend rightly, and the run stores to no address it fetches from. -/
structure Comparable (cfg : VmConfig) (fpu : FloatUnit) (vm : RVSSVM) : Prop where
  words : ∀ k vm₁ w, AfterInstructions cfg fpu k vm vm₁ →
    vm₁.programCounter < vm₁.programSize → vm₁.arch.fetch = .ok w →
    isEmittedInteger w = true ∧ ¬WrongUpper w
  apart : ∀ i j vm₁ vm₂, AfterInstructions cfg fpu i vm vm₁ → AfterInstructions cfg fpu j vm vm₂ →
    vm₁.programCounter < vm₁.programSize → vm₂.programCounter < vm₂.programSize →
    ∀ a ∈ vm₁.arch.storeAddresses, a ∉ vm₂.arch.fetchAddresses

/-- An instruction that completes here completes in the abstract machine, and leaves the same. -/
theorem exec_of_runInstruction {w : BitVec 32} (hf : vm.arch.fetch = .ok w)
    (hw : isEmittedInteger w = true) (hupper : ¬WrongUpper w)
    (h : vm.runInstruction cfg fpu = .ok vm') :
    ∃ s, vm.arch.exec cfg w = .ok s ∧ s.observe = vm'.arch.observe := by
  have hexec := (runInstruction_integer hf (isIntegerInstruction_of_isEmittedInteger hw) h).1
  have htraps : ¬TrapsAsNop vm.arch w := by
    intro htraps
    have hop : opcodeOf w = 0b0111011#7 := htraps.1
    rw [execWord_of_word (.inl hop)] at hexec
    obtain ⟨r, hr, -⟩ := map_eq_ok.mp hexec
    exact (aluOf_of_wordRegister hop).mp ⟨r, hr⟩ htraps
  have hagree : (execWord cfg vm.arch w).map ArchState.observe =
      (vm.arch.exec cfg w).map ArchState.observe := (execWord_agrees_iff hw).mpr ⟨hupper, htraps⟩
  rw [hexec] at hagree
  obtain ⟨s, hs, hobserve⟩ := map_eq_ok.mp hagree.symm
  exact ⟨s, hs, hobserve⟩

/-- The states of the abstract machine from `s` on. -/
def archRun (cfg : VmConfig) (s : ArchState) : Nat → ArchState :=
  after (ArchState.archStep cfg) s

theorem archRun_succ {s s' : ArchState} {w : BitVec 32} {k : Nat}
    (hf : (archRun cfg s k).fetch = .ok w) (h : (archRun cfg s k).exec cfg w = .ok s') :
    archRun cfg s (k + 1) = s' := by
  have hstep : (archRun cfg s k).archStep cfg = .ok s' := by
    rw [ArchState.archStep, hf, ok_bind, h]
  change ((archRun cfg s k).archStep cfg).toOption.getD (archRun cfg s k) = s'
  rw [hstep]
  rfl

/-- Instruction by instruction, the two machines look the same. -/
theorem observe_archRun {s : ArchState} (hs : s.observe = vm.arch.observe)
    (hc : Comparable cfg fpu vm) {k : Nat} {vm₁ : RVSSVM}
    (h : AfterInstructions cfg fpu k vm vm₁) :
    (archRun cfg s k).observe = vm₁.arch.observe := by
  induction k generalizing vm₁ with
  | zero =>
    cases h
    exact hs
  | succ k ih =>
    obtain ⟨vm₂, vm₃, hbefore, hpc, hrun, hafter⟩ := h.exists_instruction (Nat.lt_succ_self k)
    obtain rfl := h.unique hafter
    obtain ⟨w, hf⟩ := fetch_of_runInstruction hrun
    obtain ⟨hw, hupper⟩ := hc.words k vm₂ w hbefore hpc hf
    obtain ⟨s₁, hexec, hobserve⟩ := exec_of_runInstruction hf hw hupper hrun
    obtain ⟨s₂, hexec', hobserve'⟩ := ArchState.exec_congr (ih hbefore).symm hexec
    have hf' : (archRun cfg s k).fetch = .ok w :=
      (ArchState.fetch_congr (ih hbefore).symm).trans hf
    rw [archRun_succ hf' hexec', hobserve', hobserve]

/-- A run that ends the program is a run of the abstract machine. -/
theorem trace_archRun {s : ArchState} (hs : s.observe = vm.arch.observe)
    (hc : Comparable cfg fpu vm) (h : AfterInstructions cfg fpu n vm vm')
    (hend : vm'.programSize ≤ vm'.programCounter) :
    Trace cfg vm.programSize n (archRun cfg s) fun i => (archRun cfg s i).word := by
  have hsize : ∀ {k : Nat} {vm₁ : RVSSVM}, AfterInstructions cfg fpu k vm vm₁ →
      vm₁.programSize = vm.programSize := fun h => congrArg LoopState.programSize h.loopState
  have hpc : ∀ {k : Nat} {vm₁ : RVSSVM}, AfterInstructions cfg fpu k vm vm₁ →
      (archRun cfg s k).pc = vm₁.programCounter := fun h =>
    congrArg (fun o => o.2.2) (observe_archRun hs hc h)
  have hstep : ∀ i < n, ∃ vm₁ w, AfterInstructions cfg fpu i vm vm₁ ∧
      vm₁.programCounter < vm₁.programSize ∧ (archRun cfg s i).fetch = .ok w ∧
      ∃ s', (archRun cfg s i).exec cfg w = .ok s' := by
    intro i hi
    obtain ⟨vm₁, vm₂, hbefore, hin, hrun, -⟩ := h.exists_instruction hi
    obtain ⟨w, hf⟩ := fetch_of_runInstruction hrun
    obtain ⟨hw, hupper⟩ := hc.words i vm₁ w hbefore hin hf
    obtain ⟨s₁, hexec, -⟩ := exec_of_runInstruction hf hw hupper hrun
    have hobserve := (observe_archRun hs hc hbefore).symm
    obtain ⟨s₂, hexec', -⟩ := ArchState.exec_congr hobserve hexec
    exact ⟨vm₁, w, hbefore, hin, (ArchState.fetch_congr hobserve).trans hf, s₂, hexec'⟩
  refine ⟨fun i hi => ?_, fun i hi => ?_, fun i hi => ?_, ?_, fun i hi j hj a ha => ?_⟩
  · obtain ⟨_, w, -, -, hf, -⟩ := hstep i hi
    rw [ArchState.word_of_fetch hf]
    exact hf
  · obtain ⟨_, w, -, -, hf, s', hexec⟩ := hstep i hi
    rw [ArchState.word_of_fetch hf, hexec, archRun_succ hf hexec]
  · obtain ⟨_, _, hbefore, hin, -⟩ := hstep i hi
    rw [hpc hbefore, ← hsize hbefore]
    exact hin
  · rw [hpc h, ← hsize h]
    exact hend
  · obtain ⟨vm₁, _, hbefore₁, hin₁, -⟩ := hstep i hi
    obtain ⟨vm₂, _, hbefore₂, hin₂, -⟩ := hstep j hj
    rw [ArchState.storeAddresses_congr (observe_archRun hs hc hbefore₁).symm] at ha
    rw [ArchState.fetchAddresses_congr (observe_archRun hs hc hbefore₂).symm]
    exact hc.apart i j vm₁ vm₂ hbefore₁ hbefore₂ hin₁ hin₂ a ha

/-- A run that returns has executed some instructions. -/
theorem exists_afterInstructions {fuel : Nat} (h : vm.run cfg fpu fuel = some (.ok vm')) :
    ∃ k vm₁, AfterInstructions cfg fpu k vm.clearStop vm₁ ∧ vm' = vm₁.reportEnd := by
  obtain ⟨r, hloop, hr⟩ := Option.map_eq_some_iff.mp h
  obtain ⟨vm₁, rfl, rfl⟩ := map_eq_ok.mp hr
  obtain ⟨k, hafter, -⟩ := afterInstructions_of_runLoop (c := 0) rfl hloop
  exact ⟨k, vm₁, hafter, rfl⟩

theorem arch_reportEnd (vm : RVSSVM) : vm.reportEnd.arch = vm.arch := by
  unfold reportEnd
  split <;> rfl

end RVSSVM

/-! ### The pipelines -/

/-- The outcome of a program that both machines show. -/
structure EndsLike (vm : RVSSVM) (pipe : Rv5sVm) : Prop where
  gprs : ∀ i, pipe.registers.readGpr i = vm.registers.readGpr i
  memory : pipe.memoryController = vm.memoryController
  programCounter : pipe.programCounter = vm.programCounter
  instructionsRetired : pipe.instructionsRetired = vm.instructionsRetired

theorem Rv5sVm.loadProgram_of_base {cfg : VmConfig} {program : AssembledProgram} {vm : Rv5sVm}
    {base : VmBase} (h : vm.toVmBase.loadProgram cfg program = .ok base) :
    vm.loadProgram cfg program = .ok (vm.withVmBase base) := by
  rw [loadProgram, h]
  rfl

/-- A run that ends its program is a run of the abstract machine, and what a
pipeline shows at the end of that run is what the single-cycle machine shows. -/
theorem RVSSVM.exists_trace {cfg : VmConfig} {fpu : FloatUnit} {vm vm' : RVSSVM} {fuel : Nat}
    (hc : Comparable cfg fpu vm) (hgo : vm.stopRequested = false)
    (hzero : vm.instructionsRetired = 0#32) (hrun : vm.run cfg fpu fuel = some (.ok vm'))
    (hend : vm'.programSize ≤ vm'.programCounter) :
    ∃ n A W, Trace cfg vm.programSize n A W ∧ A 0 = vm.arch ∧
      ∀ pipe : Rv5sVm, pipe.arch = A n → pipe.instructionsRetired = BitVec.ofNat 32 n →
        EndsLike vm' pipe := by
  obtain ⟨n, vm₁, hafter, rfl⟩ := exists_afterInstructions hrun
  have hclear : vm.clearStop = vm := by
    unfold clearStop
    rw [← hgo]
  have hsame := loopState_reportEnd vm₁
  have hsize : vm₁.reportEnd.programSize = vm₁.programSize := congrArg LoopState.programSize hsame
  have hpc : vm₁.reportEnd.programCounter = vm₁.programCounter :=
    congrArg LoopState.programCounter hsame
  have hretired : vm₁.reportEnd.instructionsRetired = BitVec.ofNat 32 n := by
    rw [hclear] at hafter
    have hticks := congrArg LoopState.instructionsRetired (hsame.trans hafter.loopState)
    have hticks : vm₁.reportEnd.instructionsRetired =
        vm.instructionsRetired + BitVec.ofNat 32 n := hticks
    rw [hticks, hzero, BitVec.zero_add]
  rw [hclear] at hafter
  rw [hsize, hpc] at hend
  refine ⟨n, _, _, trace_archRun rfl hc hafter hend, rfl, fun pipe harch hpipe => ?_⟩
  have hobserve : pipe.arch.observe = vm₁.reportEnd.arch.observe := by
    rw [harch, arch_reportEnd]
    exact observe_archRun rfl hc hafter
  obtain ⟨hregs, hrest⟩ := Prod.mk.inj hobserve
  obtain ⟨hmemory, hcounter⟩ := Prod.mk.inj hrest
  exact ⟨fun i => congrFun hregs i, hmemory, hcounter, hpipe.trans hretired.symm⟩

/-- **The machines agree on whole programs**: where the single-cycle machine ends
a program whose words the control units agree on, the stalling pipeline, the one
that predicts branches, with any predictor and with or without forwarding, and
the one that decides branches in decode, without forwarding, end like it. -/
theorem runs_agree {cfg : VmConfig} {fpu : FloatUnit} {program : AssembledProgram}
    {vm vm' : RVSSVM} {fuel : Nat} (hload : (RVSSVM.new cfg).loadProgram cfg program = .ok vm)
    (hc : RVSSVM.Comparable cfg fpu vm) (hrun : vm.run cfg fpu fuel = some (.ok vm'))
    (hend : vm'.programSize ≤ vm'.programCounter) (type : BranchPredictorType) (enable : Bool) :
    (∃ pipe fuel pipe', (RV5SStallVM.new cfg).loadProgram cfg program = .ok pipe ∧
      RV5SStallVM.run cfg fuel pipe = some (.ok pipe') ∧ EndsLike vm' pipe') ∧
    (∃ pipe fuel pipe',
      (((RV5SEXVM.new cfg).setBranchPredictorType type).enableForwarding enable).loadProgram cfg
        program = .ok pipe ∧
      RV5SEXVM.run cfg fuel pipe = some (.ok pipe') ∧ EndsLike vm' pipe') ∧
    (∃ pipe fuel pipe',
      (((RV5SIDVM.new cfg).setBranchPredictorType type).enableForwarding false).loadProgram cfg
        program = .ok pipe ∧
      RV5SIDVM.run cfg fuel pipe = some (.ok pipe') ∧ EndsLike vm' pipe'.toRv5sVm) := by
  obtain ⟨base, hbase, rfl⟩ := bind_pure_eq_ok.mp hload
  have hbase : (RVSSVM.new cfg).toVmBase.loadProgram cfg program = .ok base :=
    throwWith_eq_ok.mp hbase
  obtain ⟨m₁, c₁, m₂, c₂, htext, hdata, hloaded⟩ := loadProgram_eq_ok.mp hbase
  have hgo : base.stopRequested = false := by
    rw [hloaded]
    rfl
  have hzero : base.instructionsRetired = 0#32 := by
    rw [hloaded]
    rfl
  obtain ⟨n, A, W, t, h0, hends⟩ := RVSSVM.exists_trace hc hgo hzero hrun hend
  have hpipe : (RV5SStallVM.new cfg).loadProgram cfg program =
      .ok ((RV5SStallVM.new cfg).withVmBase base) := Rv5sVm.loadProgram_of_base hbase
  have hfresh := RV5SStallVM.fresh_of_loadProgram hpipe
  have hmemory : (A 0).memory.Reachable cfg := by
    rw [h0]
    exact hfresh.toFresh.memory
  refine ⟨?_, ?_, ?_⟩
  · obtain ⟨fuel, pipe', hrun', hfin⟩ := RV5SStallVM.run_of_trace t hfresh h0.symm
    exact ⟨_, fuel, pipe', hpipe, hrun', hends pipe' hfin.arch hfin.retired⟩
  · let ex : RV5SEXVM := ((RV5SEXVM.new cfg).setBranchPredictorType type).enableForwarding enable
    have hpipe : ex.loadProgram cfg program = .ok (ex.withVmBase base) :=
      Rv5sVm.loadProgram_of_base hbase
    have hempty : (ex.withVmBase base).IsEmpty := ⟨rfl, rfl, rfl, rfl⟩
    obtain ⟨fuel, pipe', hrun', harch, hretired⟩ :=
      RV5SEXVM.run_of_trace t hmemory hempty hzero rfl h0.symm
    exact ⟨_, fuel, pipe', hpipe, hrun', hends pipe' harch hretired⟩
  · let id : RV5SIDVM := ((RV5SIDVM.new cfg).setBranchPredictorType type).enableForwarding false
    have hpipe : id.loadProgram cfg program = .ok (id.withBase (id.toRv5sVm.withVmBase base)) := by
      have hbase : id.toRv5sVm.loadProgram cfg program = .ok (id.toRv5sVm.withVmBase base) :=
        Rv5sVm.loadProgram_of_base hbase
      rw [RV5SIDVM.loadProgram, hbase]
      rfl
    have hfresh : (id.withBase (id.toRv5sVm.withVmBase base)).Fresh :=
      ⟨⟨rfl, rfl, rfl, rfl⟩, hzero, rfl⟩
    obtain ⟨fuel, pipe', hrun', harch, hretired⟩ := RV5SIDVM.run_of_trace t hfresh rfl h0.symm
      fun vm _ hforward hon => Bool.noConfusion (hforward.symm.trans hon)
    exact ⟨_, fuel, pipe', hpipe, hrun', hends pipe'.toRv5sVm harch hretired⟩

/-- The program of that name on the single-cycle machine. -/
def loadedDoubleAndSkip : RVSSVM :=
  ((RVSSVM.new {}).loadProgram {} RV5SStallVM.doubleAndSkip).toOption.getD (RVSSVM.new {})

/-- The states of its run. -/
def stateDoubleAndSkip : Nat → RVSSVM :=
  after (fun vm => vm.runInstruction {} .zeros) loadedDoubleAndSkip

theorem comparable_doubleAndSkip : RVSSVM.Comparable {} .zeros loadedDoubleAndSkip := by
  have hended : ¬(stateDoubleAndSkip 4).programCounter < (stateDoubleAndSkip 4).programSize := by
    decide +kernel
  have hin : ∀ k vm₁, RVSSVM.AfterInstructions {} .zeros k loadedDoubleAndSkip vm₁ →
      vm₁.programCounter < vm₁.programSize → k < 4 ∧ vm₁ = stateDoubleAndSkip k := by
    intro k vm₁ h hpc
    have hstate : vm₁ = stateDoubleAndSkip k := h.eq_after
    refine ⟨?_, hstate⟩
    rcases Nat.lt_trichotomy k 4 with hlt | rfl | hlt
    · exact hlt
    · rw [hstate] at hpc
      exact absurd hpc hended
    · obtain ⟨vm₂, _, hbefore, hpc', -⟩ := h.exists_instruction hlt
      have hstate₂ : vm₂ = stateDoubleAndSkip 4 := hbefore.eq_after
      rw [hstate₂] at hpc'
      exact absurd hpc' hended
  have hwords : ∀ k < 4, (stateDoubleAndSkip k).arch.fetch.toOption.map (fun w =>
      isEmittedInteger w && opcodeOf w != 0b0110111#7 && opcodeOf w != 0b0010111#7) =
        some true := by
    decide +kernel
  have hstores : ∀ k < 4, (stateDoubleAndSkip k).arch.storeAddresses = [] := by
    decide +kernel
  refine ⟨fun k vm₁ w h hpc hf => ?_, fun i j vm₁ vm₂ h _ hpc _ a ha => ?_⟩
  · obtain ⟨hk, rfl⟩ := hin k vm₁ h hpc
    have hword := hwords k hk
    rw [hf] at hword
    have hword := Option.some.inj hword
    simp only [Bool.and_eq_true, bne_iff_ne] at hword
    obtain ⟨⟨hw, hlui⟩, hauipc⟩ := hword
    exact ⟨hw, fun hupper => hupper.1.elim hlui hauipc⟩
  · obtain ⟨hk, rfl⟩ := hin i vm₁ h hpc
    rw [hstores i hk] at ha
    cases ha

theorem runs_agree_doubleAndSkip :
    ∃ pipe fuel pipe', (RV5SStallVM.new {}).loadProgram {} RV5SStallVM.doubleAndSkip = .ok pipe ∧
      RV5SStallVM.run {} fuel pipe = some (.ok pipe') ∧ pipe'.registers.readGpr 2#5 = 10#64 := by
  have hload : (RVSSVM.new {}).loadProgram {} RV5SStallVM.doubleAndSkip =
      .ok loadedDoubleAndSkip := eq_ok_getD _ (by decide +kernel)
  have hrun := eq_some_ok_getD (x := loadedDoubleAndSkip.run {} .zeros 9) loadedDoubleAndSkip
    (by decide +kernel)
  obtain ⟨⟨pipe, fuel, pipe', hpipe, hrun', hends⟩, -, -⟩ :=
    runs_agree hload comparable_doubleAndSkip hrun (by decide +kernel) .dynamic2Bit true
  refine ⟨pipe, fuel, pipe', hpipe, hrun', ?_⟩
  rw [hends.gprs]
  decide +kernel

end RiscvSim

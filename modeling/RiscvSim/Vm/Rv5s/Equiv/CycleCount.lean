import RiscvSim.Vm.Rv5s.Equiv.Cycle
import RiscvSim.Vm.Rv5s.Equiv.StraightLine
import RiscvSim.Vm.Rv5s.ExVm
import RiscvSim.Vm.Rv5s.IdVm

/-!
# The cycles of programs without branches

Every cycle of such a program fetches, stalls or drains the pipeline.
`CycleInv` relates the counters to the valid latches, and `Advances` says what
a cycle does to both.

* **`cycles_eq_retired_add_stalls`**: at the end of a run, the cycles are the
  retired instructions, the stalls and the four cycles that empty the pipeline.
-/

namespace RiscvSim

open RV5SControlUnit Lib

namespace Rv5sVm

variable {cfg : VmConfig} {vm vm' : Rv5sVm}

/-! ### Counters and latches -/

/-- What a cycle that redirects no fetch does to the counters and the valid bits. -/
structure Advances (vm vm' : Rv5sVm) (stall : Bool) : Prop where
  cycleS : vm'.cycleS = vm.cycleS + 1#32
  retired : vm'.instructionsRetired =
    vm.instructionsRetired + BitVec.ofNat 32 vm.memWbReg.isValid.toNat
  stallCycles : vm'.stallCycles = vm.stallCycles + BitVec.ofNat 32 stall.toNat
  programSize : vm'.programSize = vm.programSize
  memWb : vm'.memWbReg.isValid = vm.exMemReg.isValid
  exMem : vm'.exMemReg.isValid = vm.idExReg.isValid
  idEx : vm'.idExReg.isValid = (vm.ifIdReg.isValid && !stall)
  stalled : stall = true → vm.ifIdReg.isValid = true ∧ vm'.ifIdReg.isValid = true ∧
    vm'.programCounter = vm.programCounter
  drained : stall = false → vm.programSize ≤ vm.programCounter →
    vm'.ifIdReg.isValid = false ∧ vm'.programCounter = vm.programCounter
  fetched : stall = false → vm.programCounter < vm.programSize →
    vm'.ifIdReg.isValid = true ∧ vm'.programCounter = vm.programCounter + 4#64

/-- The instructions in the pipeline. -/
def inFlight (vm : Rv5sVm) : Nat :=
  vm.ifIdReg.isValid.toNat + vm.idExReg.isValid.toNat + vm.exMemReg.isValid.toNat +
    vm.memWbReg.isValid.toNat

/-- The stages that the last instruction has behind it. -/
def depth (vm : Rv5sVm) : Nat :=
  if vm.ifIdReg.isValid then 0
  else if vm.idExReg.isValid then 1
  else if vm.exMemReg.isValid then 2
  else if vm.memWbReg.isValid then 3
  else 4

/-- The counters after the fetch of `f` instructions. -/
structure Counted (vm : Rv5sVm) (f r s c : Nat) : Prop where
  programCounter : vm.programCounter = BitVec.ofNat 64 (4 * f)
  retired : vm.instructionsRetired = BitVec.ofNat 32 r
  stallCycles : vm.stallCycles = BitVec.ofNat 32 s
  cycleS : vm.cycleS = BitVec.ofNat 32 c
  fetched : 4 * f ≤ vm.programSize.toNat
  aligned : vm.programSize.toNat % 4 = 0

/-- Every fetched instruction has retired or is in the pipeline; every cycle has
fetched, stalled or drained.  Nothing is fetched after a gap. -/
def CycleInv (vm : Rv5sVm) : Prop :=
  ∃ f r s c, vm.Counted f r s c ∧ r + vm.inFlight = f ∧
    (f = 0 ∧ c = 0 ∧ s = 0 ∧ vm.ifIdReg.isValid = false ∧ 0 < vm.programSize.toNat ∨
      c = f + s + vm.depth ∧
        (vm.ifIdReg.isValid = true ∨ vm.programSize.toNat = 4 * f))

theorem Counted.toNat_pc {f r s c : Nat} (h : vm.Counted f r s c) :
    vm.programCounter.toNat = 4 * f := by
  have hlt := vm.programSize.isLt
  have hle := h.fetched
  rw [h.programCounter, BitVec.toNat_ofNat]
  omega

theorem Advances.counted {f r s c : Nat} {stall : Bool} (hm : vm.Advances vm' stall)
    (h : vm.Counted f r s c) {f' : Nat} (hpc : vm'.programCounter = BitVec.ofNat 64 (4 * f'))
    (hf' : 4 * f' ≤ vm.programSize.toNat) :
    vm'.Counted f' (r + vm.memWbReg.isValid.toNat) (s + stall.toNat) (c + 1) where
  programCounter := hpc
  retired := by rw [hm.retired, h.retired, ← BitVec.ofNat_add]
  stallCycles := by rw [hm.stallCycles, h.stallCycles, ← BitVec.ofNat_add]
  cycleS := by rw [hm.cycleS, h.cycleS, ← BitVec.ofNat_add]
  fetched := hm.programSize ▸ hf'
  aligned := hm.programSize ▸ h.aligned

/-- The pipeline in the next cycle. -/
theorem Advances.inFlight_eq {stall : Bool} (hm : vm.Advances vm' stall) :
    vm'.inFlight = vm'.ifIdReg.isValid.toNat + (vm.ifIdReg.isValid && !stall).toNat +
      vm.idExReg.isValid.toNat + vm.exMemReg.isValid.toNat := by
  unfold inFlight
  rw [hm.idEx, hm.exMem, hm.memWb]

/-- A pipeline that is not empty moves its last instruction on. -/
theorem Advances.depth_eq (hm : vm.Advances vm' false) (hifId : vm'.ifIdReg.isValid = false)
    (hne : vm.inFlight ≠ 0) : vm'.depth = vm.depth + 1 := by
  unfold inFlight at hne
  unfold depth
  rw [hifId, hm.idEx, hm.exMem, hm.memWb]
  cases hv₁ : vm.ifIdReg.isValid <;> cases hv₂ : vm.idExReg.isValid <;>
    cases hv₃ : vm.exMemReg.isValid <;> cases hv₄ : vm.memWbReg.isValid <;>
    simp_all

/-- An empty pipeline past the end of the text is at the end of the run. -/
theorem isFinished_of_inFlight (hin : vm.programSize ≤ vm.programCounter)
    (hzero : vm.inFlight = 0) : vm.isFinished = true := by
  unfold inFlight at hzero
  unfold isFinished
  cases hv₁ : vm.ifIdReg.isValid <;> cases hv₂ : vm.idExReg.isValid <;>
    cases hv₃ : vm.exMemReg.isValid <;> cases hv₄ : vm.memWbReg.isValid <;>
    simp_all

/-- **A cycle keeps the account.** -/
theorem CycleInv.advance {stall : Bool} (h : vm.CycleInv) (hm : vm.Advances vm' stall)
    (hgo : vm.isFinished = false) : vm'.CycleInv := by
  obtain ⟨f, r, s, c, hc, hflight, hcount⟩ := h
  have hpc := hc.toNat_pc
  have hfetched := hc.fetched
  have haligned := hc.aligned
  have hsame := hm.inFlight_eq
  unfold inFlight at hflight
  cases stall with
  | true =>
    obtain ⟨hifId, hifId', hpc'⟩ := hm.stalled rfl
    refine ⟨f, _, _, _, hm.counted hc (hpc'.trans hc.programCounter) hfetched, ?_, .inr ⟨?_, ?_⟩⟩
    · rw [hsame, hifId', hifId]
      rw [hifId] at hflight
      simp only [Bool.toNat_true, Bool.not_true, Bool.and_false, Bool.toNat_false] at hflight ⊢
      omega
    · rcases hcount with ⟨-, -, -, hstart, -⟩ | ⟨hcount, -⟩
      · rw [hifId] at hstart
        cases hstart
      · have hdepth : vm.depth = 0 := if_pos hifId
        have hdepth' : vm'.depth = 0 := if_pos hifId'
        rw [hdepth', Bool.toNat_true]
        omega
    · exact .inl hifId'
  | false =>
    by_cases hin : vm.programSize ≤ vm.programCounter
    · -- the pipeline drains
      obtain ⟨hifId', hpc'⟩ := hm.drained rfl hin
      have hend : vm.programSize.toNat = 4 * f := by
        have hle : vm.programSize.toNat ≤ vm.programCounter.toNat := hin
        omega
      have hne : vm.inFlight ≠ 0 := by
        intro hzero
        rw [isFinished_of_inFlight hin hzero] at hgo
        cases hgo
      refine ⟨f, _, _, _, hm.counted hc (hpc'.trans hc.programCounter) hfetched, ?_, .inr ⟨?_, ?_⟩⟩
      · rw [hsame, hifId']
        simp only [Bool.toNat_false, Bool.not_false, Bool.and_true]
        omega
      · rcases hcount with ⟨hf, -, -, -, hpos⟩ | ⟨hcount, -⟩
        · omega
        · rw [hm.depth_eq hifId' hne, Bool.toNat_false]
          omega
      · right
        rw [hm.programSize, hend]
    · -- an instruction is fetched
      rw [BitVec.not_le] at hin
      obtain ⟨hifId', hpc'⟩ := hm.fetched rfl hin
      have hlt : vm.programCounter.toNat < vm.programSize.toNat := hin
      refine ⟨f + 1, _, _, _, hm.counted hc ?_ (by omega), ?_, .inr ⟨?_, .inl hifId'⟩⟩
      · rw [hpc', hc.programCounter, Nat.mul_add, BitVec.ofNat_add]
      · rw [hsame, hifId']
        simp only [Bool.toNat_true, Bool.not_false, Bool.and_true]
        omega
      · have hdepth' : vm'.depth = 0 := if_pos hifId'
        rw [hdepth', Bool.toNat_false]
        rcases hcount with ⟨hf, hc, hs, -, -⟩ | ⟨hcount, hifId | hend⟩
        · omega
        · have hdepth : vm.depth = 0 := if_pos hifId
          omega
        · omega

/-- The account of a finished run. -/
theorem CycleInv.cycles_eq (h : vm.CycleInv) (hend : vm.isFinished = true) :
    vm.cycleS = vm.instructionsRetired + vm.stallCycles + 4#32 := by
  obtain ⟨f, r, s, c, hc, hflight, hcount⟩ := h
  simp only [isFinished, Bool.and_eq_true, decide_eq_true_eq, Bool.not_eq_true'] at hend
  obtain ⟨hin, ⟨⟨hv₁, hv₂⟩, hv₃⟩, hv₄⟩ := hend
  have hle : vm.programSize.toNat ≤ vm.programCounter.toNat := hin
  have hempty : vm.inFlight = 0 := by
    unfold inFlight
    rw [hv₁, hv₂, hv₃, hv₄]
    rfl
  have hdepth : vm.depth = 4 := by
    unfold depth
    rw [hv₁, hv₂, hv₃, hv₄]
    rfl
  rw [hc.toNat_pc] at hle
  have hsum : c = r + s + 4 := by
    rcases hcount with ⟨hf, -, -, -, hpos⟩ | ⟨hcount, -⟩ <;> omega
  rw [hc.cycleS, hc.retired, hc.stallCycles, hsum, BitVec.ofNat_add, BitVec.ofNat_add]

/-! ### A cycle without branches -/

/-- No word of the text, as it stands in the memory, is a branch. -/
def StraightText (vm : Rv5sVm) : Prop :=
  ∀ (a : BitVec 64) (w : BitVec 32), a < vm.programSize → a.toNat % 4 = 0 →
    vm.memoryController.readWord a = .ok w → ¬IsBranchWord w

/-- No branch is in the first two latches, and the text can be read. -/
structure BranchFree (cfg : VmConfig) (vm : Rv5sVm) : Prop where
  ifId : vm.ifIdReg.isValid = true → ¬IsBranchWord vm.ifIdReg.instruction
  idEx : vm.idExReg.isValid = true → vm.idExReg.control.branch = false
  reachable : vm.memoryController.Reachable cfg
  legible : ∀ a : BitVec 64, a < vm.programSize → a.toNat % 4 = 0 → Memory.Legible cfg a

/-- What the stages of a cycle without branches leave, before the latches move. -/
structure StagesOk (cfg : VmConfig) (vm vm' : Rv5sVm) (stall : Bool) : Prop where
  cycleS : vm'.cycleS = vm.cycleS
  retired : vm'.instructionsRetired =
    vm.instructionsRetired + BitVec.ofNat 32 vm.memWbReg.isValid.toNat
  stallCycles : vm'.stallCycles = vm.stallCycles
  programSize : vm'.programSize = vm.programSize
  stopRequested : vm'.stopRequested = vm.stopRequested
  reachable : vm'.memoryController.Reachable cfg
  stallRequest : vm'.stallRequest = stall
  memWb : vm'.nextMemWbReg.isValid = vm.exMemReg.isValid
  exMem : vm'.nextExMemReg.isValid = vm.idExReg.isValid
  idEx : vm'.nextIdExReg.isValid = (vm.ifIdReg.isValid && !stall)
  branch : vm'.nextIdExReg.isValid = true → vm'.nextIdExReg.control.branch = false
  ifId : vm'.ifIdReg = vm.ifIdReg
  stalled : stall = true →
    vm.ifIdReg.isValid = true ∧ vm'.programCounter = vm.programCounter
  drained : stall = false → vm.programSize ≤ vm.programCounter →
    vm'.nextIfIdReg.isValid = false ∧ vm'.programCounter = vm.programCounter
  fetched : stall = false → vm.programCounter < vm.programSize →
    vm'.nextIfIdReg.isValid = true ∧ vm'.programCounter = vm.programCounter + 4#64 ∧
      vm'.memoryController.readWord vm.programCounter = .ok vm'.nextIfIdReg.instruction

variable {stall : Bool}

theorem reportStep_eq (vm : Rv5sVm) : ∃ stop status, vm.reportStep =
    { vm with stopRequested := stop, outputStatus := status } ∧
      stop = (vm.isFinished || vm.stopRequested) ∧ (status = .programEnd → stop = true) := by
  unfold reportStep
  cases hend : vm.isFinished with
  | true => exact ⟨true, .programEnd, rfl, rfl, fun _ => rfl⟩
  | false => exact ⟨vm.stopRequested, .stepCompleted, rfl, rfl, fun h => by cases h⟩

theorem StagesOk.advances (h : vm.StagesOk cfg vm' stall) :
    vm.Advances vm'.endCycle.reportStep stall := by
  obtain ⟨stop, status, heq, -⟩ := reportStep_eq vm'.endCycle
  rw [heq]
  have hifId : vm'.endCycle.ifIdReg = if stall then vm.ifIdReg else vm'.nextIfIdReg := by
    rw [← h.stallRequest, ← h.ifId]
    rfl
  refine ⟨by rw [← h.cycleS]; rfl, h.retired, ?_, h.programSize, h.memWb, h.exMem, h.idEx,
    fun hs => ?_, fun hs hin => ?_, fun hs hin => ?_⟩
  · show (if vm'.stallRequest then vm'.stallCycles + 1#32 else vm'.stallCycles) = _
    rw [h.stallRequest, h.stallCycles]
    cases stall with
    | true => rfl
    | false => exact (BitVec.add_zero _).symm
  · obtain ⟨hvalid, hpc⟩ := h.stalled hs
    rw [hs, if_pos rfl] at hifId
    exact ⟨hvalid, (congrArg IfIdReg.isValid hifId).trans hvalid, hpc⟩
  · obtain ⟨hvalid, hpc⟩ := h.drained hs hin
    rw [hs] at hifId
    exact ⟨(congrArg IfIdReg.isValid hifId).trans hvalid, hpc⟩
  · obtain ⟨hvalid, hpc, -⟩ := h.fetched hs hin
    rw [hs] at hifId
    exact ⟨(congrArg IfIdReg.isValid hifId).trans hvalid, hpc⟩

/-- The cycle leads to latches without branches when the text holds none. -/
theorem StagesOk.branchFree (h : vm.StagesOk cfg vm' stall) (hb : vm.BranchFree cfg)
    (haligned : vm.programCounter.toNat % 4 = 0)
    (htext : vm'.endCycle.reportStep.StraightText) : vm'.endCycle.reportStep.BranchFree cfg := by
  obtain ⟨stop, status, heq, -⟩ := reportStep_eq vm'.endCycle
  rw [heq] at htext ⊢
  have hifId : vm'.endCycle.ifIdReg = if stall then vm.ifIdReg else vm'.nextIfIdReg := by
    rw [← h.stallRequest, ← h.ifId]
    rfl
  refine ⟨fun hvalid => ?_, h.branch, h.reachable, fun a ha h4 => ?_⟩
  · show ¬IsBranchWord vm'.endCycle.ifIdReg.instruction
    have hvalid : vm'.endCycle.ifIdReg.isValid = true := hvalid
    rw [hifId] at hvalid ⊢
    cases stall with
    | true => exact hb.ifId hvalid
    | false =>
      by_cases hin : vm.programSize ≤ vm.programCounter
      · rw [if_neg Bool.false_ne_true, (h.drained rfl hin).1] at hvalid
        cases hvalid
      · rw [BitVec.not_le] at hin
        obtain ⟨-, -, hread⟩ := h.fetched rfl hin
        exact htext _ _ (h.programSize.symm ▸ hin) haligned hread
  · have ha : a < vm'.programSize := ha
    exact hb.legible a (h.programSize ▸ ha) h4

/-- The state of the account and of the run loop between two cycles. -/
structure Accounted (cfg : VmConfig) (vm : Rv5sVm) : Prop where
  cycleInv : vm.CycleInv
  branchFree : vm.BranchFree cfg
  stop : vm.stopRequested = vm.isFinished
  status : vm.outputStatus = .programEnd → vm.stopRequested = true

theorem CycleInv.aligned (h : vm.CycleInv) : vm.programCounter.toNat % 4 = 0 := by
  obtain ⟨f, r, s, c, hc, -⟩ := h
  rw [hc.toNat_pc]
  omega

theorem Accounted.cycle (h : vm.Accounted cfg) (hgo : vm.stopRequested = false)
    (hs : vm.StagesOk cfg vm' stall) (htext : vm'.endCycle.reportStep.StraightText) :
    vm'.endCycle.reportStep.Accounted cfg := by
  have hinv := h.cycleInv.advance hs.advances (h.stop ▸ hgo)
  have hfree := hs.branchFree h.branchFree h.cycleInv.aligned htext
  obtain ⟨stop, status, heq, hstop, hstatus⟩ := reportStep_eq vm'.endCycle
  have hrunning : vm'.endCycle.stopRequested = false := hs.stopRequested.trans hgo
  rw [hrunning, Bool.or_false] at hstop
  rw [heq] at hinv hfree ⊢
  exact ⟨hinv, hfree, hstop, hstatus⟩

/-- A machine that has not run: the pipeline is empty and nothing is counted. -/
structure Unused (cfg : VmConfig) (vm : Rv5sVm) : Prop where
  isEmpty : vm.IsEmpty
  programCounter : vm.programCounter = 0#64
  retired : vm.instructionsRetired = 0#32
  stallCycles : vm.stallCycles = 0#32
  cycleS : vm.cycleS = 0#32
  reachable : vm.memoryController.Reachable cfg

/-- The account of a loaded machine before its first cycle. -/
theorem accounted_of_loadProgram {program : AssembledProgram} (h : vm.Unused cfg)
    (hload : vm.loadProgram cfg program = .ok vm') (hsize : vm'.programSize ≠ 0#64) :
    Accounted cfg { vm' with stopRequested := false, outputStatus := .running } := by
  obtain ⟨base, hbase, rfl⟩ := bind_pure_eq_ok.mp hload
  obtain ⟨m₁, c₁, m₂, c₂, ht, hd, rfl⟩ := loadProgram_eq_ok.mp (throwWith_eq_ok.mp hbase)
  obtain ⟨⟨hifId, hidEx, hexMem, hmemWb⟩, hpc, hretired, hstalls, hcycles, hreachable⟩ := h
  have hsize : c₁.setWidth 64 ≠ 0#64 := hsize
  have hwidth : (c₁.setWidth 64).toNat = c₁.toNat := by
    have hlt := c₁.isLt
    rw [BitVec.toNat_setWidth]
    omega
  have hpos : 0 < (c₁.setWidth 64).toNat :=
    Nat.pos_of_ne_zero fun hzero => hsize (BitVec.eq_of_toNat_eq hzero)
  have hinvalid : vm.ifIdReg.isValid = false := by rw [hifId]; rfl
  refine ⟨⟨0, 0, 0, 0, ⟨hpc, hretired, hstalls, hcycles, Nat.zero_le _, ?_⟩, ?_,
    .inl ⟨rfl, rfl, rfl, hinvalid, hpos⟩⟩, ⟨fun hv => ?_, fun hv => ?_, ?_, ?_⟩, ?_, fun h => ?_⟩
  · show (c₁.setWidth 64).toNat % 4 = 0
    rw [hwidth]
    exact counter_mod_four_of_loadText ht
  · show 0 + (vm.ifIdReg.isValid.toNat + vm.idExReg.isValid.toNat + vm.exMemReg.isValid.toNat +
      vm.memWbReg.isValid.toNat) = 0
    rw [hifId, hidEx, hexMem, hmemWb]
    rfl
  · cases hinvalid.symm.trans hv
  · have hv : vm.idExReg.isValid = true := hv
    rw [hidEx] at hv
    cases hv
  · exact reachable_loadData (reachable_loadText hreachable ht) hd
  · intro a ha h4
    have ha : a.toNat < (c₁.setWidth 64).toNat := ha
    exact legible_of_loadText hreachable ht (hwidth ▸ ha) h4
  · symm
    show (decide (c₁.setWidth 64 ≤ vm.programCounter) && _) = false
    rw [hpc, decide_eq_false, Bool.false_and]
    rw [BitVec.le_def]
    exact Nat.not_le.mpr hpos
  · cases h

/-! ### The stages -/

/-- What write-back and memory leave for the other stages. -/
structure AfterMemory (cfg : VmConfig) (vm vm' : Rv5sVm) : Prop where
  cycleS : vm'.cycleS = vm.cycleS
  retired : vm'.instructionsRetired =
    vm.instructionsRetired + BitVec.ofNat 32 vm.memWbReg.isValid.toNat
  stallCycles : vm'.stallCycles = vm.stallCycles
  programCounter : vm'.programCounter = vm.programCounter
  programSize : vm'.programSize = vm.programSize
  stopRequested : vm'.stopRequested = vm.stopRequested
  reachable : vm'.memoryController.Reachable cfg
  stallRequest : vm'.stallRequest = false
  flushPipeline : vm'.flushPipeline = false
  ifId : vm'.ifIdReg = vm.ifIdReg
  idEx : vm'.idExReg = vm.idExReg
  memWb : vm'.nextMemWbReg.isValid = vm.exMemReg.isValid

theorem writeBackStage_shape (vm : Rv5sVm) :
    ∃ registers retired, vm.writeBackStage =
        { vm with registers := registers, instructionsRetired := retired } ∧
      retired = vm.instructionsRetired + BitVec.ofNat 32 vm.memWbReg.isValid.toNat := by
  unfold writeBackStage
  cases vm.memWbReg.isValid with
  | false => exact ⟨vm.registers, _, rfl, (BitVec.add_zero _).symm⟩
  | true => exact ⟨_, _, rfl, rfl⟩

theorem memoryStage_shape (h : vm.memoryStage cfg = .ok vm') :
    ∃ m l, vm' = { vm with memoryController := m, nextMemWbReg := l } ∧
      l.isValid = vm.exMemReg.isValid := by
  unfold memoryStage at h
  dsimp only at h
  split at h
  · rename_i hvalid
    have hvalid : vm.exMemReg.isValid = false := by simpa using hvalid
    cases h
    exact ⟨_, _, rfl, hvalid.symm⟩
  split at h
  · cases h
    exact ⟨_, _, rfl, rfl⟩
  split at h
  · obtain ⟨x, -, rfl⟩ := bind_pure_eq_ok.mp h
    exact ⟨_, _, rfl, rfl⟩
  · obtain ⟨m, -, rfl⟩ := bind_pure_eq_ok.mp h
    exact ⟨m, _, rfl, rfl⟩

theorem afterMemory_of_memoryStage (hm : vm.memoryController.Reachable cfg)
    (h : (writeBackStage { vm with stallRequest := false, flushPipeline := false }).memoryStage
      cfg = .ok vm') : vm.AfterMemory cfg vm' := by
  obtain ⟨registers, retired, heq, hretired⟩ :=
    writeBackStage_shape { vm with stallRequest := false, flushPipeline := false }
  rw [heq] at h
  have hreachable := (memoryStage_ok h).1 hm
  obtain ⟨memory, l, rfl, hl⟩ := memoryStage_shape h
  exact ⟨rfl, hretired, rfl, rfl, rfl, rfl, hreachable, rfl, rfl, rfl, rfl, hl⟩

end Rv5sVm

/-! ### The machine that decides branches in execute -/

namespace RV5SEXVM

variable {cfg : VmConfig} {vm vm' : RV5SEXVM}

theorem executeStage_shape (hb : vm.idExReg.isValid = true → vm.idExReg.control.branch = false)
    (h : executeStage vm = .ok vm') :
    ∃ l, vm' = { vm with nextExMemReg := l } ∧ l.isValid = vm.idExReg.isValid := by
  unfold executeStage at h
  dsimp only at h
  split at h
  · rename_i hvalid
    have hvalid : vm.idExReg.isValid = false := by simpa using hvalid
    cases h
    exact ⟨_, rfl, hvalid.symm⟩
  rename_i hvalid
  split at h
  · cases h
    exact ⟨_, rfl, rfl⟩
  · obtain ⟨x, -, rfl⟩ := bind_pure_eq_ok.mp h
    unfold resolveBranch
    dsimp only
    rw [if_neg]
    · exact ⟨_, rfl, rfl⟩
    · rw [hb (by simpa using hvalid)]
      exact Bool.false_ne_true

theorem decodeStage_shape (vm : RV5SEXVM) (hflush : vm.flushPipeline = false)
    (hstall : vm.stallRequest = false)
    (hb : vm.ifIdReg.isValid = true → ¬IsBranchWord vm.ifIdReg.instruction) :
    ∃ stall l, decodeStage vm = { vm with stallRequest := stall, nextIdExReg := l } ∧
      l.isValid = (vm.ifIdReg.isValid && !stall) ∧
      (l.isValid = true → l.control.branch = false) ∧
      (stall = true → vm.ifIdReg.isValid = true) := by
  unfold decodeStage
  rw [if_neg (by rw [hflush]; exact Bool.false_ne_true)]
  cases hvalid : vm.ifIdReg.isValid with
  | false =>
    refine ⟨false, .bubble, ?_, rfl, ?_, ?_⟩
    · rw [if_pos (by rfl), ← hstall]
    · intro h
      cases h
    · intro h
      cases h
  | true =>
    obtain ⟨hbranch, hop⟩ := branch_of_not_isBranchWord (hb hvalid)
    rw [if_neg (by decide)]
    dsimp only
    split
    · exact ⟨false, _, by rw [← hstall], hvalid, fun _ => hbranch, fun h => Bool.noConfusion h⟩
    split
    · exact ⟨false, _, by rw [← hstall], hvalid, fun _ => hbranch, fun h => Bool.noConfusion h⟩
    split
    · exact ⟨false, _, by rw [← hstall], hvalid, fun _ => hbranch, fun h => Bool.noConfusion h⟩
    split
    · refine ⟨true, .bubble, rfl, rfl, ?_, fun _ => rfl⟩
      intro h
      cases h
    · refine ⟨false, vm.decodedIdEx (getControlSignals vm.ifIdReg.instruction), ?_, hvalid,
        fun _ => hbranch, fun h => Bool.noConfusion h⟩
      unfold predictBranch
      rw [hop, hbranch, if_neg (by decide), if_neg (by decide), ← hstall]

theorem fetchStage_shape (hflush : vm.flushPipeline = false)
    (hlegible : vm.programCounter < vm.programSize →
      ∃ w, vm.memoryController.readWord vm.programCounter = .ok w)
    (h : fetchStage vm = .ok vm') :
    ∃ l pc, vm' = { vm with nextIfIdReg := l, programCounter := pc } ∧
      (vm.programSize ≤ vm.programCounter → l.isValid = false ∧ pc = vm.programCounter) ∧
      (vm.programCounter < vm.programSize → l.isValid = true ∧ pc = vm.programCounter + 4#64 ∧
        vm.memoryController.readWord vm.programCounter = .ok l.instruction) := by
  unfold fetchStage at h
  rw [if_neg (by rw [hflush]; exact Bool.false_ne_true)] at h
  by_cases hin : vm.programSize ≤ vm.programCounter
  · rw [if_pos hin] at h
    cases h
    exact ⟨.bubble, vm.programCounter, rfl, fun _ => ⟨rfl, rfl⟩,
      fun hlt => absurd hin (BitVec.not_le.mpr hlt)⟩
  · rw [if_neg hin] at h
    obtain ⟨w, hw⟩ := hlegible (BitVec.not_le.mp hin)
    rw [hw] at h
    cases h
    exact ⟨_, _, rfl, fun hle => absurd hle hin, fun _ => ⟨rfl, rfl, hw⟩⟩

/-- The stages of a cycle without branches. -/
theorem stagesOk_of_runStages (hb : Rv5sVm.BranchFree cfg vm)
    (haligned : vm.programCounter.toNat % 4 = 0) (h : runStages cfg vm = .ok vm') :
    ∃ stall, Rv5sVm.StagesOk cfg vm vm' stall := by
  obtain ⟨m, hm, h⟩ := bind_eq_ok.mp h
  obtain ⟨e, he, h⟩ := bind_eq_ok.mp h
  have ha := Rv5sVm.afterMemory_of_memoryStage hb.reachable hm
  obtain ⟨l₃, rfl, hl₃⟩ := executeStage_shape (by rw [ha.idEx]; exact hb.idEx) he
  rw [ha.idEx] at hl₃
  obtain ⟨stall, l₂, hdecode, hl₂, hbranch, hvalid⟩ :=
    decodeStage_shape { m with nextExMemReg := l₃ } ha.flushPipeline ha.stallRequest
      (by rw [ha.ifId]; exact hb.ifId)
  rw [ha.ifId] at hl₂ hvalid
  dsimp only at h
  rw [hdecode] at h
  cases stall with
  | true =>
    cases h
    exact ⟨true, ha.cycleS, ha.retired, ha.stallCycles, ha.programSize, ha.stopRequested,
      ha.reachable, rfl, ha.memWb, hl₃, hl₂, hbranch, ha.ifId,
      fun _ => ⟨hvalid rfl, ha.programCounter⟩, fun h => Bool.noConfusion h, fun h => Bool.noConfusion h⟩
  | false =>
    have h : fetchStage
        { m with nextExMemReg := l₃, stallRequest := false, nextIdExReg := l₂ } = .ok vm' := h
    have hlegible : m.programCounter < m.programSize →
        ∃ w, m.memoryController.readWord m.programCounter = .ok w := by
      rw [ha.programCounter, ha.programSize]
      exact fun hin => hb.legible _ hin haligned _ ha.reachable
    obtain ⟨l₁, pc, rfl, hend, hword⟩ := fetchStage_shape (by exact ha.flushPipeline) (by exact hlegible) h
    dsimp only at hend hword
    rw [ha.programCounter, ha.programSize] at hend hword
    exact ⟨false, ha.cycleS, ha.retired, ha.stallCycles, ha.programSize, ha.stopRequested,
      ha.reachable, rfl, ha.memWb, hl₃, hl₂, hbranch, ha.ifId,
      fun h => Bool.noConfusion h, fun _ => hend, fun _ => hword⟩

theorem accounted_of_step (h : Rv5sVm.Accounted cfg vm) (hgo : vm.stopRequested = false)
    (hstep : step cfg vm = .ok vm') (htext : Rv5sVm.StraightText vm') :
    Rv5sVm.Accounted cfg vm' := by
  unfold step at hstep
  split at hstep
  · rename_i hend
    cases hgo.symm.trans (h.status hend)
  · obtain ⟨vm₁, hrun, rfl⟩ := bind_pure_eq_ok.mp hstep
    obtain ⟨stall, hs⟩ := stagesOk_of_runStages h.branchFree h.cycleInv.aligned hrun
    exact h.cycle hgo hs htext

/-- At no cycle of the run does a branch stand in the text. -/
def RunsStraight (cfg : VmConfig) (vm : RV5SEXVM) : Prop :=
  ∀ s, Reaches (·.stopRequested) (step cfg) (startRun vm) s → Rv5sVm.StraightText s

/-- The account at the end of a run. -/
theorem cycles_eq_of_run {fuel : Nat} (h : Rv5sVm.Accounted cfg (startRun vm))
    (htext : RunsStraight cfg vm) (hrun : run cfg fuel vm = some (.ok vm')) :
    vm'.cycleS = vm'.instructionsRetired + vm'.stallCycles + 4#32 := by
  have hinv : ∀ s, Reaches (·.stopRequested) (step cfg) (startRun vm) s →
      Rv5sVm.Accounted cfg s := by
    intro s hs
    induction hs with
    | refl => exact h
    | tail hs hgo hstep ih => exact accounted_of_step ih hgo hstep (htext _ (.tail hs hgo hstep))
  obtain ⟨r, hloop, hr⟩ := Option.map_eq_some_iff.mp hrun
  cases r with
  | error e => cases hr
  | ok s =>
    obtain rfl := Except.ok.inj hr
    obtain ⟨hreach, hstop⟩ := reaches_of_runUntil hloop
    have hs := hinv s hreach
    exact hs.cycleInv.cycles_eq (hs.stop ▸ hstop)

end RV5SEXVM

/-! ### The machine that decides branches in decode -/

namespace RV5SIDVM

variable {cfg : VmConfig} {vm vm' : RV5SIDVM}

theorem executeStage_shape (h : executeStage vm = .ok vm') :
    ∃ l, vm' = { vm with nextExMemReg := l } ∧ l.isValid = vm.idExReg.isValid := by
  unfold executeStage at h
  dsimp only at h
  split at h
  · rename_i hvalid
    have hvalid : vm.idExReg.isValid = false := by simpa using hvalid
    cases h
    exact ⟨_, rfl, hvalid.symm⟩
  split at h
  · cases h
    exact ⟨_, rfl, rfl⟩
  · obtain ⟨x, -, rfl⟩ := bind_pure_eq_ok.mp h
    exact ⟨_, rfl, rfl⟩

theorem decodeStage_shape (vm : RV5SIDVM) (hflush : vm.flushPipeline = false)
    (hstall : vm.stallRequest = false)
    (hb : vm.ifIdReg.isValid = true → ¬IsBranchWord vm.ifIdReg.instruction) :
    ∃ stall l, decodeStage vm = { vm with stallRequest := stall, nextIdExReg := l } ∧
      l.isValid = (vm.ifIdReg.isValid && !stall) ∧
      (l.isValid = true → l.control.branch = false) ∧
      (stall = true → vm.ifIdReg.isValid = true) := by
  unfold decodeStage
  rw [if_neg (by rw [hflush]; exact Bool.false_ne_true)]
  cases hvalid : vm.ifIdReg.isValid with
  | false =>
    refine ⟨false, .bubble, ?_, rfl, ?_, ?_⟩
    · rw [if_pos (by rfl), ← hstall]
    · intro h
      cases h
    · intro h
      cases h
  | true =>
    have hbranch := (branch_of_not_isBranchWord (hb hvalid)).1
    rw [if_neg (by decide)]
    dsimp only
    split
    · exact ⟨false, _, by rw [← hstall], hvalid, fun _ => hbranch, fun h => Bool.noConfusion h⟩
    split
    · exact ⟨false, _, by rw [← hstall], hvalid, fun _ => hbranch, fun h => Bool.noConfusion h⟩
    split
    · exact ⟨false, _, by rw [← hstall], hvalid, fun _ => hbranch, fun h => Bool.noConfusion h⟩
    split
    · refine ⟨true, .bubble, rfl, rfl, ?_, fun _ => rfl⟩
      intro h
      cases h
    · refine ⟨false, vm.toRv5sVm.decodedIdEx (getControlSignals vm.ifIdReg.instruction), ?_,
        hvalid, fun _ => hbranch, fun h => Bool.noConfusion h⟩
      unfold resolveBranch
      rw [hbranch, if_neg (by decide), ← hstall]

/-- With an empty target buffer the fetch goes on with the next word. -/
theorem fetchStage_shape (hbtb : vm.btb = .empty) (hflush : vm.flushPipeline = false)
    (hlegible : vm.programCounter < vm.programSize →
      ∃ w, vm.memoryController.readWord vm.programCounter = .ok w)
    (h : fetchStage vm = .ok vm') :
    ∃ l pc, vm' = { vm with nextIfIdReg := l, programCounter := pc } ∧
      (vm.programSize ≤ vm.programCounter → l.isValid = false ∧ pc = vm.programCounter) ∧
      (vm.programCounter < vm.programSize → l.isValid = true ∧ pc = vm.programCounter + 4#64 ∧
        vm.memoryController.readWord vm.programCounter = .ok l.instruction) := by
  unfold fetchStage at h
  rw [if_neg (by rw [hflush]; exact Bool.false_ne_true)] at h
  by_cases hin : vm.programSize ≤ vm.programCounter
  · rw [if_pos hin] at h
    cases h
    exact ⟨.bubble, vm.programCounter, rfl, fun _ => ⟨rfl, rfl⟩,
      fun hlt => absurd hin (BitVec.not_le.mpr hlt)⟩
  · rw [if_neg hin] at h
    obtain ⟨w, hw⟩ := hlegible (BitVec.not_le.mp hin)
    have hlookup : vm.btb.lookup vm.programCounter = (false, 0#64) := by
      rw [hbtb]
      rfl
    rw [hw, hlookup] at h
    cases h
    exact ⟨_, _, rfl, fun hle => absurd hle hin, fun _ => ⟨rfl, rfl, hw⟩⟩

/-- The stages of a cycle without branches. -/
theorem stagesOk_of_runStages (hb : Rv5sVm.BranchFree cfg vm.toRv5sVm) (hbtb : vm.btb = .empty)
    (haligned : vm.programCounter.toNat % 4 = 0) (h : runStages cfg vm = .ok vm') :
    (∃ stall, Rv5sVm.StagesOk cfg vm.toRv5sVm vm'.toRv5sVm stall) ∧ vm'.btb = .empty := by
  obtain ⟨m, hm, hrest⟩ := bind_eq_ok.mp h
  obtain ⟨base, hbase, rfl⟩ := bind_pure_eq_ok.mp hm
  obtain ⟨e, he, hrest⟩ := bind_eq_ok.mp hrest
  have ha : vm.toRv5sVm.AfterMemory cfg base :=
    Rv5sVm.afterMemory_of_memoryStage hb.reachable (throwWith_eq_ok.mp hbase)
  have he : executeStage (vm.withBase base) = .ok e := he
  obtain ⟨l₃, heq, hl₃⟩ := executeStage_shape he
  have hl₃ : l₃.isValid = vm.idExReg.isValid := by rw [hl₃, ← ha.idEx]; rfl
  have hifId : e.ifIdReg = vm.ifIdReg := by rw [heq, ← ha.ifId]; rfl
  obtain ⟨stall, l₂, hdecode, hl₂, hbranch, hvalid⟩ :=
    decodeStage_shape e (by rw [heq]; exact ha.flushPipeline)
      (by rw [heq]; exact ha.stallRequest) (by rw [hifId]; exact hb.ifId)
  rw [hifId] at hl₂ hvalid
  dsimp only at hrest
  rw [hdecode] at hrest
  cases stall with
  | true =>
    subst heq
    cases hrest
    exact ⟨⟨true, ha.cycleS, ha.retired, ha.stallCycles, ha.programSize, ha.stopRequested,
      ha.reachable, rfl, ha.memWb, hl₃, hl₂, hbranch, ha.ifId,
      fun _ => ⟨hvalid rfl, ha.programCounter⟩, fun h => Bool.noConfusion h,
      fun h => Bool.noConfusion h⟩, hbtb⟩
  | false =>
    subst heq
    have h : fetchStage { vm.withBase base with
        nextExMemReg := l₃, stallRequest := false, nextIdExReg := l₂ } = .ok vm' := hrest
    have hlegible : base.programCounter < base.programSize →
        ∃ w, base.memoryController.readWord base.programCounter = .ok w := by
      rw [ha.programCounter, ha.programSize]
      exact fun hin => hb.legible _ hin haligned _ ha.reachable
    obtain ⟨l₁, pc, rfl, hend, hword⟩ :=
      fetchStage_shape (by exact hbtb) (by exact ha.flushPipeline) (by exact hlegible) h
    have hend : base.programSize ≤ base.programCounter →
        l₁.isValid = false ∧ pc = base.programCounter := hend
    have hword : base.programCounter < base.programSize →
        l₁.isValid = true ∧ pc = base.programCounter + 4#64 ∧
          base.memoryController.readWord base.programCounter = .ok l₁.instruction := hword
    rw [ha.programCounter, ha.programSize] at hend hword
    exact ⟨⟨false, ha.cycleS, ha.retired, ha.stallCycles, ha.programSize, ha.stopRequested,
      ha.reachable, rfl, ha.memWb, hl₃, hl₂, hbranch, ha.ifId, fun h => Bool.noConfusion h,
      fun _ => hend, fun _ => hword⟩, hbtb⟩

theorem accounted_of_step (h : Rv5sVm.Accounted cfg vm.toRv5sVm) (hbtb : vm.btb = .empty)
    (hgo : vm.stopRequested = false) (hstep : step cfg vm = .ok vm')
    (htext : Rv5sVm.StraightText vm'.toRv5sVm) :
    Rv5sVm.Accounted cfg vm'.toRv5sVm ∧ vm'.btb = .empty := by
  unfold step at hstep
  split at hstep
  · rename_i hend
    cases hgo.symm.trans (h.status hend)
  · obtain ⟨vm₁, hrun, rfl⟩ := bind_pure_eq_ok.mp hstep
    obtain ⟨⟨stall, hs⟩, hbtb'⟩ := stagesOk_of_runStages h.branchFree hbtb h.cycleInv.aligned hrun
    exact ⟨h.cycle hgo hs htext, hbtb'⟩

/-- At no cycle of the run does a branch stand in the text. -/
def RunsStraight (cfg : VmConfig) (vm : RV5SIDVM) : Prop :=
  ∀ s, Reaches (·.stopRequested) (step cfg) (startRun vm) s → Rv5sVm.StraightText s.toRv5sVm

/-- The account at the end of a run. -/
theorem cycles_eq_of_run {fuel : Nat} (h : Rv5sVm.Accounted cfg (startRun vm).toRv5sVm)
    (hbtb : vm.btb = .empty) (htext : RunsStraight cfg vm)
    (hrun : run cfg fuel vm = some (.ok vm')) :
    vm'.cycleS = vm'.instructionsRetired + vm'.stallCycles + 4#32 := by
  have hinv : ∀ s, Reaches (·.stopRequested) (step cfg) (startRun vm) s →
      Rv5sVm.Accounted cfg s.toRv5sVm ∧ s.btb = .empty := by
    intro s hs
    induction hs with
    | refl => exact ⟨h, hbtb⟩
    | tail hs hgo hstep ih =>
      exact accounted_of_step ih.1 ih.2 hgo hstep (htext _ (.tail hs hgo hstep))
  obtain ⟨r, hloop, hr⟩ := Option.map_eq_some_iff.mp hrun
  cases r with
  | error e => cases hr
  | ok s =>
    obtain rfl := Except.ok.inj hr
    obtain ⟨hreach, hstop⟩ := reaches_of_runUntil hloop
    have hs := (hinv s hreach).1
    exact hs.cycleInv.cycles_eq (hs.stop ▸ hstop)

end RV5SIDVM

/-! ### Both machines -/

/-- What the constructor and the user's choices leave. -/
theorem unused_of_new (cfg : VmConfig) (predictor : BranchPredictor) (enable : Bool) :
    Rv5sVm.Unused cfg { Rv5sVm.reset cfg (Rv5sVm.blank cfg) with
      branchPredictor := predictor
      forwardingEnabled := enable } :=
  ⟨⟨rfl, rfl, rfl, rfl⟩, rfl, rfl, rfl, rfl, .reset .new⟩

/-- **The cycles of a straight-line program**, on either machine and with
forwarding on or off: one for each retired instruction, one for each stall, and
four that empty the pipeline. -/
theorem cycles_eq_retired_add_stalls (cfg : VmConfig) (type : BranchPredictorType)
    (enable : Bool) (program : AssembledProgram) (fuel : Nat) :
    (∀ vm₀ vm₁ : RV5SEXVM,
      (((RV5SEXVM.new cfg).setBranchPredictorType type).enableForwarding enable).loadProgram cfg
        program = .ok vm₀ →
      vm₀.programSize ≠ 0#64 → vm₀.RunsStraight cfg → vm₀.run cfg fuel = some (.ok vm₁) →
      vm₁.cycleS = vm₁.instructionsRetired + vm₁.stallCycles + 4#32) ∧
    (∀ vm₀ vm₁ : RV5SIDVM,
      (((RV5SIDVM.new cfg).setBranchPredictorType type).enableForwarding enable).loadProgram cfg
        program = .ok vm₀ →
      vm₀.programSize ≠ 0#64 → vm₀.RunsStraight cfg → vm₀.run cfg fuel = some (.ok vm₁) →
      vm₁.cycleS = vm₁.instructionsRetired + vm₁.stallCycles + 4#32) := by
  constructor
  · intro vm₀ vm₁ hload hsize htext hrun
    have hunused := unused_of_new cfg (.ofType type) enable
    exact RV5SEXVM.cycles_eq_of_run (Rv5sVm.accounted_of_loadProgram hunused hload hsize) htext hrun
  · intro vm₀ vm₁ hload hsize htext hrun
    obtain ⟨base, hbase, rfl⟩ := bind_pure_eq_ok.mp hload
    have hunused := unused_of_new cfg (.ofType type) enable
    exact RV5SIDVM.cycles_eq_of_run
      (Rv5sVm.accounted_of_loadProgram hunused (throwWith_eq_ok.mp hbase) hsize) rfl htext hrun

/-- `addi x1, x0, 5` and `addi x2, x1, 1`. -/
def twoAdditions : AssembledProgram where
  textBuffer := [0x00500093#32, 0x00108113#32]

/-- The words of the text, one by one. -/
def textIsStraight (vm : Rv5sVm) : Bool :=
  (List.range (vm.programSize.toNat / 4)).all fun k =>
    (vm.memoryController.readWord (BitVec.ofNat 64 (4 * k))).toOption.all fun w =>
      !decide (IsBranchWord w)

theorem straightText_of_textIsStraight {vm : Rv5sVm} (h : textIsStraight vm = true)
    (hsize : vm.programSize.toNat % 4 = 0) : vm.StraightText := by
  intro a w ha h4 hread hw
  have hlt : a.toNat < vm.programSize.toNat := ha
  have hk := List.all_eq_true.mp h (a.toNat / 4) (List.mem_range.mpr (by omega))
  have haddress : BitVec.ofNat 64 (4 * (a.toNat / 4)) = a := by
    apply BitVec.eq_of_toNat_eq
    rw [BitVec.toNat_ofNat]
    omega
  rw [haddress, hread] at hk
  simp [hw, Except.toOption] at hk

theorem cycles_eq_retired_add_stalls_twoAdditions :
    ∃ vm₀ vm₁, ((((RV5SEXVM.new {}).setBranchPredictorType .staticTaken).enableForwarding
        false).loadProgram {} twoAdditions = .ok vm₀) ∧ RV5SEXVM.run {} 20 vm₀ = some (.ok vm₁) ∧
      vm₁.cycleS = vm₁.instructionsRetired + vm₁.stallCycles + 4#32 := by
  let vm₀ : RV5SEXVM :=
    ((((RV5SEXVM.new {}).setBranchPredictorType .staticTaken).enableForwarding
      false).loadProgram {} twoAdditions).toOption.getD (RV5SEXVM.new {})
  have hload : (((RV5SEXVM.new {}).setBranchPredictorType .staticTaken).enableForwarding
      false).loadProgram {} twoAdditions = .ok vm₀ :=
    eq_ok_getD _ (by decide +kernel)
  have hrun := eq_some_ok_getD (x := RV5SEXVM.run {} 20 vm₀) (RV5SEXVM.new {}) (by decide +kernel)
  have hchecks : (after (RV5SEXVM.step {}) (RV5SEXVM.startRun vm₀) 8).stopRequested = true ∧
      ∀ k ≤ 8, textIsStraight (after (RV5SEXVM.step {}) (RV5SEXVM.startRun vm₀) k) = true ∧
        (after (RV5SEXVM.step {}) (RV5SEXVM.startRun vm₀) k).programSize.toNat % 4 = 0 := by
    decide +kernel
  have htext : RV5SEXVM.RunsStraight {} vm₀ := by
    intro s hs
    obtain ⟨k, hk, rfl⟩ := hs.exists_after hchecks.1
    exact straightText_of_textIsStraight (hchecks.2 k hk).1 (hchecks.2 k hk).2
  have hsize : vm₀.programSize ≠ 0#64 := by decide +kernel
  clear_value vm₀
  exact ⟨vm₀, _, hload, hrun,
    (cycles_eq_retired_add_stalls {} .staticTaken false twoAdditions 20).1 vm₀ _ hload hsize htext
      hrun⟩

/-- `lui x1, 1024`, `addi x1, x1, 111`, `sw x1, 20(x0)` and three NOPs: the store
puts `jal x0, 4` in the place of the last one. -/
def storesJump : AssembledProgram where
  textBuffer := [0x004000B7#32, 0x06F08093#32, 0x00102A23#32, 0x00000013#32, 0x00000013#32,
    0x00000013#32]

/-- The jump that the program has stored is fetched, and counts a stall that
delays nothing. -/
theorem cycles_ne_storesJump :
    storesJump.textBuffer ≠ [] ∧ (∀ w ∈ storesJump.textBuffer, ¬IsBranchWord w) ∧
    ∃ vm₀ vm₁, (((RV5SEXVM.new {}).setBranchPredictorType .staticNotTaken).enableForwarding
        true).loadProgram {} storesJump = .ok vm₀ ∧ RV5SEXVM.run {} 20 vm₀ = some (.ok vm₁) ∧
      vm₁.cycleS ≠ vm₁.instructionsRetired + vm₁.stallCycles + 4#32 := by
  have hwords : (storesJump.textBuffer.all fun w => decide (¬IsBranchWord w)) = true := by
    decide +kernel
  refine ⟨by decide, fun w hw => of_decide_eq_true (List.all_eq_true.mp hwords w hw), ?_⟩
  let vm₀ : RV5SEXVM :=
    ((((RV5SEXVM.new {}).setBranchPredictorType .staticNotTaken).enableForwarding
      true).loadProgram {} storesJump).toOption.getD (RV5SEXVM.new {})
  have hload : (((RV5SEXVM.new {}).setBranchPredictorType .staticNotTaken).enableForwarding
      true).loadProgram {} storesJump = .ok vm₀ :=
    eq_ok_getD _ (by decide +kernel)
  have hrun := eq_some_ok_getD (x := RV5SEXVM.run {} 20 vm₀) (RV5SEXVM.new {}) (by decide +kernel)
  exact ⟨vm₀, _, hload, hrun, by decide +kernel⟩

end RiscvSim

import RiscvSim.Vm.Rv5s.ExVm

/-!
# What the stages leave alone

The stages of a cycle do not touch the members of the run loop: the stop flag,
the status, the breakpoints and the size of the program (`keeps_runStages`).
-/

namespace RiscvSim

open Lib

/-- The members of the run loop are the same. -/
structure Rv5sVm.Keeps (vm vm' : Rv5sVm) : Prop where
  stopRequested : vm'.stopRequested = vm.stopRequested
  outputStatus : vm'.outputStatus = vm.outputStatus
  breakpoints : vm'.breakpoints = vm.breakpoints
  programSize : vm'.programSize = vm.programSize

namespace Rv5sVm.Keeps

theorem refl (vm : Rv5sVm) : vm.Keeps vm :=
  ⟨rfl, rfl, rfl, rfl⟩

theorem trans {vm₁ vm₂ vm₃ : Rv5sVm} (h₁ : vm₁.Keeps vm₂) (h₂ : vm₂.Keeps vm₃) :
    vm₁.Keeps vm₃ :=
  ⟨h₂.stopRequested.trans h₁.stopRequested, h₂.outputStatus.trans h₁.outputStatus,
    h₂.breakpoints.trans h₁.breakpoints, h₂.programSize.trans h₁.programSize⟩

end Rv5sVm.Keeps

variable {cfg : VmConfig}

theorem keeps_writeBackStage (vm : Rv5sVm) : vm.Keeps vm.writeBackStage := by
  unfold Rv5sVm.writeBackStage
  split <;> exact ⟨rfl, rfl, rfl, rfl⟩

theorem keeps_memoryStage {vm vm' : Rv5sVm} (h : vm.memoryStage cfg = .ok vm') :
    vm.Keeps vm' := by
  unfold Rv5sVm.memoryStage at h
  dsimp only at h
  split at h
  · obtain rfl := Except.ok.inj h
    exact ⟨rfl, rfl, rfl, rfl⟩
  split at h
  · obtain rfl := Except.ok.inj h
    exact ⟨rfl, rfl, rfl, rfl⟩
  split at h
  · obtain ⟨_, -, rfl⟩ := bind_pure_eq_ok.mp h
    exact ⟨rfl, rfl, rfl, rfl⟩
  · obtain ⟨_, -, rfl⟩ := bind_pure_eq_ok.mp h
    exact ⟨rfl, rfl, rfl, rfl⟩

namespace RV5SEXVM

theorem keeps_resolveBranch (vm : RV5SEXVM) (x : BitVec 64) :
    Rv5sVm.Keeps vm (resolveBranch vm x) := by
  unfold resolveBranch
  dsimp only
  split
  · split
    · exact ⟨rfl, rfl, rfl, rfl⟩
    · split <;> exact ⟨rfl, rfl, rfl, rfl⟩
  · exact .refl vm

theorem keeps_executeStage {vm vm' : RV5SEXVM} (h : executeStage vm = .ok vm') :
    Rv5sVm.Keeps vm vm' := by
  unfold executeStage at h
  dsimp only at h
  split at h
  · obtain rfl := Except.ok.inj h
    exact ⟨rfl, rfl, rfl, rfl⟩
  split at h
  · obtain rfl := Except.ok.inj h
    exact ⟨rfl, rfl, rfl, rfl⟩
  · obtain ⟨x, -, rfl⟩ := bind_pure_eq_ok.mp h
    have hkeeps := keeps_resolveBranch { vm with nextExMemReg := { vm.nextExMemReg with
      control := vm.idExReg.control
      isValid := vm.idExReg.isValid } } x
    exact ⟨hkeeps.stopRequested, hkeeps.outputStatus, hkeeps.breakpoints, hkeeps.programSize⟩

theorem keeps_predictBranch (vm : RV5SEXVM) (control : ControlSignals) :
    Rv5sVm.Keeps vm (predictBranch vm control) := by
  unfold predictBranch
  split
  · exact ⟨rfl, rfl, rfl, rfl⟩
  split
  · dsimp only
    split <;> exact ⟨rfl, rfl, rfl, rfl⟩
  · exact .refl vm

theorem keeps_decodeStage (vm : RV5SEXVM) : Rv5sVm.Keeps vm (decodeStage vm) := by
  unfold decodeStage
  dsimp only
  split
  · exact ⟨rfl, rfl, rfl, rfl⟩
  split
  · exact ⟨rfl, rfl, rfl, rfl⟩
  split
  · exact ⟨rfl, rfl, rfl, rfl⟩
  split
  · exact ⟨rfl, rfl, rfl, rfl⟩
  split
  · exact ⟨rfl, rfl, rfl, rfl⟩
  split
  · exact ⟨rfl, rfl, rfl, rfl⟩
  · have hkeeps := keeps_predictBranch
      { vm with
        nextIdExReg := vm.decodedIdEx (RV5SControlUnit.getControlSignals vm.ifIdReg.instruction) }
      (RV5SControlUnit.getControlSignals vm.ifIdReg.instruction)
    exact ⟨hkeeps.stopRequested, hkeeps.outputStatus, hkeeps.breakpoints, hkeeps.programSize⟩

theorem keeps_fetchStage {vm vm' : RV5SEXVM} (h : fetchStage vm = .ok vm') :
    Rv5sVm.Keeps vm vm' := by
  unfold fetchStage at h
  split at h
  · obtain rfl := Except.ok.inj h
    exact ⟨rfl, rfl, rfl, rfl⟩
  split at h
  · obtain rfl := Except.ok.inj h
    exact ⟨rfl, rfl, rfl, rfl⟩
  split at h
  · obtain rfl := Except.ok.inj h
    exact ⟨rfl, rfl, rfl, rfl⟩
  · obtain rfl := Except.ok.inj h
    exact ⟨rfl, rfl, rfl, rfl⟩
  · cases h

/-- The stages of a cycle keep the members of the run loop. -/
theorem keeps_runStages {vm vm' : RV5SEXVM} (h : runStages cfg vm = .ok vm') :
    Rv5sVm.Keeps vm vm' := by
  obtain ⟨m, hm, h⟩ := bind_eq_ok.mp h
  obtain ⟨e, he, h⟩ := bind_eq_ok.mp h
  have hwb := keeps_writeBackStage { vm with stallRequest := false, flushPipeline := false }
  have hwb : Rv5sVm.Keeps vm _ :=
    ⟨hwb.stopRequested, hwb.outputStatus, hwb.breakpoints, hwb.programSize⟩
  have hdecoded : Rv5sVm.Keeps vm (decodeStage e) :=
    hwb.trans ((keeps_memoryStage hm).trans ((keeps_executeStage he).trans (keeps_decodeStage e)))
  dsimp only at h
  split at h
  · obtain rfl := Except.ok.inj h
    exact hdecoded
  · exact hdecoded.trans (keeps_fetchStage h)

/-- A step sets the stop flag at the end of the program and never clears it. -/
theorem stopRequested_of_step {vm vm' : RV5SEXVM} (h : step cfg vm = .ok vm')
    (hs : vm.stopRequested = true) : vm'.stopRequested = true := by
  unfold step at h
  split at h
  · obtain rfl := Except.ok.inj h
    exact hs
  · obtain ⟨vm₁, hrun, rfl⟩ := bind_pure_eq_ok.mp h
    unfold Rv5sVm.reportStep
    split
    · rfl
    · exact (keeps_runStages hrun).stopRequested.trans hs

/-- `Run` read off its loop. -/
theorem run_eq_ok {fuel : Nat} {vm vm₁ : RV5SEXVM} (h : run cfg fuel vm = some (.ok vm₁)) :
    ∃ s, runUntil (·.stopRequested) (step cfg) fuel (startRun vm) = some (.ok s) ∧
      vm₁ = { s with stopRequested := false } := by
  obtain ⟨r, hloop, hr⟩ := Option.map_eq_some_iff.mp h
  cases r with
  | error e => cases hr
  | ok s => exact ⟨s, hloop, (Except.ok.inj hr).symm⟩

end RV5SEXVM

end RiscvSim

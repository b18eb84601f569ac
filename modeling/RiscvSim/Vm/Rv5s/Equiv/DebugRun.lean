import RiscvSim.Vm.Equiv.Loader
import RiscvSim.Vm.Rv5s.Equiv.Frame

/-!
# Runs with breakpoints

`DebugRun` takes the steps of `Run` and also stops where the program counter
is at a breakpoint.  The load of a program sets one at its end, and the program
counter of a pipeline gets there before the last instructions have retired.

* **`debugRun_agrees_iff`**: exactly when `DebugRun` ends a loaded program as `Run` does.
-/

namespace RiscvSim

open Lib

namespace RV5SEXVM

variable {cfg : VmConfig}

/-- What the loop of a run keeps: the breakpoints, the size of the program, and
that only the end of the program sets the stop flag. -/
structure LoopOk (vm₀ vm : RV5SEXVM) : Prop where
  breakpoints : vm.breakpoints = vm₀.breakpoints
  programSize : vm.programSize = vm₀.programSize
  status : vm.stopRequested = true → vm.outputStatus = .programEnd

theorem loopOk_startRun (vm : RV5SEXVM) : LoopOk vm (startRun vm) :=
  ⟨rfl, rfl, fun h => Bool.noConfusion h⟩

theorem LoopOk.step {vm₀ vm vm' : RV5SEXVM} (hvm : LoopOk vm₀ vm) (hgo : vm.stopRequested = false)
    (h : step cfg vm = .ok vm') : LoopOk vm₀ vm' := by
  unfold RV5SEXVM.step at h
  split at h
  · obtain rfl := Except.ok.inj h
    exact hvm
  · obtain ⟨vm₁, hrun, rfl⟩ := bind_pure_eq_ok.mp h
    have hkeeps := keeps_runStages hrun
    refine ⟨?_, ?_, ?_⟩
    · rw [← hvm.breakpoints, ← hkeeps.breakpoints]
      unfold Rv5sVm.reportStep
      split <;> rfl
    · rw [← hvm.programSize, ← hkeeps.programSize]
      unfold Rv5sVm.reportStep
      split <;> rfl
    · unfold Rv5sVm.reportStep
      split
      · exact fun _ => rfl
      · intro hstop
        have hstop : vm₁.stopRequested = true := hstop
        rw [hkeeps.stopRequested, hgo] at hstop
        cases hstop

theorem loopOk_of_reaches {vm₀ vm : RV5SEXVM}
    (h : Reaches (·.stopRequested) (RV5SEXVM.step cfg) (startRun vm₀) vm) : LoopOk vm₀ vm :=
  h.invariant (LoopOk vm₀) (fun _ _ hvm hgo hs => hvm.step hgo hs) (loopOk_startRun vm₀)

/-- The outcome of a program's run that a user can see. -/
structure SameResult (vm vm' : RV5SEXVM) : Prop where
  gprs : ∀ i, vm'.registers.readGpr i = vm.registers.readGpr i
  memory : vm'.memoryController = vm.memoryController
  programCounter : vm'.programCounter = vm.programCounter
  instructionsRetired : vm'.instructionsRetired = vm.instructionsRetired

/-- `DebugRun` read off its loop. -/
theorem debugRun_eq_of_loop {fuel : Nat} {vm s : RV5SEXVM}
    (h : runUntil (fun vm => vm.stopRequested || vm.checkBreakpoint vm.programCounter)
      (RV5SEXVM.step cfg) fuel (startRun vm) = some (.ok s)) :
    debugRun cfg fuel vm = some (.ok (if s.stopRequested then { s with stopRequested := false }
      else { s with outputStatus := .breakpointHit })) := by
  rw [debugRun, h]
  rfl

theorem debugRun_unique {fuel fuel' : Nat} {vm : RV5SEXVM} {r r' : Except (Fault × RV5SEXVM) RV5SEXVM}
    (h : debugRun cfg fuel vm = some r) (h' : debugRun cfg fuel' vm = some r') : r = r' := by
  obtain ⟨l, hl, rfl⟩ := Option.map_eq_some_iff.mp h
  obtain ⟨l', hl', rfl⟩ := Option.map_eq_some_iff.mp h'
  rw [runUntil_unique hl hl']

/-- The only breakpoint is the end of the program. -/
theorem checkBreakpoint_eq {vm₀ vm : RV5SEXVM} (hbreak : vm₀.breakpoints = [vm₀.programSize])
    (hvm : LoopOk vm₀ vm) :
    vm.checkBreakpoint vm.programCounter = decide (vm.programCounter = vm.programSize) := by
  rw [VmBase.checkBreakpoint, hvm.breakpoints, hbreak, hvm.programSize]
  simp

/-- Where `Run` ends a program whose only breakpoint is its end, `DebugRun` does
the same exactly when no earlier program counter is there. -/
theorem debugRun_agrees_iff_of_breakpoint {fuel : Nat} {vm₀ vm₁ : RV5SEXVM}
    (hbreak : vm₀.breakpoints = [vm₀.programSize]) (hrun : run cfg fuel vm₀ = some (.ok vm₁)) :
    (∃ fuel' vm₂, debugRun cfg fuel' vm₀ = some (.ok vm₂) ∧ vm₂.outputStatus = .programEnd ∧
        SameResult vm₁ vm₂) ↔
      ∀ vm, Reaches (·.stopRequested) (RV5SEXVM.step cfg) (startRun vm₀) vm →
        vm.stopRequested = false → vm.programCounter ≠ vm.programSize := by
  obtain ⟨s, hloop, rfl⟩ := run_eq_ok hrun
  constructor
  · rintro ⟨fuel', vm₂, hdebug, hstatus, -⟩ vm hvm hgo hpc
    have hcheck : (vm.stopRequested || vm.checkBreakpoint vm.programCounter) = true := by
      rw [checkBreakpoint_eq hbreak (loopOk_of_reaches hvm), hgo, hpc]
      simp
    obtain ⟨t, ht, htgo⟩ := runUntil_stops_before
      (fun vm => vm.stopRequested || vm.checkBreakpoint vm.programCounter)
      hloop hvm hgo hcheck
    have heq := Except.ok.inj (debugRun_unique hdebug (debugRun_eq_of_loop ht))
    rw [heq, htgo] at hstatus
    cases hstatus
  · intro hall
    obtain ⟨hreach, hstop⟩ := reaches_of_runUntil hloop
    have hloop' : runUntil (fun vm => vm.stopRequested || vm.checkBreakpoint vm.programCounter)
        (RV5SEXVM.step cfg) fuel (startRun vm₀) = some (.ok s) := by
      rw [← hloop]
      refine runUntil_congr_stop fun vm hvm => ?_
      cases hgo : vm.stopRequested with
      | true => rfl
      | false =>
        rw [checkBreakpoint_eq hbreak (loopOk_of_reaches hvm)]
        simpa using hall vm hvm hgo
    refine ⟨fuel, _, debugRun_eq_of_loop hloop', ?_, ?_⟩
    · rw [if_pos hstop]
      exact (loopOk_of_reaches hreach).status hstop
    · rw [if_pos hstop]
      exact ⟨fun _ => rfl, rfl, rfl, rfl⟩

/-- **`DebugRun` of a program on a fresh machine ends the program with the
result of `Run` exactly when the program counter of no cycle of the run, the
end apart, is at the end of the text.** -/
theorem debugRun_agrees_iff (cfg : VmConfig) (enable : Bool) (type : BranchPredictorType)
    (program : AssembledProgram) (vm₀ : RV5SEXVM)
    (hload : (((new cfg).setBranchPredictorType type).enableForwarding enable).loadProgram cfg
      program = .ok vm₀)
    (fuel : Nat) (vm₁ : RV5SEXVM) (hrun : run cfg fuel vm₀ = some (.ok vm₁)) :
    (∃ fuel' vm₂, debugRun cfg fuel' vm₀ = some (.ok vm₂) ∧ vm₂.outputStatus = .programEnd ∧
        SameResult vm₁ vm₂) ↔
      ∀ vm, Reaches (·.stopRequested) (RV5SEXVM.step cfg) (startRun vm₀) vm →
        vm.stopRequested = false → vm.programCounter ≠ vm.programSize := by
  obtain ⟨base, hbase, rfl⟩ := bind_pure_eq_ok.mp hload
  exact debugRun_agrees_iff_of_breakpoint
    (breakpoints_of_loadProgram (throwWith_eq_ok.mp hbase) rfl) hrun

/-- `jal x0, 16` and two words that are never decoded: the jump skips the end of the text. -/
def jumpPastEnd : AssembledProgram :=
  { textBuffer := [0x0100006f#32, 0x00000013#32, 0x00000013#32] }

theorem debugRun_agrees_iff_jumpPastEnd :
    ∃ vm₀ vm₁, (((new {}).setBranchPredictorType .staticTaken).enableForwarding
        true).loadProgram {} jumpPastEnd = .ok vm₀ ∧
      run {} 20 vm₀ = some (.ok vm₁) ∧
      ∃ fuel' vm₂, debugRun {} fuel' vm₀ = some (.ok vm₂) ∧ vm₂.outputStatus = .programEnd ∧
        SameResult vm₁ vm₂ := by
  let vm₀ : RV5SEXVM :=
    ((((new {}).setBranchPredictorType .staticTaken).enableForwarding
      true).loadProgram {} jumpPastEnd).toOption.getD (new {})
  have hload : (((new {}).setBranchPredictorType .staticTaken).enableForwarding
      true).loadProgram {} jumpPastEnd = .ok vm₀ :=
    eq_ok_getD _ (by decide +kernel)
  have hrun := eq_some_ok_getD (x := run {} 20 vm₀) (new {}) (by decide +kernel)
  have hpcs : ∀ k ≤ 6, (after (RV5SEXVM.step {}) (startRun vm₀) k).programCounter ≠
      (after (RV5SEXVM.step {}) (startRun vm₀) k).programSize := by
    decide +kernel
  have hstop : (after (RV5SEXVM.step {}) (startRun vm₀) 6).stopRequested = true := by
    decide +kernel
  refine ⟨vm₀, _, hload, hrun, ?_⟩
  refine (debugRun_agrees_iff {} true .staticTaken jumpPastEnd vm₀ hload 20 _ hrun).mpr ?_
  intro vm hreach _
  obtain ⟨k, hk, rfl⟩ := hreach.exists_after hstop
  exact hpcs k hk

/-- `addi x1, x0, 5`: the run stops at the breakpoint with the instruction in decode. -/
theorem debugRun_stops_early :
    ∃ vm₀ vm₁, (new {}).loadProgram {} { textBuffer := [0x00500093#32] } = .ok vm₀ ∧
      run {} 20 vm₀ = some (.ok vm₁) ∧ vm₁.registers.readGpr 1#5 = 5#64 ∧
      ∀ fuel' vm₂, debugRun {} fuel' vm₀ = some (.ok vm₂) →
        vm₂.outputStatus = .breakpointHit ∧ vm₂.registers.readGpr 1#5 = 0#64 := by
  let vm₀ : RV5SEXVM :=
    ((new {}).loadProgram {} { textBuffer := [0x00500093#32] }).toOption.getD (new {})
  have hload : (new {}).loadProgram {} { textBuffer := [0x00500093#32] } = .ok vm₀ :=
    eq_ok_getD _ (by decide +kernel)
  have hrun := eq_some_ok_getD (x := run {} 20 vm₀) (new {}) (by decide +kernel)
  have hdebug := eq_some_ok_getD (x := debugRun {} 20 vm₀) (new {}) (by decide +kernel)
  refine ⟨vm₀, _, hload, hrun, by decide +kernel, fun fuel' vm₂ h => ?_⟩
  obtain rfl := Except.ok.inj (debugRun_unique hdebug h)
  exact ⟨by decide +kernel, by decide +kernel⟩

end RV5SEXVM

end RiscvSim

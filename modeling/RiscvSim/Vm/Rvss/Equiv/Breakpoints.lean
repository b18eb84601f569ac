import RiscvSim.Equiv.ImageWrites
import RiscvSim.Vm.Rvss.Equiv.Frame

/-!
# Breakpoints across programs

The load of a program sets a breakpoint at its end, and no command takes one
away: `Reset` leaves the list as it is.

* **`breakpoints_eq_iff`**: after a reset and a load the list is that of a fresh
  machine exactly when all programs loaded before had the size of the last one.
-/

namespace RiscvSim

open Lib

namespace RVSSVM

variable {cfg : VmConfig} {fpu : FloatUnit} {vm vm' : RVSSVM}

/-! ### Run commands -/

/-- The breakpoints are `b`. -/
def BreaksAt (b : List (BitVec 64)) (vm : RVSSVM) : Prop :=
  vm.breakpoints = b

/-- What a part of the machine keeps it also keeps where it throws. -/
theorem failsWith_of_stateOf {σ : Type} {P : σ → Prop} {x : Except (Fault × σ) σ}
    (h : P (stateOf x)) : FailsWith (fun e => P e.2) x := by
  rintro e rfl
  exact h

theorem breaksAt_handleSyscall (vm : RVSSVM) :
    BreaksAt vm.breakpoints (stateOf (vm.handleSyscall cfg)) := by
  unfold handleSyscall
  split
  · exact stateOf_bind (failsWith_throwAt_state (by rfl) _) fun _ _ => rfl
  · rfl
  · exact congrArg LoopState.breakpoints (loopsAt_readSyscall vm)
  · exact congrArg LoopState.breakpoints (loopsAt_writeSyscall vm)
  · rfl

theorem breaksAt_execute (vm : RVSSVM) :
    BreaksAt vm.breakpoints (stateOf (vm.execute cfg fpu)) := by
  unfold execute
  dsimp only
  split
  · exact breaksAt_handleSyscall vm
  split
  · rfl
  split
  · rfl
  split
  · rfl
  · refine stateOf_bind (failsWith_throwAt_state (by rfl) _) fun r _ => ?_
    have hredirect := movesCounter_redirect { vm with executionResult := r.1 }
    have hauipc := movesCounter_executeAuipc ({ vm with executionResult := r.1 }).redirect
    exact congrArg LoopState.breakpoints (hredirect.trans hauipc)

theorem breaksAt_runInstruction (vm : RVSSVM) :
    BreaksAt vm.breakpoints (stateOf (vm.runInstruction cfg fpu)) := by
  have hfetch : BreaksAt vm.breakpoints (stateOf vm.fetch) :=
    stateOf_bind (failsWith_throwAt_state (by rfl) _) fun _ _ => rfl
  refine stateOf_bind (failsWith_of_stateOf hfetch) fun vm₁ hvm₁ => ?_
  rw [hvm₁] at hfetch
  have hexecute : BreaksAt vm.breakpoints (stateOf (vm₁.decode.execute cfg fpu)) :=
    (breaksAt_execute vm₁.decode).trans hfetch
  refine stateOf_bind (failsWith_of_stateOf hexecute) fun vm₂ hvm₂ => ?_
  rw [hvm₂] at hexecute
  have hmemory : BreaksAt vm.breakpoints (stateOf (vm₂.writeMemory cfg)) :=
    (congrArg LoopState.breakpoints (loopsAt_writeMemory vm₂)).trans hexecute
  refine stateOf_bind (failsWith_of_stateOf hmemory) fun vm₃ hvm₃ => ?_
  rw [hvm₃] at hmemory
  exact (congrArg LoopState.breakpoints (loopState_writeBack vm₃)).trans hmemory

theorem breakpoints_reportEnd (vm : RVSSVM) : vm.reportEnd.breakpoints = vm.breakpoints := by
  unfold reportEnd
  split <;> rfl

theorem breaksAt_map_reportEnd {b : List (BitVec 64)} {r : Except (Fault × RVSSVM) RVSSVM}
    (h : BreaksAt b (stateOf r)) : BreaksAt b (stateOf (r.map reportEnd)) := by
  cases r with
  | error e => exact h
  | ok vm => exact (breakpoints_reportEnd vm).trans h

theorem breaksAt_recordInstruction (vm : RVSSVM) :
    BreaksAt vm.breakpoints (stateOf (vm.recordInstruction cfg fpu)) := by
  have hrun := @breaksAt_runInstruction cfg fpu vm.startDelta
  refine stateOf_bind (failsWith_of_stateOf hrun) fun vm₁ hvm₁ => ?_
  rw [hvm₁] at hrun
  unfold reportStep
  show BreaksAt _ (if _ then _ else _)
  split <;> exact hrun

theorem breaksAt_step (vm : RVSSVM) : BreaksAt vm.breakpoints (stateOf (vm.step cfg fpu)) := by
  unfold step
  split
  · exact breaksAt_recordInstruction vm
  · rfl

theorem breaksAt_runLoop {fuel : Nat} :
    ∀ {n : BitVec 64} {vm : RVSSVM} {r : Except (Fault × RVSSVM) RVSSVM},
      vm.runLoop cfg fpu fuel n = some r → BreaksAt vm.breakpoints (stateOf r) := by
  induction fuel with
  | zero =>
    intro n vm r h
    cases h
  | succ fuel ih =>
    intro n vm r h
    have hround := @breaksAt_runInstruction cfg fpu vm
    unfold runLoop at h
    split at h
    · cases h
      rfl
    split at h
    · cases h
      rfl
    split at h
    · rename_i e he
      cases h
      rw [he] at hround
      exact hround
    · rename_i vm₁ hvm₁
      rw [hvm₁] at hround
      exact (ih h).trans hround

theorem breaksAt_debugRunLoop {fuel : Nat} :
    ∀ {n : BitVec 64} {vm : RVSSVM} {r : Except (Fault × RVSSVM) RVSSVM},
      vm.debugRunLoop cfg fpu fuel n = some r → BreaksAt vm.breakpoints (stateOf r) := by
  induction fuel with
  | zero =>
    intro n vm r h
    cases h
  | succ fuel ih =>
    intro n vm r h
    have hround := @breaksAt_recordInstruction cfg fpu vm
    unfold debugRunLoop at h
    split at h
    · cases h
      rfl
    split at h
    · cases h
      rfl
    split at h
    · cases h
      rfl
    split at h
    · rename_i e he
      cases h
      rw [he] at hround
      exact hround
    · rename_i vm₁ hvm₁
      rw [hvm₁] at hround
      exact (ih h).trans hround

theorem breaksAt_undo (vm : RVSSVM) : BreaksAt vm.breakpoints (stateOf (vm.undo cfg)) := by
  unfold undo
  split
  · rfl
  · refine stateOf_bind (failsWith_throwWith_state (fun _ => by rfl) _) fun _ _ => ?_
    rfl

theorem breaksAt_redo (vm : RVSSVM) : BreaksAt vm.breakpoints (stateOf (vm.redo cfg)) := by
  unfold redo
  split
  · rfl
  · refine stateOf_bind (failsWith_throwWith_state (fun _ => by rfl) _) fun _ _ => ?_
    rfl

/-! ### Histories -/

/-- The commands of a session without breakpoints of the user. -/
inductive Command where
  | loadProgram (program : AssembledProgram)
  | run
  | debugRun
  | step
  | undo
  | redo
  | reset

/-- The command leads from `vm` to `vm'`.  A run command may throw; a load completes. -/
def Command.Leads (cfg : VmConfig) (fpu : FloatUnit) (vm vm' : RVSSVM) : Command → Prop
  | .loadProgram program => vm.loadProgram cfg program = .ok vm'
  | .run => ∃ fuel r, vm.run cfg fpu fuel = some r ∧ stateOf r = vm'
  | .debugRun => ∃ fuel r, vm.debugRun cfg fpu fuel = some r ∧ stateOf r = vm'
  | .step => stateOf (vm.step cfg fpu) = vm'
  | .undo => stateOf (vm.undo cfg) = vm'
  | .redo => stateOf (vm.redo cfg) = vm'
  | .reset => vm.reset = vm'

/-- The machines a list of commands leads to from a fresh one.  Between two
commands the thread, and with it the rounding direction, may change. -/
inductive History (cfg : VmConfig) (fpu : FloatUnit) : List Command → RVSSVM → Prop
  | fresh : History cfg fpu [] (new cfg)
  | thread {commands : List Command} {vm : RVSSVM} (direction : RoundingDirection)
      (h : History cfg fpu commands vm) :
      History cfg fpu commands { vm with roundingDirection := direction }
  | command {commands : List Command} {command : Command} {vm vm' : RVSSVM}
      (h : History cfg fpu commands vm) (hleads : command.Leads cfg fpu vm vm') :
      History cfg fpu (commands ++ [command]) vm'

/-- The breakpoint the load of a program sets: the end of its text. -/
def endOf (program : AssembledProgram) : BitVec 64 :=
  (textSize program).setWidth 64

theorem endOf_mod_four (program : AssembledProgram) : endOf program % 4#64 = 0#64 := by
  apply BitVec.eq_of_toNat_eq
  show (endOf program).toNat % 4 = 0
  unfold endOf textSize
  rw [BitVec.toNat_setWidth, BitVec.toNat_ofNat]
  omega

/-- A load adds its breakpoint unless it is there. -/
theorem breakpoints_of_loadProgram_eq {program : AssembledProgram}
    (h : vm.loadProgram cfg program = .ok vm') :
    vm'.breakpoints = if endOf program ∈ vm.breakpoints then vm.breakpoints
      else vm.breakpoints ++ [endOf program] := by
  obtain ⟨base, hbase, rfl⟩ := bind_pure_eq_ok.mp h
  obtain ⟨m, -, rfl⟩ := loadProgram_eq_ok_iff_writes.mp (throwWith_eq_ok.mp hbase)
  show (vm.toVmBase.addBreakpointAddress (endOf program)).breakpoints = _
  unfold VmBase.addBreakpointAddress VmBase.checkBreakpoint
  rw [endOf_mod_four, if_neg (not_not_intro rfl)]
  by_cases hmem : endOf program ∈ vm.breakpoints
  · rw [if_pos (List.contains_iff_mem.mpr hmem), if_pos hmem]
  · rw [if_neg (fun h => hmem (List.contains_iff_mem.mp h)), if_neg hmem]

/-- Every other command keeps the breakpoints. -/
theorem breakpoints_of_leads {command : Command} (h : command.Leads cfg fpu vm vm')
    (hload : ∀ program, command ≠ .loadProgram program) : vm'.breakpoints = vm.breakpoints := by
  cases command with
  | loadProgram program => exact absurd rfl (hload program)
  | run =>
    obtain ⟨fuel, r, hrun, rfl⟩ := h
    obtain ⟨r', hloop, rfl⟩ := Option.map_eq_some_iff.mp hrun
    have hkeeps : BreaksAt vm.breakpoints (stateOf r') :=
      @breaksAt_runLoop cfg fpu fuel _ vm.clearStop r' hloop
    exact breaksAt_map_reportEnd hkeeps
  | debugRun =>
    obtain ⟨fuel, r, hrun, rfl⟩ := h
    obtain ⟨r', hloop, rfl⟩ := Option.map_eq_some_iff.mp hrun
    have hkeeps : BreaksAt vm.breakpoints (stateOf r') :=
      @breaksAt_debugRunLoop cfg fpu fuel _ vm.clearStop r' hloop
    exact breaksAt_map_reportEnd hkeeps
  | step =>
    obtain rfl := h
    exact breaksAt_step vm
  | undo =>
    obtain rfl := h
    exact breaksAt_undo vm
  | redo =>
    obtain rfl := h
    exact breaksAt_redo vm
  | reset =>
    obtain rfl := h
    rfl

/-- The breakpoints of a history are the ends of the programs it has loaded, once each. -/
theorem History.breakpoints {commands : List Command} (h : History cfg fpu commands vm) :
    vm.breakpoints.Nodup ∧
      ∀ a, a ∈ vm.breakpoints ↔ ∃ program, .loadProgram program ∈ commands ∧ a = endOf program := by
  induction h with
  | fresh => exact ⟨List.nodup_nil, fun a => by simp [new, reset]⟩
  | thread _ _ ih => exact ih
  | @command commands command vm vm' _ hleads ih =>
    obtain ⟨hnodup, hmem⟩ := ih
    by_cases hload : ∃ program, command = .loadProgram program
    · obtain ⟨program, rfl⟩ := hload
      rw [breakpoints_of_loadProgram_eq hleads]
      by_cases hold : endOf program ∈ vm.breakpoints
      · rw [if_pos hold]
        refine ⟨hnodup, fun a => ?_⟩
        rw [hmem]
        constructor
        · rintro ⟨program', hmem', rfl⟩
          exact ⟨program', List.mem_append_left _ hmem', rfl⟩
        · rintro ⟨program', hmem', rfl⟩
          rw [List.mem_append, List.mem_singleton] at hmem'
          rcases hmem' with hmem' | heq
          · exact ⟨program', hmem', rfl⟩
          · cases heq
            exact (hmem _).mp hold
      · rw [if_neg hold]
        refine ⟨?_, fun a => ?_⟩
        · rw [List.nodup_append]
          refine ⟨hnodup, List.pairwise_singleton _ _, fun a ha b hb => ?_⟩
          rw [List.mem_singleton] at hb
          rintro rfl
          exact hold (hb ▸ ha)
        · rw [List.mem_append, hmem, List.mem_singleton]
          constructor
          · rintro (⟨program', hmem', rfl⟩ | rfl)
            · exact ⟨program', List.mem_append_left _ hmem', rfl⟩
            · exact ⟨program, List.mem_append_right _ (List.mem_singleton_self _), rfl⟩
          · rintro ⟨program', hmem', rfl⟩
            rw [List.mem_append, List.mem_singleton] at hmem'
            rcases hmem' with hmem' | heq
            · exact .inl ⟨program', hmem', rfl⟩
            · cases heq
              exact .inr rfl
    · have hkeeps := breakpoints_of_leads hleads fun program heq => hload ⟨program, heq⟩
      rw [hkeeps]
      refine ⟨hnodup, fun a => ?_⟩
      rw [hmem]
      constructor
      · rintro ⟨program, hmem', rfl⟩
        exact ⟨program, List.mem_append_left _ hmem', rfl⟩
      · rintro ⟨program, hmem', rfl⟩
        rw [List.mem_append, List.mem_singleton] at hmem'
        rcases hmem' with hmem' | heq
        · exact ⟨program, hmem', rfl⟩
        · exact absurd ⟨program, heq.symm⟩ hload

/-! ### The next program -/

/-- Where the only breakpoint is the end of the program, `DebugRun` stops at none. -/
theorem outputStatus_of_debugRunLoop {fuel : Nat} :
    ∀ {n : BitVec 64} {vm vm' : RVSSVM}, vm.breakpoints = [vm.programSize] →
      vm.outputStatus ≠ .breakpointHit → vm.debugRunLoop cfg fpu fuel n = some (.ok vm') →
      vm'.outputStatus ≠ .breakpointHit := by
  induction fuel with
  | zero =>
    intro n vm vm' _ _ h
    cases h
  | succ fuel ih =>
    intro n vm vm' hbreak hstatus h
    unfold debugRunLoop at h
    split at h
    · cases h
      exact hstatus
    rename_i hgo
    split at h
    · cases h
      exact hstatus
    split at h
    · -- a breakpoint in front of the end
      rename_i hcheck
      unfold VmBase.checkBreakpoint at hcheck
      rw [hbreak] at hcheck
      have hpc : vm.programCounter = vm.programSize := by simpa using hcheck
      exact absurd (by simp [hpc]) hgo
    split at h
    · cases h
    · rename_i vm₁ hvm₁
      obtain ⟨vm₂, hrun, rfl⟩ := bind_pure_eq_ok.mp hvm₁
      have hloop := loopState_runInstruction hrun
      have hbreak₂ : vm₂.breakpoints = [vm₂.programSize] := by
        rw [show vm₂.breakpoints = vm.breakpoints from congrArg LoopState.breakpoints hloop,
          show vm₂.programSize = vm.programSize from congrArg LoopState.programSize hloop, hbreak]
      refine ih ?_ ?_ h
      · unfold reportStep
        split <;> exact hbreak₂
      · unfold reportStep
        split <;> exact fun heq => nomatch heq

theorem outputStatus_of_debugRun {fuel : Nat} (hbreak : vm.breakpoints = [vm.programSize])
    (hstatus : vm.outputStatus ≠ .breakpointHit)
    (h : vm.debugRun cfg fpu fuel = some (.ok vm')) : vm'.outputStatus ≠ .breakpointHit := by
  obtain ⟨r, hloop, hr⟩ := Option.map_eq_some_iff.mp h
  cases r with
  | error e => cases hr
  | ok vm₁ =>
    cases hr
    have hstatus₁ : vm₁.outputStatus ≠ .breakpointHit :=
      outputStatus_of_debugRunLoop (show vm.clearStop.breakpoints = [vm.clearStop.programSize]
        from hbreak) hstatus hloop
    unfold reportEnd
    split
    · exact fun heq => nomatch heq
    · exact hstatus₁

/-- **After a reset and a load** the breakpoints are those of a fresh machine, and
`DebugRun` stops at none of them, exactly when every program loaded before had
the size of this one. -/
theorem breakpoints_eq_iff (cfg : VmConfig) (fpu : FloatUnit) (commands : List Command)
    (vm : RVSSVM) (h : History cfg fpu commands vm) (program : AssembledProgram) (vm₁ : RVSSVM)
    (hload : vm.reset.loadProgram cfg program = .ok vm₁) (fresh : RVSSVM)
    (hfresh : (new cfg).loadProgram cfg program = .ok fresh) :
    (vm₁.breakpoints = fresh.breakpoints ∧
      ∀ fuel vm₂, vm₁.debugRun cfg fpu fuel = some (.ok vm₂) →
        vm₂.outputStatus ≠ .breakpointHit) ↔
      ∀ program', .loadProgram program' ∈ commands → endOf program' = endOf program := by
  have hsingle : fresh.breakpoints = [endOf program] := by
    rw [breakpoints_of_loadProgram_eq hfresh]
    exact if_neg List.not_mem_nil
  obtain ⟨hnodup, hmem⟩ := h.breakpoints
  have hnext : vm₁.breakpoints = if endOf program ∈ vm.breakpoints then vm.breakpoints
      else vm.breakpoints ++ [endOf program] :=
    @breakpoints_of_loadProgram_eq cfg vm.reset vm₁ program hload
  rw [hsingle]
  constructor
  · rintro ⟨heq, -⟩ program' hprogram'
    have hold : endOf program' ∈ vm₁.breakpoints := by
      rw [hnext]
      have hin := (hmem _).mpr ⟨program', hprogram', rfl⟩
      split
      · exact hin
      · exact List.mem_append_left _ hin
    rw [heq, List.mem_singleton] at hold
    exact hold
  · intro hall
    have hbreak : vm₁.breakpoints = [endOf program] := by
      have hsame : ∀ a ∈ vm.breakpoints, a = endOf program := by
        intro a ha
        obtain ⟨program', hprogram', rfl⟩ := (hmem a).mp ha
        exact hall program' hprogram'
      rw [hnext]
      cases hlist : vm.breakpoints with
      | nil => exact if_neg List.not_mem_nil
      | cons a as =>
        -- the list has no second element: it would be the same one
        have ha : a = endOf program := hsame a (by simp [hlist])
        have has : as = [] := by
          rw [hlist, List.nodup_cons] at hnodup
          refine List.eq_nil_iff_forall_not_mem.mpr fun b hb => hnodup.1 ?_
          rw [ha, ← hsame b (by simp [hlist, hb])]
          exact hb
        rw [ha, has, if_pos (List.mem_singleton_self _)]
    refine ⟨hbreak, fun fuel vm₂ hrun => ?_⟩
    obtain ⟨base, hbase, rfl⟩ := bind_pure_eq_ok.mp hload
    obtain ⟨m, -, rfl⟩ := loadProgram_eq_ok_iff_writes.mp (throwWith_eq_ok.mp hbase)
    exact outputStatus_of_debugRun hbreak (fun heq => nomatch heq) hrun

/-- `addi x1, x1, 1`. -/
def oneIncrement : AssembledProgram where
  textBuffer := [0x00108093#32]

/-- `addi x1, x1, 1`, twice. -/
def twoIncrements : AssembledProgram where
  textBuffer := [0x00108093#32, 0x00108093#32]

/-- The same program loaded again. -/
theorem breakpoints_eq_iff_again :
    ∃ vm vm₁ fresh, History {} .zeros [.loadProgram oneIncrement] vm ∧
      vm.reset.loadProgram {} oneIncrement = .ok vm₁ ∧
      (new {}).loadProgram {} oneIncrement = .ok fresh ∧ vm₁.breakpoints = fresh.breakpoints := by
  let vm : RVSSVM := ((new {}).loadProgram {} oneIncrement).toOption.getD (new {})
  have hfresh : (new {}).loadProgram {} oneIncrement = .ok vm := eq_ok_getD _ (by decide +kernel)
  have hload := eq_ok_getD (x := vm.reset.loadProgram {} oneIncrement) (new {}) (by decide +kernel)
  have hhistory : History {} .zeros [.loadProgram oneIncrement] vm := .command .fresh hfresh
  exact ⟨vm, _, vm, hhistory, hload, hfresh,
    ((breakpoints_eq_iff {} .zeros _ vm hhistory oneIncrement _ hload vm hfresh).mpr
      (by simp)).1⟩

/-- `DebugRun` stops at the end of the program that was loaded before the reset. -/
theorem debugRun_stops_at_stale_breakpoint :
    ∃ vm vm₁ fresh vm₂, History {} .zeros [.loadProgram oneIncrement] vm ∧
      vm.reset.loadProgram {} twoIncrements = .ok vm₁ ∧
      (new {}).loadProgram {} twoIncrements = .ok fresh ∧
      vm₁.breakpoints = [4#64, 8#64] ∧ fresh.breakpoints = [8#64] ∧
      vm₁.debugRun {} .zeros 3 = some (.ok vm₂) ∧ vm₂.outputStatus = .breakpointHit ∧
      vm₂.programCounter = 4#64 := by
  let vm : RVSSVM := ((new {}).loadProgram {} oneIncrement).toOption.getD (new {})
  have hfirst : (new {}).loadProgram {} oneIncrement = .ok vm := eq_ok_getD _ (by decide +kernel)
  let vm₁ : RVSSVM := (vm.reset.loadProgram {} twoIncrements).toOption.getD (new {})
  have hload : vm.reset.loadProgram {} twoIncrements = .ok vm₁ := eq_ok_getD _ (by decide +kernel)
  obtain ⟨fresh, hfresh, hbreak⟩ :=
    exists_ok_of_map (x := (new {}).loadProgram {} twoIncrements) (f := (·.breakpoints))
      (b := [8#64]) (by decide +kernel)
  obtain ⟨vm₂, hrun, hstop⟩ :=
    exists_some_ok_of_map (x := vm₁.debugRun {} .zeros 3)
      (f := fun vm => (vm.outputStatus, vm.programCounter)) (b := (.breakpointHit, 4#64))
      (by decide +kernel)
  exact ⟨vm, vm₁, fresh, vm₂, .command .fresh hfirst, hload, hfresh, by decide +kernel, hbreak,
    hrun, (Prod.mk.inj hstop).1, (Prod.mk.inj hstop).2⟩

end RVSSVM

end RiscvSim

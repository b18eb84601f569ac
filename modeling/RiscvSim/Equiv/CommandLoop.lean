import RiscvSim.CommandLoop
import RiscvSim.Vm.Rv5s.Equiv.Frame

/-!
# Stop requests

A request that finds the thread of a run past its `ClearStop` stays in the flag
until the thread leaves its loop (`Stopping`): at most the step the thread is
in front of is still executed.  A request in front of `ClearStop` is lost.

* **`furtherSteps_iff`**: exactly when a request is followed by one step of its run at most.
-/

namespace RiscvSim

open Lib

namespace CommandLoop

variable {cfg : VmConfig} {s s₁ s₂ : CommandLoop} {a : Action}

/-- The run is about to end: the flag is set where the thread will test it. -/
def Stopping (s : CommandLoop) : Prop :=
  s.thread ≠ .clearStop ∧
    (s.thread = .check ∨ s.thread = .step → s.vm.stopRequested = true)

/-- The steps a stopping run may still execute. -/
def stepsLeft (s : CommandLoop) : Nat :=
  if s.thread = .step then 1 else 0

/-- An action launches a run, or keeps the number of runs. -/
theorem runs_act (h : act cfg s a = some s₁) : s₁.runs = s.runs ∨ s₁.runs = s.runs + 1 := by
  cases a with
  | run | stop | exit | clearStop | check | leave =>
    simp only [act] at h
    grind [launch, requestStop]
  | joined =>
    simp only [act] at h
    grind [launch]
  | step =>
    simp only [act] at h
    grind

theorem runs_le_acts {actions : List Action} :
    ∀ {s s₁ : CommandLoop}, acts cfg s actions = some s₁ → s.runs ≤ s₁.runs := by
  induction actions with
  | nil =>
    intro s s₁ h
    obtain rfl := Option.some.inj h
    exact Nat.le_refl _
  | cons a actions ih =>
    intro s s₁ h
    obtain ⟨s', ha, h'⟩ := Option.bind_eq_some_iff.mp (show
      (act cfg s a).bind (fun s' => acts cfg s' actions) = some s₁ from h)
    have hle := ih h'
    rcases runs_act ha with hr | hr <;> omega

/-- A request sets the flag; where there is a thread, the thread stays where it is. -/
theorem thread_of_request (h : act cfg s a = some s₁) (ha : a.Requests)
    (hthread : s.thread ≠ .none) :
    s₁.thread = s.thread ∧ s₁.vm = s.requestStop.vm ∧ s₁.runs = s.runs := by
  cases a with
  | run | stop | exit =>
    simp only [act] at h
    grind [launch, requestStop]
  | joined | clearStop | check | step | leave => exact ha.elim

/-- The actions of a run that is about to end use up the step it had left, and
leave it about to end. -/
theorem stopping_act (h : act cfg s a = some s₁) (hs : Stopping s) (hruns : s₁.runs = s.runs) :
    Stopping s₁ ∧ stepsLeft s₁ + (if a = .step then 1 else 0) ≤ stepsLeft s := by
  obtain ⟨hclear, hflag⟩ := hs
  cases a with
  | run | stop | exit | joined | clearStop | check | leave =>
    simp only [act] at h
    grind [launch, requestStop, Stopping, stepsLeft]
  | step =>
    simp only [act] at h
    split at h
    · have hstop := hflag (.inr (by assumption))
      split at h
      · cases h
        have hstop := RV5SEXVM.stopRequested_of_step (by assumption) hstop
        grind [Stopping, stepsLeft]
      · cases h
        grind [Stopping, stepsLeft]
    · cases h

/-- A run that is about to end executes the step it is in front of at most. -/
theorem count_step_of_stopping {actions : List Action} :
    ∀ {s s₁ : CommandLoop}, acts cfg s actions = some s₁ → Stopping s → s₁.runs = s.runs →
      actions.count .step ≤ stepsLeft s := by
  induction actions with
  | nil =>
    intro s s₁ _ _ _
    exact Nat.zero_le _
  | cons a actions ih =>
    intro s s₁ h hs hruns
    obtain ⟨s', ha, h'⟩ := Option.bind_eq_some_iff.mp (show
      (act cfg s a).bind (fun s' => acts cfg s' actions) = some s₁ from h)
    have hle := runs_le_acts h'
    have hruns' : s'.runs = s.runs := by
      rcases runs_act ha with hr | hr <;> omega
    obtain ⟨hs', hleft⟩ := stopping_act ha hs hruns'
    have hcount := ih h' hs' (by omega)
    rw [List.count_cons]
    simp only [beq_iff_eq]
    omega

/-- The first step of a run started on `vm` is its last: it faults or ends the program. -/
def EndsAtOnce (cfg : VmConfig) (vm : RV5SEXVM) : Prop :=
  ∀ vm₁, RV5SEXVM.step cfg (RV5SEXVM.startRun vm) = .ok vm₁ → vm₁.stopRequested = true

theorem acts_cons {actions : List Action} (h : act cfg s a = some s₁) :
    acts cfg s (a :: actions) = acts cfg s₁ actions := by
  show (act cfg s a).bind (fun s' => acts cfg s' actions) = _
  rw [h]
  rfl

/-- A thread in front of `ClearStop` loses the request: it clears the flag, and
executes two steps unless the first is the last. -/
theorem exists_two_steps (hthread : s.thread = .clearStop) {vm₁ : RV5SEXVM}
    (hstep : RV5SEXVM.step cfg (RV5SEXVM.startRun s.vm) = .ok vm₁)
    (hgo : vm₁.stopRequested = false) :
    ∃ s₂, acts cfg s [.clearStop, .check, .step, .check, .step] = some s₂ ∧
      s₂.runs = s.runs := by
  have h₁ : act cfg s .clearStop =
      some { s with vm := RV5SEXVM.startRun s.vm, thread := .check } := by
    simp [act, hthread]
  have h₂ : act cfg { s with vm := RV5SEXVM.startRun s.vm, thread := .check } .check =
      some { s with vm := RV5SEXVM.startRun s.vm, thread := .step } := by
    simp [act, RV5SEXVM.startRun]
  have h₃ : act cfg { s with vm := RV5SEXVM.startRun s.vm, thread := .step } .step =
      some { s with vm := vm₁, thread := .check } := by
    simp [act, hstep]
  have h₄ : act cfg { s with vm := vm₁, thread := .check } .check =
      some { s with vm := vm₁, thread := .step } := by
    simp [act, hgo]
  rw [acts_cons h₁, acts_cons h₂, acts_cons h₃, acts_cons h₄]
  rcases h₅ : RV5SEXVM.step cfg vm₁ with ⟨e, vm₂⟩ | vm₂
  · refine ⟨{ s with vm := vm₂, thread := .crashed }, ?_, rfl⟩
    have h₆ : act cfg { s with vm := vm₁, thread := .step } .step =
        some { s with vm := vm₂, thread := .crashed } := by
      simp [act, h₅]
    rw [acts_cons h₆]
    rfl
  · refine ⟨{ s with vm := vm₂, thread := .check }, ?_, rfl⟩
    have h₆ : act cfg { s with vm := vm₁, thread := .step } .step =
        some { s with vm := vm₂, thread := .check } := by
      simp [act, h₅]
    rw [acts_cons h₆]
    rfl

/-- The run has one step to execute at most, though no request is in the flag. -/
def LastStep (cfg : VmConfig) (s : CommandLoop) : Prop :=
  EndsAtOnce cfg s.vm ∧
    (s.thread = .clearStop ∨
      (s.thread = .check ∨ s.thread = .step) ∧ RV5SEXVM.startRun s.vm = s.vm)

theorem stepsLeft_le_one (s : CommandLoop) : stepsLeft s ≤ 1 := by
  unfold stepsLeft
  split <;> omega

/-- An action other than the last step keeps that step ahead, or a request that
stays in the flag comes in; after the last step the run is about to end. -/
theorem lastStep_act (h : act cfg s a = some s₁) (hs : LastStep cfg s) (hruns : s₁.runs = s.runs) :
    a ≠ .step ∧ (LastStep cfg s₁ ∨ Stopping s₁) ∨
      a = .step ∧ Stopping s₁ ∧ stepsLeft s₁ = 0 := by
  obtain ⟨hends, hthread⟩ := hs
  by_cases hreq : a.Requests
  · have hne : s.thread ≠ .none := by
      rcases hthread with ht | ⟨ht | ht, -⟩ <;> simp [ht]
    obtain ⟨hsame, hvm, -⟩ := thread_of_request h hreq hne
    refine .inl ⟨by rintro rfl; exact hreq, ?_⟩
    by_cases hclear : s.thread = .clearStop
    · refine .inl ⟨?_, .inl (hsame.trans hclear)⟩
      rw [hvm]
      exact hends
    · refine .inr ⟨by rw [hsame]; exact hclear, fun _ => ?_⟩
      rw [hvm]
      rfl
  cases a with
  | run | stop | exit => exact absurd trivial hreq
  | joined | leave =>
    simp only [act] at h
    grind
  | clearStop =>
    simp only [act] at h
    split at h
    · cases h
      exact .inl ⟨by simp, .inl ⟨hends, .inr ⟨.inl rfl, rfl⟩⟩⟩
    · cases h
  | check =>
    simp only [act] at h
    split at h
    · have hstart : RV5SEXVM.startRun s.vm = s.vm := by grind
      have hflag : s.vm.stopRequested = false := by
        rw [← hstart]
        rfl
      rw [hflag] at h
      cases h
      exact .inl ⟨by simp, .inl ⟨hends, .inr ⟨.inr rfl, hstart⟩⟩⟩
    · cases h
  | step =>
    simp only [act] at h
    split at h
    · have hstart : RV5SEXVM.startRun s.vm = s.vm := by grind
      refine .inr ⟨rfl, ?_⟩
      split at h
      · rename_i vm hstep
        cases h
        have hstop : vm.stopRequested = true := hends vm (by rw [hstart]; exact hstep)
        exact ⟨⟨by simp, fun _ => hstop⟩, rfl⟩
      · cases h
        exact ⟨⟨by simp, by simp⟩, rfl⟩
    · cases h

theorem count_step_of_lastStep {actions : List Action} :
    ∀ {s s₁ : CommandLoop}, acts cfg s actions = some s₁ → LastStep cfg s → s₁.runs = s.runs →
      actions.count .step ≤ 1 := by
  induction actions with
  | nil =>
    intro s s₁ _ _ _
    exact Nat.zero_le _
  | cons a actions ih =>
    intro s s₁ h hs hruns
    obtain ⟨s', ha, h'⟩ := Option.bind_eq_some_iff.mp (show
      (act cfg s a).bind (fun s' => acts cfg s' actions) = some s₁ from h)
    have hle := runs_le_acts h'
    have hruns' : s'.runs = s.runs := by
      rcases runs_act ha with hr | hr <;> omega
    rw [List.count_cons]
    simp only [beq_iff_eq]
    rcases lastStep_act ha hs hruns' with ⟨hne, hs' | hs'⟩ | ⟨rfl, hs', hleft⟩
    · have hcount := ih h' hs' (by omega)
      simp [hne, hcount]
    · have hcount := count_step_of_stopping h' hs' (by omega)
      have hone := stepsLeft_le_one s'
      simp only [hne, if_false]
      omega
    · have hcount := count_step_of_stopping h' hs' (by omega)
      simp only [if_true]
      omega

/-- **A request made while a run is launched is followed by one step of that
run at most, however the actions interleave, exactly when it does not find the
thread in front of its `ClearStop`, or the first step is the last in any case.** -/
theorem furtherSteps_iff (cfg : VmConfig) (s : CommandLoop) (hthread : s.thread ≠ .none)
    (request : Action) (hreq : request.Requests) (s₁ : CommandLoop)
    (h₁ : act cfg s request = some s₁) :
    (∀ further s₂, acts cfg s₁ further = some s₂ → s₂.runs = s₁.runs →
        further.count .step ≤ 1) ↔
      (s.thread = .clearStop → EndsAtOnce cfg s.vm) := by
  obtain ⟨hsame, hvm, -⟩ := thread_of_request h₁ hreq hthread
  constructor
  · intro hall hclear vm₁ hstep
    by_contra hgo
    rw [Bool.not_eq_true] at hgo
    have hstep₁ : RV5SEXVM.step cfg (RV5SEXVM.startRun s₁.vm) = .ok vm₁ := by
      rw [hvm]
      exact hstep
    obtain ⟨s₂, h₂, hruns⟩ := exists_two_steps (hsame.trans hclear) hstep₁ hgo
    have hcount := hall _ s₂ h₂ hruns
    exact absurd hcount (by decide)
  · intro hcond further s₂ h₂ hruns
    by_cases hclear : s.thread = .clearStop
    · have hlast : LastStep cfg s₁ := by
        refine ⟨?_, .inl (hsame.trans hclear)⟩
        rw [hvm]
        exact hcond hclear
      exact count_step_of_lastStep h₂ hlast hruns
    · have hstopping : Stopping s₁ := by
        refine ⟨by rw [hsame]; exact hclear, fun _ => ?_⟩
        rw [hvm]
        rfl
      exact Nat.le_trans (count_step_of_stopping h₂ hstopping hruns) (stepsLeft_le_one s₁)

/-- A program that jumps to itself: `jal x0, 0`. -/
def jumpToItself : AssembledProgram :=
  { textBuffer := [0x0000006f#32] }

theorem exists_load_jumpToItself :
    ∃ vm vm₁, (RV5SEXVM.new {}).loadProgram {} jumpToItself = .ok vm ∧
      RV5SEXVM.step {} (RV5SEXVM.startRun vm) = .ok vm₁ ∧ vm₁.stopRequested = false :=
  ⟨_, _, eq_ok_getD (RV5SEXVM.new {}) (by decide +kernel),
    eq_ok_getD (RV5SEXVM.new {}) (by decide +kernel), by decide +kernel⟩

/-- `STOP` when the run of a loaded program is in front of the test of the flag. -/
theorem furtherSteps_iff_past_clearStop :
    ∃ vm s s₁, (RV5SEXVM.new {}).loadProgram {} jumpToItself = .ok vm ∧
      acts {} { vm := vm } [.run, .clearStop] = some s ∧ act {} s .stop = some s₁ ∧
      ∀ further s₂, acts {} s₁ further = some s₂ → s₂.runs = s₁.runs →
        further.count .step ≤ 1 := by
  obtain ⟨vm, -, hload, -⟩ := exists_load_jumpToItself
  let s : CommandLoop := { vm := RV5SEXVM.startRun vm, thread := .check, runs := 1 }
  refine ⟨vm, s, s.requestStop, hload, rfl, rfl, ?_⟩
  refine (furtherSteps_iff {} s ?_ .stop trivial s.requestStop rfl).mpr ?_
  · exact fun h => ThreadPc.noConfusion h
  · exact fun h => ThreadPc.noConfusion h

/-- `STOP` between the launch of the run and its `ClearStop`: the program goes on. -/
theorem stop_before_clearStop_is_lost :
    ∃ vm s s₁ s₂, (RV5SEXVM.new {}).loadProgram {} jumpToItself = .ok vm ∧
      acts {} { vm := vm } [.run] = some s ∧ act {} s .stop = some s₁ ∧
      acts {} s₁ [.clearStop, .check, .step, .check, .step] = some s₂ ∧ s₂.runs = s₁.runs ∧
      ¬ [Action.clearStop, .check, .step, .check, .step].count .step ≤ 1 := by
  obtain ⟨vm, vm₁, hload, hstep, hgo⟩ := exists_load_jumpToItself
  let s : CommandLoop := launch { vm := vm }
  obtain ⟨s₂, h₂, hruns⟩ := exists_two_steps (s := s.requestStop) rfl hstep hgo
  exact ⟨vm, s, s.requestStop, s₂, hload, rfl, rfl, h₂, hruns, by decide⟩

end CommandLoop

end RiscvSim

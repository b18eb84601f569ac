import Mathlib.Data.ENat.Lattice
import RiscvSim.Vm.Rvss.Equiv.Agreement
import RiscvSim.Vm.Rvss.Equiv.Frame

/-!
# The execution limit of `Run`

The loop compares the number of instructions it has executed with the limit
before each round and goes on while they are equal, so it executes one more
than the limit; a limit of zero is a limit like the others.

* **`runLoop_eq_some_ok`**, **`afterInstructions_of_runLoop`**: where the loop stops.
* **`exists_run`**: `Run` ends for every program unless the limit is the largest one.
* **`run_retires_iff`**: `Run` obeys its limit exactly for the programs that end
  within it, or after one instruction where it is zero.
-/

namespace RiscvSim

open Lib

namespace RVSSVM

variable {cfg : VmConfig} {fpu : FloatUnit} {vm vm' : RVSSVM}

/-! ### Instructions in a row -/

/-- `vm'` is the machine after `k` instructions, each inside the program. -/
inductive AfterInstructions (cfg : VmConfig) (fpu : FloatUnit) : Nat → RVSSVM → RVSSVM → Prop
  | done (vm : RVSSVM) : AfterInstructions cfg fpu 0 vm vm
  | instruction {k : Nat} {vm vm₁ vm₂ : RVSSVM} (hpc : vm.programCounter < vm.programSize)
      (hrun : vm.runInstruction cfg fpu = .ok vm₁) (h : AfterInstructions cfg fpu k vm₁ vm₂) :
      AfterInstructions cfg fpu (k + 1) vm vm₂

/-- The program ends after `n` instructions. -/
def EndsAfter (cfg : VmConfig) (fpu : FloatUnit) (vm : RVSSVM) (n : Nat) : Prop :=
  ∃ vm', AfterInstructions cfg fpu n vm vm' ∧ vm'.programSize ≤ vm'.programCounter

namespace AfterInstructions

theorem unique {k : Nat} {vm₁ vm₂ : RVSSVM} (h₁ : AfterInstructions cfg fpu k vm vm₁)
    (h₂ : AfterInstructions cfg fpu k vm vm₂) : vm₁ = vm₂ := by
  induction h₁ with
  | done =>
    cases h₂
    rfl
  | instruction _ hrun _ ih =>
    rcases h₂ with _ | ⟨_, hrun', h⟩
    obtain rfl := Except.ok.inj (hrun.symm.trans hrun')
    exact ih h

/-- Before its last instruction a program has not ended. -/
theorem counter_lt {j k : Nat} {vm₁ vm₂ : RVSSVM} (h₁ : AfterInstructions cfg fpu j vm vm₁)
    (h₂ : AfterInstructions cfg fpu k vm vm₂) (hjk : j < k) :
    vm₁.programCounter < vm₁.programSize := by
  induction h₁ generalizing k with
  | done =>
    rcases h₂ with _ | ⟨hpc, _, _⟩
    · exact absurd hjk (Nat.lt_irrefl 0)
    · exact hpc
  | instruction _ hrun _ ih =>
    rcases h₂ with _ | ⟨_, hrun', h⟩
    · omega
    obtain rfl := Except.ok.inj (hrun.symm.trans hrun')
    exact ih h (by omega)

/-- The instructions are counted; the loops' other members stay. -/
theorem loopState {k : Nat} (h : AfterInstructions cfg fpu k vm vm') :
    vm'.loopState = { vm.loopState with
      programCounter := vm'.programCounter
      instructionsRetired := vm.instructionsRetired + BitVec.ofNat 32 k
      cycleS := vm.cycleS + BitVec.ofNat 32 k } := by
  have hsucc : ∀ (x : BitVec 32) (k : Nat),
      x + 1#32 + BitVec.ofNat 32 k = x + BitVec.ofNat 32 (k + 1) := by
    intro x k
    rw [BitVec.add_assoc, ← BitVec.ofNat_add, Nat.add_comm]
  induction h with
  | done =>
    rw [BitVec.add_zero, BitVec.add_zero]
    rfl
  | @instruction k vm vm₁ vm₂ _ hrun _ ih =>
    have hfirst := loopState_runInstruction hrun
    have hretired : vm₁.instructionsRetired = vm.instructionsRetired + 1#32 :=
      congrArg LoopState.instructionsRetired hfirst
    have hcycles : vm₁.cycleS = vm.cycleS + 1#32 := congrArg LoopState.cycleS hfirst
    rw [ih, hfirst, hretired, hcycles, hsucc, hsucc]

end AfterInstructions

/-- A program ends once. -/
theorem EndsAfter.unique {m n : Nat} (hm : EndsAfter cfg fpu vm m) (hn : EndsAfter cfg fpu vm n) :
    m = n := by
  obtain ⟨vm₁, h₁, hend₁⟩ := hm
  obtain ⟨vm₂, h₂, hend₂⟩ := hn
  rcases Nat.lt_trichotomy m n with hlt | rfl | hlt
  · exact absurd (h₁.counter_lt h₂ hlt) (BitVec.not_lt.mpr hend₁)
  · rfl
  · exact absurd (h₂.counter_lt h₁ hlt) (BitVec.not_lt.mpr hend₂)

/-! ### The loop -/

/-- The loop, its counter at `c`, stops after `k` further rounds, in the state `vm'`. -/
def StopsAfter (cfg : VmConfig) (c k : Nat) (vm' : RVSSVM) : Prop :=
  (∀ i < k, BitVec.ofNat 64 (c + i) ≤ cfg.instructionExecutionLimit) ∧
    (vm'.programSize ≤ vm'.programCounter ∨
      cfg.instructionExecutionLimit < BitVec.ofNat 64 (c + k))

theorem stopRequested_of_runInstruction (h : vm.runInstruction cfg fpu = .ok vm')
    (hs : vm.stopRequested = false) : vm'.stopRequested = false :=
  (congrArg LoopState.stopRequested (loopState_runInstruction h)).trans hs

/-- Instructions in a row after which the loop stops are a run of it. -/
theorem runLoop_eq_some_ok {k c : Nat} (h : AfterInstructions cfg fpu k vm vm')
    (hs : vm.stopRequested = false) (hstop : StopsAfter cfg c k vm') :
    vm.runLoop cfg fpu (k + 1) (BitVec.ofNat 64 c) = some (.ok vm') := by
  induction h generalizing c with
  | done vm =>
    unfold runLoop
    rcases hstop.2 with hend | hlimit
    · rw [if_pos (by simp [hend])]
    · by_cases hend : vm.programSize ≤ vm.programCounter
      · rw [if_pos (by simp [hend])]
      · rw [Nat.add_zero] at hlimit
        rw [if_neg (by simp [hs, hend]), if_pos hlimit]
  | @instruction k vm vm₁ vm₂ hpc hrun _ ih =>
    obtain ⟨hlimit, hlast⟩ := hstop
    have hnext : BitVec.ofNat 64 c + 1#64 = BitVec.ofNat 64 (c + 1) :=
      (BitVec.ofNat_add c 1).symm
    have hstop' : StopsAfter cfg (c + 1) k vm₂ := by
      refine ⟨fun i hi => ?_, ?_⟩
      · rw [Nat.add_right_comm, Nat.add_assoc]
        exact hlimit (i + 1) (by omega)
      · rw [Nat.add_right_comm, Nat.add_assoc]
        exact hlast
    have hgo : ¬cfg.instructionExecutionLimit < BitVec.ofNat 64 c :=
      BitVec.not_lt.mpr (hlimit 0 (by omega))
    rw [runLoop, if_neg (by simp [hs, BitVec.not_le.mpr hpc]), if_neg hgo, hrun, hnext]
    exact ih (stopRequested_of_runInstruction hrun hs) hstop'

/-- A loop that ends without a fault has executed instructions in a row. -/
theorem afterInstructions_of_runLoop {fuel c : Nat} (hs : vm.stopRequested = false)
    (h : vm.runLoop cfg fpu fuel (BitVec.ofNat 64 c) = some (.ok vm')) :
    ∃ k, AfterInstructions cfg fpu k vm vm' ∧ StopsAfter cfg c k vm' := by
  induction fuel generalizing c vm with
  | zero => cases h
  | succ fuel ih =>
    unfold runLoop at h
    split at h
    · rename_i hend
      obtain rfl := Except.ok.inj (Option.some.inj h)
      rw [hs, Bool.false_or, decide_eq_true_eq] at hend
      exact ⟨0, .done vm, fun i hi => absurd hi (Nat.not_lt_zero i), .inl hend⟩
    rename_i hgo
    split at h
    · rename_i hlimit
      obtain rfl := Except.ok.inj (Option.some.inj h)
      exact ⟨0, .done vm, fun i hi => absurd hi (Nat.not_lt_zero i), .inr hlimit⟩
    rename_i hlimit
    have hpc : vm.programCounter < vm.programSize := by
      rw [hs, Bool.false_or, decide_eq_true_eq] at hgo
      exact BitVec.not_le.mp hgo
    split at h
    · cases h
    · rename_i vm₁ hrun
      have hnext : BitVec.ofNat 64 c + 1#64 = BitVec.ofNat 64 (c + 1) :=
        (BitVec.ofNat_add c 1).symm
      rw [hnext] at h
      obtain ⟨k, hafter, hbelow, hlast⟩ := ih (stopRequested_of_runInstruction hrun hs) h
      refine ⟨k + 1, .instruction hpc hrun hafter, fun i hi => ?_, ?_⟩
      · cases i with
        | zero => exact BitVec.not_lt.mp hlimit
        | succ i =>
          rw [show c + (i + 1) = c + 1 + i by omega]
          exact hbelow i (by omega)
      · rw [show c + (k + 1) = c + 1 + k by omega]
        exact hlast

/-- A loop that stops at its limit has executed one instruction more. -/
theorem StopsAfter.eq_succ {k : Nat} (h : StopsAfter cfg 0 k vm')
    (hpc : vm'.programCounter < vm'.programSize) :
    k = cfg.instructionExecutionLimit.toNat + 1 := by
  obtain ⟨hbelow, hlast⟩ := h
  have hlimit := hlast.resolve_left (BitVec.not_le.mpr hpc)
  rw [Nat.zero_add, BitVec.lt_def, BitVec.toNat_ofNat] at hlimit
  have hle : k % 2 ^ 64 ≤ k := Nat.mod_le _ _
  by_contra hne
  have hnext := hbelow (cfg.instructionExecutionLimit.toNat + 1) (by omega)
  rw [Nat.zero_add, BitVec.le_def, BitVec.toNat_ofNat] at hnext
  omega

/-! ### `Run` -/

/-- The number of instructions until the program ends; infinite if it never does. -/
def HasLength (cfg : VmConfig) (fpu : FloatUnit) (vm : RVSSVM) : ℕ∞ → Prop
  | none => ∀ n, ¬EndsAfter cfg fpu vm n
  | some n => EndsAfter cfg fpu vm n

/-- `Run` returns after as many instructions; after infinitely many, never. -/
def Retires (cfg : VmConfig) (fpu : FloatUnit) (vm : RVSSVM) : ℕ∞ → Prop
  | none => ∀ fuel, vm.run cfg fpu fuel = none
  | some k => ∃ vm' fuel, AfterInstructions cfg fpu k vm.clearStop vm' ∧
      vm.run cfg fpu fuel = some (.ok vm'.reportEnd)

/-- The number of instructions a limit leaves of `length` many: zero is no limit. -/
noncomputable def limited (limit : BitVec 64) (length : ℕ∞) : ℕ∞ :=
  if limit = 0#64 then length else min (limit.toNat : ℕ∞) length

/-- `Run` obeys its limit, and so ends where there is one. -/
def ObeysLimit (cfg : VmConfig) (fpu : FloatUnit) (vm : RVSSVM) : Prop :=
  (∀ length, HasLength cfg fpu vm.clearStop length →
    Retires cfg fpu vm (limited cfg.instructionExecutionLimit length)) ∧
  (cfg.instructionExecutionLimit ≠ 0#64 → ∃ fuel r, vm.run cfg fpu fuel = some r)

theorem loopState_reportEnd (vm : RVSSVM) : vm.reportEnd.loopState = vm.loopState := by
  unfold reportEnd
  split <;> rfl

/-- A run that returns has executed instructions until the loop stopped. -/
theorem afterInstructions_of_run {fuel : Nat} (h : vm.run cfg fpu fuel = some (.ok vm')) :
    ∃ k vm₁, AfterInstructions cfg fpu k vm.clearStop vm₁ ∧ StopsAfter cfg 0 k vm₁ ∧
      vm₁.loopState = vm'.loopState := by
  obtain ⟨r, hloop, hr⟩ := Option.map_eq_some_iff.mp h
  cases r with
  | error e => cases hr
  | ok vm₁ =>
    obtain rfl := Except.ok.inj hr
    obtain ⟨k, hafter, hstop⟩ := afterInstructions_of_runLoop (c := 0) rfl hloop
    exact ⟨k, vm₁, hafter, hstop, (loopState_reportEnd vm₁).symm⟩

/-- A run of `m` instructions that returns inside the program has executed one more
than the limit, as far as the 32-bit counter tells. -/
theorem Retires.count_eq {m : Nat} (h : Retires cfg fpu vm m)
    (hafter : AfterInstructions cfg fpu m vm.clearStop vm')
    (hpc : vm'.programCounter < vm'.programSize) :
    BitVec.ofNat 32 m = BitVec.ofNat 32 (cfg.instructionExecutionLimit.toNat + 1) := by
  obtain ⟨vm₁, fuel, hafter₁, hrun⟩ := h
  obtain rfl := hafter₁.unique hafter
  obtain ⟨k, vm₂, hafter₂, hstop, hsame⟩ := afterInstructions_of_run hrun
  rw [loopState_reportEnd] at hsame
  have hcounter : vm₂.programCounter = vm₁.programCounter := congrArg LoopState.programCounter hsame
  have hsize : vm₂.programSize = vm₁.programSize := congrArg LoopState.programSize hsame
  have hk := hstop.eq_succ (by rw [hcounter, hsize]; exact hpc)
  have hcount : vm.clearStop.instructionsRetired + BitVec.ofNat 32 k =
      vm.clearStop.instructionsRetired + BitVec.ofNat 32 m := by
    have h₁ := congrArg LoopState.instructionsRetired hafter.loopState
    have h₂ := congrArg LoopState.instructionsRetired hafter₂.loopState
    exact h₂.symm.trans ((congrArg LoopState.instructionsRetired hsame).trans h₁)
  rw [← hk]
  exact (BitVec.add_right_inj _).mp hcount.symm

/-- `Run` does not stop at its limit inside the program. -/
theorem not_retires_limit (hafter : AfterInstructions cfg fpu
      cfg.instructionExecutionLimit.toNat vm.clearStop vm')
    (hpc : vm'.programCounter < vm'.programSize) :
    ¬Retires cfg fpu vm cfg.instructionExecutionLimit.toNat := by
  intro h
  have hcount := congrArg BitVec.toNat (h.count_eq hafter hpc)
  rw [BitVec.toNat_ofNat, BitVec.toNat_ofNat] at hcount
  omega

/-- The whole length is run when the limit does not stop the program before. -/
theorem retires_of_endsAfter {n : Nat} (hn : n ≤ max cfg.instructionExecutionLimit.toNat 1)
    (h : EndsAfter cfg fpu vm.clearStop n) : Retires cfg fpu vm n := by
  obtain ⟨vm', hafter, hend⟩ := h
  have hlimit := cfg.instructionExecutionLimit.isLt
  have hstop : StopsAfter cfg 0 n vm' := by
    refine ⟨fun i hi => ?_, .inl hend⟩
    rw [Nat.zero_add, BitVec.le_def, BitVec.toNat_ofNat]
    omega
  refine ⟨vm', n + 1, hafter, ?_⟩
  unfold run
  rw [show (0#64 : BitVec 64) = BitVec.ofNat 64 0 from rfl,
    runLoop_eq_some_ok hafter (by rfl) hstop]
  rfl

/-- The loop ends, with or without a fault, when its counter can pass the limit. -/
theorem exists_runLoop (hlimit : cfg.instructionExecutionLimit.toNat + 1 < 2 ^ 64) (rounds : Nat) :
    ∀ (c : Nat) (vm : RVSSVM), cfg.instructionExecutionLimit.toNat + 1 - c ≤ rounds →
      c ≤ cfg.instructionExecutionLimit.toNat + 1 →
      ∃ r, vm.runLoop cfg fpu (rounds + 1) (BitVec.ofNat 64 c) = some r := by
  induction rounds with
  | zero =>
    intro c vm hrounds hc
    have hpast : cfg.instructionExecutionLimit < BitVec.ofNat 64 c := by
      rw [BitVec.lt_def, BitVec.toNat_ofNat]
      omega
    unfold runLoop
    split
    · exact ⟨_, rfl⟩
    · exact ⟨_, rfl⟩
  | succ rounds ih =>
    intro c vm hrounds hc
    unfold runLoop
    split
    · exact ⟨_, rfl⟩
    split
    · exact ⟨_, rfl⟩
    rename_i hbelow
    rw [BitVec.not_lt, BitVec.le_def, BitVec.toNat_ofNat] at hbelow
    split
    · exact ⟨_, rfl⟩
    · rw [show BitVec.ofNat 64 c + 1#64 = BitVec.ofNat 64 (c + 1) from (BitVec.ofNat_add c 1).symm]
      exact ih (c + 1) _ (by omega) (by omega)

/-- **`Run` ends for every program** unless the limit is the largest 64-bit number,
which the counter cannot pass. -/
theorem exists_run (hlimit : cfg.instructionExecutionLimit.toNat + 1 < 2 ^ 64) (vm : RVSSVM) :
    ∃ r, vm.run cfg fpu (cfg.instructionExecutionLimit.toNat + 2) = some r := by
  obtain ⟨r, hr⟩ := @exists_runLoop cfg fpu hlimit (cfg.instructionExecutionLimit.toNat + 1) 0
    vm.clearStop (by omega) (by omega)
  refine ⟨r.map reportEnd, ?_⟩
  unfold run
  rw [hr]
  rfl

/-- Where the limit is zero, a program that retires its whole length has at most
one instruction. -/
theorem le_one_of_retires {n : Nat} (hlimit : cfg.instructionExecutionLimit = 0#64)
    (hn : EndsAfter cfg fpu vm.clearStop n) (h : Retires cfg fpu vm n) : n ≤ 1 := by
  obtain ⟨vm₁, fuel, hafter, hrun⟩ := h
  obtain ⟨vm', hafter', hend⟩ := hn
  obtain rfl := hafter.unique hafter'
  obtain ⟨k, vm₂, hafter₂, hstop, hsame⟩ := afterInstructions_of_run hrun
  rw [loopState_reportEnd] at hsame
  have hcounter : vm₂.programCounter = vm₁.programCounter := congrArg LoopState.programCounter hsame
  have hsize : vm₂.programSize = vm₁.programSize := congrArg LoopState.programSize hsame
  have hend₂ : EndsAfter cfg fpu vm.clearStop k := by
    refine ⟨vm₂, hafter₂, ?_⟩
    rw [hcounter, hsize]
    exact hend
  obtain rfl : k = n := hend₂.unique ⟨vm₁, hafter, hend⟩
  by_contra hgt
  have hsecond := hstop.1 1 (by omega)
  rw [hlimit] at hsecond
  exact absurd hsecond (by decide)

/-- A program on which `Run` obeys its limit ends within it. -/
theorem endsAfter_of_obeysLimit (h : ObeysLimit cfg fpu vm) :
    ∃ n, n ≤ max cfg.instructionExecutionLimit.toNat 1 ∧ EndsAfter cfg fpu vm.clearStop n := by
  by_cases hends : ∃ n, EndsAfter cfg fpu vm.clearStop n
  · -- a program that ends later does not retire what the limit leaves of it
    obtain ⟨n, hn⟩ := hends
    refine ⟨n, ?_, hn⟩
    have hretires := h.1 n hn
    unfold limited at hretires
    by_cases hzero : cfg.instructionExecutionLimit = 0#64
    · rw [if_pos hzero] at hretires
      have := le_one_of_retires hzero hn hretires
      omega
    · by_contra hgt
      have hlt : cfg.instructionExecutionLimit.toNat < n := by omega
      rw [if_neg hzero, min_eq_left (by exact_mod_cast hlt.le)] at hretires
      obtain ⟨vm₁, -, hafter, -⟩ := id hretires
      obtain ⟨vm', hafter', -⟩ := hn
      exact not_retires_limit hafter (hafter.counter_lt hafter' hlt) hretires
  · -- a program that never ends is not stopped at the limit
    have hnone : HasLength cfg fpu vm.clearStop ⊤ := fun n hn => hends ⟨n, hn⟩
    have hretires := h.1 ⊤ hnone
    unfold limited at hretires
    by_cases hzero : cfg.instructionExecutionLimit = 0#64
    · rw [if_pos hzero] at hretires
      obtain ⟨r, hr⟩ := exists_run (by rw [hzero]; decide) vm
      exact absurd (hr.symm.trans (hretires _)) (by simp)
    · rw [if_neg hzero, min_eq_left le_top] at hretires
      obtain ⟨vm₁, -, hafter, -⟩ := id hretires
      have hpc : vm₁.programCounter < vm₁.programSize :=
        BitVec.not_le.mp fun hend => hends ⟨_, vm₁, hafter, hend⟩
      exact absurd hretires (not_retires_limit hafter hpc)

/-- **`Run` obeys its limit** exactly for the programs that end within it; where
it is zero, for those that end after one instruction at the latest. -/
theorem run_retires_iff (cfg : VmConfig) (fpu : FloatUnit) (vm : RVSSVM) :
    ObeysLimit cfg fpu vm ↔
      ∃ n, n ≤ max cfg.instructionExecutionLimit.toNat 1 ∧
        EndsAfter cfg fpu vm.clearStop n := by
  constructor
  · exact endsAfter_of_obeysLimit
  rintro ⟨n, hle, hn⟩
  have hretires := retires_of_endsAfter hle hn
  refine ⟨fun length hlength => ?_, fun _ => ?_⟩
  · cases length with
    | top => exact absurd hn (hlength n)
    | coe m =>
      obtain rfl : m = n := EndsAfter.unique hlength hn
      unfold limited
      split
      · exact hretires
      · rename_i hzero
        have hpos : 0 < cfg.instructionExecutionLimit.toNat :=
          Nat.pos_of_ne_zero fun h => hzero (BitVec.eq_of_toNat_eq h)
        rw [min_eq_right (by exact_mod_cast (show m ≤ cfg.instructionExecutionLimit.toNat by omega))]
        exact hretires
  · obtain ⟨vm', fuel, -, hrun⟩ := hretires
    exact ⟨fuel, _, hrun⟩

/-- `addi x1, x1, 1`, three times. -/
def threeIncrements : AssembledProgram where
  textBuffer := [0x00108093#32, 0x00108093#32, 0x00108093#32]

/-- A configuration whose limit is one instruction. -/
def limitOne : VmConfig where
  instructionExecutionLimit := 1#64

/-- With a limit of one, `Run` executes two of three instructions. -/
theorem run_past_limit :
    ∃ vm, (new limitOne).loadProgram limitOne threeIncrements = .ok vm ∧
      ¬ObeysLimit limitOne .zeros vm := by
  obtain ⟨vm, hload, hvm⟩ := exists_ok_of_map
    (x := (new limitOne).loadProgram limitOne threeIncrements)
    (f := fun vm : RVSSVM => (decide (vm.programCounter < vm.programSize),
      (vm.clearStop.runInstruction limitOne .zeros).toOption.map fun vm : RVSSVM =>
        decide (vm.programCounter < vm.programSize)))
    (b := (true, some true)) (by decide +kernel)
  obtain ⟨hfirst, hsecond⟩ := Prod.mk.inj hvm
  obtain ⟨vm₁, hrun, hsecond⟩ := exists_ok_of_map hsecond
  refine ⟨vm, hload, fun hobeys => ?_⟩
  obtain ⟨n, hn, hends⟩ := endsAfter_of_obeysLimit hobeys
  have hpc : vm.clearStop.programCounter < vm.clearStop.programSize := of_decide_eq_true hfirst
  have hone : n ≤ 1 := hn
  obtain ⟨vm', hafter, hend⟩ := hends
  rcases Nat.le_one_iff_eq_zero_or_eq_one.mp hone with rfl | rfl
  · rw [hafter.unique (.done _)] at hend
    exact BitVec.not_le.mpr hpc hend
  · rw [hafter.unique (.instruction hpc hrun (.done _))] at hend
    exact BitVec.not_le.mpr (of_decide_eq_true hsecond) hend

end RVSSVM

end RiscvSim

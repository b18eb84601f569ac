import RiscvSim.Vm.Rv5s.Equiv.ExVm
import RiscvSim.Vm.Rv5s.Equiv.Frame

/-!
# Static prediction

With a static predictor every conditional branch that reaches the execute stage
is counted as mispredicted when its outcome differs from the one answer the
predictor has.  The two predictors answer the opposite of their names, so each
counts what the other one should count.

* **`run_branchMispredictions_iff`**: exactly when the count of a run is the one the name says.

The branches of a run are read off its execute stage (`executedBranches`); for
a program with a sequential run they are the branches of that run.
-/

namespace RiscvSim

open RV5SControlUnit Lib

/-! ### Static predictors -/

/-- The outcome that the name of a static predictor promises to predict. -/
def BranchPredictorType.namedOutcome (type : BranchPredictorType) : Bool :=
  type == .staticTaken

namespace BranchPredictor

/-- A static predictor whose answer is `b`. -/
def Answers (b : Bool) : BranchPredictor → Prop
  | .staticTaken _ => b = false
  | .staticNotTaken _ => b = true
  | _ => False

theorem getPrediction_of_answers {b : Bool} {p : BranchPredictor} (h : p.Answers b)
    (pc : BitVec 64) : p.getPrediction pc = b := by
  cases p with
  | staticTaken _ => exact h.symm
  | staticNotTaken _ => exact h.symm
  | dynamic1Bit _ _ => exact h.elim
  | dynamic2Bit _ _ => exact h.elim

theorem answers_updateState {b : Bool} {p : BranchPredictor} (h : p.Answers b)
    (pc : BitVec 64) (predictedOutcome actualOutcome : Bool) :
    (p.updateState pc predictedOutcome actualOutcome).Answers b := by
  cases p with
  | staticTaken _ => exact h
  | staticNotTaken _ => exact h
  | dynamic1Bit _ _ => exact h.elim
  | dynamic2Bit _ _ => exact h.elim

/-- The static predictors answer the opposite of their names. -/
theorem answers_ofType {type : BranchPredictorType}
    (h : type = .staticTaken ∨ type = .staticNotTaken) :
    (ofType type).Answers (!type.namedOutcome) := by
  rcases h with rfl | rfl <;> rfl

end BranchPredictor

/-! ### The branches of a run -/

/-- The control signals are those of an instruction that execute computes. -/
def ControlSignals.isComputed (control : ControlSignals) : Bool :=
  !(control.isNop || control.isCsr || control.isSyscall)

/-- The control signals are those of a branch that is no jump. -/
def ControlSignals.isConditional (control : ControlSignals) : Bool :=
  control.branch && control.branchOp != .jal && control.branchOp != .jalr

/-- The outcome of the conditional branch at the program counter, if there is one. -/
def ArchState.conditionalBranch (s : ArchState) : Option Bool :=
  if opcodeOf s.word = 0b1100011#7 then some (s.taken s.word) else none

namespace RV5SEXVM

/-- The outcome of the conditional branch that the execute stage resolves in the
cycle that starts in `vm`, if it resolves one. -/
def resolvedBranch (vm : RV5SEXVM) : Option Bool :=
  let control := vm.idExReg.control
  if vm.idExReg.isValid && control.isComputed && control.isConditional then
    match vm.executionResult with
    | .ok executionResult => some (branchOutcome control.branchOp executionResult)
    | .error _ => none
  else none

/-- The outcomes of the conditional branches that `run` executes, in order. -/
def executedBranches (cfg : VmConfig) (fuel : Nat) (vm : RV5SEXVM) : List Bool :=
  observe (·.stopRequested) (step cfg) resolvedBranch fuel (startRun vm)

/-- The outcomes of the conditional branches among the first `n` instructions of
a sequential run. -/
def sequentialBranches (n : Nat) (S : Nat → RV5SEXVM) : List Bool :=
  (List.range n).filterMap fun i => (Rv5sVm.arch (S i)).conditionalBranch

variable {cfg : VmConfig} {vm vm' : RV5SEXVM} {b : Bool}

/-! ### What the stages do to the count -/

/-- The prediction latched for a conditional branch is `b`, the one for JAL is right. -/
def Predicted (b : Bool) (l : IdExReg) : Prop :=
  l.control.isComputed = true → l.control.branch = true → l.control.branchOp ≠ .jalr →
    l.predictedOutcome = if l.control.branchOp = .jal then true else b

theorem predicted_bubble : Predicted b .bubble :=
  fun h => Bool.noConfusion h

/-- The stages before execute leave what execute decides on. -/
structure KeepsExecute (vm vm' : RV5SEXVM) : Prop where
  branchPredictor : vm'.branchPredictor = vm.branchPredictor
  branchMispredictions : vm'.branchMispredictions = vm.branchMispredictions
  idExReg : vm'.idExReg = vm.idExReg
  executionResult : Rv5sVm.executionResult vm' = Rv5sVm.executionResult vm

theorem keepsExecute_writeBackStage (vm : RV5SEXVM) : KeepsExecute vm (writeBackStage vm) := by
  unfold writeBackStage Rv5sVm.writeBackStage
  split <;> exact ⟨rfl, rfl, rfl, rfl⟩

theorem keepsExecute_memoryStage (h : memoryStage cfg vm = .ok vm') : KeepsExecute vm vm' := by
  unfold memoryStage Rv5sVm.memoryStage at h
  dsimp only at h
  split at h
  · obtain rfl := Except.ok.inj h
    exact ⟨rfl, rfl, rfl, rfl⟩
  split at h
  · obtain rfl := Except.ok.inj h
    exact ⟨rfl, rfl, rfl, rfl⟩
  split at h
  · obtain ⟨_, -, rfl⟩ := bind_pure_eq_ok.mp h
    exact ⟨rfl, rfl, rfl, rfl⟩
  · obtain ⟨_, -, rfl⟩ := bind_pure_eq_ok.mp h
    exact ⟨rfl, rfl, rfl, rfl⟩

/-- The branch decision counts a conditional branch whose outcome is not `b`. -/
theorem resolveBranch_static {x : BitVec 64} (hp : vm.branchPredictor.Answers b)
    (hl : Predicted b vm.idExReg) (hc : vm.idExReg.control.isComputed = true) :
    (resolveBranch vm x).branchPredictor.Answers b ∧
      (resolveBranch vm x).branchMispredictions = vm.branchMispredictions +
        BitVec.ofNat 32 (if vm.idExReg.control.isConditional = true ∧
          branchOutcome vm.idExReg.control.branchOp x = !b then 1 else 0) := by
  unfold resolveBranch
  dsimp only
  by_cases hb : vm.idExReg.control.branch = true
  · rw [if_pos hb]
    have hupdate := fun actual => BranchPredictor.answers_updateState hp vm.idExReg.pc
      vm.idExReg.predictedOutcome actual
    by_cases hjalr : vm.idExReg.control.branchOp = .jalr
    · rw [if_pos hjalr, if_neg (by simp [ControlSignals.isConditional, hjalr])]
      exact ⟨hupdate _, (BitVec.add_zero _).symm⟩
    have hpredicted := hl hc hb hjalr
    rw [if_neg hjalr]
    by_cases hjal : vm.idExReg.control.branchOp = .jal
    · rw [if_pos hjal] at hpredicted
      have htaken : branchOutcome vm.idExReg.control.branchOp x = true := by rw [hjal]; rfl
      have hright : ¬vm.idExReg.predictedOutcome ≠ branchOutcome vm.idExReg.control.branchOp x :=
        not_not.mpr (hpredicted.trans htaken.symm)
      rw [if_neg hright, if_neg (by simp [ControlSignals.isConditional, hjal])]
      exact ⟨hupdate _, (BitVec.add_zero _).symm⟩
    · rw [if_neg hjal] at hpredicted
      have hcond : vm.idExReg.control.isConditional = true := by
        simp [ControlSignals.isConditional, hb, hjal, hjalr]
      by_cases hout : branchOutcome vm.idExReg.control.branchOp x = !b
      · have hwrong : vm.idExReg.predictedOutcome ≠
            branchOutcome vm.idExReg.control.branchOp x := by
          rw [hpredicted, hout]
          cases b <;> decide
        rw [if_pos hwrong, if_pos (And.intro hcond hout)]
        exact ⟨hupdate _, rfl⟩
      · have hright : ¬vm.idExReg.predictedOutcome ≠
            branchOutcome vm.idExReg.control.branchOp x := by
          rw [hpredicted]
          cases b <;> simp_all
        rw [if_neg hright, if_neg fun h => hout h.2]
        exact ⟨hupdate _, (BitVec.add_zero _).symm⟩
  · rw [if_neg hb, if_neg (by simp [ControlSignals.isConditional, hb])]
    exact ⟨hp, (BitVec.add_zero _).symm⟩

/-- The number of mispredictions a cycle of `vm` adds when `b` is predicted. -/
def missedIn (b : Bool) (vm : RV5SEXVM) : Nat :=
  (resolvedBranch vm).toList.count (!b)

theorem missedIn_eq_zero (h : vm.idExReg.isValid = false ∨ vm.idExReg.control.isComputed = false) :
    missedIn b vm = 0 := by
  have hnone : resolvedBranch vm = none := by
    unfold resolvedBranch
    dsimp only
    rw [if_neg (by rcases h with h | h <;> simp [h])]
  rw [missedIn, hnone]
  rfl

theorem missedIn_of_result {x : BitVec 64} (hv : vm.idExReg.isValid = true)
    (hc : vm.idExReg.control.isComputed = true) (hx : Rv5sVm.executionResult vm = .ok x) :
    missedIn b vm = if vm.idExReg.control.isConditional = true ∧
      branchOutcome vm.idExReg.control.branchOp x = !b then 1 else 0 := by
  unfold missedIn resolvedBranch
  dsimp only
  rw [hv, hc, hx]
  by_cases hcond : vm.idExReg.control.isConditional = true
  · simp [hcond, List.count_cons]
  · simp [hcond]

theorem missedIn_congr (h : KeepsExecute vm vm') : missedIn b vm' = missedIn b vm := by
  unfold missedIn resolvedBranch
  rw [h.idExReg, h.executionResult]

/-- Execute counts the conditional branch it resolves when its outcome is not `b`. -/
theorem executeStage_static (h : executeStage vm = .ok vm') (hp : vm.branchPredictor.Answers b)
    (hl : Predicted b vm.idExReg) :
    vm'.branchPredictor.Answers b ∧
      vm'.branchMispredictions = vm.branchMispredictions + BitVec.ofNat 32 (missedIn b vm) := by
  unfold executeStage at h
  dsimp only at h
  split at h
  · rename_i hv
    obtain rfl := Except.ok.inj h
    rw [missedIn_eq_zero (.inl (by simpa using hv))]
    exact ⟨hp, (BitVec.add_zero _).symm⟩
  rename_i hv
  split at h
  · rename_i hc
    obtain rfl := Except.ok.inj h
    rw [missedIn_eq_zero (.inr (by
      unfold ControlSignals.isComputed
      rw [hc]
      rfl))]
    exact ⟨hp, (BitVec.add_zero _).symm⟩
  · rename_i hc
    obtain ⟨x, hx, rfl⟩ := bind_pure_eq_ok.mp h
    have hcomputed : vm.idExReg.control.isComputed = true := by
      unfold ControlSignals.isComputed
      rw [Bool.eq_false_iff.mpr hc]
      rfl
    have hresult : Rv5sVm.executionResult vm = .ok x := throwAt_eq_ok.mp hx
    rw [missedIn_of_result (by simpa using hv) hcomputed hresult]
    exact resolveBranch_static hp hl hcomputed

/-- Decode predicts `b` for a conditional branch and counts nothing. -/
theorem decodeStage_static (hp : vm.branchPredictor.Answers b) :
    (decodeStage vm).branchPredictor = vm.branchPredictor ∧
      (decodeStage vm).branchMispredictions = vm.branchMispredictions ∧
      Predicted b (decodeStage vm).nextIdExReg := by
  unfold decodeStage
  dsimp only
  split
  · exact ⟨rfl, rfl, predicted_bubble⟩
  split
  · exact ⟨rfl, rfl, predicted_bubble⟩
  split
  · rename_i hnop
    refine ⟨rfl, rfl, fun hc => ?_⟩
    have hc : (getControlSignals vm.ifIdReg.instruction).isComputed = true := hc
    rw [ControlSignals.isComputed, hnop] at hc
    cases hc
  split
  · refine ⟨rfl, rfl, fun hc => ?_⟩
    simp [ControlSignals.isComputed, Rv5sVm.passedIdEx] at hc
  split
  · refine ⟨rfl, rfl, fun hc => ?_⟩
    simp [ControlSignals.isComputed, Rv5sVm.passedIdEx] at hc
  split
  · exact ⟨rfl, rfl, predicted_bubble⟩
  · -- the prediction for what has been decoded
    unfold predictBranch
    split
    · rename_i hjump
      refine ⟨rfl, rfl, fun _ _ hjalr => ?_⟩
      have hjal := hjump.resolve_right hjalr
      exact (if_pos hjal).symm
    rename_i hjump
    obtain ⟨hjal, -⟩ := not_or.mp hjump
    split
    · rename_i hb
      have hpredict := BranchPredictor.getPrediction_of_answers hp vm.ifIdReg.pc
      dsimp only
      split
      · exact ⟨rfl, rfl, fun _ _ _ => hpredict.trans (if_neg hjal).symm⟩
      · exact ⟨rfl, rfl, fun _ _ _ => hpredict.trans (if_neg hjal).symm⟩
    · rename_i hb
      exact ⟨rfl, rfl, fun _ hb' => absurd hb' hb⟩

/-- Fetch neither predicts nor counts. -/
theorem fetchStage_static (h : fetchStage vm = .ok vm') :
    vm'.branchPredictor = vm.branchPredictor ∧
      vm'.branchMispredictions = vm.branchMispredictions ∧
      vm'.nextIdExReg = vm.nextIdExReg := by
  unfold fetchStage at h
  split at h
  · obtain rfl := Except.ok.inj h
    exact ⟨rfl, rfl, rfl⟩
  split at h
  · obtain rfl := Except.ok.inj h
    exact ⟨rfl, rfl, rfl⟩
  split at h
  · obtain rfl := Except.ok.inj h
    exact ⟨rfl, rfl, rfl⟩
  · obtain rfl := Except.ok.inj h
    exact ⟨rfl, rfl, rfl⟩
  · cases h

/-- The machine after the outcomes `l`, of which those that are not `b` have been counted. -/
structure StaticInv (b : Bool) (l : List Bool) (vm : RV5SEXVM) : Prop where
  predictor : vm.branchPredictor.Answers b
  latch : Predicted b vm.idExReg
  counted : vm.branchMispredictions = BitVec.ofNat 32 (l.count (!b))
  running : vm.outputStatus = .programEnd → vm.stopRequested = true

/-- The stages of a cycle count the branch resolved in it. -/
theorem runStages_static (h : runStages cfg vm = .ok vm') (hp : vm.branchPredictor.Answers b)
    (hl : Predicted b vm.idExReg) :
    vm'.branchPredictor.Answers b ∧
      vm'.branchMispredictions = vm.branchMispredictions + BitVec.ofNat 32 (missedIn b vm) ∧
      Predicted b vm'.nextIdExReg := by
  let vm₀ : RV5SEXVM := { vm with stallRequest := false, flushPipeline := false }
  have hk₀ : KeepsExecute vm vm₀ := ⟨rfl, rfl, rfl, rfl⟩
  have hkw := keepsExecute_writeBackStage vm₀
  unfold runStages at h
  dsimp only at h
  obtain ⟨vm₁, hmemory, h⟩ := bind_eq_ok.mp h
  have hkm := keepsExecute_memoryStage hmemory
  obtain ⟨vm₂, hexecute, h⟩ := bind_eq_ok.mp h
  have hp₁ : vm₁.branchPredictor.Answers b := by
    rw [hkm.branchPredictor, hkw.branchPredictor, hk₀.branchPredictor]
    exact hp
  have hl₁ : Predicted b vm₁.idExReg := by
    rw [hkm.idExReg, hkw.idExReg, hk₀.idExReg]
    exact hl
  obtain ⟨hp₂, hcount⟩ := executeStage_static hexecute hp₁ hl₁
  rw [missedIn_congr hkm, missedIn_congr hkw, missedIn_congr hk₀, hkm.branchMispredictions,
    hkw.branchMispredictions, hk₀.branchMispredictions] at hcount
  obtain ⟨hp₃, hcount₃, hl₃⟩ := decodeStage_static hp₂
  by_cases hstall : (decodeStage vm₂).stallRequest = true
  · rw [if_pos hstall] at h
    obtain rfl := Except.ok.inj h
    exact ⟨hp₃ ▸ hp₂, hcount₃.trans hcount, hl₃⟩
  · rw [if_neg hstall] at h
    obtain ⟨hp₄, hcount₄, hl₄⟩ := fetchStage_static h
    exact ⟨hp₄ ▸ hp₃ ▸ hp₂, hcount₄.trans (hcount₃.trans hcount), hl₄ ▸ hl₃⟩

/-- A cycle keeps the invariant. -/
theorem StaticInv.step {l : List Bool} (hinv : StaticInv b l vm) (hgo : vm.stopRequested = false)
    (h : step cfg vm = .ok vm') : StaticInv b (l ++ (resolvedBranch vm).toList) vm' := by
  unfold RV5SEXVM.step at h
  rw [if_neg fun hend => Bool.noConfusion (hgo.symm.trans (hinv.running hend))] at h
  obtain ⟨vm₁, hrun, rfl⟩ := bind_pure_eq_ok.mp h
  obtain ⟨hp, hcount, hl⟩ := runStages_static hrun hinv.predictor hinv.latch
  have hcounted : vm₁.branchMispredictions =
      BitVec.ofNat 32 ((l ++ (resolvedBranch vm).toList).count (!b)) := by
    rw [hcount, hinv.counted, List.count_append, BitVec.ofNat_add]
    rfl
  unfold Rv5sVm.reportStep
  split
  · exact ⟨hp, hl, hcounted, fun _ => rfl⟩
  · exact ⟨hp, hl, hcounted, fun hend => OutputStatus.noConfusion hend⟩

/-! ### The branches of a sequential run -/

section

variable {size : BitVec 64} {n r : Nat} {A : Nat → ArchState} {W : Nat → BitVec 32}

/-- The outcomes of the conditional branches among the first `k` instructions. -/
def branchesBefore (A : Nat → ArchState) (k : Nat) : List Bool :=
  (List.range k).filterMap fun i => (A i).conditionalBranch

theorem branchesBefore_succ (A : Nat → ArchState) (k : Nat) :
    branchesBefore A (k + 1) = branchesBefore A k ++ (A k).conditionalBranch.toList := by
  unfold branchesBefore
  rw [List.range_succ, List.filterMap_append]
  cases h : (A k).conditionalBranch <;> simp [h]

/-- The conditional branches are the words of one opcode. -/
theorem isConditional_iff {w : BitVec 32} {c : ControlSignals} (hc : ControlCase w c) :
    c.isConditional = true ↔ opcodeOf w = 0b1100011#7 := by
  have hjump := bTypeSignals_ne_jump (funct3Of w)
  cases hc with
  | branch h => simp [ControlSignals.isConditional, h, hjump.1, hjump.2]
  | _ h => simp [ControlSignals.isConditional, h]

/-- The branch that execute resolves is that of the instruction in the second latch. -/
theorem resolvedBranch_of_exInv (t : Trace cfg size n A W) (h : ExInv size n A W r vm)
    (hv : vm.idExReg.isValid = true) :
    resolvedBranch vm = (A (vm.posEx r)).conditionalBranch := by
  have hok := h.backEnd.idEx.1 hv
  have hlt : vm.posEx r < n := by
    have hbound := h.backEnd.bound
    rw [Rv5sVm.posId, hv, Bool.toNat_true] at hbound
    omega
  unfold resolvedBranch ArchState.conditionalBranch
  dsimp only
  rw [ArchState.word_of_fetch (t.fetch _ hlt), hok.control, hv, Bool.true_and]
  cases hnop : (getControlSignals (W (vm.posEx r))).isNop with
  | true =>
    have hne : opcodeOf (W (vm.posEx r)) ≠ 0b1100011#7 := fun ho =>
      Bool.noConfusion (hnop.symm.trans (isNop_of_branch ho))
    rw [if_neg hne, if_neg (by simp [ControlSignals.isComputed, hnop])]
  | false =>
    have hc := controlCase_getControlSignals hnop
    have hcomputed : (getControlSignals (W (vm.posEx r))).isComputed = true := by
      rw [ControlSignals.isComputed, hnop, hc.isCsr_eq, hc.isSyscall_eq]
      rfl
    rw [hcomputed, Bool.true_and]
    by_cases hcond : (getControlSignals (W (vm.posEx r))).isConditional = true
    · obtain ⟨x, hx⟩ := ArchState.alu_of_exec (t.exec _ hlt) hnop
      have hops := operandsOk_of_latched t h.backEnd hv hnop (h.operands hv hnop)
      have hbranch : (getControlSignals (W (vm.posEx r))).branch = true := by
        simp only [ControlSignals.isConditional, Bool.and_eq_true] at hcond
        exact hcond.1.1
      rw [if_pos hcond, if_pos ((isConditional_iff hc).mp hcond),
        executionResult_eq hok hnop hops, hx]
      exact congrArg some (hc.branchOutcome_eq hbranch hx)
    · rw [if_neg hcond, if_neg fun ho => hcond ((isConditional_iff hc).mpr ho)]

/-- A cycle resolves the branch of the instruction it takes through execute. -/
theorem branchesBefore_posId (t : Trace cfg size n A W) (h : ExInv size n A W r vm) :
    branchesBefore A (vm.posId r) =
      branchesBefore A (vm.posEx r) ++ (resolvedBranch vm).toList := by
  unfold Rv5sVm.posId
  cases hv : vm.idExReg.isValid with
  | true =>
    rw [Bool.toNat_true, branchesBefore_succ, resolvedBranch_of_exInv t h hv]
  | false =>
    have hnone : resolvedBranch vm = none := by
      unfold resolvedBranch
      rw [hv]
      rfl
    rw [hnone, Bool.toNat_false]
    exact (List.append_nil _).symm

/-- What a run has shown: the branches of the instructions that have left
execute, and all of them at its end. -/
def ShownInv (size : BitVec 64) (n : Nat) (A : Nat → ArchState) (W : Nat → BitVec 32)
    (l : List Bool) (vm : RV5SEXVM) : Prop :=
  (vm.stopRequested = true ∧ l = branchesBefore A n) ∨
  (vm.stopRequested = false ∧ vm.outputStatus ≠ .programEnd ∧
    ∃ r, ExInv size n A W r vm ∧ l = branchesBefore A (vm.posEx r))

theorem ShownInv.step (t : Trace cfg size n A W) (h0 : (A 0).memory.Reachable cfg)
    {l : List Bool} (hinv : ShownInv size n A W l vm) (hgo : vm.stopRequested = false)
    (h : step cfg vm = .ok vm') : ShownInv size n A W (l ++ (resolvedBranch vm).toList) vm' := by
  rcases hinv with ⟨hstop, -⟩ | ⟨-, hrunning, r, hinv, rfl⟩
  · exact Bool.noConfusion (hgo.symm.trans hstop)
  obtain ⟨vm'', hstep, hpos, hnext⟩ := step_of_exInv t h0 hinv hgo hrunning
  obtain rfl := Except.ok.inj (hstep.symm.trans h)
  rw [← branchesBefore_posId t hinv]
  rcases hnext with ⟨hstop, -, -, hn⟩ | ⟨hgo', hrunning', hinv', -⟩
  · exact .inl ⟨hstop, by rw [hn]⟩
  · exact .inr ⟨hgo', hrunning', _, hinv', by rw [hpos]⟩

end

/-- The branches that a run executes are those of the sequential run. -/
theorem executedBranches_eq_sequentialBranches {n fuel : Nat} {S : Nat → RV5SEXVM}
    (h : Sequential cfg n S) (h0 : (S 0).Fresh cfg) (hrun : run cfg fuel (S 0) = some (.ok vm')) :
    executedBranches cfg fuel (S 0) = sequentialBranches n S := by
  have t := h.trace h0.isEmpty
  obtain ⟨s, hloop, -⟩ := run_eq_ok hrun
  have hempty : Rv5sVm.IsEmpty (startRun (S 0)) :=
    ⟨h0.isEmpty.ifId, h0.isEmpty.idEx, h0.isEmpty.exMem, h0.isEmpty.memWb⟩
  have hstart : ExInv (S 0).programSize n (fun i => Rv5sVm.arch (S i))
      (fun i => (Rv5sVm.arch (S i)).word) 0 (startRun (S 0)) :=
    exInv_of_isEmpty hempty h0.retired rfl rfl
  have hposEx : Rv5sVm.posEx (startRun (S 0)) 0 = 0 := by
    simp [Rv5sVm.posEx, Rv5sVm.posMem, hempty.exMem, hempty.memWb, ExMemReg.bubble,
      MemWbReg.bubble]
  have hshown₀ : ShownInv (S 0).programSize n (fun i => Rv5sVm.arch (S i))
      (fun i => (Rv5sVm.arch (S i)).word) [] (startRun (S 0)) :=
    .inr ⟨rfl, OutputStatus.noConfusion, 0, hstart, by rw [hposEx]; rfl⟩
  have hshown := observe_invariant _ (fun _ _ _ hinv hgo hs => hinv.step t h0.memory hgo hs)
    hshown₀ hloop
  rw [List.nil_append] at hshown
  rcases hshown with ⟨-, hall⟩ | ⟨hgo, -⟩
  · exact hall
  · exact Bool.noConfusion (hgo.symm.trans (reaches_of_runUntil hloop).2)

/-! ### The count of a run -/

/-- With a static predictor that answers `b`, a run counts the conditional
branches it executes whose outcome is not `b`. -/
theorem run_branchMispredictions {fuel : Nat} (hp : vm.branchPredictor.Answers b)
    (hl : vm.IsEmpty) (h0 : vm.branchMispredictions = 0#32)
    (hrun : run cfg fuel vm = some (.ok vm')) :
    vm'.branchMispredictions = BitVec.ofNat 32 ((executedBranches cfg fuel vm).count (!b)) := by
  obtain ⟨s, hloop, rfl⟩ := run_eq_ok hrun
  have hstart : StaticInv b [] (startRun vm) := {
    predictor := hp
    latch := by
      show Predicted b vm.idExReg
      rw [hl.idEx]
      exact predicted_bubble
    counted := h0
    running := fun hend => OutputStatus.noConfusion hend }
  have hend := observe_invariant _ (fun _ _ _ hinv hgo hs => hinv.step hgo hs) hstart hloop
  exact hend.counted

/-- **The count of mispredictions with a static predictor.**  A run that ends
counts what the name of the predictor promises exactly when, modulo the width
of the counter, it executes as many branches with the one outcome as with the
other.  Where the program has a sequential run, its branches are meant. -/
theorem run_branchMispredictions_iff (cfg : VmConfig) (enable : Bool) (type : BranchPredictorType)
    (htype : type = .staticTaken ∨ type = .staticNotTaken) (program : AssembledProgram)
    (vm₀ : RV5SEXVM)
    (hload : (((new cfg).setBranchPredictorType type).enableForwarding enable).loadProgram cfg
      program = .ok vm₀)
    (fuel : Nat) (vm₁ : RV5SEXVM) (hrun : run cfg fuel vm₀ = some (.ok vm₁)) :
    (vm₁.branchMispredictions.toNat =
        (executedBranches cfg fuel vm₀).count (!type.namedOutcome) ↔
      (executedBranches cfg fuel vm₀).count type.namedOutcome % 2 ^ 32 =
        (executedBranches cfg fuel vm₀).count (!type.namedOutcome)) ∧
    ∀ n S, S 0 = vm₀ → Sequential cfg n S →
      executedBranches cfg fuel vm₀ = sequentialBranches n S := by
  obtain ⟨base, hbase, hvm₀⟩ := bind_pure_eq_ok.mp hload
  have hvm₀ := hvm₀.symm
  obtain ⟨m₁, c₁, m₂, c₂, -, -, hbase'⟩ := loadProgram_eq_ok.mp (throwWith_eq_ok.mp hbase)
  obtain ⟨hretired, -, -, hmemory⟩ := frame_of_loadProgram (throwWith_eq_ok.mp hbase)
  have hempty : Rv5sVm.IsEmpty vm₀ := by
    rw [hvm₀]
    exact ⟨rfl, rfl, rfl, rfl⟩
  constructor
  · have hp : vm₀.branchPredictor.Answers (!type.namedOutcome) := by
      rw [hvm₀]
      exact BranchPredictor.answers_ofType htype
    have hzero : vm₀.branchMispredictions = 0#32 := by
      rw [hvm₀, hbase']
      rfl
    rw [run_branchMispredictions hp hempty hzero hrun, BitVec.toNat_ofNat, Bool.not_not]
  · rintro n S rfl hS
    have hfresh : Rv5sVm.Fresh cfg (S 0) := by
      rw [hvm₀] at hempty ⊢
      exact ⟨hempty, hretired, hmemory (Memory.Reachable.new.reset)⟩
    exact executedBranches_eq_sequentialBranches hS hfresh hrun

/-- `beq x0, x0, 8` over `addi x1, x0, 1`, then `bne x0, x0, 8`: one branch is
taken and one is not. -/
def oneOfEach : AssembledProgram :=
  { textBuffer := [0x00000463#32, 0x00100093#32, 0x00001463#32] }

theorem run_branchMispredictions_iff_oneOfEach :
    ∃ vm₀ vm₁, (((new {}).setBranchPredictorType .staticNotTaken).enableForwarding
        true).loadProgram {} oneOfEach = .ok vm₀ ∧
      run {} 20 vm₀ = some (.ok vm₁) ∧
      vm₁.branchMispredictions.toNat = (executedBranches {} 20 vm₀).count true := by
  let vm₀ : RV5SEXVM :=
    ((((new {}).setBranchPredictorType .staticNotTaken).enableForwarding
      true).loadProgram {} oneOfEach).toOption.getD (new {})
  have hload : (((new {}).setBranchPredictorType .staticNotTaken).enableForwarding
      true).loadProgram {} oneOfEach = .ok vm₀ :=
    eq_ok_getD _ (by decide +kernel)
  have hrun := eq_some_ok_getD (x := run {} 20 vm₀) (new {}) (by decide +kernel)
  refine ⟨vm₀, _, hload, hrun, ?_⟩
  exact (run_branchMispredictions_iff {} true .staticNotTaken (.inr rfl) oneOfEach vm₀ hload 20 _
    hrun).1.mpr (by decide +kernel)

/-- `beq x0, x0, 8` is taken, and `STATIC_NOT_TAKEN` counts no misprediction. -/
theorem run_staticNotTaken_counts_none :
    ∃ vm₀ vm₁, (((new {}).setBranchPredictorType .staticNotTaken).enableForwarding
        true).loadProgram {} { textBuffer := [0x00000463#32] } = .ok vm₀ ∧
      run {} 20 vm₀ = some (.ok vm₁) ∧ executedBranches {} 20 vm₀ = [true] ∧
      vm₁.branchMispredictions.toNat ≠ (executedBranches {} 20 vm₀).count true := by
  let vm₀ : RV5SEXVM :=
    ((((new {}).setBranchPredictorType .staticNotTaken).enableForwarding
      true).loadProgram {} { textBuffer := [0x00000463#32] }).toOption.getD (new {})
  have hload : (((new {}).setBranchPredictorType .staticNotTaken).enableForwarding
      true).loadProgram {} { textBuffer := [0x00000463#32] } = .ok vm₀ :=
    eq_ok_getD _ (by decide +kernel)
  have hrun := eq_some_ok_getD (x := run {} 20 vm₀) (new {}) (by decide +kernel)
  exact ⟨vm₀, _, hload, hrun, by decide +kernel, by decide +kernel⟩

end RV5SEXVM

end RiscvSim

import Mathlib.Data.List.Induction
import RiscvSim.Vm.Rv5s.Dynamic2BitPredictor

/-!
# The two-bit predictor is a saturating counter for each address

The state of an address is a counter from `0` to `3` that goes up with every
branch taken there and down with every other one, whatever happens elsewhere.

* **`Dynamic2BitPredictor.after_spec`**: predictions and mispredictions after any
  sequence of calls.
* **`Dynamic2BitPredictor.getPrediction_foldl_runMachine`**: the same of the
  predictor that the machines install.
-/

namespace RiscvSim

/-- The number of a state: its encoding in two bits. -/
def TwoBitState.toNat : TwoBitState → Nat
  | .twoNotTaken => 0
  | .oneNotTaken => 1
  | .oneTaken => 2
  | .twoTaken => 3

/-- A counter that stays between `0` and `3`. -/
def saturatingStep (n : Nat) (taken : Bool) : Nat :=
  if taken then min 3 (n + 1) else n - 1

/-- The counter after a history of outcomes. -/
def saturatingCounter (outcomes : List Bool) : Nat :=
  outcomes.foldl saturatingStep 0

theorem saturatingCounter_concat (outcomes : List Bool) (taken : Bool) :
    saturatingCounter (outcomes ++ [taken]) =
      saturatingStep (saturatingCounter outcomes) taken := by
  unfold saturatingCounter
  rw [List.foldl_append, List.foldl_cons, List.foldl_nil]

/-- The transitions of the states are those of the counter. -/
theorem TwoBitState.toNat_next (state : TwoBitState) (taken : Bool) :
    (state.next taken).toNat = saturatingStep state.toNat taken := by
  cases state <;> cases taken <;> rfl

theorem TwoBitState.predictsTaken_iff (state : TwoBitState) :
    (state == .twoTaken || state == .oneTaken) = decide (2 ≤ state.toNat) := by
  cases state <;> rfl

namespace Dynamic2BitPredictor

/-! ### The calls -/

/-- The state of an address, where no entry is the zero state. -/
def stateAt (p : Dynamic2BitPredictor) (pc : BitVec 64) : TwoBitState :=
  (p.bht pc).getD .twoNotTaken

theorem entry_fst (p : Dynamic2BitPredictor) (pc : BitVec 64) : (p.entry pc).1 = p.stateAt pc := by
  unfold entry stateAt
  cases p.bht pc <;> rfl

theorem entry_snd_of_isSome {p : Dynamic2BitPredictor} {pc : BitVec 64}
    (h : (p.bht pc).isSome = true) : (p.entry pc).2 = p := by
  unfold entry
  obtain ⟨state, hstate⟩ := Option.isSome_iff_exists.mp h
  rw [hstate]

/-- A prediction changes nothing: it only reads the entries that are there. -/
theorem getPrediction_eq (p : Dynamic2BitPredictor) (pc : BitVec 64) :
    p.getPrediction pc = (decide (2 ≤ (p.stateAt pc).toNat), p) := by
  unfold getPrediction
  cases hentry : p.bht pc with
  | none =>
    have hstate : p.stateAt pc = .twoNotTaken := by rw [stateAt, hentry]; rfl
    rw [if_pos (by rfl), hstate]
    rfl
  | some state =>
    have hsome : (p.bht pc).isSome = true := by rw [hentry]; rfl
    rw [if_neg (by simp)]
    show ((p.entry pc).1 == .twoTaken || (p.entry pc).1 == .oneTaken, (p.entry pc).2) = _
    rw [entry_fst, entry_snd_of_isSome hsome, TwoBitState.predictsTaken_iff]

theorem updateState_eq (p : Dynamic2BitPredictor) (pc : BitVec 64)
    (predictedOutcome actualOutcome : Bool) :
    p.updateState pc predictedOutcome actualOutcome =
      { noMispredictions :=
          if predictedOutcome != actualOutcome then p.noMispredictions + 1#32
          else p.noMispredictions
        bht := fun i =>
          if i = pc then some ((p.stateAt pc).next actualOutcome) else p.bht i } := by
  unfold updateState
  cases hentry : p.bht pc with
  | none =>
    have hstate : p.stateAt pc = .twoNotTaken := by rw [stateAt, hentry]; rfl
    rw [hstate]
    split <;> simp [entry, hentry, setEntry] <;> funext i <;> split <;> rfl
  | some state =>
    have hstate : p.stateAt pc = state := by rw [stateAt, hentry]; rfl
    rw [hstate]
    split <;> simp [entry, hentry, setEntry]

/-- An update moves the counter of its address and no other. -/
theorem stateAt_updateState (p : Dynamic2BitPredictor) (pc i : BitVec 64)
    (predictedOutcome actualOutcome : Bool) :
    (p.updateState pc predictedOutcome actualOutcome).stateAt i =
      if i = pc then (p.stateAt pc).next actualOutcome else p.stateAt i := by
  rw [updateState_eq]
  unfold stateAt
  dsimp only
  split <;> rfl

/-! ### Histories of calls -/

/-- The outcomes recorded for `pc`, in order. -/
def outcomesAt (pc : BitVec 64) (calls : List Call) : List Bool :=
  calls.filterMap fun
    | .getPrediction _ => none
    | .updateState i _ actualOutcome => if i = pc then some actualOutcome else none

/-- The calls that record an outcome other than the predicted one. -/
def mispredictionCount (calls : List Call) : Nat :=
  calls.countP fun
    | .getPrediction _ => false
    | .updateState _ predictedOutcome actualOutcome => predictedOutcome != actualOutcome

theorem after_concat (calls : List Call) (call : Call) :
    after (calls ++ [call]) = call.run (after calls) := by
  unfold after
  rw [List.foldl_append, List.foldl_cons, List.foldl_nil]

/-- The state of an address is the counter of its outcomes. -/
theorem toNat_stateAt_after (calls : List Call) (pc : BitVec 64) :
    ((after calls).stateAt pc).toNat = saturatingCounter (outcomesAt pc calls) := by
  induction calls using List.reverseRecOn with
  | nil => rfl
  | append_singleton calls call ih =>
    rw [after_concat]
    unfold outcomesAt at ih ⊢
    rw [List.filterMap_append]
    cases call with
    | getPrediction i =>
      show (((after calls).getPrediction i).2.stateAt pc).toNat = _
      rw [getPrediction_eq, ih]
      exact congrArg saturatingCounter (List.append_nil _).symm
    | updateState i predictedOutcome actualOutcome =>
      show (((after calls).updateState i predictedOutcome actualOutcome).stateAt pc).toNat = _
      rw [stateAt_updateState]
      by_cases hi : i = pc
      · subst hi
        rw [if_pos rfl, TwoBitState.toNat_next, ih, ← saturatingCounter_concat]
        simp
      · rw [if_neg (Ne.symm hi), ih]
        simp [hi]

theorem getMispredictions_after (calls : List Call) :
    (after calls).getMispredictions = BitVec.ofNat 32 (mispredictionCount calls) := by
  induction calls using List.reverseRecOn with
  | nil => rfl
  | append_singleton calls call ih =>
    rw [after_concat]
    unfold mispredictionCount getMispredictions at ih ⊢
    rw [List.countP_append, BitVec.ofNat_add, ← ih]
    cases call with
    | getPrediction i =>
      show ((after calls).getPrediction i).2.noMispredictions = _
      rw [getPrediction_eq]
      exact (BitVec.add_zero _).symm
    | updateState i predictedOutcome actualOutcome =>
      show ((after calls).updateState i predictedOutcome actualOutcome).noMispredictions = _
      rw [updateState_eq]
      cases hne : predictedOutcome != actualOutcome with
      | false => simp [hne]
      | true => simp [hne]

/-- A prediction makes no difference to the outcomes of later calls. -/
theorem outcomesAt_getPrediction (pc i : BitVec 64) (calls calls' : List Call) :
    outcomesAt pc (calls ++ .getPrediction i :: calls') = outcomesAt pc (calls ++ calls') := by
  unfold outcomesAt
  rw [List.filterMap_append, List.filterMap_append, List.filterMap_cons]

/-- **The predictor is a saturating counter for each address.**  After any
sequence of calls an address is predicted taken exactly when the counter of the
outcomes recorded for it is at least `2`; the mispredictions are counted modulo
`2 ^ 32`; and leaving a prediction out changes no later one. -/
theorem after_spec (calls : List Call) :
    (∀ pc, ((after calls).getPrediction pc).1 =
      decide (2 ≤ saturatingCounter (outcomesAt pc calls))) ∧
    (after calls).getMispredictions = BitVec.ofNat 32 (mispredictionCount calls) ∧
    ∀ i calls' pc, ((after (calls ++ .getPrediction i :: calls')).getPrediction pc).1 =
      ((after (calls ++ calls')).getPrediction pc).1 := by
  have hprediction : ∀ calls pc, ((after calls).getPrediction pc).1 =
      decide (2 ≤ saturatingCounter (outcomesAt pc calls)) := by
    intro calls pc
    rw [getPrediction_eq, toNat_stateAt_after]
  refine ⟨hprediction calls, getMispredictions_after calls, fun i calls' pc => ?_⟩
  rw [hprediction, hprediction, outcomesAt_getPrediction]

/-- `2 ^ 32` mispredictions are counted as none. -/
theorem getMispredictions_wraps :
    (after (List.replicate (2 ^ 32) (.updateState 0#64 true false))).getMispredictions.toNat ≠
      mispredictionCount (List.replicate (2 ^ 32) (.updateState 0#64 true false)) := by
  have hcount : mispredictionCount (List.replicate (2 ^ 32) (.updateState 0#64 true false)) =
      2 ^ 32 := by
    unfold mispredictionCount
    rw [List.countP_replicate]
    exact if_pos rfl
  rw [getMispredictions_after, hcount]
  decide

/-! ### The machines' predictor -/

/-- The predictor as a member of the machines. -/
def toBranchPredictor (p : Dynamic2BitPredictor) : BranchPredictor :=
  .dynamic2Bit p.noMispredictions p.bht

/-- The machines' predictor makes the same predictions. -/
theorem getPrediction_toBranchPredictor (p : Dynamic2BitPredictor) (pc : BitVec 64) :
    p.toBranchPredictor.getPrediction pc = (p.getPrediction pc).1 := by
  rw [getPrediction_eq]
  unfold toBranchPredictor BranchPredictor.getPrediction stateAt
  dsimp only
  cases p.bht pc with
  | none => rfl
  | some state => exact state.predictsTaken_iff

/-- The machines' predictor is updated alike. -/
theorem updateState_toBranchPredictor (p : Dynamic2BitPredictor) (pc : BitVec 64)
    (predictedOutcome actualOutcome : Bool) :
    p.toBranchPredictor.updateState pc predictedOutcome actualOutcome =
      (p.updateState pc predictedOutcome actualOutcome).toBranchPredictor := by
  rw [updateState_eq]
  rfl

/-- A call as the machines make it. -/
def Call.runMachine (p : BranchPredictor) (call : Call) : BranchPredictor :=
  match call with
  | .getPrediction _ => p
  | .updateState pc predictedOutcome actualOutcome => p.updateState pc predictedOutcome actualOutcome

/-- The predictor that the machines install goes through the states of a new one. -/
theorem foldl_runMachine (calls : List Call) :
    calls.foldl Call.runMachine (.ofType .dynamic2Bit) = (after calls).toBranchPredictor := by
  induction calls using List.reverseRecOn with
  | nil => rfl
  | append_singleton calls call ih =>
    rw [List.foldl_append, List.foldl_cons, List.foldl_nil, ih, after_concat]
    cases call with
    | getPrediction i =>
      show (after calls).toBranchPredictor = ((after calls).getPrediction i).2.toBranchPredictor
      rw [getPrediction_eq]
    | updateState i predictedOutcome actualOutcome =>
      exact updateState_toBranchPredictor _ i predictedOutcome actualOutcome

/-- The predictor of the machines is a saturating counter for each address, and its
mispredictions are those of the calls. -/
theorem getPrediction_foldl_runMachine (calls : List Call) (pc : BitVec 64) :
    (calls.foldl Call.runMachine (.ofType .dynamic2Bit)).getPrediction pc =
        decide (2 ≤ saturatingCounter (outcomesAt pc calls)) ∧
      (calls.foldl Call.runMachine (.ofType .dynamic2Bit)).getMispredictions =
        BitVec.ofNat 32 (mispredictionCount calls) := by
  rw [foldl_runMachine]
  refine ⟨?_, getMispredictions_after calls⟩
  rw [getPrediction_toBranchPredictor, getPrediction_eq, toNat_stateAt_after]

end Dynamic2BitPredictor

end RiscvSim

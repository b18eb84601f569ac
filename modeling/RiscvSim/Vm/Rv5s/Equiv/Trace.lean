import RiscvSim.Vm.Rv5s.Equiv.InFlight

/-!
# Runs of the abstract machine

`Trace` is a run of the abstract machine that halts after `n` instructions and
never stores to an address it fetches from.  The word of an instruction can
then be fetched at any earlier point of the run (`Path.fetch_early`), which is
what a pipeline does.
-/

namespace RiscvSim

open RV5SControlUnit Lib

/-- A store to other addresses leaves the byte at `a` as it is. -/
theorem framesAt_of_storeMemory {cfg : VmConfig} {m m' : Memory} {op : MemWriteOp}
    {a address data : BitVec 64} (h : storeMemory cfg m op address data = .ok m')
    (ha : ∀ i < op.width, a ≠ address + BitVec.ofNat 64 i) : m.FramesAt m' a := by
  cases op with
  | none =>
    cases h
    exact .refl m a
  | byte =>
    refine Memory.framesAt_of_writeByte h ?_
    simpa using ha 0 (by decide)
  | half => exact Memory.framesAt_of_writeSized h ha
  | word => exact Memory.framesAt_of_writeSized h ha
  | double => exact Memory.framesAt_of_writeSized h ha

theorem reachable_of_storeMemory {cfg : VmConfig} {m m' : Memory} {op : MemWriteOp}
    {address data : BitVec 64} (hm : m.Reachable cfg)
    (h : storeMemory cfg m op address data = .ok m') : m'.Reachable cfg := by
  cases op with
  | none =>
    cases h
    exact hm
  | byte => exact Memory.reachable_of_writeByte hm h
  | half => exact Memory.reachable_of_writeSized hm h
  | word => exact Memory.reachable_of_writeSized hm h
  | double => exact Memory.reachable_of_writeSized hm h

/-- The memory stage stores and leaves the predictor alone. -/
theorem memoryStage_ok {cfg : VmConfig} {base base' : Rv5sVm} (h : base.memoryStage cfg = .ok base') :
    (base.memoryController.Reachable cfg → base'.memoryController.Reachable cfg) ∧
      base'.branchPredictor = base.branchPredictor := by
  unfold Rv5sVm.memoryStage at h
  dsimp only at h
  split at h
  · obtain rfl := Except.ok.inj h
    exact ⟨id, rfl⟩
  split at h
  · obtain rfl := Except.ok.inj h
    exact ⟨id, rfl⟩
  split at h
  · obtain ⟨_, -, rfl⟩ := bind_pure_eq_ok.mp h
    exact ⟨id, rfl⟩
  · obtain ⟨m, hstore, rfl⟩ := bind_pure_eq_ok.mp h
    refine ⟨fun hm => ?_, rfl⟩
    rw [throwWith_eq_ok] at hstore
    split at hstore
    · exact reachable_of_storeMemory hm hstore
    · obtain rfl := Except.ok.inj hstore
      exact hm

namespace ArchState

variable {cfg : VmConfig} {s s' : ArchState} {w : BitVec 32} {a : BitVec 64}

/-- The ALU result of a store is its address. -/
theorem alu_of_memWrite (hnop : (getControlSignals w).isNop = false)
    (hw : (getControlSignals w).memWrite = true) :
    s.alu w = .ok (s.operandA w + offset64 (immGenerator w)) := by
  have hc := controlCase_getControlSignals hnop
  unfold alu
  generalize getControlSignals w = c at hc hw ⊢
  cases hc <;> first | rfl | cases hw

/-- An instruction changes no byte it does not store to. -/
theorem framesAt_of_exec (hf : s.fetch = .ok w) (h : s.exec cfg w = .ok s')
    (ha : a ∉ s.storeAddresses) : s.memory.FramesAt s'.memory a := by
  cases hnop : (getControlSignals w).isNop with
  | true =>
    rw [exec_of_isNop hnop] at h
    cases h
    exact .refl _ a
  | false =>
    obtain ⟨result, _, memory, halu, _, hstore, rfl⟩ := (exec_eq_ok hnop).mp h
    unfold store at hstore
    by_cases hw : (getControlSignals w).memWrite = true
    · simp only [hw, if_true] at hstore
      have haddr : s.operandA w + offset64 (immGenerator w) = result :=
        Except.ok.inj ((alu_of_memWrite hnop hw).symm.trans halu)
      refine framesAt_of_storeMemory (forgetState_eq_ok.mp hstore) ?_
      rintro i hi rfl
      refine ha ?_
      simp only [storeAddresses, hf, hnop, hw, Bool.not_true, Bool.or_self, Bool.false_eq_true,
        if_false, haddr]
      exact List.mem_map.mpr ⟨i, List.mem_range.mpr hi, rfl⟩
    · simp only [hw] at hstore
      cases hstore
      exact .refl _ a

theorem reachable_of_exec (hm : s.memory.Reachable cfg) (h : s.exec cfg w = .ok s') :
    s'.memory.Reachable cfg := by
  cases hnop : (getControlSignals w).isNop with
  | true =>
    rw [exec_of_isNop hnop] at h
    cases h
    exact hm
  | false =>
    obtain ⟨result, _, memory, _, _, hstore, rfl⟩ := (exec_eq_ok hnop).mp h
    unfold store at hstore
    by_cases hw : (getControlSignals w).memWrite = true
    · simp only [hw, if_true] at hstore
      exact reachable_of_storeMemory hm (forgetState_eq_ok.mp hstore)
    · simp only [hw] at hstore
      cases hstore
      exact hm

/-- The program counter after `w` in state `s`. -/
def next (s : ArchState) (w : BitVec 32) : BitVec 64 :=
  nextPc (getControlSignals w) s.pc (immGenerator w) (s.operandA w) (s.operandB w)

theorem pc_exec (h : s.exec cfg w = .ok s') : s'.pc = s.next w := by
  cases hnop : (getControlSignals w).isNop with
  | true =>
    rw [exec_of_isNop hnop] at h
    cases h
    simp [next, nextPc, signals_of_isNop hnop]
  | false =>
    obtain ⟨_, _, _, _, _, _, rfl⟩ := (exec_eq_ok hnop).mp h
    rfl

/-- The ALU does not trap on an instruction that is executed. -/
theorem alu_of_exec (h : s.exec cfg w = .ok s') (hnop : (getControlSignals w).isNop = false) :
    ∃ x, s.alu w = .ok x := by
  obtain ⟨x, _, _, hx, _⟩ := (exec_eq_ok hnop).mp h
  exact ⟨x, hx⟩

/-- Whether the branch `w` in state `s` is taken. -/
def taken (s : ArchState) (w : BitVec 32) : Bool :=
  RV5SIDVM.actualTaken (getControlSignals w).branchOp (s.operandA w) (s.operandB w)

/-- Where the branch `w` in state `s` goes when it is taken. -/
def target (s : ArchState) (w : BitVec 32) : BitVec 64 :=
  RV5SIDVM.actualTarget (getControlSignals w).branchOp s.pc (immGenerator w) (s.operandA w)
    (s.operandB w)

theorem next_of_branch (hb : (getControlSignals w).branch = true) :
    s.next w = if s.taken w then s.target w else s.pc + 4#64 := by
  rw [next, nextPc, hb, Bool.true_and]
  rfl

/-- A conditional branch that is taken goes to its offset. -/
theorem target_of_taken (ht : s.taken w = true)
    (hj : ¬((getControlSignals w).branchOp = .jal ∨ (getControlSignals w).branchOp = .jalr)) :
    s.target w = s.pc + offset64 (immGenerator w) := by
  unfold target
  unfold taken at ht
  generalize (getControlSignals w).branchOp = op at ht hj
  cases op <;> simp_all [RV5SIDVM.actualTarget]

theorem next_of_not_branch (hb : (getControlSignals w).branch = false) :
    s.next w = s.pc + 4#64 := by
  rw [next, nextPc, hb, Bool.false_and]
  rfl

end ArchState

/-- The word at the program counter; zero where it cannot be fetched. -/
def ArchState.word (s : ArchState) : BitVec 32 :=
  s.fetch.toOption.getD 0#32

theorem ArchState.word_of_fetch {s : ArchState} {w : BitVec 32} (h : s.fetch = .ok w) :
    s.word = w := by
  rw [word, h]
  rfl

/-- A run up to the fetch of its `n`-th instruction that stores to no address
it fetches from. -/
structure Path (cfg : VmConfig) (n : Nat) (A : Nat → ArchState) (W : Nat → BitVec 32) :
    Prop where
  fetch : ∀ i < n, (A i).fetch = .ok (W i)
  exec : ∀ i, i + 1 < n → (A i).exec cfg (W i) = .ok (A (i + 1))
  apart : ∀ i < n, ∀ j < n, ∀ a ∈ (A i).storeAddresses, a ∉ (A j).fetchAddresses

namespace Path

variable {cfg : VmConfig} {n : Nat} {A : Nat → ArchState} {W : Nat → BitVec 32}

/-- The word of instruction `j` can be fetched before any earlier instruction. -/
theorem fetch_early (t : Path cfg n A W) {i j : Nat} (hij : i ≤ j) (hj : j < n) :
    (A i).memory.readWord (A j).pc = .ok (W j) := by
  obtain ⟨d, rfl⟩ := Nat.exists_eq_add_of_le hij
  induction d generalizing i with
  | zero => exact t.fetch i hj
  | succ d ih =>
    have hi : i < n := by omega
    have hnext : i + (d + 1) = i + 1 + d := by omega
    rw [hnext] at hj ⊢
    refine Memory.readWord_of_framesAt ?_ (ih (by omega) hj)
    intro k hk
    refine ArchState.framesAt_of_exec (t.fetch i hi) (t.exec i (by omega)) fun hmem => ?_
    exact t.apart i hi _ hj _ hmem (List.mem_map.mpr ⟨k, List.mem_range.mpr hk, rfl⟩)

/-- Instructions at the same address have the same word. -/
theorem word_congr (t : Path cfg n A W) {i j : Nat} (hi : i < n) (hj : j < n)
    (h : (A i).pc = (A j).pc) : W i = W j := by
  have hi' := t.fetch_early (Nat.zero_le i) hi
  have hj' := t.fetch_early (Nat.zero_le j) hj
  rw [h] at hi'
  exact Except.ok.inj (hi'.symm.trans hj')

end Path

/-- A run of the abstract machine: it executes `n` instructions inside the
program, leaves the program, and stores to no address it fetches from. -/
structure Trace (cfg : VmConfig) (size : BitVec 64) (n : Nat) (A : Nat → ArchState)
    (W : Nat → BitVec 32) : Prop where
  fetch : ∀ i < n, (A i).fetch = .ok (W i)
  exec : ∀ i < n, (A i).exec cfg (W i) = .ok (A (i + 1))
  inside : ∀ i < n, (A i).pc < size
  halted : size ≤ (A n).pc
  apart : ∀ i < n, ∀ j < n, ∀ a ∈ (A i).storeAddresses, a ∉ (A j).fetchAddresses

namespace Trace

variable {cfg : VmConfig} {size : BitVec 64} {n : Nat} {A : Nat → ArchState} {W : Nat → BitVec 32}

theorem path (t : Trace cfg size n A W) : Path cfg n A W :=
  ⟨t.fetch, fun i hi => t.exec i (Nat.lt_of_succ_lt hi), t.apart⟩

theorem reachable (t : Trace cfg size n A W) (h0 : (A 0).memory.Reachable cfg) {i : Nat}
    (hi : i ≤ n) : (A i).memory.Reachable cfg := by
  induction i with
  | zero => exact h0
  | succ i ih => exact ArchState.reachable_of_exec (ih (by omega)) (t.exec i (by omega))

/-- The run leaves the program only at its end. -/
theorem eq_of_halted (t : Trace cfg size n A W) {i : Nat} (hi : i ≤ n)
    (h : size ≤ (A i).pc) : i = n := by
  by_contra hne
  exact BitVec.not_le.mpr (t.inside i (by omega)) h

end Trace

end RiscvSim

import RiscvSim.Vm.Rv5s.Equiv.Trace

/-!
# The back end of the pipeline

At a cycle boundary with `r` instructions retired, the latches from back to
front hold the instructions `r`, `r + 1`, … of the run, without the bubbles.
`BackEnd` says so together with what has been written back and stored, and
`memoryStage_of_backEnd` that write-back and memory keep it that way.
`commit_pending` is the soundness of the two forwarding paths.
-/

namespace RiscvSim

open RV5SControlUnit Lib

/-! ### Registers across an instruction -/

namespace ArchState

variable {cfg : VmConfig} {s s' : ArchState} {w : BitVec 32} {i : BitVec 5}

/-- An instruction changes no register but its destination. -/
theorem readGpr_exec_of_ne (h : s.exec cfg w = .ok s')
    (hne : ¬((getControlSignals w).regWrite = true ∧ rdOf w = i ∧ i ≠ 0#5)) :
    s'.registers.readGpr i = s.registers.readGpr i := by
  cases hnop : (getControlSignals w).isNop with
  | true =>
    rw [exec_of_isNop hnop] at h
    cases h
    rfl
  | false =>
    obtain ⟨_, _, _, _, _, _, rfl⟩ := (exec_eq_ok hnop).mp h
    unfold writeResult
    by_cases hw : (getControlSignals w).regWrite = true
    · simp only [hw, if_true, RegisterFile.readGpr_writeGpr]
      refine if_neg ?_
      rintro ⟨hz, rfl⟩
      exact hne ⟨hw, rfl, hz⟩
    · simp only [hw, Bool.false_eq_true, if_false]

/-- The destination holds the value the instruction writes back. -/
theorem readGpr_exec_self (h : s.exec cfg w = .ok s')
    (hw : (getControlSignals w).regWrite = true) (hz : rdOf w ≠ 0#5) :
    ∃ result loaded, s.alu w = .ok result ∧ s.load w result = .ok loaded ∧
      s'.registers.readGpr (rdOf w) =
        resultValue (getControlSignals w).wbSrc result loaded (s.pc + 4#64) := by
  cases hnop : (getControlSignals w).isNop with
  | true => simp [(signals_of_isNop hnop).1] at hw
  | false =>
    obtain ⟨result, loaded, _, h1, h2, _, rfl⟩ := (exec_eq_ok hnop).mp h
    refine ⟨result, loaded, h1, h2, ?_⟩
    simp only [writeResult, hw, if_true]
    exact RegisterFile.readGpr_writeGpr_self _ _ hz

end ArchState

/-! ### Latches as pending writes -/

/-- The register write waiting in the last latch. -/
def MemWbReg.pending (l : MemWbReg) : Pending (BitVec 5) (BitVec 64) :=
  if l.control.regWrite = true ∧ l.rdIndex ≠ 0#5 then some (l.rdIndex, l.writeBackData) else none

/-- The register write waiting in the third latch, with the value that is forwarded. -/
def ExMemReg.pending (l : ExMemReg) : Pending (BitVec 5) (BitVec 64) :=
  if l.control.regWrite = true ∧ l.rdIndex ≠ 0#5 then some (l.rdIndex, l.aluResult) else none

theorem lookup_ite {c : Prop} [Decidable c] {d i : BitVec 5} {v : BitVec 64} :
    Pending.lookup (if c ∧ d ≠ 0#5 then some (d, v) else none) i =
      if i ≠ 0#5 ∧ c ∧ d = i then some v else none := by
  by_cases h : c ∧ d ≠ 0#5
  · by_cases hi : i = d
    · subst hi
      simp [h, Pending.lookup]
    · have hne : d ≠ i := fun h' => hi h'.symm
      simp [h, hi, hne, Pending.lookup]
  · rw [if_neg h, if_neg]
    · rfl
    · rintro ⟨hi, hc, rfl⟩
      exact h ⟨hc, hi⟩

/-- The forwarding unit reads the operand through the two pending writes. -/
theorem forwardOperand_eq_readThrough (vm : Rv5sVm) (i : BitVec 5) (f : BitVec 5 → BitVec 64) :
    vm.forwardOperand (RV5SForwardingUnit.getAluSrc i vm.exMemReg vm.memWbReg) (f i) =
      readThrough [vm.exMemReg.pending, vm.memWbReg.pending] f i := by
  simp only [readThrough, ExMemReg.pending, MemWbReg.pending, lookup_ite,
    RV5SForwardingUnit.getAluSrc, Bool.and_eq_true, beq_iff_eq]
  by_cases hi : i = 0#5
  · simp only [hi, if_true, ne_eq, not_true_eq_false, false_and, if_false, Option.getD_none,
      Rv5sVm.forwardOperand]
  · by_cases h1 : vm.exMemReg.control.regWrite = true ∧ vm.exMemReg.rdIndex = i
    · simp only [hi, h1, if_true, if_false, ne_eq, not_false_eq_true, and_self, Option.getD_some,
        Rv5sVm.forwardOperand]
    · by_cases h2 : vm.memWbReg.control.regWrite = true ∧ vm.memWbReg.rdIndex = i
      · simp only [hi, h1, h2, if_true, if_false, ne_eq, not_false_eq_true, and_self, and_false,
          Option.getD_some, Option.getD_none, Rv5sVm.forwardOperand, Rv5sVm.getWriteBackData]
      · simp only [hi, h1, h2, if_false, and_false, Option.getD_none, Rv5sVm.forwardOperand]

/-! ### Positions in the run -/

/-- The last latch holds instruction `p` of the run, or is a bubble. -/
def HoldsMemWb (A : Nat → ArchState) (W : Nat → BitVec 32) (p : Nat) (l : MemWbReg) : Prop :=
  (l.isValid = true → MemWbOk (A p) (W p) (A (p + 1)) l) ∧ (l.isValid = false → l = .bubble)

/-- The third latch holds instruction `p` of the run, or is a bubble. -/
def HoldsExMem (A : Nat → ArchState) (W : Nat → BitVec 32) (p : Nat) (l : ExMemReg) : Prop :=
  (l.isValid = true → ExMemOk (A p) (W p) l) ∧ (l.isValid = false → l = .bubble)

/-- The second latch holds instruction `p` of the run, or is a bubble. -/
def HoldsIdEx (A : Nat → ArchState) (W : Nat → BitVec 32) (p : Nat) (l : IdExReg) : Prop :=
  (l.isValid = true → IdExOk (A p) (W p) l) ∧ (l.isValid = false → l = .bubble)

section

variable {A : Nat → ArchState} {W : Nat → BitVec 32} {p : Nat}

theorem holdsMemWb_bubble : HoldsMemWb A W p .bubble :=
  ⟨fun h => Bool.noConfusion h, fun _ => rfl⟩

theorem holdsExMem_bubble : HoldsExMem A W p .bubble :=
  ⟨fun h => Bool.noConfusion h, fun _ => rfl⟩

theorem holdsIdEx_bubble : HoldsIdEx A W p .bubble :=
  ⟨fun h => Bool.noConfusion h, fun _ => rfl⟩

theorem HoldsMemWb.of_ok {l : MemWbReg} (h : MemWbOk (A p) (W p) (A (p + 1)) l) :
    HoldsMemWb A W p l :=
  ⟨fun _ => h, fun h' => Bool.noConfusion (h.isValid.symm.trans h')⟩

theorem HoldsExMem.of_ok {l : ExMemReg} (h : ExMemOk (A p) (W p) l) : HoldsExMem A W p l :=
  ⟨fun _ => h, fun h' => Bool.noConfusion (h.isValid.symm.trans h')⟩

theorem HoldsIdEx.of_ok {l : IdExReg} (h : IdExOk (A p) (W p) l) : HoldsIdEx A W p l :=
  ⟨fun _ => h, fun h' => Bool.noConfusion (h.isValid.symm.trans h')⟩

end

namespace Rv5sVm

/-- The instruction in the third latch, or the next one when that is a bubble. -/
def posMem (vm : Rv5sVm) (r : Nat) : Nat :=
  r + vm.memWbReg.isValid.toNat

/-- The instruction in the second latch, or the next one when that is a bubble. -/
def posEx (vm : Rv5sVm) (r : Nat) : Nat :=
  vm.posMem r + vm.exMemReg.isValid.toNat

/-- The instruction that decode works on next. -/
def posId (vm : Rv5sVm) (r : Nat) : Nat :=
  vm.posEx r + vm.idExReg.isValid.toNat

end Rv5sVm

/-- The back end of the pipeline at a cycle boundary, with `r` instructions retired. -/
structure BackEnd (n : Nat) (A : Nat → ArchState) (W : Nat → BitVec 32) (r : Nat)
    (vm : Rv5sVm) : Prop where
  bound : vm.posId r ≤ n
  retired : vm.instructionsRetired = BitVec.ofNat 32 r
  registers : vm.registers = (A r).registers
  memory : vm.memoryController = (A (vm.posMem r)).memory
  memWb : HoldsMemWb A W r vm.memWbReg
  exMem : HoldsExMem A W (vm.posMem r) vm.exMemReg
  idEx : HoldsIdEx A W (vm.posEx r) vm.idExReg

section

variable {cfg : VmConfig} {size : BitVec 64} {n : Nat} {A : Nat → ArchState}
  {W : Nat → BitVec 32} {r p : Nat} {vm : Rv5sVm}

/-- Write-back retires the instruction in the last latch. -/
theorem writeBackStage_of_backEnd (h : BackEnd n A W r vm) :
    vm.writeBackStage = { vm with
      instructionsRetired := BitVec.ofNat 32 (vm.posMem r)
      registers := (A (vm.posMem r)).registers } := by
  unfold Rv5sVm.writeBackStage Rv5sVm.posMem
  cases hv : vm.memWbReg.isValid with
  | false =>
    simp only [Bool.not_false, if_true, Bool.toNat_false, Nat.add_zero]
    rw [← h.retired, ← h.registers]
  | true =>
    have hwb := (h.memWb.1 hv).writeBack
    simp only [Bool.not_true, Bool.false_eq_true, if_false, Bool.toNat_true]
    rw [h.registers, hwb, h.retired, BitVec.ofNat_add]

/-- Write-back and memory complete the instructions in the last two latches,
the second of which the abstract machine executes. -/
theorem memoryStage_of_exec (h : BackEnd n A W r vm)
    (hexec : vm.exMemReg.isValid = true →
      (A (vm.posMem r)).exec cfg (W (vm.posMem r)) = .ok (A (vm.posMem r + 1))) :
    ∃ l, vm.writeBackStage.memoryStage cfg = .ok { vm with
        instructionsRetired := BitVec.ofNat 32 (vm.posMem r)
        registers := (A (vm.posMem r)).registers
        memoryController := (A (vm.posEx r)).memory
        nextMemWbReg := l } ∧
      l.isValid = vm.exMemReg.isValid ∧ HoldsMemWb A W (vm.posMem r) l := by
  rw [writeBackStage_of_backEnd h]
  cases hv : vm.exMemReg.isValid with
  | false =>
    refine ⟨.bubble, ?_, rfl, holdsMemWb_bubble⟩
    have hpos : vm.posEx r = vm.posMem r := by simp [Rv5sVm.posEx, hv]
    rw [hpos, ← h.memory]
    unfold Rv5sVm.memoryStage
    simp only [hv, Bool.not_false, if_true]
  | true =>
    have hpos : vm.posEx r = vm.posMem r + 1 := by simp [Rv5sVm.posEx, hv]
    have hmem := memoryStage_eq { vm with
      instructionsRetired := BitVec.ofNat 32 (vm.posMem r)
      registers := (A (vm.posMem r)).registers } (h.exMem.1 hv) h.memory (hexec hv)
    obtain ⟨l, hl, hok⟩ := hmem
    exact ⟨l, by rw [hl, hpos], hok.isValid, .of_ok hok⟩

/-- A valid third latch holds an instruction of the run. -/
theorem BackEnd.posMem_lt (h : BackEnd n A W r vm) (hv : vm.exMemReg.isValid = true) :
    vm.posMem r < n := by
  have hb := h.bound
  simp only [Rv5sVm.posId, Rv5sVm.posEx, hv, Bool.toNat_true] at hb
  omega

theorem memoryStage_of_backEnd (t : Trace cfg size n A W) (h : BackEnd n A W r vm) :
    ∃ l, vm.writeBackStage.memoryStage cfg = .ok { vm with
        instructionsRetired := BitVec.ofNat 32 (vm.posMem r)
        registers := (A (vm.posMem r)).registers
        memoryController := (A (vm.posEx r)).memory
        nextMemWbReg := l } ∧
      l.isValid = vm.exMemReg.isValid ∧ HoldsMemWb A W (vm.posMem r) l :=
  memoryStage_of_exec h fun hv => t.exec _ (h.posMem_lt hv)

/-! ### Forwarding -/

/-- What the last latch still has to write, as a pending write. -/
theorem apply_pending_memWb {l : MemWbReg} (h : HoldsMemWb A W p l) (i : BitVec 5) :
    l.pending.apply (A p).registers.readGpr i =
      (A (p + l.isValid.toNat)).registers.readGpr i := by
  cases hv : l.isValid with
  | false =>
    rw [h.2 hv]
    rfl
  | true =>
    have hok := h.1 hv
    rw [Bool.toNat_true, ← hok.writeBack]
    cases hnop : (getControlSignals (W p)).isNop with
    | true =>
      have hw := (signals_of_isNop hnop).1
      rw [← hok.control] at hw
      simp [MemWbReg.pending, MemWbReg.writeBack, hw]
    | false =>
      have hc : ControlCase (W p) l.control := by
        rw [hok.control]
        exact controlCase_getControlSignals hnop
      unfold MemWbReg.pending MemWbReg.writeBack
      rw [hc.isSyscall_eq, hc.isCsr_eq]
      by_cases hw : l.control.regWrite = true ∧ l.rdIndex ≠ 0#5
      · simp [hw, hc.wbSrc_ne_none hw.1, RegisterFile.readGpr_writeGpr]
      · by_cases hr : l.control.regWrite = true <;> simp_all

/-- An instruction of the run changes no register but the destination in its latch. -/
theorem readGpr_of_not_writes (t : Trace cfg size n A W) (hp : p < n) {c : ControlSignals}
    {rd i : BitVec 5} (hc : c = getControlSignals (W p))
    (hrd : c.isNop = false → rd = rdOf (W p))
    (hno : ¬(c.regWrite = true ∧ rd = i ∧ i ≠ 0#5)) :
    (A (p + 1)).registers.readGpr i = (A p).registers.readGpr i := by
  refine ArchState.readGpr_exec_of_ne (t.exec p hp) ?_
  rintro ⟨hw, hrd', hz⟩
  have hn : c.isNop = false := by
    cases hnop : c.isNop with
    | false => rfl
    | true =>
      rw [hc] at hnop
      simp [(signals_of_isNop hnop).1] at hw
  exact hno ⟨hc ▸ hw, (hrd hn).trans hrd', hz⟩

theorem HoldsIdEx.readGpr_eq (t : Trace cfg size n A W) {l : IdExReg} (h : HoldsIdEx A W p l)
    (hp : p + l.isValid.toNat ≤ n) {i : BitVec 5}
    (hno : ¬(l.control.regWrite = true ∧ l.rdIndex = i ∧ i ≠ 0#5)) :
    (A (p + l.isValid.toNat)).registers.readGpr i = (A p).registers.readGpr i := by
  cases hv : l.isValid with
  | false => rfl
  | true =>
    have hok := h.1 hv
    rw [hv, Bool.toNat_true] at hp
    exact readGpr_of_not_writes t hp hok.control hok.rdIndex hno

theorem HoldsExMem.readGpr_eq (t : Trace cfg size n A W) {l : ExMemReg}
    (h : HoldsExMem A W p l) (hp : p + l.isValid.toNat ≤ n) {i : BitVec 5}
    (hno : ¬(l.control.regWrite = true ∧ l.rdIndex = i ∧ i ≠ 0#5)) :
    (A (p + l.isValid.toNat)).registers.readGpr i = (A p).registers.readGpr i := by
  cases hv : l.isValid with
  | false => rfl
  | true =>
    have hok := h.1 hv
    rw [hv, Bool.toNat_true] at hp
    exact readGpr_of_not_writes t hp hok.control hok.rdIndex hno

/-- The third latch forwards the right value for register `i`, in case it forwards one at all. -/
def ExMemReg.ForwardsTo (l : ExMemReg) (i : BitVec 5) (value : BitVec 64) : Prop :=
  l.control.regWrite = true → l.rdIndex = i → i ≠ 0#5 → l.aluResult = value

/-- What the third latch will write, as a pending write. -/
theorem apply_pending_exMem (t : Trace cfg size n A W) {l : ExMemReg} (h : HoldsExMem A W p l)
    (hp : p + l.isValid.toNat ≤ n) {i : BitVec 5}
    (hf : l.ForwardsTo i ((A (p + l.isValid.toNat)).registers.readGpr i)) :
    l.pending.apply (A p).registers.readGpr i =
      (A (p + l.isValid.toNat)).registers.readGpr i := by
  cases hv : l.isValid with
  | false =>
    rw [h.2 hv]
    rfl
  | true =>
    have hok := h.1 hv
    rw [hv, Bool.toNat_true] at hf hp
    rw [Bool.toNat_true]
    by_cases hw : l.control.regWrite = true ∧ l.rdIndex = i ∧ i ≠ 0#5
    · obtain ⟨hw, rfl, hz⟩ := hw
      simp only [ExMemReg.pending, hw, hz, ne_eq, not_false_eq_true, and_self, if_true,
        Pending.apply_some]
      exact hf hw rfl hz
    · rw [readGpr_of_not_writes t (by omega) hok.control hok.rdIndex hw]
      refine Pending.apply_of_not_targets ?_ _
      rintro ⟨v, hv'⟩
      unfold ExMemReg.pending at hv'
      split at hv'
      · next hp' =>
        obtain ⟨rfl, -⟩ := Prod.mk.inj (Option.some.inj hv')
        exact hw ⟨hp'.1, rfl, hp'.2⟩
      · cases hv'

/-- Reading a register through both pending writes gives what the instruction
in the second latch has to see. -/
theorem commit_pending (t : Trace cfg size n A W) (h : BackEnd n A W r vm) {i : BitVec 5}
    (hf : vm.exMemReg.ForwardsTo i ((A (vm.posEx r)).registers.readGpr i)) :
    commit [vm.exMemReg.pending, vm.memWbReg.pending] (A r).registers.readGpr i =
      (A (vm.posEx r)).registers.readGpr i := by
  have hb := h.bound
  unfold Rv5sVm.posId at hb
  have hmem : commit [vm.memWbReg.pending] (A r).registers.readGpr =
      (A (vm.posMem r)).registers.readGpr := by
    funext j
    exact apply_pending_memWb h.memWb j
  rw [commit, hmem]
  exact apply_pending_exMem t h.exMem (by unfold Rv5sVm.posEx at hb; omega) hf

/-- An ALU result in the third latch is the value written back. -/
theorem forwardsTo_of_fromAlu (t : Trace cfg size n A W) (hp : p < n) {l : ExMemReg}
    {i : BitVec 5} (h : ExMemOk (A p) (W p) l)
    (hsrc : l.control.regWrite = true → l.rdIndex = i → i ≠ 0#5 → l.control.wbSrc = .fromAlu) :
    l.ForwardsTo i ((A (p + 1)).registers.readGpr i) := by
  rintro hw rfl hz
  have hn : l.control.isNop = false := by
    cases hnop : l.control.isNop with
    | false => rfl
    | true =>
      rw [h.control] at hnop hw
      simp [(signals_of_isNop hnop).1] at hw
  have hrd := h.rdIndex hn
  have hwb := hsrc hw rfl hz
  rw [hrd] at hz ⊢
  rw [h.control] at hw hwb
  obtain ⟨result, loaded, halu, _, hval⟩ := ArchState.readGpr_exec_self (t.exec p hp) hw hz
  rw [hval, hwb]
  exact Except.ok.inj ((h.aluResult hn).symm.trans halu)

/-- A return address in the third latch is forwarded correctly when it is also
the ALU result. -/
theorem forwardsTo_of_link (t : Trace cfg size n A W) {l : ExMemReg} {i : BitVec 5}
    (h : HoldsExMem A W p l) (hp : p + l.isValid.toNat ≤ n)
    (hsrc : l.control.wbSrc = .fromPcInc)
    (hsame : l.rdIndex = i → i ≠ 0#5 → l.aluResult = l.pcInc) :
    l.ForwardsTo i ((A (p + l.isValid.toNat)).registers.readGpr i) := by
  rintro hw rfl hz
  cases hv : l.isValid with
  | false =>
    rw [h.2 hv] at hw
    cases hw
  | true =>
    have hok := h.1 hv
    rw [hv, Bool.toNat_true] at hp
    have hn : l.control.isNop = false := by
      cases hnop : l.control.isNop with
      | false => rfl
      | true =>
        rw [hok.control] at hnop hw
        simp [(signals_of_isNop hnop).1] at hw
    rw [hsame rfl hz, hok.pcInc hn]
    have hrd := hok.rdIndex hn
    rw [hrd] at hz ⊢
    rw [hok.control] at hw hsrc
    obtain ⟨_, _, _, _, hval⟩ := ArchState.readGpr_exec_self (t.exec p hp) hw hz
    rw [Bool.toNat_true, hval, hsrc]
    rfl

/-- Register `i` can be read for the second latch: forwarding gives its value,
or, without forwarding, no earlier instruction still has to write it. -/
def Rv5sVm.OperandReady (vm : Rv5sVm) (i : BitVec 5) (value : BitVec 64) : Prop :=
  if vm.forwardingEnabled then vm.exMemReg.ForwardsTo i value
  else ¬vm.exMemReg.pending.Targets i ∧ ¬vm.memWbReg.pending.Targets i

/-- The operand that execute takes for a register that was read in decode. -/
theorem operand_eq (t : Trace cfg size n A W) (h : BackEnd n A W r vm) {i : BitVec 5}
    {data : BitVec 64} (hdata : data = vm.registers.readGpr i)
    (hready : vm.OperandReady i ((A (vm.posEx r)).registers.readGpr i)) :
    (if vm.forwardingEnabled then
      vm.forwardOperand (RV5SForwardingUnit.getAluSrc i vm.exMemReg vm.memWbReg) data
    else data) = (A (vm.posEx r)).registers.readGpr i := by
  unfold Rv5sVm.OperandReady at hready
  rw [hdata, h.registers]
  by_cases hf : vm.forwardingEnabled = true
  · simp only [hf, if_true] at hready ⊢
    rw [forwardOperand_eq_readThrough, readThrough_eq_commit]
    exact commit_pending t h hready
  · simp only [hf, Bool.false_eq_true, if_false] at hready ⊢
    have hvac : vm.exMemReg.ForwardsTo i ((A (vm.posEx r)).registers.readGpr i) := by
      rintro hw rfl hz
      exact absurd ⟨vm.exMemReg.aluResult, by simp [ExMemReg.pending, hw, hz]⟩ hready.1
    rw [← commit_pending t h hvac]
    refine (commit_of_forall_not_targets ?_ _).symm
    intro q hq
    simp only [List.mem_cons, List.not_mem_nil, or_false] at hq
    rcases hq with rfl | rfl
    · exact hready.1
    · exact hready.2

/-- The source registers of the instruction `p` in the second latch were read
from the register file, and what forwarding has to replace is ready. -/
structure OperandsLatched (A : Nat → ArchState) (p : Nat) (vm : Rv5sVm) : Prop where
  rs1Data : vm.idExReg.rs1Data = vm.registers.readGpr vm.idExReg.rs1Index
  rs2Data : vm.idExReg.rs2Data = vm.registers.readGpr vm.idExReg.rs2Index
  left : vm.idExReg.control.aluSrcA = .rs1 → vm.OperandReady vm.idExReg.rs1Index
    ((A p).registers.readGpr vm.idExReg.rs1Index)
  right : vm.OperandReady vm.idExReg.rs2Index ((A p).registers.readGpr vm.idExReg.rs2Index)

/-- The two operands of execute are those of the abstract machine. -/
theorem operandsOk_of_latched (t : Trace cfg size n A W) (h : BackEnd n A W r vm)
    (hv : vm.idExReg.isValid = true) (hnop : (getControlSignals (W (vm.posEx r))).isNop = false)
    (hl : OperandsLatched A (vm.posEx r) vm) :
    OperandsOk (A (vm.posEx r)) (W (vm.posEx r)) vm.dataAluA vm.dataAluB := by
  have hok := h.idEx.1 hv
  have hn : vm.idExReg.control.isNop = false := by rw [hok.control, hnop]
  constructor
  · intro hsrc
    rw [← hok.control] at hsrc
    unfold ArchState.operandA
    rw [← hok.rs1Index hn]
    exact operand_eq t h hl.rs1Data (hl.left hsrc)
  · unfold ArchState.operandB
    rw [← hok.rs2Index hn]
    exact operand_eq t h hl.rs2Data hl.right

end

end RiscvSim

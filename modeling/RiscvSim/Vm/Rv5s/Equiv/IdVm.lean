import RiscvSim.Vm.Rv5s.Equiv.IdStages

/-!
# Refinement by the machine that decides branches in decode

The fetch of `RV5SIDVM` is always on the path of the run: decode corrects it in
the cycle in which the branch leaves the first latch.  What can go wrong is an
operand.  With forwarding, the third latch hands on its ALU result even when it
holds a jump, whose result is its target and not the return address it writes
(`LinkHazard`).

* `run_refines_of_no_linkHazard`: with forwarding, a run that never reaches a
  `LinkHazard` computes what the sequential reference does.
* `run_refines_without_forwarding`: without forwarding every run does.
-/

namespace RiscvSim

open RV5SControlUnit RV5SHazardUnit Lib

theorem ControlCase.aluSrcA_of_branch {w : BitVec 32} {c : ControlSignals} (hc : ControlCase w c)
    (hb : c.branch = true) (hj : c.branchOp ≠ .jal) : c.aluSrcA = .rs1 := by
  cases hc <;> first | rfl | exact absurd rfl hj | cases hb

namespace RV5SIDVM

variable {cfg : VmConfig} {size : BitVec 64} {n : Nat} {A : Nat → ArchState}
  {W : Nat → BitVec 32} {r p q : Nat} {vm : RV5SIDVM}

/-! ### The operands of a branch -/

/-- The comparison of decode reads a register through the two pending writes. -/
theorem getForwardedIdReg_eq_readThrough
    (hex : vm.exMemReg.isValid = false → vm.exMemReg = .bubble)
    (hwb : vm.memWbReg.isValid = false → vm.memWbReg = .bubble) (i : BitVec 5) :
    vm.getForwardedIdReg i =
      readThrough [vm.exMemReg.pending, vm.memWbReg.pending] vm.registers.readGpr i := by
  have hex' : (vm.exMemReg.isValid && vm.exMemReg.control.regWrite) =
      vm.exMemReg.control.regWrite := by
    cases hv : vm.exMemReg.isValid with
    | false =>
      rw [hex hv]
      rfl
    | true => exact Bool.true_and _
  have hwb' : (vm.memWbReg.isValid && vm.memWbReg.control.regWrite) =
      vm.memWbReg.control.regWrite := by
    cases hv : vm.memWbReg.isValid with
    | false =>
      rw [hwb hv]
      rfl
    | true => exact Bool.true_and _
  unfold getForwardedIdReg
  rw [hex', hwb']
  simp only [readThrough, ExMemReg.pending, MemWbReg.pending, lookup_ite, Bool.and_eq_true,
    beq_iff_eq]
  by_cases hi : i = 0#5
  · simp only [hi, if_true, ne_eq, not_true_eq_false, false_and, if_false, Option.getD_none,
      RegisterFile.readGpr_zero]
  · by_cases h1 : vm.exMemReg.control.regWrite = true ∧ vm.exMemReg.rdIndex = i
    · simp only [hi, h1, if_true, if_false, ne_eq, not_false_eq_true, and_self, Option.getD_some]
    · by_cases h2 : vm.memWbReg.control.regWrite = true ∧ vm.memWbReg.rdIndex = i
      · simp only [hi, h1, h2, if_true, if_false, ne_eq, not_false_eq_true, and_self, and_false,
          Option.getD_some, Option.getD_none, Rv5sVm.getWriteBackData]
      · simp only [hi, h1, h2, if_false, and_false, Option.getD_none]

/-- The value a branch compares, when execute does not hold a write of the
register.  `vm₀` is the machine at the start of the cycle, `vm` during decode. -/
theorem branchOperand_eq (t : Trace cfg size n A W) {vm₀ : Rv5sVm} (hb : BackEnd n A W r vm₀)
    (hregs : vm.registers = (A (vm₀.posMem r)).registers)
    (hexMem : vm.exMemReg = vm₀.exMemReg) (hmemWb : vm.memWbReg = vm₀.memWbReg) {i : BitVec 5}
    (hid : ¬(vm₀.idExReg.control.regWrite = true ∧ vm₀.idExReg.rdIndex = i ∧ i ≠ 0#5))
    (hex : if vm.forwardingEnabled then
        vm₀.exMemReg.ForwardsTo i ((A (vm₀.posEx r)).registers.readGpr i)
      else ¬(vm₀.exMemReg.control.regWrite = true ∧ vm₀.exMemReg.rdIndex = i ∧ i ≠ 0#5)) :
    vm.branchOperand i (vm.registers.readGpr i) =
      (A (vm₀.posId r)).registers.readGpr i := by
  have hbound := hb.bound
  have hbound' : vm₀.posEx r ≤ n := Nat.le_trans (Nat.le_add_right _ _) hbound
  rw [show (A (vm₀.posId r)).registers.readGpr i = (A (vm₀.posEx r)).registers.readGpr i from
    hb.idEx.readGpr_eq t hbound hid]
  unfold branchOperand
  by_cases hf : vm.forwardingEnabled = true
  · rw [if_pos hf] at hex ⊢
    rw [getForwardedIdReg_eq_readThrough (hexMem ▸ hb.exMem.2) (hmemWb ▸ hb.memWb.2),
      readThrough_eq_commit, hexMem, hmemWb, hregs, ← commit_pending t hb hex]
    -- the write of the last latch has already been made
    have hcommitted : (A (vm₀.posMem r)).registers.readGpr =
        vm₀.memWbReg.pending.apply (A r).registers.readGpr := by
      funext j
      exact (apply_pending_memWb hb.memWb j).symm
    simp only [commit, hcommitted, Pending.apply_apply]
  · rw [if_neg hf] at hex ⊢
    rw [hregs]
    exact (hb.exMem.readGpr_eq t hbound' hex).symm

/-- This cycle takes an operand from the third latch, which holds a jump whose
target is not its return address: execute reads the link register, or decode
compares it or jumps to it. -/
def LinkHazard (vm : RV5SIDVM) : Prop :=
  vm.exMemReg.isValid = true ∧ vm.exMemReg.control.wbSrc = .fromPcInc ∧
  vm.exMemReg.rdIndex ≠ 0#5 ∧ vm.exMemReg.aluResult ≠ vm.exMemReg.pcInc ∧
  ((vm.idExReg.isValid = true ∧ vm.idExReg.control.isNop = false ∧
      vm.idExReg.Reads vm.exMemReg.rdIndex) ∨
    (vm.ifIdReg.isValid = true ∧ ¬vm.Stalls ∧
      (getControlSignals vm.ifIdReg.instruction).branch = true ∧
      (getControlSignals vm.ifIdReg.instruction).branchOp ≠ .jal ∧
      (getControlSignals vm.ifIdReg.instruction).branchOp ≠ .none ∧
      (vm.exMemReg.rdIndex = rs1IndexOf vm.ifIdReg.instruction ∨
        vm.exMemReg.rdIndex = rs2IndexOf vm.ifIdReg.instruction)))

/-- Without a link hazard, the third latch forwards return addresses correctly
to the registers that the hazard speaks of. -/
theorem forwardsTo_of_no_linkHazard (vm : RV5SIDVM) (t : Trace cfg size n A W) {vm₀ : Rv5sVm}
    (hb : BackEnd n A W r vm₀) (hexMem : vm.exMemReg = vm₀.exMemReg) {i : BitVec 5}
    (hsrc : vm₀.exMemReg.control.wbSrc = .fromPcInc)
    (hno : vm.exMemReg.isValid = true → vm.exMemReg.control.wbSrc = .fromPcInc →
      vm.exMemReg.rdIndex = i → i ≠ 0#5 → vm.exMemReg.aluResult ≠ vm.exMemReg.pcInc → False) :
    vm₀.exMemReg.ForwardsTo i ((A (vm₀.posEx r)).registers.readGpr i) := by
  have hbound : vm₀.posEx r ≤ n := Nat.le_trans (Nat.le_add_right _ _) hb.bound
  refine forwardsTo_of_link t hb.exMem hbound hsrc fun hrd hz => ?_
  by_contra hne
  rw [hexMem] at hno
  refine hno ?_ hsrc hrd hz hne
  cases hv : vm₀.exMemReg.isValid with
  | true => rfl
  | false =>
    rw [hb.exMem.2 hv] at hsrc
    cases hsrc

/-- When decode does not hold a branch back, execute computes none of its
registers and memory loads none of them. -/
theorem ne_of_branchStall {c : ControlSignals} {i1 i2 : BitVec 5}
    (h : vm.branchStall c i1 i2 = false) (hbr : c.branch = true)
    (hf : vm.forwardingEnabled = true) :
    (vm.idExReg.isValid = true → vm.idExReg.control.regWrite = true → vm.idExReg.rdIndex ≠ 0#5 →
      vm.idExReg.rdIndex ≠ i1 ∧ vm.idExReg.rdIndex ≠ i2) ∧
    (vm.exMemReg.isValid = true → vm.exMemReg.control.memRead = true →
      vm.exMemReg.rdIndex ≠ 0#5 → vm.exMemReg.rdIndex ≠ i1 ∧ vm.exMemReg.rdIndex ≠ i2) := by
  unfold branchStall at h
  rw [hbr, hf, Bool.or_eq_false_iff] at h
  obtain ⟨h1, h2⟩ := h
  constructor
  · intro hv hw hz
    rw [hv, hw, bne_iff_ne.mpr hz] at h1
    simpa using h1
  · intro hv hr hz
    rw [hv, hr, bne_iff_ne.mpr hz] at h2
    simpa using h2

/-- A branch that decode does not hold back compares the values of the run. -/
theorem branchOperands_of_not_stalls (vm : RV5SIDVM) (t : Trace cfg size n A W) {vm₀ : Rv5sVm}
    (hb : BackEnd n A W r vm₀) (hregs : vm.registers = (A (vm₀.posMem r)).registers)
    (hidEx : vm.idExReg = vm₀.idExReg) (hexMem : vm.exMemReg = vm₀.exMemReg)
    (hmemWb : vm.memWbReg = vm₀.memWbReg)
    (hif : IfIdOk (A (vm₀.posId r)) (W (vm₀.posId r)) vm.ifIdReg) (hstall : ¬vm.Stalls)
    (hlink : vm.forwardingEnabled = true → ¬vm.LinkHazard)
    (hbr : (getControlSignals (W (vm₀.posId r))).branch = true)
    (hj : (getControlSignals (W (vm₀.posId r))).branchOp ≠ .jal)
    (h0 : (getControlSignals (W (vm₀.posId r))).branchOp ≠ .none) {i : BitVec 5}
    (hi : i = rs1IndexOf (W (vm₀.posId r)) ∨ i = rs2IndexOf (W (vm₀.posId r))) :
    vm.branchOperand i (vm.registers.readGpr i) =
      (A (vm₀.posId r)).registers.readGpr i := by
  have hnop : (getControlSignals (W (vm₀.posId r))).isNop = false := by
    cases hnop : (getControlSignals (W (vm₀.posId r))).isNop with
    | false => rfl
    | true => simp [signals_of_isNop hnop] at hbr
  have hc := controlCase_getControlSignals hnop
  have hbound : vm₀.posEx r ≤ n := Nat.le_trans (Nat.le_add_right _ _) hb.bound
  have hno : (vm.toRv5sVm.dataStall (getControlSignals (W (vm₀.posId r)))
        (rs1IndexOf (W (vm₀.posId r))) (rs2IndexOf (W (vm₀.posId r))) ||
      vm.branchStall (getControlSignals (W (vm₀.posId r))) (rs1IndexOf (W (vm₀.posId r)))
        (rs2IndexOf (W (vm₀.posId r)))) = false := by
    refine Bool.eq_false_iff.mpr fun h => hstall ?_
    unfold Stalls
    rw [hif.instruction]
    exact ⟨hnop, h⟩
  rw [Bool.or_eq_false_iff] at hno
  obtain ⟨hdata, hbranch⟩ := hno
  by_cases hf : vm.forwardingEnabled = true
  · obtain ⟨hno₁, hno₂⟩ := ne_of_branchStall hbranch hbr hf
    rw [hidEx] at hno₁
    rw [hexMem] at hno₂
    have hi' : ∀ rd : BitVec 5, rd ≠ rs1IndexOf (W (vm₀.posId r)) ∧
        rd ≠ rs2IndexOf (W (vm₀.posId r)) → rd ≠ i := by
      rintro rd ⟨h1, h2⟩ rfl
      exact hi.elim h1 h2
    refine branchOperand_eq t hb hregs hexMem hmemWb ?_ ?_
    · rintro ⟨hw, rfl, hz⟩
      cases hv : vm₀.idExReg.isValid with
      | true => exact hi' _ (hno₁ hv hw hz) rfl
      | false =>
        rw [hb.idEx.2 hv] at hw
        cases hw
    · rw [if_pos hf]
      refine forwardsTo_of_hazardFree t hb.exMem hbound ?_ fun hsrc =>
        forwardsTo_of_no_linkHazard vm t hb hexMem hsrc ?_
      · intro hr hrd hz
        cases hv : vm₀.exMemReg.isValid with
        | true => exact hi' _ (hno₂ hv hr (hrd ▸ hz)) hrd
        | false =>
          rw [hb.exMem.2 hv] at hr
          cases hr
      · intro hv hsrc hrd hz hne
        rw [← hrd] at hi hz
        rw [← hif.instruction] at hbr hj h0 hi
        exact hlink hf ⟨hv, hsrc, hz, hne, .inr ⟨hif.isValid, hstall, hbr, hj, h0, hi⟩⟩
  · unfold Rv5sVm.dataStall at hdata
    rw [if_neg hf, hidEx, hexMem] at hdata
    obtain ⟨hno₁, hno₂⟩ := ne_of_detectDataHazard hdata
    have hne : ∀ rd : BitVec 5, rd ≠ 0#5 →
        ((getControlSignals (W (vm₀.posId r))).aluSrcA = .rs1 →
          rd ≠ rs1IndexOf (W (vm₀.posId r))) ∧
        (rs2Required (getControlSignals (W (vm₀.posId r))) = true →
          rd ≠ rs2IndexOf (W (vm₀.posId r))) → rd ≠ i := by
      rintro rd hz ⟨h1, h2⟩ rfl
      rcases hi with hi | hi
      · exact h1 (hc.aluSrcA_of_branch hbr hj) hi
      · cases hr : rs2Required (getControlSignals (W (vm₀.posId r))) with
        | true => exact h2 hr hi
        | false => exact hz (hi.trans (hc.rs2IndexOf_eq_zero hr))
    refine branchOperand_eq t hb hregs hexMem hmemWb ?_ ?_
    · rintro ⟨hw, rfl, hz⟩
      exact hne _ hz (hno₁ hw hz) rfl
    · rw [if_neg hf]
      rintro ⟨hw, rfl, hz⟩
      exact hne _ hz (hno₂ hw hz) rfl

/-! ### Fetch -/

/-- The fetch is on the path of the run: the first latch holds instruction `p`
and the program counter is where fetch went on, or it is a bubble and the
program counter is at instruction `p`. -/
def RightPath (n : Nat) (A : Nat → ArchState) (W : Nat → BitVec 32) (p : Nat)
    (l : IfIdReg) (pc : BitVec 64) : Prop :=
  (l.isValid = true → p < n ∧ IfIdOk (A p) (W p) l ∧ pc = l.predictedNext ∧
    (l.predictedOutcome = true → (getControlSignals (W p)).branch = true)) ∧
  (l.isValid = false → pc = (A p).pc)

/-- The branch target buffer knows no address of an instruction that is no branch. -/
def BtbOk (n : Nat) (A : Nat → ArchState) (W : Nat → BitVec 32) (btb : BranchTargetBuffer) :
    Prop :=
  ∀ j < n, btb.Hits (A j).pc → (getControlSignals (W j)).branch = true

/-- The entry that the decode of instruction `p` makes is for a branch. -/
theorem BtbOk.update (t : Trace cfg size n A W) {btb btb' : BranchTargetBuffer}
    (h : BtbOk n A W btb) (hp : p < n)
    (hnew : ∀ a, btb'.Hits a → btb.Hits a ∨
      a = (A p).pc ∧ (getControlSignals (W p)).branch = true) : BtbOk n A W btb' := by
  intro j hj hhit
  rcases hnew _ hhit with hold | ⟨hpc, hb⟩
  · exact h j hj hold
  · rw [t.path.word_congr hj hp hpc]
    exact hb

/-- A fetch on the right path stays on it. -/
theorem fetchStage_of_rightPath (vm : RV5SIDVM) (t : Trace cfg size n A W) (hpq : p ≤ q)
    (hq : q ≤ n) (hmem : vm.memoryController = (A p).memory) (hsize : vm.programSize = size)
    (hpc : vm.programCounter = (A q).pc) (hbtb : BtbOk n A W vm.btb)
    (hf : vm.flushPipeline = false) :
    ∃ l pc, fetchStage vm = .ok { vm with nextIfIdReg := l, programCounter := pc } ∧
      RightPath n A W q l pc ∧ (l.isValid = false → q = n) := by
  by_cases hin : vm.programSize ≤ vm.programCounter
  · refine ⟨.bubble, vm.programCounter, ?_, ⟨fun h => Bool.noConfusion h, fun _ => hpc⟩,
      fun _ => ?_⟩
    · unfold fetchStage
      rw [if_neg (by rw [hf]; decide), if_pos hin]
    · rw [hsize, hpc] at hin
      exact t.eq_of_halted hq hin
  · have hlt : q < n := by
      rcases Nat.lt_or_eq_of_le hq with hlt | rfl
      · exact hlt
      · rw [hsize, hpc] at hin
        exact absurd t.halted hin
    have hread : vm.memoryController.readWord vm.programCounter = .ok (W q) := by
      rw [hmem, hpc, t.path.fetch_early hpq hlt]
    obtain ⟨l, heq, hif, hfollow⟩ :=
      fetchStage_of_readWord vm hf (BitVec.not_le.mp hin) hread
    have hif' : IfIdOk (A q) (W q) l :=
      ⟨hif.isValid, hif.instruction, hif.pc.trans hpc, hif.pcInc.trans (by rw [← hpc]; rfl)⟩
    refine ⟨l, l.predictedNext, heq, ⟨fun _ => ⟨hlt, hif', rfl, fun hout => ?_⟩, fun h => ?_⟩,
      fun h => ?_⟩
    · exact hbtb q hlt (hpc ▸ hfollow hout)
    · exact Bool.noConfusion (hif.isValid.symm.trans h)
    · exact Bool.noConfusion (hif.isValid.symm.trans h)

/-! ### The front end of a cycle -/

/-- Decode, and fetch unless decode stalls. -/
def frontEnd (vm : RV5SIDVM) : Except (Fault × RV5SIDVM) RV5SIDVM :=
  let vm := decodeStage vm
  if vm.stallRequest then .ok vm else fetchStage vm

/-- The first latch in the next cycle. -/
def nextIfId (vm : RV5SIDVM) : IfIdReg :=
  if vm.stallRequest then vm.ifIdReg else vm.nextIfIdReg

/-- What the front end of a cycle leaves for the next one, in which instruction
`p` or a bubble goes to execute. -/
structure FrontEndOk (n : Nat) (A : Nat → ArchState) (W : Nat → BitVec 32) (p : Nat)
    (vm vm' : RV5SIDVM) : Prop where
  idEx : HoldsIdEx A W p vm'.nextIdExReg
  bound : p + vm'.nextIdExReg.isValid.toNat ≤ n
  latched : vm'.nextIdExReg.isValid = true → (getControlSignals (W p)).isNop = false →
    Latched vm.toRv5sVm (W p) vm'.nextIdExReg
  front : RightPath n A W (p + vm'.nextIdExReg.isValid.toNat) (nextIfId vm') vm'.programCounter
  btb : BtbOk n A W vm'.btb
  progress : vm'.nextIdExReg.isValid = false →
    (vm.ifIdReg.isValid = false ∧ ((nextIfId vm').isValid = true ∨ p = n)) ∨
    ((nextIfId vm').isValid = true ∧
      (vm.idExReg.isValid = true ∨ vm.exMemReg.isValid = true))

/-- Decode stalls only behind an instruction in execute or memory. -/
theorem valid_of_stalls (hex : vm.idExReg.isValid = false → vm.idExReg = .bubble)
    (hmem : vm.exMemReg.isValid = false → vm.exMemReg = .bubble) (h : vm.Stalls) :
    vm.idExReg.isValid = true ∨ vm.exMemReg.isValid = true := by
  obtain ⟨-, h⟩ := h
  rw [Bool.or_eq_true] at h
  rcases h with h | h
  · exact valid_of_dataStall hex hmem h
  · simp only [branchStall, Bool.or_eq_true, Bool.and_eq_true] at h
    rcases h with h | h
    · exact .inl h.1.1.1.2
    · exact .inr h.1.1.1.2

/-- Decode and fetch advance on the right path, or decode stalls. -/
theorem frontEnd_eq (vm : RV5SIDVM) (t : Trace cfg size n A W) (hqp : q ≤ p) (hp : p ≤ n)
    (hmem : vm.memoryController = (A q).memory) (hsize : vm.programSize = size)
    (hex : vm.idExReg.isValid = false → vm.idExReg = .bubble)
    (hexMem : vm.exMemReg.isValid = false → vm.exMemReg = .bubble)
    (hf : vm.flushPipeline = false) (hs : vm.stallRequest = false)
    (hbtb : BtbOk n A W vm.btb)
    (hpath : RightPath n A W p vm.ifIdReg vm.programCounter)
    (hops : vm.ifIdReg.isValid = true → ¬vm.Stalls →
      (getControlSignals (W p)).branch = true → (getControlSignals (W p)).branchOp ≠ .jal →
      (getControlSignals (W p)).branchOp ≠ .none →
      vm.branchOperand (rs1IndexOf (W p)) (vm.registers.readGpr (rs1IndexOf (W p))) =
          (A p).operandA (W p) ∧
        vm.branchOperand (rs2IndexOf (W p)) (vm.registers.readGpr (rs2IndexOf (W p))) =
          (A p).operandB (W p)) :
    ∃ sc l lf bp btb mis pc flush stall, frontEnd vm = .ok { vm with
        stallCycles := sc, nextIdExReg := l, nextIfIdReg := lf, branchPredictor := bp, btb := btb
        branchMispredictions := mis, programCounter := pc, flushPipeline := flush
        stallRequest := stall } ∧
      FrontEndOk n A W p vm { vm with
        stallCycles := sc, nextIdExReg := l, nextIfIdReg := lf, branchPredictor := bp, btb := btb
        branchMispredictions := mis, programCounter := pc, flushPipeline := flush
        stallRequest := stall } := by
  unfold frontEnd
  dsimp only
  cases hv : vm.ifIdReg.isValid with
  | false =>
    have hpc := hpath.2 hv
    obtain ⟨lf, pc, hfetch, hnext, hend⟩ := fetchStage_of_rightPath { vm with
      nextIdExReg := .bubble } t hqp hp hmem hsize hpc hbtb hf
    refine ⟨vm.stallCycles, .bubble, lf, vm.branchPredictor, vm.btb, vm.branchMispredictions, pc,
      vm.flushPipeline, vm.stallRequest, ?_, ?_⟩
    · rw [decodeStage_of_bubble hf hv, if_neg (by rw [hs]; decide), hfetch]
    · have hnextIfId : nextIfId { vm with
          nextIdExReg := .bubble, nextIfIdReg := lf, programCounter := pc } = lf :=
        if_neg (by rw [hs]; decide)
      exact {
        idEx := holdsIdEx_bubble
        bound := hp
        latched := fun h => Bool.noConfusion h
        front := by
          rw [hnextIfId]
          exact hnext
        btb := hbtb
        progress := fun _ => .inl ⟨hv, by
          rw [hnextIfId]
          cases hlf : lf.isValid with
          | true => exact .inl rfl
          | false => exact .inr (hend hlf)⟩ }
  | true =>
    obtain ⟨hlt, hif, hpc, hpred⟩ := hpath.1 hv
    by_cases hstall : vm.Stalls
    · refine ⟨vm.stallCycles, .bubble, vm.nextIfIdReg, vm.branchPredictor, vm.btb,
        vm.branchMispredictions, vm.programCounter, vm.flushPipeline, true, ?_, ?_⟩
      · rw [decodeStage_of_stalls hf hv hstall, if_pos rfl]
      · exact {
          idEx := holdsIdEx_bubble
          bound := hp
          latched := fun h => Bool.noConfusion h
          front := hpath
          btb := hbtb
          progress := fun _ => .inr ⟨hv, valid_of_stalls hex hexMem hstall⟩ }
    · obtain ⟨l, bp, btb, mis, flush, hdecode, hl, hlatched, hhits⟩ :=
        decodeStage_eq vm hif hpc hpred hf hstall (hops hv hstall)
      rw [← ArchState.pc_exec (t.exec p hlt)] at hdecode
      have hone : p + l.isValid.toNat = p + 1 := by rw [hl.isValid, Bool.toNat_true]
      have hbtb' : BtbOk n A W btb := hbtb.update t hlt hhits
      -- whatever the fetch of this cycle does, it stays on the right path
      suffices h : ∃ sc lf pc', fetchStage { vm with
            nextIdExReg := l, branchPredictor := bp, btb := btb, branchMispredictions := mis
            flushPipeline := flush, programCounter := (A (p + 1)).pc } = .ok { vm with
            stallCycles := sc, nextIdExReg := l, nextIfIdReg := lf, branchPredictor := bp
            btb := btb, branchMispredictions := mis, flushPipeline := flush
            programCounter := pc' } ∧ RightPath n A W (p + 1) lf pc' by
        obtain ⟨sc, lf, pc', hfetch, hfront⟩ := h
        refine ⟨sc, l, lf, bp, btb, mis, pc', flush, vm.stallRequest, ?_, ?_⟩
        · rw [hdecode, if_neg (by rw [hs]; decide), hfetch]
        · exact {
            idEx := .of_ok hl
            bound := by
              dsimp only
              omega
            latched := fun _ => hlatched
            front := by
              simp only [nextIfId, hs, Bool.false_eq_true, if_false]
              rw [hone]
              exact hfront
            btb := hbtb'
            progress := fun h => Bool.noConfusion (hl.isValid.symm.trans h) }
      cases hflush : flush with
      | true =>
        obtain ⟨sc, hfetch⟩ := fetchStage_of_flush { vm with
          nextIdExReg := l, branchPredictor := bp, btb := btb, branchMispredictions := mis
          flushPipeline := true, programCounter := (A (p + 1)).pc } rfl
        exact ⟨sc, .bubble, _, hfetch, fun h => Bool.noConfusion h, fun _ => rfl⟩
      | false =>
        obtain ⟨lf, pc', hfetch, hfront, _⟩ := fetchStage_of_rightPath { vm with
          nextIdExReg := l, branchPredictor := bp, btb := btb, branchMispredictions := mis
          flushPipeline := false, programCounter := (A (p + 1)).pc } t
          (Nat.le_succ_of_le hqp) (by omega) hmem hsize rfl hbtb' rfl
        exact ⟨vm.stallCycles, lf, pc', hfetch, hfront⟩

/-! ### The invariant -/

/-- The machine at a cycle boundary, with `r` instructions retired.  The
operands in the second latch are ready unless they need a return address that
the third latch would forward wrongly. -/
structure IdInv (size : BitVec 64) (n : Nat) (A : Nat → ArchState) (W : Nat → BitVec 32)
    (r : Nat) (vm : RV5SIDVM) : Prop where
  backEnd : BackEnd n A W r vm.toRv5sVm
  programSize : vm.programSize = size
  operands : vm.idExReg.isValid = true →
    (getControlSignals (W (vm.toRv5sVm.posEx r))).isNop = false →
    (∀ i, vm.idExReg.Reads i → vm.forwardingEnabled = true →
      vm.exMemReg.control.wbSrc = .fromPcInc →
      vm.exMemReg.ForwardsTo i ((A (vm.toRv5sVm.posEx r)).registers.readGpr i)) →
    OperandsLatched A (vm.toRv5sVm.posEx r) vm.toRv5sVm
  front : RightPath n A W (vm.toRv5sVm.posId r) vm.ifIdReg vm.programCounter
  btb : BtbOk n A W vm.btb

/-- Execute on the second latch, which holds instruction `p` or is a bubble. -/
theorem executeStage_of_holds (vm : RV5SIDVM) (t : Trace cfg size n A W)
    (hid : HoldsIdEx A W p vm.idExReg) (hp : p + vm.idExReg.isValid.toNat ≤ n)
    (hops : vm.idExReg.isValid = true → (getControlSignals (W p)).isNop = false →
      OperandsOk (A p) (W p) vm.toRv5sVm.dataAluA vm.toRv5sVm.dataAluB) :
    ∃ l, executeStage vm = .ok { vm with nextExMemReg := l } ∧
      HoldsExMem A W p l ∧ l.isValid = vm.idExReg.isValid ∧
      CarriesWrite vm.idExReg.control vm.idExReg.rdIndex l.control l.rdIndex := by
  cases hv : vm.idExReg.isValid with
  | false =>
    refine ⟨.bubble, executeStage_of_bubble hv, holdsExMem_bubble, rfl, ?_⟩
    rw [hid.2 hv]
    exact ⟨rfl, fun _ => rfl⟩
  | true =>
    rw [hv, Bool.toNat_true] at hp
    obtain ⟨l, heq, hok, hw⟩ :=
      executeStage_eq (hid.1 hv) (hops hv) (ArchState.alu_of_exec (t.exec p hp))
    exact ⟨l, heq, .of_ok hok, hok.isValid, hw⟩

/-- The operands of execute are those of the run when there is no link hazard. -/
theorem operandsOk_of_idInv (t : Trace cfg size n A W) (h : IdInv size n A W r vm)
    (hlink : vm.forwardingEnabled = true → ¬vm.LinkHazard) (hv : vm.idExReg.isValid = true)
    (hnop : (getControlSignals (W (vm.toRv5sVm.posEx r))).isNop = false) :
    OperandsOk (A (vm.toRv5sVm.posEx r)) (W (vm.toRv5sVm.posEx r)) vm.toRv5sVm.dataAluA
      vm.toRv5sVm.dataAluB := by
  refine operandsOk_of_latched t h.backEnd hv hnop (h.operands hv hnop ?_)
  intro i hreads hf hsrc
  refine forwardsTo_of_no_linkHazard vm t h.backEnd rfl hsrc ?_
  intro hvx hsrc hrd hz hne
  have hn : vm.idExReg.control.isNop = false := by
    rw [(h.backEnd.idEx.1 hv).control, hnop]
  rw [← hrd] at hreads hz
  exact hlink hf ⟨hvx, hsrc, hz, hne, .inl ⟨hv, hn, hreads⟩⟩

/-- The five stages of a cycle from a state with the invariant. -/
theorem runStages_eq (t : Trace cfg size n A W) (h : IdInv size n A W r vm)
    (hlink : vm.forwardingEnabled = true → ¬vm.LinkHazard) :
    ∃ vm₁ vm', runStages cfg vm = .ok vm' ∧
      CycleOk n A W r vm.toRv5sVm vm₁.toRv5sVm vm'.toRv5sVm ∧
      FrontEndOk n A W (vm.toRv5sVm.posId r) vm₁ vm' ∧ vm₁.ifIdReg = vm.ifIdReg := by
  let base₀ : Rv5sVm := { vm.toRv5sVm with stallRequest := false, flushPipeline := false }
  have hb : BackEnd n A W r base₀ := ⟨h.backEnd.bound, h.backEnd.retired, h.backEnd.registers,
    h.backEnd.memory, h.backEnd.memWb, h.backEnd.exMem, h.backEnd.idEx⟩
  obtain ⟨lw, hmemory, hlwv, hlw⟩ := memoryStage_of_backEnd t hb
  have hbound := h.backEnd.bound
  let base₁ : Rv5sVm := { base₀ with
    instructionsRetired := BitVec.ofNat 32 (base₀.posMem r)
    registers := (A (base₀.posMem r)).registers
    memoryController := (A (base₀.posEx r)).memory
    nextMemWbReg := lw }
  have hops : vm.idExReg.isValid = true →
      (getControlSignals (W (vm.toRv5sVm.posEx r))).isNop = false →
      OperandsOk (A (vm.toRv5sVm.posEx r)) (W (vm.toRv5sVm.posEx r)) vm.toRv5sVm.dataAluA
        vm.toRv5sVm.dataAluB := operandsOk_of_idInv t h hlink
  obtain ⟨lx, hexec, hlx, hlxv, hlxw⟩ :=
    executeStage_of_holds (vm.withBase base₁) t h.backEnd.idEx hbound hops
  let vm₁ : RV5SIDVM := { vm.withBase base₁ with nextExMemReg := lx }
  have hrun : runStages cfg vm = frontEnd vm₁ := by
    have hmem : memoryStage cfg (writeBackStage (vm.withBase base₀)) =
        .ok (vm.withBase base₁) := memoryStage_eq_ok.mpr ⟨base₁, hmemory, rfl⟩
    unfold runStages
    dsimp only
    show (memoryStage cfg (writeBackStage (vm.withBase base₀)) >>= fun vm =>
      executeStage vm >>= frontEnd) = _
    rw [hmem, ok_bind, hexec]
    rfl
  obtain ⟨sc, l, lf, bp, btb, mis, pc, flush, stall, heq, hfe⟩ := frontEnd_eq vm₁ t
    (Nat.le_add_right _ _) hbound rfl h.programSize h.backEnd.idEx.2 h.backEnd.exMem.2 rfl rfl
    h.btb h.front (by
      intro hv hstall hbr hj h0
      have hif := (h.front.1 hv).2.1
      have heq := fun i => branchOperands_of_not_stalls vm₁ t (i := i) hb rfl rfl rfl rfl hif
        hstall hlink hbr hj h0
      exact ⟨heq _ (.inl rfl), heq _ (.inr rfl)⟩)
  exact ⟨vm₁, _, hrun.trans heq, {
    retired := rfl
    registers := rfl
    memory := rfl
    programSize := rfl
    forwardingEnabled := rfl
    stopRequested := rfl
    memWb := hlw
    memWbValid := hlwv
    exMem := hlx
    exMemValid := hlxv
    exMemWrite := hlxw
    idEx := hfe.idEx
    bound := hfe.bound
    decodedFrom := ⟨rfl, rfl, rfl, rfl⟩
    latched := hfe.latched }, hfe, rfl⟩

/-! ### A cycle -/

/-- A cycle keeps the invariant; it lowers the rank or ends the run. -/
theorem endCycle_of_idInv (t : Trace cfg size n A W) (h : IdInv size n A W r vm)
    {vm₁ vm' : RV5SIDVM} (hc : CycleOk n A W r vm.toRv5sVm vm₁.toRv5sVm vm'.toRv5sVm)
    (hfe : FrontEndOk n A W (vm.toRv5sVm.posId r) vm₁ vm') (hif : vm₁.ifIdReg = vm.ifIdReg) :
    IdInv size n A W (vm.toRv5sVm.posMem r) (vm'.withBase vm'.toRv5sVm.endCycle) ∧
      (vm'.toRv5sVm.endCycle.isFinished = true ∨
        vm'.toRv5sVm.endCycle.rank n (vm.toRv5sVm.posMem r) < vm.toRv5sVm.rank n r) := by
  have hfront : RightPath n A W (vm.toRv5sVm.posId r + vm'.nextIdExReg.isValid.toNat)
      (nextIfId vm') vm'.programCounter := hfe.front
  constructor
  · exact {
      backEnd := hc.backEnd
      programSize := hc.programSize.trans h.programSize
      operands := fun hv hnop => by
        rw [show (vm'.withBase vm'.toRv5sVm.endCycle).toRv5sVm.posEx (vm.toRv5sVm.posMem r) =
          vm.toRv5sVm.posId r from hc.posEx_eq] at hnop ⊢
        exact hc.operandsLatched t h.backEnd hv hnop
      front := by
        rw [show (vm'.withBase vm'.toRv5sVm.endCycle).toRv5sVm.posId (vm.toRv5sVm.posMem r) = _
          from hc.posId_eq]
        exact hfront
      btb := hfe.btb }
  · refine hc.finished_or_rank_lt t h.programSize (fun hv hd => ?_) fun hd => .inr ?_
    · have hpc := hfront.2 hv
      rwa [hd, Bool.toNat_false, Nat.add_zero] at hpc
    · obtain ⟨-, -, hex₁, hmem₁⟩ := hc.decodedFrom
      have hprogress := hfe.progress hd
      rw [hif, hex₁, hmem₁] at hprogress
      exact hprogress

/-- One step from a state with the invariant. -/
theorem step_of_idInv (t : Trace cfg size n A W) (h : IdInv size n A W r vm)
    (hlink : vm.forwardingEnabled = true → ¬vm.LinkHazard) (hgo : vm.stopRequested = false)
    (hrunning : vm.outputStatus ≠ .programEnd) :
    ∃ vm', step cfg vm = .ok vm' ∧ vm'.forwardingEnabled = vm.forwardingEnabled ∧
      (vm'.stopRequested = true ∧ vm'.toRv5sVm.arch = A n ∧
          vm'.instructionsRetired = BitVec.ofNat 32 n ∨
        vm'.stopRequested = false ∧ vm'.outputStatus ≠ .programEnd ∧
          IdInv size n A W (vm.toRv5sVm.posMem r) vm' ∧
          vm'.toRv5sVm.rank n (vm.toRv5sVm.posMem r) < vm.toRv5sVm.rank n r) := by
  obtain ⟨vm₁, vm', hrun, hc, hfe, hif⟩ := runStages_eq t h hlink
  obtain ⟨hinv, hprogress⟩ := endCycle_of_idInv t h hc hfe hif
  refine ⟨vm'.withBase vm'.toRv5sVm.endCycle.reportStep, ?_, ?_⟩
  · unfold step
    rw [if_neg hrunning, hrun]
    rfl
  · unfold Rv5sVm.reportStep
    by_cases hfin : vm'.toRv5sVm.endCycle.isFinished = true
    · rw [if_pos hfin]
      obtain ⟨harch, hretired⟩ := eq_of_isFinished t hinv.backEnd hinv.programSize
        (fun hv _ => hinv.front.2 hv) hfin
      exact ⟨hc.forwardingEnabled, .inl ⟨rfl, harch, hretired⟩⟩
    · rw [if_neg hfin]
      refine ⟨hc.forwardingEnabled, .inr ⟨hc.stopRequested.trans hgo, OutputStatus.noConfusion,
        ?_, hprogress.resolve_left hfin⟩⟩
      exact ⟨hinv.backEnd.withStatus, hinv.programSize,
        fun hv hnop hl => (hinv.operands hv hnop hl).withStatus, hinv.front, hinv.btb⟩

/-- A machine before its first cycle: nothing is in the pipeline, nothing has
retired and the branch target buffer is empty.  The registers, the memory, the
predictor and the hazard mode are arbitrary. -/
structure Fresh (vm : RV5SIDVM) : Prop where
  isEmpty : vm.toRv5sVm.IsEmpty
  retired : vm.instructionsRetired = 0#32
  btb : vm.btb = .empty

/-- A new machine with a program loaded is such a machine. -/
theorem fresh_of_loadProgram {vm' : RV5SIDVM} {program : AssembledProgram}
    (h : (new cfg).loadProgram cfg program = .ok vm') : vm'.Fresh := by
  obtain ⟨base, hbase, rfl⟩ := bind_pure_eq_ok.mp h
  have hfresh := RiscvSim.fresh_of_loadProgram (Rv5sVm.blank cfg) program .new
    (throwWith_eq_ok.mp hbase)
  exact ⟨hfresh.isEmpty, hfresh.retired, rfl⟩

/-- A fresh machine at the first instruction of a run has the invariant. -/
theorem idInv_of_fresh (h : vm.Fresh) (hsize : vm.programSize = size)
    (harch : vm.toRv5sVm.arch = A 0) : IdInv size n A W 0 vm := by
  obtain ⟨hif, hid, hexm, hwb⟩ := h.isEmpty
  have hpos : vm.toRv5sVm.posId 0 = 0 := by
    simp [Rv5sVm.posId, Rv5sVm.posEx, Rv5sVm.posMem, hid, hexm, hwb, IdExReg.bubble,
      ExMemReg.bubble, MemWbReg.bubble]
  have hmem : vm.toRv5sVm.posMem 0 = 0 := by simp [Rv5sVm.posMem, hwb, MemWbReg.bubble]
  have hex : vm.idExReg.isValid = false := by rw [hid]; rfl
  exact {
    backEnd := {
      bound := by omega
      retired := h.retired
      registers := congrArg ArchState.registers harch
      memory := by
        rw [hmem]
        exact congrArg ArchState.memory harch
      memWb := hwb ▸ holdsMemWb_bubble
      exMem := hexm ▸ holdsExMem_bubble
      idEx := hid ▸ holdsIdEx_bubble }
    programSize := hsize
    operands := fun hv => Bool.noConfusion (hex.symm.trans hv)
    front := by
      refine ⟨fun hv => Bool.noConfusion (hif ▸ hv), fun _ => ?_⟩
      rw [hpos]
      exact congrArg ArchState.pc harch
    btb := fun j _ hhit => absurd (h.btb ▸ hhit) (BranchTargetBuffer.not_hits_empty _) }

/-- `Run` of a fresh machine computes the run of the abstract machine, when no
state it reaches has a link hazard. -/
theorem run_of_trace (t : Trace cfg size n A W) (h : vm.Fresh) (hsize : vm.programSize = size)
    (harch : vm.toRv5sVm.arch = A 0)
    (hlink : ∀ vm', Reaches (fun vm : RV5SIDVM => vm.stopRequested) (step cfg) (startRun vm) vm' →
      vm'.forwardingEnabled = vm.forwardingEnabled → vm'.forwardingEnabled = true →
      ¬vm'.LinkHazard) :
    ∃ fuel vm', run cfg fuel vm = some (.ok vm') ∧ vm'.toRv5sVm.arch = A n ∧
      vm'.instructionsRetired = BitVec.ofNat 32 n := by
  obtain ⟨fuel, vm', hrun, harch', hretired'⟩ := runUntil_of_rank
    (fun vm : RV5SIDVM => vm.stopRequested) (step cfg)
    (fun k vm' => ∃ r, IdInv size n A W r vm' ∧ vm'.toRv5sVm.rank n r = k ∧
      vm'.stopRequested = false ∧ vm'.outputStatus ≠ .programEnd ∧
      vm'.forwardingEnabled = vm.forwardingEnabled ∧
      Reaches (fun vm : RV5SIDVM => vm.stopRequested) (step cfg) (startRun vm) vm')
    (fun vm => vm.toRv5sVm.arch = A n ∧ vm.instructionsRetired = BitVec.ofNat 32 n)
    (fun k vm' hinv => by
      obtain ⟨r, hinv, hk, hgo, hrunning, hfwd, hreach⟩ := hinv
      obtain ⟨vm'', hstep, hfwd', hnext⟩ :=
        step_of_idInv t hinv (hlink vm' hreach hfwd) hgo hrunning
      refine ⟨vm'', hstep, hnext.imp_right ?_⟩
      rintro ⟨hgo', hrunning', hinv', hlt⟩
      exact ⟨hgo', _, hk ▸ hlt, _, hinv', rfl, hgo', hrunning', hfwd'.trans hfwd,
        hreach.tail hgo hstep⟩)
    (s := startRun vm)
    ⟨0, idInv_of_fresh ⟨⟨h.isEmpty.1, h.isEmpty.2, h.isEmpty.3, h.isEmpty.4⟩, h.retired, h.btb⟩
      hsize harch, rfl, rfl,
      OutputStatus.noConfusion, rfl, .refl⟩ rfl
  exact ⟨fuel, { vm' with stopRequested := false }, by rw [run, hrun]; rfl, harch', hretired'⟩

/-! ### Refinement -/

/-- The sequential reference: `S i` is the machine after `i` instructions, each
of which had the pipeline to itself.  After `n` of them the program counter is
past the program, and no store went to an address an instruction is fetched from. -/
structure Sequential (cfg : VmConfig) (n : Nat) (S : Nat → RV5SIDVM) : Prop where
  step : ∀ i < n, runAlone cfg (S i) = .ok (S (i + 1))
  halted : (S n).programSize ≤ (S n).programCounter
  apart : ∀ i < n, ∀ j < n, ∀ a ∈ (S i).toRv5sVm.arch.storeAddresses,
    a ∉ (S j).toRv5sVm.arch.fetchAddresses

/-- What the sequential reference has done after `i` instructions. -/
structure SequentialUpTo (cfg : VmConfig) (S : Nat → RV5SIDVM) (i : Nat) : Prop where
  isEmpty : (S i).toRv5sVm.IsEmpty
  programSize : (S i).programSize = (S 0).programSize
  exec : ∀ j < i, (S j).toRv5sVm.arch.exec cfg (S j).toRv5sVm.arch.word =
    .ok (S (j + 1)).toRv5sVm.arch
  btb : ∀ a, (S i).btb.Hits a → ∃ j < i, a = (S j).programCounter ∧
    (getControlSignals (S j).toRv5sVm.arch.word).branch = true

theorem Sequential.upTo {S : Nat → RV5SIDVM} (h : Sequential cfg n S) (h0 : (S 0).Fresh)
    {i : Nat} (hi : i ≤ n) : SequentialUpTo cfg S i := by
  induction i with
  | zero =>
    exact ⟨h0.isEmpty, rfl, fun j hj => absurd hj (Nat.not_lt_zero j), fun a ha =>
      absurd (h0.btb ▸ ha) (BranchTargetBuffer.not_hits_empty a)⟩
  | succ i ih =>
    have hprev := ih (by omega)
    have hpath : Path cfg (i + 1) (fun i => (S i).toRv5sVm.arch)
        fun i => (S i).toRv5sVm.arch.word := {
      fetch := fun j hj => (fetch_of_runAlone (h.step j (by omega))).2
      exec := fun j hj => hprev.exec j (by omega)
      apart := fun j hj k hk => h.apart j (by omega) k (by omega) }
    obtain ⟨hexec, hsize, hempty, hhits⟩ := exec_of_runAlone hprev.isEmpty (fun hhit => by
      obtain ⟨j, hj, hpc, hb⟩ := hprev.btb _ hhit
      have hword := hpath.word_congr (Nat.lt_succ_self i) (by omega) hpc
      rw [hword]
      exact hb) (h.step i hi)
    refine ⟨hempty, hsize.trans hprev.programSize, fun j hj => ?_, fun a ha => ?_⟩
    · rcases Nat.lt_succ_iff_lt_or_eq.mp hj with hj | rfl
      · exact hprev.exec j hj
      · exact hexec
    · rcases hhits a ha with hold | ⟨rfl, hb⟩
      · obtain ⟨j, hj, hj'⟩ := hprev.btb a hold
        exact ⟨j, by omega, hj'⟩
      · exact ⟨i, Nat.lt_succ_self i, rfl, hb⟩

/-- The sequential reference is a run of the abstract machine. -/
theorem Sequential.trace {S : Nat → RV5SIDVM} (h : Sequential cfg n S) (h0 : (S 0).Fresh) :
    Trace cfg (S 0).programSize n (fun i => (S i).toRv5sVm.arch)
      fun i => (S i).toRv5sVm.arch.word where
  fetch := fun i hi => (fetch_of_runAlone (h.step i hi)).2
  exec := (h.upTo h0 (Nat.le_refl n)).exec
  inside := fun i hi =>
    (h.upTo h0 (Nat.le_of_lt hi)).programSize ▸ (fetch_of_runAlone (h.step i hi)).1
  halted := (h.upTo h0 (Nat.le_refl n)).programSize ▸ h.halted
  apart := h.apart

instance (l : IdExReg) (i : BitVec 5) : Decidable (l.Reads i) :=
  inferInstanceAs (Decidable (_ ∨ _))

instance (vm : RV5SIDVM) : Decidable vm.Stalls :=
  inferInstanceAs (Decidable (_ ∧ _))

instance (vm : RV5SIDVM) : Decidable vm.LinkHazard :=
  inferInstanceAs (Decidable (_ ∧ _))

/-- `Run` of a fresh machine halts with the registers, the memory and the
program counter of the sequential reference and with as many instructions
retired, provided no state it reaches has a link hazard. -/
theorem run_refines_of_no_linkHazard {S : Nat → RV5SIDVM} (h : Sequential cfg n S)
    (h0 : (S 0).Fresh)
    (hlink : ∀ vm, Reaches (fun vm : RV5SIDVM => vm.stopRequested) (step cfg) (startRun (S 0)) vm →
      ¬vm.LinkHazard) :
    ∃ fuel vm', run cfg fuel (S 0) = some (.ok vm') ∧
      (∀ i, vm'.registers.readGpr i = (S n).registers.readGpr i) ∧
      vm'.memoryController = (S n).memoryController ∧
      vm'.programCounter = (S n).programCounter ∧
      vm'.instructionsRetired = BitVec.ofNat 32 n := by
  obtain ⟨fuel, vm', hrun, harch, hretired⟩ :=
    run_of_trace (h.trace h0) h0 rfl rfl fun vm hreach _ _ => hlink vm hreach
  have hregs : vm'.registers = (S n).registers := congrArg ArchState.registers harch
  exact ⟨fuel, vm', hrun, fun i => by rw [hregs], congrArg ArchState.memory harch,
    congrArg ArchState.pc harch, hretired⟩

/-- A configuration with forwarding. -/
def forwardingConfig : VmConfig where
  dataHazardMode := .forwarding

/-- `addi x5, x0, 5`, a jump over the next word that writes `x1`, `addi x5, x0, 0`,
`add x6, x5, x5`. -/
def jumpOver : AssembledProgram where
  textBuffer := [0x00500293#32, 0x008000ef#32, 0x00000293#32, 0x00528333#32]

theorem run_refines_of_no_linkHazard_jumpOver :
    ∃ vm₀ : RV5SIDVM, (new forwardingConfig).loadProgram forwardingConfig jumpOver = .ok vm₀ ∧
      ∃ fuel vm', run forwardingConfig fuel vm₀ = some (.ok vm') ∧
        vm'.registers.readGpr 6#5 = 10#64 ∧ vm'.instructionsRetired = 3#32 := by
  let vm₀ : RV5SIDVM :=
    ((new forwardingConfig).loadProgram forwardingConfig jumpOver).toOption.getD
      (new forwardingConfig)
  have hload : (new forwardingConfig).loadProgram forwardingConfig jumpOver = .ok vm₀ :=
    eq_ok_getD _ (by decide +kernel)
  have hstep : ∀ i < 3,
      (runAlone forwardingConfig (after (runAlone forwardingConfig) vm₀ i)).toOption.isSome =
        true := by
    decide +kernel
  have hstores : ∀ i < 3,
      (after (runAlone forwardingConfig) vm₀ i).toRv5sVm.arch.storeAddresses = [] := by
    decide +kernel
  have h : Sequential forwardingConfig 3 (after (runAlone forwardingConfig) vm₀) := {
    step := fun i hi => eq_ok_getD _ (hstep i hi)
    halted := by decide +kernel
    apart := fun i hi j _ a ha => by
      rw [hstores i hi] at ha
      cases ha }
  have hhazards : ∀ k ≤ 9,
      ¬(after (step forwardingConfig) (startRun vm₀) k).LinkHazard := by
    decide +kernel
  have hstop : (after (step forwardingConfig) (startRun vm₀) 9).stopRequested = true := by
    decide +kernel
  have hlink : ∀ vm, Reaches (fun vm : RV5SIDVM => vm.stopRequested) (step forwardingConfig)
      (startRun vm₀) vm → ¬vm.LinkHazard := by
    intro vm hreach
    obtain ⟨k, hk, rfl⟩ := hreach.exists_after hstop
    exact hhazards k hk
  obtain ⟨fuel, vm', hrun, hregs, -, -, hretired⟩ :=
    run_refines_of_no_linkHazard h (fresh_of_loadProgram hload) hlink
  refine ⟨vm₀, hload, fuel, vm', hrun, ?_, hretired⟩
  rw [hregs]
  decide +kernel

/-- The outcome of `Run` does not depend on the bound. -/
theorem run_unique {a b : Except (Fault × RV5SIDVM) RV5SIDVM} {fuel fuel' : Nat}
    (h : run cfg fuel vm = some a) (h' : run cfg fuel' vm = some b) : a = b := by
  obtain ⟨x, hx, rfl⟩ := Option.map_eq_some_iff.mp h
  obtain ⟨y, hy, rfl⟩ := Option.map_eq_some_iff.mp h'
  rw [runUntil_unique hx hy]

/-- `jal x1, 8`, `jal x0, 8`, `jalr x0, 0(x1)`: the first jump leads to the
third word, which jumps back to the second one. -/
def callReturn : AssembledProgram where
  textBuffer := [0x008000ef#32, 0x0080006f#32, 0x00008067#32]

/-- With forwarding, the return of `callReturn` jumps to the target of the call
instead of its return address: a fourth instruction retires. -/
theorem run_callReturn_with_forwarding :
    ∃ S : Nat → RV5SIDVM,
      (new forwardingConfig).loadProgram forwardingConfig callReturn = .ok (S 0) ∧
      (S 0).forwardingEnabled = true ∧ Sequential forwardingConfig 3 S ∧
      ¬∃ fuel vm', run forwardingConfig fuel (S 0) = some (.ok vm') ∧
        (∀ i, vm'.registers.readGpr i = (S 3).registers.readGpr i) ∧
        vm'.memoryController = (S 3).memoryController ∧
        vm'.programCounter = (S 3).programCounter ∧
        vm'.instructionsRetired = BitVec.ofNat 32 3 := by
  let vm₀ : RV5SIDVM :=
    ((new forwardingConfig).loadProgram forwardingConfig callReturn).toOption.getD
      (new forwardingConfig)
  have hload : (new forwardingConfig).loadProgram forwardingConfig callReturn = .ok vm₀ :=
    eq_ok_getD _ (by decide +kernel)
  have hstep : ∀ i < 3,
      (runAlone forwardingConfig (after (runAlone forwardingConfig) vm₀ i)).toOption.isSome =
        true := by
    decide +kernel
  have hstores : ∀ i < 3,
      (after (runAlone forwardingConfig) vm₀ i).toRv5sVm.arch.storeAddresses = [] := by
    decide +kernel
  refine ⟨after (runAlone forwardingConfig) vm₀, hload, by decide +kernel, {
    step := fun i hi => eq_ok_getD _ (hstep i hi)
    halted := by decide +kernel
    apart := fun i hi j _ a ha => by
      rw [hstores i hi] at ha
      cases ha }, ?_⟩
  rintro ⟨fuel, vm', hrun, -, -, -, hretired⟩
  have hfour : ((run forwardingConfig 20 vm₀).bind Except.toOption).map
      (fun vm => vm.instructionsRetired) = some 4#32 := by
    decide +kernel
  obtain ⟨vm'', hsome, hfour⟩ := Option.map_eq_some_iff.mp hfour
  obtain ⟨x, hx, hx'⟩ := Option.bind_eq_some_iff.mp hsome
  rw [run_unique hx hrun] at hx'
  cases hx'
  rw [hfour] at hretired
  exact absurd hretired (by decide)

/-- Without forwarding, `Run` of a fresh machine halts with the registers, the
memory and the program counter of the sequential reference and with as many
instructions retired. -/
theorem run_refines_without_forwarding {S : Nat → RV5SIDVM} (h : Sequential cfg n S)
    (h0 : (S 0).Fresh) (hoff : (S 0).forwardingEnabled = false) :
    ∃ fuel vm', run cfg fuel (S 0) = some (.ok vm') ∧
      (∀ i, vm'.registers.readGpr i = (S n).registers.readGpr i) ∧
      vm'.memoryController = (S n).memoryController ∧
      vm'.programCounter = (S n).programCounter ∧
      vm'.instructionsRetired = BitVec.ofNat 32 n := by
  obtain ⟨fuel, vm', hrun, harch, hretired⟩ := run_of_trace (h.trace h0) h0 rfl rfl
    fun vm _ hfwd hon => Bool.noConfusion ((hfwd.trans hoff).symm.trans hon)
  have hregs : vm'.registers = (S n).registers := congrArg ArchState.registers harch
  exact ⟨fuel, vm', hrun, fun i => by rw [hregs], congrArg ArchState.memory harch,
    congrArg ArchState.pc harch, hretired⟩

theorem run_refines_without_forwarding_callReturn :
    ∃ vm₀ : RV5SIDVM, (new {}).loadProgram {} callReturn = .ok vm₀ ∧
      ∃ fuel vm', run {} fuel vm₀ = some (.ok vm') ∧ vm'.registers.readGpr 1#5 = 4#64 ∧
        vm'.instructionsRetired = 3#32 := by
  let vm₀ : RV5SIDVM := ((new {}).loadProgram {} callReturn).toOption.getD (new {})
  have hload : (new {}).loadProgram {} callReturn = .ok vm₀ := eq_ok_getD _ (by decide +kernel)
  have hstep : ∀ i < 3, (runAlone {} (after (runAlone {}) vm₀ i)).toOption.isSome = true := by
    decide +kernel
  have hstores : ∀ i < 3, (after (runAlone {}) vm₀ i).toRv5sVm.arch.storeAddresses = [] := by
    decide +kernel
  have h : Sequential {} 3 (after (runAlone {}) vm₀) := {
    step := fun i hi => eq_ok_getD _ (hstep i hi)
    halted := by decide +kernel
    apart := fun i hi j _ a ha => by
      rw [hstores i hi] at ha
      cases ha }
  obtain ⟨fuel, vm', hrun, hregs, -, -, hretired⟩ :=
    run_refines_without_forwarding h (fresh_of_loadProgram hload) (by decide +kernel)
  refine ⟨vm₀, hload, fuel, vm', hrun, ?_, hretired⟩
  rw [hregs]
  decide +kernel

end RV5SIDVM

end RiscvSim

import RiscvSim.Vm.Rv5s.Equiv.Cycle

/-!
# The stages that decide branches in decode

Execute, decode and fetch of `RV5SIDVM` on one instruction of the abstract
machine.

* `decodeStage_eq`: decode stalls, or corrects the prediction that fetch made,
  so that the program counter is at the next instruction of the run.
* `exec_of_runAlone`: the stages on one instruction alone are the abstract step.

The branch target buffer is followed only where it has an entry, and it has
entries only for addresses of branches (`BranchTargetBuffer.Hits`).
-/

namespace RiscvSim

open RV5SControlUnit Lib

/-- The buffer has a target for `pc`. -/
def BranchTargetBuffer.Hits (btb : BranchTargetBuffer) (pc : BitVec 64) : Prop :=
  (btb.lookup pc).1 = true

theorem BranchTargetBuffer.not_hits_empty (pc : BitVec 64) : ¬BranchTargetBuffer.empty.Hits pc :=
  Bool.false_ne_true

/-- An update makes a hit at its own address only. -/
theorem BranchTargetBuffer.hits_update {btb : BranchTargetBuffer} {pc target a : BitVec 64} :
    (btb.update pc target).Hits a ↔ a = pc ∨ btb.Hits a := by
  unfold Hits lookup update
  by_cases h : a = pc
  · simp [h]
  · simp [h]

/-- Where the fetch went on after the word in the first latch. -/
def IfIdReg.predictedNext (l : IfIdReg) : BitVec 64 :=
  if l.predictedOutcome then l.predictedTarget else l.pcInc

namespace RV5SIDVM

variable {cfg : VmConfig} {s s' : ArchState} {w : BitVec 32} {vm : RV5SIDVM}

/-! ### Execute -/

theorem executeStage_of_bubble (h : vm.idExReg.isValid = false) :
    executeStage vm = .ok { vm with nextExMemReg := .bubble } := by
  unfold executeStage
  dsimp only
  rw [if_pos (by rw [h]; rfl)]

/-- Execute passes the instruction in the second latch on. -/
theorem executeStage_eq (h : IdExOk s w vm.idExReg)
    (hops : (getControlSignals w).isNop = false →
      OperandsOk s w vm.toRv5sVm.dataAluA vm.toRv5sVm.dataAluB)
    (hx : (getControlSignals w).isNop = false → ∃ x, s.alu w = .ok x) :
    ∃ l, executeStage vm = .ok { vm with nextExMemReg := l } ∧ ExMemOk s w l ∧
      CarriesWrite vm.idExReg.control vm.idExReg.rdIndex l.control l.rdIndex := by
  have hvalid : ¬(!vm.idExReg.isValid) = true := by rw [h.isValid]; decide
  cases hnop : (getControlSignals w).isNop with
  | true =>
    refine ⟨{ vm.nextExMemReg with
      control := vm.idExReg.control
      isValid := vm.idExReg.isValid }, ?_, exMemOk_of_isNop h hnop, rfl, ?_⟩
    · unfold executeStage
      dsimp only
      rw [if_neg hvalid, if_pos (by rw [h.control, hnop]; rfl)]
    · intro hw
      simp [h.control, signals_of_isNop hnop] at hw
  | false =>
    have hc := controlCase_getControlSignals hnop
    obtain ⟨x, hx⟩ := hx hnop
    -- the latch already holds the control signals when the ALU runs
    let vm₁ : RV5SIDVM := { vm with nextExMemReg := { vm.nextExMemReg with
      control := vm.idExReg.control
      isValid := vm.idExReg.isValid } }
    have h₁ : IdExOk s w vm₁.idExReg := h
    have hops₁ : OperandsOk s w vm₁.toRv5sVm.dataAluA vm₁.toRv5sVm.dataAluB := hops hnop
    refine ⟨(vm₁.toRv5sVm.latchExMem x).nextExMemReg, ?_, exMemOk_latchExMem h₁ hnop hops₁ hx,
      rfl, fun _ => rfl⟩
    unfold executeStage
    dsimp only
    rw [if_neg hvalid, if_neg (by rw [h.control, hnop, hc.isCsr_eq, hc.isSyscall_eq]; decide)]
    show (throwAt vm₁ vm₁.toRv5sVm.executionResult >>= fun x =>
      pure (vm₁.withBase (vm₁.toRv5sVm.latchExMem x))) = _
    rw [executionResult_eq h₁ hnop hops₁, hx, throwAt_ok, ok_bind]
    rfl

/-! ### Decode -/

/-- The branch decision of decode: afterwards the program counter is at the
next instruction. -/
theorem resolveBranch_eq (vm : RV5SIDVM) (hl : IdExOk s w vm.nextIdExReg)
    (hif : IfIdOk s w vm.ifIdReg) (hpc : vm.programCounter = vm.ifIdReg.predictedNext)
    (hpred : vm.ifIdReg.predictedOutcome = true → (getControlSignals w).branch = true)
    (hnop : (getControlSignals w).isNop = false)
    (hops : (getControlSignals w).branch = true → (getControlSignals w).branchOp ≠ .jal →
      (getControlSignals w).branchOp ≠ .none →
      vm.branchOperand vm.nextIdExReg.rs1Index vm.nextIdExReg.rs1Data = s.operandA w ∧
        vm.branchOperand vm.nextIdExReg.rs2Index vm.nextIdExReg.rs2Data = s.operandB w) :
    ∃ bp btb mis flush, resolveBranch vm (getControlSignals w) = { vm with
        branchPredictor := bp
        btb := btb
        branchMispredictions := mis
        flushPipeline := flush
        programCounter := s.next w } ∧
      (∀ a, btb.Hits a → vm.btb.Hits a ∨ a = s.pc ∧ (getControlSignals w).branch = true) := by
  have hn : vm.nextIdExReg.control.isNop = false := by rw [hl.control, hnop]
  unfold resolveBranch
  by_cases hb : (getControlSignals w).branch = true
  · rw [if_pos hb]
    have hnext := ArchState.next_of_branch (s := s) hb
    dsimp only
    generalize hv1 : vm.branchOperand vm.nextIdExReg.rs1Index vm.nextIdExReg.rs1Data = v1 at *
    generalize hv2 : vm.branchOperand vm.nextIdExReg.rs2Index vm.nextIdExReg.rs2Data = v2 at *
    have htaken : actualTaken (getControlSignals w).branchOp v1 v2 = s.taken w := by
      by_cases hj : (getControlSignals w).branchOp = .jal
      · rw [ArchState.taken, hj]
        rfl
      · by_cases h0 : (getControlSignals w).branchOp = .none
        · rw [ArchState.taken, h0]
          rfl
        · rw [(hops hb hj h0).1, (hops hb hj h0).2, ArchState.taken]
    have htarget : s.taken w = true →
        actualTarget (getControlSignals w).branchOp vm.ifIdReg.pc vm.nextIdExReg.immediate v1 v2 =
          s.target w := by
      intro ht
      rw [hif.pc, hl.immediate hn]
      by_cases hj : (getControlSignals w).branchOp = .jal
      · rw [ArchState.target, hj]
        rfl
      · have h0 : (getControlSignals w).branchOp ≠ .none := by
          intro h0
          rw [ArchState.taken, h0] at ht
          cases ht
        rw [(hops hb hj h0).1, (hops hb hj h0).2, ArchState.target]
    rw [htaken]
    have hhits : ∀ target a, (vm.btb.update vm.ifIdReg.pc target).Hits a →
        vm.btb.Hits a ∨ a = s.pc ∧ (getControlSignals w).branch = true := by
      intro target a ha
      rcases BranchTargetBuffer.hits_update.mp ha with rfl | ha
      · exact .inr ⟨hif.pc, hb⟩
      · exact .inl ha
    by_cases hcorrect : (vm.ifIdReg.predictedOutcome == s.taken w &&
        (if s.taken w then vm.ifIdReg.predictedTarget ==
          actualTarget (getControlSignals w).branchOp vm.ifIdReg.pc vm.nextIdExReg.immediate v1 v2
        else true)) = true
    · rw [if_pos hcorrect]
      rw [Bool.and_eq_true, beq_iff_eq] at hcorrect
      obtain ⟨hout, htgt⟩ := hcorrect
      have hsame : vm.programCounter = s.next w := by
        rw [hpc, hnext, IfIdReg.predictedNext, hout]
        by_cases ht : s.taken w = true
        · rw [if_pos ht, if_pos ht]
          rw [if_pos ht, beq_iff_eq] at htgt
          rw [htgt, htarget ht]
        · rw [if_neg ht, if_neg ht, hif.pcInc]
      rw [← hsame]
      exact ⟨_, _, _, _, rfl, hhits _⟩
    · rw [if_neg hcorrect]
      have hpc' : (if s.taken w then actualTarget (getControlSignals w).branchOp vm.ifIdReg.pc
          vm.nextIdExReg.immediate v1 v2 else vm.nextIdExReg.pcInc) = s.next w := by
        rw [hnext, hl.pcInc]
        by_cases ht : s.taken w = true
        · rw [if_pos ht, if_pos ht, htarget ht]
        · rw [if_neg ht, if_neg ht]
      rw [← hpc']
      exact ⟨_, _, _, _, rfl, hhits _⟩
  · rw [if_neg hb]
    have hout : vm.ifIdReg.predictedOutcome = false :=
      Bool.eq_false_iff.mpr fun h => hb (hpred h)
    have hsame : vm.programCounter = s.next w := by
      rw [hpc, IfIdReg.predictedNext, hout, if_neg Bool.false_ne_true, hif.pcInc,
        ArchState.next_of_not_branch (Bool.eq_false_iff.mpr hb)]
    rw [← hsame]
    exact ⟨_, _, _, _, rfl, fun a ha => .inl ha⟩

/-- Decode holds the word in the first latch back. -/
def Stalls (vm : RV5SIDVM) : Prop :=
  let control := getControlSignals vm.ifIdReg.instruction
  let rs1Index := rs1IndexOf vm.ifIdReg.instruction
  let rs2Index := rs2IndexOf vm.ifIdReg.instruction
  control.isNop = false ∧
    (vm.toRv5sVm.dataStall control rs1Index rs2Index ||
      vm.branchStall control rs1Index rs2Index) = true

theorem decodeStage_of_bubble (hf : vm.flushPipeline = false) (h : vm.ifIdReg.isValid = false) :
    decodeStage vm = { vm with nextIdExReg := .bubble } := by
  unfold decodeStage
  rw [if_neg (by rw [hf]; decide), if_pos (by rw [h]; rfl)]

theorem decodeStage_of_stalls (hf : vm.flushPipeline = false) (hv : vm.ifIdReg.isValid = true)
    (h : vm.Stalls) :
    decodeStage vm = { vm with stallRequest := true, nextIdExReg := .bubble } := by
  obtain ⟨hnop, hstall⟩ := h
  have hc := controlCase_getControlSignals hnop
  unfold decodeStage
  dsimp only
  rw [if_neg (by rw [hf]; decide), if_neg (by rw [hv]; decide), if_neg (by rw [hnop]; decide),
    if_neg fun h => hc.opcode_ne_system h.1, if_neg hc.opcode_ne_system]
  exact if_pos hstall

/-- The decode of the instruction in the first latch when nothing holds it back. -/
theorem decodeStage_eq (vm : RV5SIDVM) (hif : IfIdOk s w vm.ifIdReg)
    (hpc : vm.programCounter = vm.ifIdReg.predictedNext)
    (hpred : vm.ifIdReg.predictedOutcome = true → (getControlSignals w).branch = true)
    (hf : vm.flushPipeline = false) (hstall : ¬vm.Stalls)
    (hops : (getControlSignals w).branch = true → (getControlSignals w).branchOp ≠ .jal →
      (getControlSignals w).branchOp ≠ .none →
      vm.branchOperand (rs1IndexOf w) (vm.registers.readGpr (rs1IndexOf w)) = s.operandA w ∧
        vm.branchOperand (rs2IndexOf w) (vm.registers.readGpr (rs2IndexOf w)) = s.operandB w) :
    ∃ l bp btb mis flush, decodeStage vm = { vm with
        nextIdExReg := l
        branchPredictor := bp
        btb := btb
        branchMispredictions := mis
        flushPipeline := flush
        programCounter := s.next w } ∧
      IdExOk s w l ∧
      ((getControlSignals w).isNop = false → Latched vm.toRv5sVm w l) ∧
      (∀ a, btb.Hits a → vm.btb.Hits a ∨ a = s.pc ∧ (getControlSignals w).branch = true) := by
  have hvalid : ¬(!vm.ifIdReg.isValid) = true := by rw [hif.isValid]; decide
  cases hnop : (getControlSignals w).isNop with
  | true =>
    have hsignals := signals_of_isNop hnop
    have hsame : vm.programCounter = s.next w := by
      have hout : vm.ifIdReg.predictedOutcome = false := by
        refine Bool.eq_false_iff.mpr fun h => ?_
        exact Bool.noConfusion (hsignals.2.2.2.1.symm.trans (hpred h))
      rw [hpc, IfIdReg.predictedNext, hout, if_neg Bool.false_ne_true, hif.pcInc,
        ArchState.next_of_not_branch hsignals.2.2.2.1]
    have heq : decodeStage vm = { vm with
        nextIdExReg := vm.toRv5sVm.passedIdEx (getControlSignals w) } := by
      unfold decodeStage
      dsimp only
      rw [if_neg (by rw [hf]; decide), if_neg hvalid, hif.instruction, if_pos hnop]
    rw [heq, ← hsame]
    exact ⟨_, _, _, _, _, rfl, idExOk_passedIdEx hif hnop, fun h => Bool.noConfusion h,
      fun a ha => .inl ha⟩
  | false =>
    have hc := controlCase_getControlSignals hnop
    have hl : IdExOk s w (vm.toRv5sVm.decodedIdEx (getControlSignals w)) := idExOk_decodedIdEx hif
    have hn : (vm.toRv5sVm.decodedIdEx (getControlSignals w)).control.isNop = false := hnop
    have hno : (vm.toRv5sVm.dataStall (getControlSignals w) (rs1IndexOf w) (rs2IndexOf w) ||
        vm.branchStall (getControlSignals w) (rs1IndexOf w) (rs2IndexOf w)) = false := by
      refine Bool.eq_false_iff.mpr fun h => hstall ?_
      unfold Stalls
      rw [hif.instruction]
      exact ⟨hnop, h⟩
    have heq : decodeStage vm = resolveBranch { vm with
        nextIdExReg := vm.toRv5sVm.decodedIdEx (getControlSignals w) } (getControlSignals w) := by
      unfold decodeStage
      dsimp only
      rw [if_neg (by rw [hf]; decide), if_neg hvalid, hif.instruction,
        if_neg (by rw [hnop]; decide), if_neg fun h => hc.opcode_ne_system h.1,
        if_neg hc.opcode_ne_system, hl.rs1Index hn, hl.rs2Index hn, hno,
        if_neg Bool.false_ne_true]
    obtain ⟨bp, btb, mis, flush, hres, hhits⟩ := resolveBranch_eq { vm with
        nextIdExReg := vm.toRv5sVm.decodedIdEx (getControlSignals w) } hl hif hpc hpred hnop (by
      intro hb hj h0
      have hops := hops hb hj h0
      rw [← hif.instruction] at hops ⊢
      exact hops)
    refine ⟨_, bp, btb, mis, flush, heq.trans hres, hl, fun _ => ⟨rfl, rfl, ?_⟩, hhits⟩
    rw [hl.rs1Index hn, hl.rs2Index hn]
    exact (Bool.or_eq_false_iff.mp hno).1

/-! ### Memory and write-back -/

/-- The memory stage is that of the members both machines share. -/
theorem memoryStage_eq_ok {vm' : RV5SIDVM} :
    memoryStage cfg vm = .ok vm' ↔
      ∃ base, vm.toRv5sVm.memoryStage cfg = .ok base ∧ vm.withBase base = vm' := by
  unfold memoryStage
  rw [bind_pure_eq_ok]
  simp only [throwWith_eq_ok]

/-! ### Fetch -/

theorem fetchStage_of_flush (vm : RV5SIDVM) (h : vm.flushPipeline = true) :
    ∃ sc, fetchStage vm = .ok { vm with stallCycles := sc, nextIfIdReg := .bubble } := by
  unfold fetchStage
  rw [if_pos h]
  exact ⟨_, rfl⟩

/-- The fetch of a word: it follows the branch target buffer only on a hit. -/
theorem fetchStage_of_readWord (vm : RV5SIDVM) (hf : vm.flushPipeline = false)
    (hin : vm.programCounter < vm.programSize)
    (hr : vm.memoryController.readWord vm.programCounter = .ok w) :
    ∃ l, fetchStage vm = .ok { vm with
        programCounter := l.predictedNext
        nextIfIdReg := l } ∧
      IfIdOk vm.toRv5sVm.arch w l ∧
      (l.predictedOutcome = true → vm.btb.Hits vm.programCounter) := by
  unfold fetchStage
  rw [if_neg (by rw [hf]; decide), if_neg (BitVec.not_le.mpr hin), hr]
  rcases hlookup : vm.btb.lookup vm.programCounter with ⟨hit, target⟩
  dsimp only
  by_cases hfollow : (hit && vm.branchPredictor.getPrediction vm.programCounter) = true
  · rw [hfollow]
    refine ⟨{
        isValid := true
        instruction := w
        pc := vm.programCounter
        pcInc := vm.programCounter + 4#64
        predictedOutcome := true
        predictedTarget := target }, rfl, ⟨rfl, rfl, rfl, rfl⟩, fun _ => ?_⟩
    rw [Bool.and_eq_true] at hfollow
    rw [BranchTargetBuffer.Hits, hlookup]
    exact hfollow.1
  · rw [Bool.eq_false_iff.mpr hfollow]
    exact ⟨{
        isValid := true
        instruction := w
        pc := vm.programCounter
        pcInc := vm.programCounter + 4#64
        predictedOutcome := false
        predictedTarget := 0#64 }, rfl, ⟨rfl, rfl, rfl, rfl⟩, fun h => Bool.noConfusion h⟩

/-- A fetch that gives a valid latch has read the word at the program counter. -/
theorem readWord_of_fetchStage {vm' : RV5SIDVM} (hf : vm.flushPipeline = false)
    (h : fetchStage vm = .ok vm') (hv : vm'.nextIfIdReg.isValid = true) :
    vm.programCounter < vm.programSize ∧ vm.toRv5sVm.arch.fetch = .ok vm.toRv5sVm.arch.word := by
  unfold fetchStage at h
  rw [if_neg (by rw [hf]; decide)] at h
  by_cases hin : vm.programSize ≤ vm.programCounter
  · rw [if_pos hin] at h
    cases h
    cases hv
  · rw [if_neg hin] at h
    cases hr : vm.memoryController.readWord vm.programCounter with
    | ok w =>
      rw [show vm.toRv5sVm.arch.word = w from ArchState.word_of_fetch hr]
      exact ⟨BitVec.not_le.mp hin, hr⟩
    | error e =>
      rw [hr] at h
      cases e with
      | outOfRange a =>
        cases h
        cases hv
      | divideTrap | badIndex | exited | waiting => cases h

/-! ### One instruction at a time -/

/-- An execute stage that does not fail has a result of the ALU. -/
theorem alu_of_executeStage {vm' : RV5SIDVM} (h : IdExOk s w vm.idExReg)
    (hops : (getControlSignals w).isNop = false →
      OperandsOk s w vm.toRv5sVm.dataAluA vm.toRv5sVm.dataAluB)
    (he : executeStage vm = .ok vm') (hnop : (getControlSignals w).isNop = false) :
    ∃ x, s.alu w = .ok x := by
  have hc := controlCase_getControlSignals hnop
  unfold executeStage at he
  dsimp only at he
  rw [if_neg (by rw [h.isValid]; decide), if_neg (by
    rw [h.control, hnop, hc.isCsr_eq, hc.isSyscall_eq]; decide)] at he
  obtain ⟨x, hx, -⟩ := bind_eq_ok.mp he
  rw [throwAt_eq_ok] at hx
  exact ⟨x, (executionResult_eq h hnop (hops hnop)).symm.trans hx⟩

/-- Nothing holds back an instruction that is in the pipeline alone. -/
theorem not_stalls_of_alone (hid : vm.idExReg = .bubble) (hex : vm.exMemReg = .bubble) :
    ¬vm.Stalls := by
  rintro ⟨-, h⟩
  rw [Bool.or_eq_true] at h
  rcases h with h | h
  · rcases valid_of_dataStall (fun _ => hid) (fun _ => hex) h with hv | hv
    · rw [hid] at hv
      cases hv
    · rw [hex] at hv
      cases hv
  · simp [branchStall, hid, hex, IdExReg.bubble, ExMemReg.bubble] at h

/-- A branch that is in the pipeline alone compares the registers. -/
theorem branchOperand_of_alone (hex : vm.exMemReg = .bubble) (hwb : vm.memWbReg = .bubble)
    (i : BitVec 5) : vm.branchOperand i (vm.registers.readGpr i) = vm.registers.readGpr i := by
  unfold branchOperand getForwardedIdReg
  rw [hex, hwb]
  by_cases hi : i = 0#5
  · simp [hi]
  · simp [hi, ExMemReg.bubble, MemWbReg.bubble]

/-- The first part of `runAlone`: a word has been fetched. -/
theorem fetch_of_runAlone {vm' : RV5SIDVM} (h : runAlone cfg vm = .ok vm') :
    vm.programCounter < vm.programSize ∧ vm.toRv5sVm.arch.fetch = .ok vm.toRv5sVm.arch.word := by
  unfold runAlone at h
  obtain ⟨f, hfetch, h⟩ := bind_eq_ok.mp h
  dsimp only at h
  by_cases hv : f.nextIfIdReg.isValid = true
  · have hread := readWord_of_fetchStage rfl hfetch hv
    exact hread
  · rw [if_pos (by simpa using hv)] at h
    cases h

/-- The stages on one instruction alone execute it as the abstract machine does. -/
theorem exec_of_runAlone {vm' : RV5SIDVM} (he : vm.toRv5sVm.IsEmpty)
    (hbtb : vm.btb.Hits vm.programCounter →
      (getControlSignals vm.toRv5sVm.arch.word).branch = true)
    (h : runAlone cfg vm = .ok vm') :
    vm.toRv5sVm.arch.exec cfg vm.toRv5sVm.arch.word = .ok vm'.toRv5sVm.arch ∧
      vm'.programSize = vm.programSize ∧ vm'.toRv5sVm.IsEmpty ∧
      (∀ a, vm'.btb.Hits a → vm.btb.Hits a ∨
        a = vm.programCounter ∧ (getControlSignals vm.toRv5sVm.arch.word).branch = true) := by
  obtain ⟨hin, hfetch⟩ := fetch_of_runAlone h
  obtain ⟨l, hfetch', hif, hfollow⟩ := fetchStage_of_readWord
    { vm with stallRequest := false, flushPipeline := false } rfl hin hfetch
  unfold runAlone at h
  obtain ⟨f, hf, h⟩ := bind_eq_ok.mp h
  cases hf.symm.trans hfetch'
  dsimp only at h
  rw [if_neg (by rw [hif.isValid]; decide)] at h
  obtain ⟨l₁, bp, btb, mis, flush, hdecode, hid, hlatched, hhits⟩ := decodeStage_eq { vm with
      stallRequest := false
      flushPipeline := false
      programCounter := l.predictedNext
      nextIfIdReg := l
      ifIdReg := l } hif rfl (fun hp => hbtb (hfollow hp)) rfl
    (not_stalls_of_alone he.idEx he.exMem) fun _ _ _ =>
      ⟨branchOperand_of_alone he.exMem he.memWb _, branchOperand_of_alone he.exMem he.memWb _⟩
  rw [hdecode] at h
  obtain ⟨e, hexec, h⟩ := bind_eq_ok.mp h
  let e₀ : RV5SIDVM := { vm with
    stallRequest := false
    flushPipeline := false
    programCounter := vm.toRv5sVm.arch.next vm.toRv5sVm.arch.word
    branchMispredictions := mis
    branchPredictor := bp
    btb := btb
    nextIfIdReg := l
    ifIdReg := .bubble
    nextIdExReg := l₁
    idExReg := l₁ }
  have hid₀ : IdExOk vm.toRv5sVm.arch vm.toRv5sVm.arch.word e₀.idExReg := hid
  have hops : (getControlSignals vm.toRv5sVm.arch.word).isNop = false →
      OperandsOk vm.toRv5sVm.arch vm.toRv5sVm.arch.word e₀.toRv5sVm.dataAluA
        e₀.toRv5sVm.dataAluB := fun hnop =>
    have hn : l₁.control.isNop = false := by rw [hid.control, hnop]
    operandsOk_of_alone he.exMem he.memWb rfl (hid.rs1Index hn) (hid.rs2Index hn)
      (hlatched hnop).rs1Data (hlatched hnop).rs2Data
  obtain ⟨lx, heq, hex, _⟩ := executeStage_eq hid₀ hops (alu_of_executeStage hid₀ hops hexec)
  cases hexec.symm.trans heq
  obtain ⟨m, hmemory, h⟩ := bind_eq_ok.mp h
  obtain ⟨base, hbase, rfl⟩ := memoryStage_eq_ok.mp hmemory
  obtain ⟨s', hs'⟩ := exec_of_memoryStage hex rfl hbase
  obtain ⟨lw, heq', hwb⟩ := RiscvSim.memoryStage_eq { e₀.toRv5sVm with
    nextExMemReg := lx
    flushPipeline := false
    idExReg := .bubble
    exMemReg := lx } hex rfl hs'
  cases hbase.symm.trans heq'
  simp only [writeBackStage, Rv5sVm.writeBackStage, withBase, hwb.isValid, Bool.not_true,
    Bool.false_eq_true, if_false, pure_eq_ok] at h
  cases h
  refine ⟨hs'.trans (congrArg Except.ok ?_), rfl, ⟨rfl, rfl, rfl, rfl⟩, hhits⟩
  exact congrArg₂ (fun pc registers => ({ pc, registers, memory := s'.memory } : ArchState))
    (ArchState.pc_exec hs') hwb.writeBack.symm

end RV5SIDVM

end RiscvSim

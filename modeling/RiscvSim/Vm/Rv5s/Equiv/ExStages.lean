import RiscvSim.Vm.Rv5s.Equiv.Cycle

/-!
# The stages that decide branches in execute

Execute and decode of `RV5SEXVM` on one instruction of the abstract machine.
Decode predicts where the instruction leads, execute corrects the prediction
(`Redirects`); afterwards the fetch is where the abstract machine is.
-/

namespace RiscvSim

open RV5SControlUnit Lib

/-- A jump, which writes its return address. -/
def ControlSignals.IsJump (c : ControlSignals) : Prop :=
  c.branchOp = .jal ∨ c.branchOp = .jalr

namespace RV5SEXVM

variable {cfg : VmConfig} {s s' : ArchState} {w : BitVec 32} {vm : RV5SEXVM}

/-- The branch `w` of state `s` in the second latch will redirect the fetch: it
is a JALR, or it was predicted wrongly. -/
def Redirects (s : ArchState) (w : BitVec 32) (l : IdExReg) : Prop :=
  l.isValid = true ∧ (getControlSignals w).branch = true ∧
    ((getControlSignals w).branchOp = .jalr ∨ l.predictedOutcome ≠ s.taken w)

/-! ### Execute -/

/-- The shape of the branch decision: it touches the predictor, the count of
mispredictions and, when it redirects, the fetch. -/
theorem resolveBranch_shape {x : BitVec 64} {taken : Bool}
    (hout : branchOutcome vm.idExReg.control.branchOp x = taken)
    (hjalr : vm.idExReg.control.branchOp = .jalr → taken = true)
    (hflush : vm.flushPipeline = false) :
    ∃ bp mis flush pc, resolveBranch vm x = { vm with
        branchPredictor := bp
        branchMispredictions := mis
        flushPipeline := flush
        programCounter := pc } ∧
      (((vm.idExReg.control.branch = true ∧ (vm.idExReg.control.branchOp = .jalr ∨
          vm.idExReg.predictedOutcome ≠ taken)) ∧ flush = true ∧
        pc = if taken then branchTarget vm.idExReg.control.branchOp vm.idExReg.pc
          vm.idExReg.immediate x else vm.idExReg.pcInc) ∨
      (¬(vm.idExReg.control.branch = true ∧ (vm.idExReg.control.branchOp = .jalr ∨
          vm.idExReg.predictedOutcome ≠ taken)) ∧ flush = false ∧ pc = vm.programCounter)) := by
  unfold resolveBranch
  dsimp only
  rw [hout]
  by_cases hb : vm.idExReg.control.branch = true
  · by_cases hj : vm.idExReg.control.branchOp = .jalr
    · rw [if_pos hb, if_pos hj]
      exact ⟨_, _, _, _, rfl, .inl ⟨⟨hb, .inl hj⟩, rfl, by rw [hjalr hj, if_pos rfl]⟩⟩
    · by_cases hp : vm.idExReg.predictedOutcome = taken
      · rw [if_pos hb, if_neg hj, if_neg (not_not.mpr hp)]
        refine ⟨_, _, _, _, rfl, .inr ⟨?_, hflush, rfl⟩⟩
        rintro ⟨_, h | h⟩
        · exact hj h
        · exact h hp
      · rw [if_pos hb, if_neg hj, if_pos hp]
        exact ⟨_, _, _, _, rfl, .inl ⟨⟨hb, .inr hp⟩, rfl, rfl⟩⟩
  · rw [if_neg hb]
    exact ⟨_, _, _, _, rfl, .inr ⟨fun h => hb h.1, hflush, rfl⟩⟩

/-- The branch decision of execute, in terms of the abstract machine. -/
theorem resolveBranch_eq {x : BitVec 64}
    (h : IdExOk s w vm.idExReg) (hnop : (getControlSignals w).isNop = false)
    (hx : s.alu w = .ok x) (hflush : vm.flushPipeline = false) :
    ∃ bp mis flush pc, resolveBranch vm x = { vm with
        branchPredictor := bp
        branchMispredictions := mis
        flushPipeline := flush
        programCounter := pc } ∧
      ((Redirects s w vm.idExReg ∧ flush = true ∧ pc = s.next w) ∨
        (¬Redirects s w vm.idExReg ∧ flush = false ∧ pc = vm.programCounter)) := by
  have hc := controlCase_getControlSignals hnop
  have hn : vm.idExReg.control.isNop = false := by rw [h.control, hnop]
  have hredirects : Redirects s w vm.idExReg ↔
      vm.idExReg.control.branch = true ∧ (vm.idExReg.control.branchOp = .jalr ∨
        vm.idExReg.predictedOutcome ≠ s.taken w) := by
    rw [h.control]
    exact and_iff_right h.isValid
  by_cases hb : (getControlSignals w).branch = true
  · have hjalr : vm.idExReg.control.branchOp = .jalr → s.taken w = true := by
      intro hj
      rw [h.control] at hj
      rw [ArchState.taken, hj]
      rfl
    have hout : branchOutcome vm.idExReg.control.branchOp x = s.taken w := by
      rw [h.control]
      exact hc.branchOutcome_eq hb hx
    obtain ⟨bp, mis, flush, pc, heq, hcases⟩ := resolveBranch_shape hout hjalr hflush
    refine ⟨bp, mis, flush, pc, heq, ?_⟩
    rw [hredirects]
    refine hcases.imp_left fun ⟨hr, hf, hpc⟩ => ⟨hr, hf, ?_⟩
    rw [hpc, ArchState.next_of_branch hb, h.control, h.pc, h.pcInc,
      h.immediate hn]
    by_cases ht : s.taken w = true
    · rw [if_pos ht, if_pos ht]
      exact hc.branchTarget_eq hb hx ht
    · rw [if_neg ht, if_neg ht]
  · refine ⟨vm.branchPredictor, vm.branchMispredictions, false, vm.programCounter, ?_,
      .inr ⟨fun hr => hb hr.2.1, rfl, rfl⟩⟩
    unfold resolveBranch
    dsimp only
    rw [h.control, if_neg hb, ← hflush]

theorem executeStage_of_bubble (h : vm.idExReg.isValid = false) :
    executeStage vm = .ok { vm with nextExMemReg := .bubble } := by
  unfold executeStage
  dsimp only
  rw [if_pos (by rw [h]; rfl)]

/-- Execute passes the instruction in the second latch on and, when its branch
redirects, moves the program counter to the next instruction. -/
theorem executeStage_eq (h : IdExOk s w vm.idExReg)
    (hops : (getControlSignals w).isNop = false → OperandsOk s w vm.dataAluA vm.dataAluB)
    (hx : (getControlSignals w).isNop = false → ∃ x, s.alu w = .ok x)
    (hflush : vm.flushPipeline = false) :
    ∃ l bp mis flush pc, executeStage vm = .ok { vm with
        nextExMemReg := l
        branchPredictor := bp
        branchMispredictions := mis
        flushPipeline := flush
        programCounter := pc } ∧
      ExMemOk s w l ∧
      CarriesWrite vm.idExReg.control vm.idExReg.rdIndex l.control l.rdIndex ∧
      ((Redirects s w vm.idExReg ∧ flush = true ∧ pc = s.next w) ∨
        (¬Redirects s w vm.idExReg ∧ flush = false ∧ pc = vm.programCounter)) := by
  have hvalid : ¬(!vm.idExReg.isValid) = true := by rw [h.isValid]; decide
  cases hnop : (getControlSignals w).isNop with
  | true =>
    refine ⟨{ vm.nextExMemReg with
        control := vm.idExReg.control
        isValid := vm.idExReg.isValid }, vm.branchPredictor, vm.branchMispredictions,
      vm.flushPipeline, vm.programCounter, ?_, exMemOk_of_isNop h hnop, ⟨rfl, fun hw => ?_⟩,
      .inr ⟨fun hr => ?_, hflush, rfl⟩⟩
    · unfold executeStage
      dsimp only
      rw [if_neg hvalid, if_pos (by rw [h.control, hnop]; rfl)]
    · simp [h.control, signals_of_isNop hnop] at hw
    · simpa [signals_of_isNop hnop] using hr.2.1
  | false =>
    have hc := controlCase_getControlSignals hnop
    obtain ⟨x, hx⟩ := hx hnop
    -- the latch already holds the control signals when the ALU runs
    let vm₁ : RV5SEXVM := { vm with nextExMemReg := { vm.nextExMemReg with
      control := vm.idExReg.control
      isValid := vm.idExReg.isValid } }
    have h₁ : IdExOk s w vm₁.idExReg := h
    have hops₁ : OperandsOk s w vm₁.dataAluA vm₁.dataAluB := hops hnop
    obtain ⟨bp, mis, flush, pc, heq, hcases⟩ := resolveBranch_eq h₁ hnop hx hflush
    refine ⟨(vm₁.latchExMem x).nextExMemReg, bp, mis, flush, pc, ?_,
      exMemOk_latchExMem h₁ hnop hops₁ hx, ⟨rfl, fun _ => rfl⟩, hcases⟩
    unfold executeStage
    dsimp only
    rw [if_neg hvalid, if_neg (by rw [h.control, hnop, hc.isCsr_eq, hc.isSyscall_eq]; decide)]
    change (throwAt vm₁ vm₁.executionResult >>= fun x =>
      pure ((resolveBranch vm₁ x).latchExMem x)) = _
    rw [executionResult_eq h₁ hnop hops₁, hx, throwAt_ok, ok_bind, pure_eq_ok, heq]
    rfl

/-- An execute stage that fails does so with the fault of the ALU. -/
theorem executeStage_error (h : IdExOk s w vm.idExReg)
    (hops : (getControlSignals w).isNop = false → OperandsOk s w vm.dataAluA vm.dataAluB)
    {e : Fault} (hnop : (getControlSignals w).isNop = false) (hx : s.alu w = .error e) :
    ∃ t, executeStage vm = .error (e, t) := by
  have hc := controlCase_getControlSignals hnop
  have hresult : vm.executionResult = .error e :=
    (executionResult_eq h hnop (hops hnop)).trans hx
  refine ⟨{ vm with nextExMemReg := { vm.nextExMemReg with
    control := vm.idExReg.control
    isValid := vm.idExReg.isValid } }, ?_⟩
  unfold executeStage
  dsimp only
  rw [if_neg (by rw [h.isValid]; decide), if_neg (by
    rw [h.control, hnop, hc.isCsr_eq, hc.isSyscall_eq]; decide)]
  show (throwAt _ vm.executionResult >>= _) = _
  rw [hresult]
  rfl

/-! ### Decode -/

theorem decodeStage_of_flush (h : vm.flushPipeline = true) :
    ∃ sc, decodeStage vm = { vm with stallCycles := sc, nextIdExReg := .bubble } := by
  unfold decodeStage
  rw [if_pos h]
  exact ⟨_, rfl⟩

theorem decodeStage_of_bubble (hf : vm.flushPipeline = false) (h : vm.ifIdReg.isValid = false) :
    decodeStage vm = { vm with nextIdExReg := .bubble } := by
  unfold decodeStage
  rw [if_neg (by rw [hf]; decide), if_pos (by rw [h]; rfl)]

/-- The prediction of decode: after it the fetch is at the next instruction of
the run, or the branch will redirect it. -/
theorem predictBranch_eq (vm : RV5SEXVM) (hl : IdExOk s w vm.nextIdExReg)
    (hif : IfIdOk s w vm.ifIdReg) (hpc : vm.programCounter = s.pc + 4#64)
    (hnop : (getControlSignals w).isNop = false) :
    ∃ po pc flush, predictBranch vm (getControlSignals w) = { vm with
        nextIdExReg := { vm.nextIdExReg with predictedOutcome := po }
        programCounter := pc
        flushPipeline := flush } ∧
      ((getControlSignals w).IsJump → flush = true) ∧
      (Redirects s w { vm.nextIdExReg with predictedOutcome := po } ∨
        pc = s.next w) := by
  have hc := controlCase_getControlSignals hnop
  have hn : vm.nextIdExReg.control.isNop = false := by rw [hl.control, hnop]
  have htarget : vm.ifIdReg.pc + offset64 vm.nextIdExReg.immediate =
      s.pc + offset64 (immGenerator w) := by rw [hif.pc, hl.immediate hn]
  unfold predictBranch
  by_cases hj : (getControlSignals w).branchOp = .jal ∨ (getControlSignals w).branchOp = .jalr
  · have hb := hc.branch_of_jump hj
    rw [if_pos hj]
    refine ⟨true, _, true, rfl, fun _ => rfl, ?_⟩
    rcases hj with hjal | hjalr
    · refine .inr ?_
      rw [ArchState.next_of_branch hb, if_pos hjal]
      simp only [ArchState.taken, ArchState.target, hjal, RV5SIDVM.actualTaken,
        RV5SIDVM.actualTarget, if_true]
      exact htarget
    · exact .inl ⟨hl.isValid, hb, .inl hjalr⟩
  · rw [if_neg hj]
    by_cases hb : (getControlSignals w).branch = true
    · rw [if_pos hb]
      have hnext := ArchState.next_of_branch (s := s) hb
      by_cases hpred : vm.branchPredictor.getPrediction vm.ifIdReg.pc = true
      · dsimp only
        rw [if_pos hpred]
        refine ⟨_, _, true, rfl, fun _ => rfl, ?_⟩
        by_cases ht : s.taken w = true
        · refine .inr ?_
          rw [hnext, if_pos ht, htarget]
          exact (ArchState.target_of_taken ht hj).symm
        · exact .inl ⟨hl.isValid, hb, .inr (by simp only [hpred]; exact fun h => ht h.symm)⟩
      · dsimp only
        rw [if_neg hpred]
        refine ⟨_, vm.programCounter, vm.flushPipeline, rfl, fun h => absurd h hj, ?_⟩
        by_cases ht : s.taken w = true
        · exact .inl ⟨hl.isValid, hb, .inr (by simp only [ht]; exact hpred)⟩
        · exact .inr (by rw [hnext, if_neg ht, hpc])
    · rw [if_neg hb]
      refine ⟨vm.nextIdExReg.predictedOutcome, vm.programCounter, vm.flushPipeline, rfl,
        fun h => absurd h hj, .inr ?_⟩
      rw [ArchState.next_of_not_branch (Bool.eq_false_iff.mpr hb), hpc]

/-- The decode of the instruction in the first latch: a stall, or the latch
for execute and a prediction. -/
theorem decodeStage_eq (vm : RV5SEXVM) (hif : IfIdOk s w vm.ifIdReg) (hpc : vm.programCounter = s.pc + 4#64)
    (hf : vm.flushPipeline = false) :
    ((getControlSignals w).isNop = false ∧
      vm.dataStall (getControlSignals w) (rs1IndexOf w) (rs2IndexOf w) = true ∧
      decodeStage vm = { vm with stallRequest := true, nextIdExReg := .bubble }) ∨
    ∃ l pc flush, decodeStage vm = { vm with
        nextIdExReg := l
        programCounter := pc
        flushPipeline := flush } ∧
      IdExOk s w l ∧
      ((getControlSignals w).isNop = false → Latched vm w l) ∧
      ((getControlSignals w).IsJump → flush = true) ∧
      (Redirects s w l ∨ pc = s.next w) := by
  have hvalid : ¬(!vm.ifIdReg.isValid) = true := by rw [hif.isValid]; decide
  cases hnop : (getControlSignals w).isNop with
  | true =>
    have hsignals := signals_of_isNop hnop
    refine .inr ⟨vm.passedIdEx (getControlSignals w), vm.programCounter, vm.flushPipeline, ?_,
      idExOk_passedIdEx hif hnop, fun h => Bool.noConfusion h, fun h => ?_, .inr ?_⟩
    · unfold decodeStage
      dsimp only
      rw [if_neg (by rw [hf]; decide), if_neg hvalid, hif.instruction, if_pos hnop]
    · unfold ControlSignals.IsJump at h
      simp [hsignals] at h
    · rw [ArchState.next_of_not_branch hsignals.2.2.2.1, hpc]
  | false =>
    have hc := controlCase_getControlSignals hnop
    let vm₁ : RV5SEXVM := { vm with nextIdExReg := vm.decodedIdEx (getControlSignals w) }
    have hl : IdExOk s w vm₁.nextIdExReg := idExOk_decodedIdEx hif
    have hdecode : decodeStage vm =
        if vm.dataStall (getControlSignals w) vm₁.nextIdExReg.rs1Index
          vm₁.nextIdExReg.rs2Index then
          { vm with stallRequest := true, nextIdExReg := .bubble }
        else predictBranch vm₁ (getControlSignals w) := by
      unfold decodeStage
      dsimp only
      rw [if_neg (by rw [hf]; decide), if_neg hvalid, hif.instruction,
        if_neg (by rw [hnop]; decide), if_neg fun h => hc.opcode_ne_system h.1,
        if_neg hc.opcode_ne_system]
    by_cases hstall : vm.dataStall (getControlSignals w) vm₁.nextIdExReg.rs1Index
        vm₁.nextIdExReg.rs2Index = true
    · refine .inl ⟨rfl, ?_, by rw [hdecode, if_pos hstall]⟩
      rwa [hl.rs1Index hnop, hl.rs2Index hnop] at hstall
    · obtain ⟨po, pc, flush, heq, hjump, hnext⟩ :=
        predictBranch_eq vm₁ hl hif hpc hnop
      refine .inr ⟨_, pc, flush, by rw [hdecode, if_neg hstall, heq], ?_, fun _ => ?_, hjump,
        hnext⟩
      · exact ⟨hl.isValid, hl.control, hl.pc, hl.pcInc, hl.immediate, hl.rs1Index, hl.rs2Index,
          hl.rdIndex⟩
      · exact ⟨rfl, rfl, Bool.eq_false_iff.mpr hstall⟩

/-! ### One instruction at a time -/

/-- An instruction that completes alone has been fetched from the program counter. -/
theorem fetched_of_runAlone {vm' : RV5SEXVM} (h : runAlone cfg vm = .ok vm') :
    ∃ w, (Rv5sVm.arch vm).fetch = .ok w ∧ vm.programCounter < vm.programSize ∧
      passAlone cfg (vm.fetched w) = .ok vm' := by
  unfold runAlone fetchStage at h
  dsimp only at h
  rw [if_neg (by decide)] at h
  by_cases hin : vm.programSize ≤ vm.programCounter
  · rw [if_pos hin] at h
    cases h
  · rw [if_neg hin] at h
    cases hr : vm.memoryController.readWord vm.programCounter with
    | ok w =>
      rw [hr] at h
      exact ⟨w, hr, BitVec.not_le.mp hin, h⟩
    | error e =>
      rw [hr] at h
      cases e <;> cases h

theorem ifIdOk_fetched (vm : RV5SEXVM) (w : BitVec 32) :
    IfIdOk (Rv5sVm.arch vm) w (vm.fetched w).ifIdReg :=
  ⟨rfl, rfl, rfl, rfl⟩

/-- The machine when the decoded instruction, alone in the pipeline, is in the second latch. -/
def decodedAlone (vm : RV5SEXVM) (w : BitVec 32) (l : IdExReg) (pc : BitVec 64) : RV5SEXVM :=
  { vm.fetched w with
    programCounter := pc
    ifIdReg := .bubble
    nextIdExReg := l
    idExReg := l }

/-- The stages after decode on one instruction alone. -/
def finishAlone (cfg : VmConfig) (vm : RV5SEXVM) : Except (Fault × RV5SEXVM) RV5SEXVM := do
  let vm ← executeStage vm
  let vm : RV5SEXVM := { vm with
    idExReg := .bubble
    exMemReg := vm.nextExMemReg
    flushPipeline := false }
  let vm ← memoryStage cfg vm
  let vm : RV5SEXVM := { vm with exMemReg := .bubble, memWbReg := vm.nextMemWbReg }
  let vm := writeBackStage vm
  pure { vm with memWbReg := .bubble }

/-- Nothing is ahead of the instruction: decode does not stall. -/
theorem passAlone_eq_finishAlone (cfg : VmConfig) (he : vm.IsEmpty) (w : BitVec 32) :
    ∃ l pc, passAlone cfg (vm.fetched w) = finishAlone cfg (vm.decodedAlone w l pc) ∧
      IdExOk (Rv5sVm.arch vm) w l ∧
      ((getControlSignals w).isNop = false → Latched vm w l) ∧
      (Redirects (Rv5sVm.arch vm) w l ∨ pc = (Rv5sVm.arch vm).next w) := by
  rcases decodeStage_eq (vm.fetched w) (ifIdOk_fetched vm w) rfl rfl with
    ⟨_, hstall, _⟩ | ⟨l, pc, flush, hdecode, hid, hlatched, _, hnext⟩
  · rcases valid_of_dataStall (fun _ => he.idEx) (fun _ => he.exMem) hstall with hv | hv
    · exact Bool.noConfusion ((congrArg IdExReg.isValid he.idEx).symm.trans hv)
    · exact Bool.noConfusion ((congrArg ExMemReg.isValid he.exMem).symm.trans hv)
  · refine ⟨l, pc, ?_, hid, fun hnop => ?_, hnext⟩
    · unfold passAlone
      rw [hdecode]
      rfl
    · exact ⟨(hlatched hnop).rs1Data, (hlatched hnop).rs2Data, (hlatched hnop).noStall⟩

/-- **A word alone in the pipeline** is executed as the abstract machine does:
the stages complete where it does, and fail with its fault. -/
theorem passAlone_eq (cfg : VmConfig) (he : vm.IsEmpty) (w : BitVec 32) :
    (∃ vm', passAlone cfg (vm.fetched w) = .ok vm' ∧
      (Rv5sVm.arch vm).exec cfg w = .ok (Rv5sVm.arch vm') ∧
      vm'.programSize = vm.programSize ∧ Rv5sVm.IsEmpty vm') ∨
    ∃ e, passAlone cfg (vm.fetched w) = .error e ∧
      (Rv5sVm.arch vm).exec cfg w = .error e.1 := by
  obtain ⟨l, pc, heq, hid, hlatched, hnext⟩ := passAlone_eq_finishAlone cfg he w
  rw [heq]
  let e₀ : RV5SEXVM := vm.decodedAlone w l pc
  have hid₀ : IdExOk (Rv5sVm.arch vm) w e₀.idExReg := hid
  have hops : (getControlSignals w).isNop = false →
      OperandsOk (Rv5sVm.arch vm) w e₀.dataAluA e₀.dataAluB := fun hnop =>
    have hn : l.control.isNop = false := by rw [hid.control, hnop]
    operandsOk_of_alone he.exMem he.memWb rfl (hid.rs1Index hn) (hid.rs2Index hn)
      (hlatched hnop).rs1Data (hlatched hnop).rs2Data
  by_cases hx : (getControlSignals w).isNop = false → ∃ x, (Rv5sVm.arch vm).alu w = .ok x
  · obtain ⟨lx, bp, mis, flush, pc', hexecute, hex, _, hcases⟩ :=
      executeStage_eq hid₀ hops hx rfl
    let m₀ : RV5SEXVM := { e₀ with
      nextExMemReg := lx
      branchPredictor := bp
      branchMispredictions := mis
      flushPipeline := false
      programCounter := pc'
      idExReg := .bubble
      exMemReg := lx }
    have hfinish : finishAlone cfg e₀ = (do
        let vm ← memoryStage cfg m₀
        let vm := writeBackStage { vm with exMemReg := .bubble, memWbReg := vm.nextMemWbReg }
        pure { vm with memWbReg := .bubble }) := by
      unfold finishAlone
      rw [hexecute]
      rfl
    rw [hfinish]
    have hex₀ : ExMemOk (Rv5sVm.arch vm) w m₀.exMemReg := hex
    cases hmemory : memoryStage cfg m₀ with
    | error e => exact .inr ⟨e, rfl, exec_of_memoryStage_error hex₀ rfl hmemory⟩
    | ok m =>
      obtain ⟨s', hs'⟩ := exec_of_memoryStage hex₀ rfl hmemory
      obtain ⟨lw, hm, hwb⟩ := memoryStage_eq m₀ hex₀ rfl hs'
      cases hmemory.symm.trans hm
      have hpc : pc' = s'.pc := by
        rw [ArchState.pc_exec hs']
        rcases hcases with ⟨_, _, hpc⟩ | ⟨hr, _, hpc⟩
        · exact hpc
        · exact hpc.trans (hnext.resolve_left hr)
      refine .inl ⟨_, rfl, ?_⟩
      simp only [writeBackStage, Rv5sVm.writeBackStage, hwb.isValid, Bool.not_true,
        Bool.false_eq_true, if_false]
      refine ⟨hs'.trans (congrArg Except.ok ?_), rfl, ⟨rfl, rfl, rfl, rfl⟩⟩
      exact congrArg₂ (fun pc registers => ({ pc, registers, memory := s'.memory } : ArchState))
        hpc.symm hwb.writeBack.symm
  · obtain ⟨hnop, hx⟩ := Classical.not_imp.mp hx
    cases halu : (Rv5sVm.arch vm).alu w with
    | ok x => exact absurd ⟨x, halu⟩ hx
    | error e =>
      obtain ⟨t, hexecute⟩ := executeStage_error hid₀ hops hnop halu
      refine .inr ⟨(e, t), ?_, ArchState.exec_of_alu_error hnop halu⟩
      unfold finishAlone
      rw [hexecute]
      rfl

/-- The stages on one instruction alone execute it as the abstract machine does. -/
theorem exec_of_runAlone {vm' : RV5SEXVM} (he : vm.IsEmpty) (h : runAlone cfg vm = .ok vm') :
    (Rv5sVm.arch vm).fetch = .ok (Rv5sVm.arch vm).word ∧
      (Rv5sVm.arch vm).exec cfg (Rv5sVm.arch vm).word = .ok (Rv5sVm.arch vm') ∧
      vm.programCounter < vm.programSize ∧ vm'.programSize = vm.programSize ∧
      Rv5sVm.IsEmpty vm' := by
  obtain ⟨w, hw, hlt, hpass⟩ := fetched_of_runAlone h
  rw [show (Rv5sVm.arch vm).word = w from ArchState.word_of_fetch hw]
  rcases passAlone_eq cfg he w with ⟨vm'', hpass', hexec, hsize, hempty⟩ | ⟨e, herr, _⟩
  · obtain rfl := Except.ok.inj (hpass'.symm.trans hpass)
    exact ⟨hw, hexec, hlt, hsize, hempty⟩
  · cases herr.symm.trans hpass

end RV5SEXVM

end RiscvSim

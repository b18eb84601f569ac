import RiscvSim.Vm.Rv5s.Equiv.ExStages

/-!
# Refinement by the machine that decides branches in execute

`run_refines`: a run of the abstract machine that halts after `n` instructions
is what `RV5SEXVM.run` computes, with either hazard mode and any predictor.

The invariant `ExInv` adds to the back end what decode and fetch have done: the
operands latched for execute are ready (`OperandReady`), a jump is followed by
a bubble, and the fetch is on the right path (`RightPath`) unless the branch in
execute is about to redirect it (`Redirects`).
-/

namespace RiscvSim

open RV5SControlUnit RV5SHazardUnit Lib

namespace RV5SEXVM

variable {cfg : VmConfig} {size : BitVec 64} {n : Nat} {A : Nat → ArchState}
  {W : Nat → BitVec 32} {r p q : Nat} {vm : RV5SEXVM}

/-- The fetch is on the path of the run: the first latch holds instruction `p`
and the program counter is after it, or it is a bubble and the program counter
is at instruction `p`. -/
def RightPath (n : Nat) (A : Nat → ArchState) (W : Nat → BitVec 32) (p : Nat)
    (l : IfIdReg) (pc : BitVec 64) : Prop :=
  (l.isValid = true → p < n ∧ IfIdOk (A p) (W p) l ∧ pc = (A p).pc + 4#64) ∧
  (l.isValid = false → pc = (A p).pc)

/-- Execute on the second latch, which holds instruction `p` or is a bubble. -/
theorem executeStage_of_holds (vm : RV5SEXVM) (t : Trace cfg size n A W) (hid : HoldsIdEx A W p vm.idExReg)
    (hp : p + vm.idExReg.isValid.toNat ≤ n)
    (hops : vm.idExReg.isValid = true → (getControlSignals (W p)).isNop = false →
      OperandsOk (A p) (W p) vm.dataAluA vm.dataAluB)
    (hflush : vm.flushPipeline = false) :
    ∃ l bp mis flush pc, executeStage vm = .ok { vm with
        nextExMemReg := l
        branchPredictor := bp
        branchMispredictions := mis
        flushPipeline := flush
        programCounter := pc } ∧
      HoldsExMem A W p l ∧ l.isValid = vm.idExReg.isValid ∧
      CarriesWrite vm.idExReg.control vm.idExReg.rdIndex l.control l.rdIndex ∧
      ((Redirects (A p) (W p) vm.idExReg ∧ flush = true ∧ pc = (A (p + 1)).pc) ∨
        (¬Redirects (A p) (W p) vm.idExReg ∧ flush = false ∧ pc = vm.programCounter)) := by
  cases hv : vm.idExReg.isValid with
  | false =>
    refine ⟨.bubble, vm.branchPredictor, vm.branchMispredictions, vm.flushPipeline,
      vm.programCounter, executeStage_of_bubble hv, holdsExMem_bubble, rfl, ?_,
      .inr ⟨fun h => Bool.noConfusion (hv.symm.trans h.1), hflush, rfl⟩⟩
    rw [hid.2 hv]
    exact ⟨rfl, fun _ => rfl⟩
  | true =>
    rw [hv, Bool.toNat_true] at hp
    obtain ⟨l, bp, mis, flush, pc, heq, hok, hw, hcases⟩ :=
      executeStage_eq (hid.1 hv) (hops hv) (ArchState.alu_of_exec (t.exec p hp)) hflush
    rw [← ArchState.pc_exec (t.exec p hp)] at hcases
    exact ⟨l, bp, mis, flush, pc, heq, .of_ok hok, hok.isValid, hw, hcases⟩

/-! ### Fetch -/

theorem fetchStage_of_flush (vm : RV5SEXVM) (h : vm.flushPipeline = true) :
    ∃ sc, fetchStage vm = .ok { vm with stallCycles := sc, nextIfIdReg := .bubble } := by
  unfold fetchStage
  rw [if_pos h]
  exact ⟨_, rfl⟩

/-- A fetch on the right path stays on it. -/
theorem fetchStage_of_rightPath (vm : RV5SEXVM) (t : Trace cfg size n A W) (hpq : p ≤ q) (hq : q ≤ n)
    (hmem : vm.memoryController = (A p).memory) (hsize : vm.programSize = size)
    (hpc : vm.programCounter = (A q).pc) (hf : vm.flushPipeline = false) :
    ∃ l pc, fetchStage vm = .ok { vm with nextIfIdReg := l, programCounter := pc } ∧
      RightPath n A W q l pc ∧ (l.isValid = false → q = n) := by
  unfold fetchStage
  rw [if_neg (by rw [hf]; decide)]
  by_cases hin : vm.programSize ≤ vm.programCounter
  · rw [if_pos hin]
    rw [hsize, hpc] at hin
    exact ⟨.bubble, vm.programCounter, rfl, ⟨fun h => Bool.noConfusion h, fun _ => hpc⟩,
      fun _ => t.eq_of_halted hq hin⟩
  · have hlt : q < n := by
      rcases Nat.lt_or_eq_of_le hq with hlt | rfl
      · exact hlt
      · rw [hsize, hpc] at hin
        exact absurd t.halted hin
    have hread : vm.memoryController.readWord vm.programCounter = .ok (W q) := by
      rw [hmem, hpc, t.path.fetch_early hpq hlt]
    rw [if_neg hin, hread]
    exact ⟨_, _, rfl, ⟨fun _ => ⟨hlt, ⟨rfl, rfl, hpc, by rw [hpc]⟩, by rw [hpc]⟩,
      fun h => Bool.noConfusion h⟩, fun h => Bool.noConfusion h⟩

/-- A fetch from anywhere in a reachable memory does not fail. -/
theorem fetchStage_of_reachable (vm : RV5SEXVM) (hmem : vm.memoryController.Reachable cfg)
    (hbs : vm.memoryController.blockSize ≠ 0#32) (hf : vm.flushPipeline = false) :
    ∃ l pc, fetchStage vm = .ok { vm with nextIfIdReg := l, programCounter := pc } := by
  unfold fetchStage
  rw [if_neg (by rw [hf]; decide)]
  by_cases hin : vm.programSize ≤ vm.programCounter
  · rw [if_pos hin]
    exact ⟨_, vm.programCounter, rfl⟩
  · rw [if_neg hin]
    rcases Memory.readWord_of_reachable hmem hbs vm.programCounter with
      ⟨x, hx⟩ | ⟨e, hx, b, rfl⟩
    · rw [hx]
      exact ⟨_, _, rfl⟩
    · rw [hx]
      exact ⟨_, _, rfl⟩

/-! ### The front end of a cycle -/

/-- Decode, and fetch unless decode stalls. -/
def frontEnd (vm : RV5SEXVM) : Except (Fault × RV5SEXVM) RV5SEXVM :=
  let vm := decodeStage vm
  if vm.stallRequest then .ok vm else fetchStage vm

/-- The first latch in the next cycle. -/
def nextIfId (vm : RV5SEXVM) : IfIdReg :=
  if vm.stallRequest then vm.ifIdReg else vm.nextIfIdReg

/-- What the front end of a cycle leaves for the next one, in which instruction
`p` or a bubble goes to execute. -/
structure FrontEndOk (n : Nat) (A : Nat → ArchState) (W : Nat → BitVec 32) (p : Nat)
    (vm vm' : RV5SEXVM) : Prop where
  idEx : HoldsIdEx A W p vm'.nextIdExReg
  bound : p + vm'.nextIdExReg.isValid.toNat ≤ n
  latched : vm'.nextIdExReg.isValid = true → (getControlSignals (W p)).isNop = false →
    Latched vm (W p) vm'.nextIdExReg
  decoded : vm'.nextIdExReg.isValid = true → vm.ifIdReg.isValid = true
  jumpGap : vm'.nextIdExReg.isValid = true → vm'.nextIdExReg.control.IsJump →
    (nextIfId vm').isValid = false
  front : Redirects (A p) (W p) vm'.nextIdExReg ∨
    RightPath n A W (p + vm'.nextIdExReg.isValid.toNat) (nextIfId vm') vm'.programCounter
  progress : vm'.nextIdExReg.isValid = false → vm.flushPipeline = true ∨
    (vm.ifIdReg.isValid = false ∧ ((nextIfId vm').isValid = true ∨ p = n)) ∨
    ((nextIfId vm').isValid = true ∧
      (vm.idExReg.isValid = true ∨ vm.exMemReg.isValid = true))

/-- After a redirect the front end is empty. -/
theorem frontEnd_of_flush (vm : RV5SEXVM) (hp : p ≤ n) (hf : vm.flushPipeline = true)
    (hs : vm.stallRequest = false) (hpc : vm.programCounter = (A p).pc) :
    ∃ sc, frontEnd vm = .ok { vm with
        stallCycles := sc, nextIdExReg := .bubble, nextIfIdReg := .bubble } ∧
      FrontEndOk n A W p vm { vm with
        stallCycles := sc, nextIdExReg := .bubble, nextIfIdReg := .bubble } := by
  obtain ⟨sc, hdecode⟩ := decodeStage_of_flush hf
  obtain ⟨sc', hfetch⟩ := fetchStage_of_flush { vm with
    stallCycles := sc, nextIdExReg := .bubble } hf
  refine ⟨sc', ?_, ?_⟩
  · unfold frontEnd
    dsimp only
    rw [hdecode, if_neg (by rw [hs]; decide), hfetch]
  · exact {
      idEx := holdsIdEx_bubble
      bound := hp
      latched := fun h => Bool.noConfusion h
      decoded := fun h => Bool.noConfusion h
      jumpGap := fun h => Bool.noConfusion h
      front := .inr (by
        simp only [nextIfId, hs, Bool.false_eq_true, if_false]
        exact ⟨fun h => Bool.noConfusion h, fun _ => hpc⟩)
      progress := fun _ => .inl hf }

/-- On the right path, decode and fetch advance, or decode stalls. -/
theorem frontEnd_of_rightPath (vm : RV5SEXVM) (t : Trace cfg size n A W)
    (h0 : (A 0).memory.Reachable cfg) (hqp : q ≤ p) (hp : p ≤ n)
    (hmem : vm.memoryController = (A q).memory) (hsize : vm.programSize = size)
    (hex : vm.idExReg.isValid = false → vm.idExReg = .bubble)
    (hexMem : vm.exMemReg.isValid = false → vm.exMemReg = .bubble)
    (hf : vm.flushPipeline = false) (hs : vm.stallRequest = false)
    (hpath : RightPath n A W p vm.ifIdReg vm.programCounter) :
    ∃ sc l lf pc flush stall, frontEnd vm = .ok { vm with
        stallCycles := sc, nextIdExReg := l, nextIfIdReg := lf, programCounter := pc
        flushPipeline := flush, stallRequest := stall } ∧
      FrontEndOk n A W p vm { vm with
        stallCycles := sc, nextIdExReg := l, nextIfIdReg := lf, programCounter := pc
        flushPipeline := flush, stallRequest := stall } := by
  unfold frontEnd
  dsimp only
  cases hv : vm.ifIdReg.isValid with
  | false =>
    have hpc := hpath.2 hv
    obtain ⟨lf, pc, hfetch, hnext, hend⟩ := fetchStage_of_rightPath { vm with
      nextIdExReg := .bubble } t hqp hp hmem hsize hpc hf
    refine ⟨vm.stallCycles, .bubble, lf, pc, vm.flushPipeline, vm.stallRequest, ?_, ?_⟩
    · rw [decodeStage_of_bubble hf hv, if_neg (by rw [hs]; decide), hfetch]
    · exact {
        idEx := holdsIdEx_bubble
        bound := hp
        latched := fun h => Bool.noConfusion h
        decoded := fun h => Bool.noConfusion h
        jumpGap := fun h => Bool.noConfusion h
        front := .inr (by
          simp only [nextIfId, hs, Bool.false_eq_true, if_false]
          exact hnext)
        progress := fun _ => .inr (.inl ⟨hv, by
          simp only [nextIfId, hs, Bool.false_eq_true, if_false]
          cases hlf : lf.isValid with
          | true => exact .inl rfl
          | false => exact .inr (hend hlf)⟩) }
  | true =>
    obtain ⟨hlt, hif, hpc⟩ := hpath.1 hv
    have hdecode := decodeStage_eq vm hif hpc hf
    rw [← ArchState.pc_exec (t.exec p hlt)] at hdecode
    rcases hdecode with
      ⟨_, hstall, hdecode⟩ | ⟨l, pc, flush, hdecode, hl, hlatched, hjump, hnext⟩
    · refine ⟨vm.stallCycles, .bubble, vm.nextIfIdReg, vm.programCounter, vm.flushPipeline, true,
        ?_, ?_⟩
      · rw [hdecode, if_pos rfl]
      · exact {
          idEx := holdsIdEx_bubble
          bound := hp
          latched := fun h => Bool.noConfusion h
          decoded := fun h => Bool.noConfusion h
          jumpGap := fun h => Bool.noConfusion h
          front := .inr hpath
          progress := fun _ => .inr (.inr ⟨hv, valid_of_dataStall hex hexMem hstall⟩) }
    · have hone : p + l.isValid.toNat = p + 1 := by rw [hl.isValid, Bool.toNat_true]
      -- whatever the fetch of this cycle does, the latch for execute is the same
      suffices h : ∃ sc lf pc', fetchStage { vm with
            nextIdExReg := l, programCounter := pc, flushPipeline := flush } = .ok { vm with
            stallCycles := sc, nextIdExReg := l, nextIfIdReg := lf, programCounter := pc'
            flushPipeline := flush } ∧
          ((getControlSignals (W p)).IsJump → lf.isValid = false) ∧
          (Redirects (A p) (W p) l ∨ RightPath n A W (p + 1) lf pc') by
        obtain ⟨sc, lf, pc', hfetch, hgap, hfront⟩ := h
        refine ⟨sc, l, lf, pc', flush, vm.stallRequest, ?_, ?_⟩
        · rw [hdecode, if_neg (by rw [hs]; decide), hfetch]
        · exact {
            idEx := .of_ok hl
            bound := by
              dsimp only
              omega
            latched := fun _ => hlatched
            decoded := fun _ => hv
            jumpGap := fun _ hj => by
              simp only [nextIfId, hs, Bool.false_eq_true, if_false]
              rw [hl.control] at hj
              exact hgap hj
            front := by
              simp only [nextIfId, hs, Bool.false_eq_true, if_false]
              rw [hone]
              exact hfront
            progress := fun h => Bool.noConfusion (hl.isValid.symm.trans h) }
      cases hflush : flush with
      | true =>
        obtain ⟨sc, hfetch⟩ := fetchStage_of_flush { vm with
          nextIdExReg := l, programCounter := pc, flushPipeline := true } rfl
        exact ⟨sc, .bubble, pc, hfetch, fun _ => rfl,
          hnext.imp_right fun h => ⟨fun h' => Bool.noConfusion h', fun _ => h⟩⟩
      | false =>
        have hgap : ∀ lf : IfIdReg, (getControlSignals (W p)).IsJump → lf.isValid = false :=
          fun lf hj => Bool.noConfusion (hflush.symm.trans (hjump hj))
        rcases hnext with hredirect | hpc'
        · have hread := t.path.fetch_early hqp hlt
          rw [← hmem] at hread
          have hreachable : vm.memoryController.Reachable cfg :=
            hmem ▸ t.reachable h0 (by omega)
          obtain ⟨lf, pc', hfetch⟩ := fetchStage_of_reachable { vm with
            nextIdExReg := l, programCounter := pc, flushPipeline := false }
            hreachable (Memory.blockSize_of_readWord hread) rfl
          exact ⟨vm.stallCycles, lf, pc', hfetch, hgap lf, .inl hredirect⟩
        · obtain ⟨lf, pc'', hfetch, hpath', _⟩ := fetchStage_of_rightPath { vm with
            nextIdExReg := l, programCounter := pc, flushPipeline := false } t
            (Nat.le_succ_of_le hqp) (by omega) hmem hsize hpc' rfl
          exact ⟨vm.stallCycles, lf, pc'', hfetch, hgap lf, .inr hpath'⟩

/-! ### The invariant -/

/-- The machine at a cycle boundary, with `r` instructions retired. -/
structure ExInv (size : BitVec 64) (n : Nat) (A : Nat → ArchState) (W : Nat → BitVec 32)
    (r : Nat) (vm : RV5SEXVM) : Prop where
  backEnd : BackEnd n A W r vm
  programSize : vm.programSize = size
  operands : vm.idExReg.isValid = true → (getControlSignals (W (vm.posEx r))).isNop = false →
    OperandsLatched A (vm.posEx r) vm
  idExJump : vm.idExReg.isValid = true → vm.idExReg.control.IsJump → vm.ifIdReg.isValid = false
  front : Redirects (A (vm.posEx r)) (W (vm.posEx r)) vm.idExReg ∨
    RightPath n A W (vm.posId r) vm.ifIdReg vm.programCounter

/-- The five stages of a cycle from a state with the invariant. -/
theorem runStages_eq (t : Trace cfg size n A W) (h0 : (A 0).memory.Reachable cfg)
    (h : ExInv size n A W r vm) :
    ∃ vm₁ vm', runStages cfg vm = .ok vm' ∧ CycleOk n A W r vm vm₁ vm' ∧
      FrontEndOk n A W (vm.posId r) vm₁ vm' ∧ vm₁.ifIdReg = vm.ifIdReg ∧
      (vm₁.flushPipeline = true → vm.idExReg.isValid = true) := by
  let vm₀ : RV5SEXVM := { vm with stallRequest := false, flushPipeline := false }
  have hb : BackEnd n A W r vm₀ := ⟨h.backEnd.bound, h.backEnd.retired, h.backEnd.registers,
    h.backEnd.memory, h.backEnd.memWb, h.backEnd.exMem, h.backEnd.idEx⟩
  obtain ⟨lw, hmemory, hlwv, hlw⟩ := memoryStage_of_backEnd t hb
  have hbound := h.backEnd.bound
  have hops : vm.idExReg.isValid = true →
      (getControlSignals (W (vm.posEx r))).isNop = false →
      OperandsOk (A (vm.posEx r)) (W (vm.posEx r)) vm.dataAluA vm.dataAluB := fun hv hnop =>
    operandsOk_of_latched t h.backEnd hv hnop (h.operands hv hnop)
  obtain ⟨lx, bp, mis, flush, pc, hexec, hlx, hlxv, hlxw, hcases⟩ :=
    executeStage_of_holds { vm₀ with
      instructionsRetired := BitVec.ofNat 32 (vm.posMem r)
      registers := (A (vm.posMem r)).registers
      memoryController := (A (vm.posEx r)).memory
      nextMemWbReg := lw } t h.backEnd.idEx hbound hops rfl
  -- the front end starts where the fetch has been redirected to, or on the right path
  let vm₁ : RV5SEXVM := { vm₀ with
    instructionsRetired := BitVec.ofNat 32 (vm.posMem r)
    registers := (A (vm.posMem r)).registers
    memoryController := (A (vm.posEx r)).memory
    nextMemWbReg := lw
    nextExMemReg := lx
    branchPredictor := bp
    branchMispredictions := mis
    flushPipeline := flush
    programCounter := pc }
  have hrun : runStages cfg vm = frontEnd vm₁ := by
    unfold runStages
    dsimp only
    change (Rv5sVm.memoryStage cfg (Rv5sVm.writeBackStage vm₀) >>= fun vm =>
      executeStage vm >>= frontEnd) = _
    rw [hmemory, ok_bind]
    exact congrArg (· >>= frontEnd) hexec
  rcases hcases with ⟨hr, rfl, hpc⟩ | ⟨hr, rfl, hpc⟩
  · -- the branch in execute empties the front end
    have hv : vm.idExReg.isValid = true := hr.1
    have hpos : vm.posId r = vm.posEx r + 1 := by rw [Rv5sVm.posId, hv, Bool.toNat_true]
    obtain ⟨sc, heq, hfe⟩ := frontEnd_of_flush vm₁ hbound rfl rfl (by rw [hpos]; exact hpc)
    exact ⟨vm₁, _, hrun.trans heq, {
      retired := rfl
      registers := rfl
      memory := rfl
      programSize := rfl
      forwardingEnabled := rfl
      stopRequested := rfl
      memWb := hlw
      memWbValid := hlwv
      exMem := hlx
      exMemValid := hlxv
      exMemWrite := hlxw
      idEx := hfe.idEx
      bound := hfe.bound
      decodedFrom := ⟨rfl, rfl, rfl, rfl⟩
      latched := hfe.latched }, hfe, rfl, fun _ => hr.1⟩
  · have hpath : RightPath n A W (vm.posId r) vm.ifIdReg pc := by
      rw [hpc]
      exact h.front.resolve_left hr
    obtain ⟨sc, l, lf, pc', flush, stall, heq, hfe⟩ := frontEnd_of_rightPath vm₁ t h0
      (Nat.le_add_right _ _) hbound rfl h.programSize h.backEnd.idEx.2 h.backEnd.exMem.2 rfl rfl
      hpath
    exact ⟨vm₁, _, hrun.trans heq, {
      retired := rfl
      registers := rfl
      memory := rfl
      programSize := rfl
      forwardingEnabled := rfl
      stopRequested := rfl
      memWb := hlw
      memWbValid := hlwv
      exMem := hlx
      exMemValid := hlxv
      exMemWrite := hlxw
      idEx := hfe.idEx
      bound := hfe.bound
      decodedFrom := ⟨rfl, rfl, rfl, rfl⟩
      latched := hfe.latched }, hfe, rfl, fun h => Bool.noConfusion h⟩

/-! ### A cycle -/

/-- A jump in the second latch has a bubble behind it, so no instruction is
decoded that would need its return address forwarded. -/
theorem link_of_cycleOk (h : ExInv size n A W r vm) {vm₁ vm' : RV5SEXVM}
    (hc : CycleOk n A W r vm vm₁ vm') (hif : vm.ifIdReg.isValid = true)
    (hsrc : vm'.nextExMemReg.control.wbSrc = .fromPcInc) : False := by
  cases hv : vm.idExReg.isValid with
  | false =>
    rw [hc.exMem.2 (hc.exMemValid.trans hv)] at hsrc
    cases hsrc
  | true =>
    have hok := h.backEnd.idEx.1 hv
    rw [hc.exMemWrite.control, hok.control] at hsrc
    have hnop : (getControlSignals (W (vm.posEx r))).isNop = false := by
      cases hnop : (getControlSignals (W (vm.posEx r))).isNop with
      | false => rfl
      | true => simp [signals_of_isNop hnop] at hsrc
    have hjump := (controlCase_getControlSignals hnop).fromPcInc_iff.mp hsrc
    rw [← hok.control] at hjump
    exact Bool.noConfusion (hif.symm.trans (h.idExJump hv hjump))

/-- A cycle keeps the invariant; it lowers the rank or ends the run. -/
theorem endCycle_of_exInv (t : Trace cfg size n A W) (h : ExInv size n A W r vm)
    {vm₁ vm' : RV5SEXVM} (hc : CycleOk n A W r vm vm₁ vm')
    (hfe : FrontEndOk n A W (vm.posId r) vm₁ vm') (hif : vm₁.ifIdReg = vm.ifIdReg)
    (hflush : vm₁.flushPipeline = true → vm.idExReg.isValid = true) :
    ExInv size n A W (vm.posMem r) vm'.endCycle ∧
      (vm'.endCycle.isFinished = true ∨
        vm'.endCycle.rank n (vm.posMem r) < vm.rank n r) := by
  have hfront : Redirects (A (vm.posId r)) (W (vm.posId r)) vm'.nextIdExReg ∨
      RightPath n A W (vm.posId r + vm'.nextIdExReg.isValid.toNat) (nextIfId vm')
        vm'.programCounter := hfe.front
  constructor
  · exact {
      backEnd := hc.backEnd
      programSize := hc.programSize.trans h.programSize
      operands := fun hv hnop => by
        rw [hc.posEx_eq] at hnop ⊢
        exact hc.operandsLatched t h.backEnd hv hnop fun _ _ _ hsrc =>
          (link_of_cycleOk h hc (hif ▸ hfe.decoded hv) hsrc).elim
      idExJump := hfe.jumpGap
      front := by
        rw [hc.posEx_eq, hc.posId_eq]
        exact hfront }
  · refine hc.finished_or_rank_lt t h.programSize (fun hv hd => ?_) fun hd => ?_
    · have hpath := hfront.resolve_left fun hr => Bool.noConfusion (hd.symm.trans hr.1)
      have hpc := hpath.2 hv
      rwa [hd, Bool.toNat_false, Nat.add_zero] at hpc
    · obtain ⟨-, -, hex₁, hmem₁⟩ := hc.decodedFrom
      have hprogress := hfe.progress hd
      rw [hif, hex₁, hmem₁] at hprogress
      exact hprogress.imp_left hflush

/-- One step from a state with the invariant. -/
theorem step_of_exInv (t : Trace cfg size n A W) (h0 : (A 0).memory.Reachable cfg)
    (h : ExInv size n A W r vm) (hgo : vm.stopRequested = false)
    (hrunning : vm.outputStatus ≠ .programEnd) :
    ∃ vm', step cfg vm = .ok vm' ∧ Rv5sVm.posEx vm' (vm.posMem r) = vm.posId r ∧
      (vm'.stopRequested = true ∧ Rv5sVm.arch vm' = A n ∧
          vm'.instructionsRetired = BitVec.ofNat 32 n ∧ vm.posId r = n ∨
        vm'.stopRequested = false ∧ vm'.outputStatus ≠ .programEnd ∧
          ExInv size n A W (vm.posMem r) vm' ∧ Rv5sVm.rank n (vm.posMem r) vm' < vm.rank n r) := by
  obtain ⟨vm₁, vm', hrun, hc, hfe, hif, hflush⟩ := runStages_eq t h0 h
  obtain ⟨hinv, hprogress⟩ := endCycle_of_exInv t h hc hfe hif hflush
  refine ⟨vm'.endCycle.reportStep, ?_, ?_, ?_⟩
  · unfold step
    rw [if_neg hrunning, hrun]
    rfl
  · rw [← hc.posEx_eq]
    unfold Rv5sVm.reportStep
    split <;> rfl
  · unfold Rv5sVm.reportStep
    by_cases hfin : vm'.endCycle.isFinished = true
    · rw [if_pos hfin]
      have hpc : vm'.endCycle.ifIdReg.isValid = false → vm'.endCycle.idExReg.isValid = false →
          vm'.endCycle.programCounter = (A (vm'.endCycle.posId (vm.posMem r))).pc :=
        fun hv hv' => (hinv.front.resolve_left fun hr =>
          Bool.noConfusion (hv'.symm.trans hr.1)).2 hv
      obtain ⟨harch, hretired⟩ := eq_of_isFinished t hinv.backEnd hinv.programSize hpc hfin
      obtain ⟨-, hposEx, -, hrn⟩ := posId_of_isFinished t hinv.backEnd hinv.programSize hpc hfin
      exact .inl ⟨rfl, harch, hretired, hc.posEx_eq.symm.trans (hposEx.trans hrn)⟩
    · rw [if_neg hfin]
      refine .inr ⟨hc.stopRequested.trans hgo, OutputStatus.noConfusion, ?_,
        hprogress.resolve_left hfin⟩
      exact ⟨hinv.backEnd.withStatus, hinv.programSize,
        fun hv hnop => (hinv.operands hv hnop).withStatus, hinv.idExJump, hinv.front⟩

/-- An empty pipeline at the first instruction of a run has the invariant. -/
theorem exInv_of_isEmpty (h : vm.IsEmpty) (hretired : vm.instructionsRetired = 0#32)
    (hsize : vm.programSize = size) (harch : Rv5sVm.arch vm = A 0) :
    ExInv size n A W 0 vm := by
  have hpos : vm.posId 0 = 0 := by
    simp [Rv5sVm.posId, Rv5sVm.posEx, Rv5sVm.posMem, h.idEx, h.exMem, h.memWb, IdExReg.bubble,
      ExMemReg.bubble, MemWbReg.bubble]
  have hmem : vm.posMem 0 = 0 := by simp [Rv5sVm.posMem, h.memWb, MemWbReg.bubble]
  have hex : vm.idExReg.isValid = false := by rw [h.idEx]; rfl
  exact {
    backEnd := {
      bound := by omega
      retired := hretired
      registers := congrArg ArchState.registers harch
      memory := by
        rw [hmem]
        exact congrArg ArchState.memory harch
      memWb := h.memWb ▸ holdsMemWb_bubble
      exMem := h.exMem ▸ holdsExMem_bubble
      idEx := h.idEx ▸ holdsIdEx_bubble }
    programSize := hsize
    operands := fun hv => Bool.noConfusion (hex.symm.trans hv)
    idExJump := fun hv => Bool.noConfusion (hex.symm.trans hv)
    front := .inr ⟨fun hv => Bool.noConfusion (h.ifId ▸ hv), fun _ => by
      rw [hpos]
      exact congrArg ArchState.pc harch⟩ }

/-- `Run` from an empty pipeline computes the run of the abstract machine. -/
theorem run_of_trace (t : Trace cfg size n A W) (h0 : (A 0).memory.Reachable cfg)
    (h : vm.IsEmpty) (hretired : vm.instructionsRetired = 0#32) (hsize : vm.programSize = size)
    (harch : Rv5sVm.arch vm = A 0) :
    ∃ fuel vm', run cfg fuel vm = some (.ok vm') ∧ Rv5sVm.arch vm' = A n ∧
      vm'.instructionsRetired = BitVec.ofNat 32 n := by
  obtain ⟨fuel, vm', hrun, harch', hretired'⟩ := runUntil_of_rank
    (fun vm : RV5SEXVM => vm.stopRequested) (step cfg)
    (fun k vm => ∃ r, ExInv size n A W r vm ∧ vm.rank n r = k ∧ vm.stopRequested = false ∧
      vm.outputStatus ≠ .programEnd)
    (fun vm => Rv5sVm.arch vm = A n ∧ vm.instructionsRetired = BitVec.ofNat 32 n)
    (fun k vm hinv => by
      obtain ⟨r, hinv, hk, hgo, hrunning⟩ := hinv
      obtain ⟨vm', hstep, -, hnext⟩ := step_of_exInv t h0 hinv hgo hrunning
      refine ⟨vm', hstep, hnext.imp ?_ ?_⟩
      · rintro ⟨hstop, harch, hretired, -⟩
        exact ⟨hstop, harch, hretired⟩
      · rintro ⟨hgo', hrunning', hinv', hlt⟩
        exact ⟨hgo', _, hk ▸ hlt, _, hinv', rfl, hgo', hrunning'⟩)
    (s := startRun vm)
    ⟨0, exInv_of_isEmpty ⟨h.ifId, h.idEx, h.exMem, h.memWb⟩ hretired hsize harch, rfl, rfl,
      OutputStatus.noConfusion⟩ rfl
  exact ⟨fuel, { vm' with stopRequested := false }, by rw [run, hrun]; rfl, harch', hretired'⟩

/-! ### Refinement -/

/-- The sequential reference: `S i` is the machine after `i` instructions, each
of which had the pipeline to itself.  After `n` of them the program counter is
past the program, and no store went to an address an instruction is fetched from. -/
structure Sequential (cfg : VmConfig) (n : Nat) (S : Nat → RV5SEXVM) : Prop where
  step : ∀ i < n, runAlone cfg (S i) = .ok (S (i + 1))
  halted : (S n).programSize ≤ (S n).programCounter
  apart : ∀ i < n, ∀ j < n, ∀ a ∈ (Rv5sVm.arch (S i)).storeAddresses,
    a ∉ (Rv5sVm.arch (S j)).fetchAddresses

/-- The sequential reference is a run of the abstract machine. -/
theorem Sequential.trace {S : Nat → RV5SEXVM} (h : Sequential cfg n S) (h0 : (S 0).IsEmpty) :
    Trace cfg (S 0).programSize n (fun i => Rv5sVm.arch (S i))
      fun i => (Rv5sVm.arch (S i)).word := by
  have hempty : ∀ i ≤ n, Rv5sVm.IsEmpty (S i) ∧ (S i).programSize = (S 0).programSize := by
    intro i
    induction i with
    | zero => exact fun _ => ⟨h0, rfl⟩
    | succ i ih =>
      intro hi
      obtain ⟨he, hsize⟩ := ih (by omega)
      obtain ⟨_, _, _, hsize', he'⟩ := exec_of_runAlone he (h.step i hi)
      exact ⟨he', hsize'.trans hsize⟩
  have hexec := fun i (hi : i < n) => exec_of_runAlone (hempty i (by omega)).1 (h.step i hi)
  exact {
    fetch := fun i hi => (hexec i hi).1
    exec := fun i hi => (hexec i hi).2.1
    inside := fun i hi => (hempty i (by omega)).2 ▸ (hexec i hi).2.2.1
    halted := (hempty n (Nat.le_refl n)).2 ▸ h.halted
    apart := h.apart }

/-- `Run` of a machine before its first cycle halts with the registers, the
memory and the program counter of the sequential reference, and with as many
instructions retired. -/
theorem run_refines_sequential {S : Nat → RV5SEXVM} (h : Sequential cfg n S)
    (h0 : (S 0).Fresh cfg) :
    ∃ fuel vm', run cfg fuel (S 0) = some (.ok vm') ∧
      (∀ i, vm'.registers.readGpr i = (S n).registers.readGpr i) ∧
      vm'.memoryController = (S n).memoryController ∧
      vm'.programCounter = (S n).programCounter ∧
      vm'.instructionsRetired = BitVec.ofNat 32 n := by
  have t := h.trace h0.isEmpty
  obtain ⟨fuel, vm', hrun, harch, hretired⟩ :=
    run_of_trace t h0.memory h0.isEmpty h0.retired rfl rfl
  have hregs : vm'.registers = (S n).registers := congrArg ArchState.registers harch
  exact ⟨fuel, vm', hrun, fun i => by rw [hregs], congrArg ArchState.memory harch,
    congrArg ArchState.pc harch, hretired⟩

/-- `addi x1, x0, 5`, `add x2, x1, x1`, a jump over the next word, `addi x2, x0, 0`. -/
def doubleFive : AssembledProgram where
  textBuffer := [0x00500093#32, 0x00108133#32, 0x0080006f#32, 0x00000113#32]

theorem run_refines_sequential_doubleFive :
    ∃ vm₀ : RV5SEXVM, (new {}).loadProgram {} doubleFive = .ok vm₀ ∧
      ∃ fuel vm', run {} fuel vm₀ = some (.ok vm') ∧ vm'.registers.readGpr 2#5 = 10#64 ∧
        vm'.instructionsRetired = 3#32 := by
  let vm₀ : RV5SEXVM := ((new {}).loadProgram {} doubleFive).toOption.getD (new {})
  have hload : (new {}).loadProgram {} doubleFive = .ok vm₀ :=
    eq_ok_getD _ (by decide +kernel)
  have h0 : Rv5sVm.Fresh {} vm₀ := fresh_of_loadProgram (Rv5sVm.blank {}) doubleFive .new hload
  have hstep : ∀ i < 3, (runAlone {} (after (runAlone {}) vm₀ i)).toOption.isSome = true := by
    decide +kernel
  have hstores : ∀ i < 3, (Rv5sVm.arch (after (runAlone {}) vm₀ i)).storeAddresses = [] := by
    decide +kernel
  have h : Sequential {} 3 (after (runAlone {}) vm₀) := {
    step := fun i hi => eq_ok_getD _ (hstep i hi)
    halted := by decide +kernel
    apart := fun i hi j _ a ha => by
      rw [hstores i hi] at ha
      cases ha }
  obtain ⟨fuel, vm', hrun, hregs, -, -, hretired⟩ := run_refines_sequential h h0
  refine ⟨vm₀, hload, fuel, vm', hrun, ?_, hretired⟩
  rw [hregs]
  decide +kernel

end RV5SEXVM

end RiscvSim

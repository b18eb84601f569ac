import Mathlib.Data.Nat.Count
import RiscvSim.Vm.Rv5s.Equiv.ExVm
import RiscvSim.Vm.Rv5s.StallVm

/-!
# Refinement by the machine that stalls

A run of the abstract machine that halts after `n` instructions is what
`RV5SStallVM.run` computes.  `FrontEnd` lists what decode and fetch can do in a
cycle; the invariant `StallInv` of the run and the count of its cycles
(`Counted`) are both read off it.

* **`run_refines_trace`**: the run ends where the abstract machine halts.
* **`cycleS_of_run`**: its cycles are the instructions, the stalls, two for each
  branch taken before the last instruction, and four.
-/

namespace RiscvSim

open RV5SControlUnit RV5SHazardUnit Lib

/-- The instruction `w` of state `s` leads elsewhere than to the next word. -/
def ArchState.leaps (s : ArchState) (w : BitVec 32) : Bool :=
  (getControlSignals w).branch && s.taken w

theorem ArchState.next_of_not_leaps {s : ArchState} {w : BitVec 32} (h : s.leaps w = false) :
    s.next w = s.pc + 4#64 := by
  unfold leaps at h
  unfold next nextPc
  unfold taken at h
  rw [h]
  rfl

namespace RV5SStallVM

open RV5SEXVM (RightPath)

variable {cfg : VmConfig} {size : BitVec 64} {n : Nat} {A : Nat → ArchState}
  {W : Nat → BitVec 32} {r p q : Nat} {s : ArchState} {w : BitVec 32} {vm : RV5SStallVM}

/-! ### Execute -/

/-- The branch decision of execute, in terms of the abstract machine. -/
theorem resolveBranch_eq {x : BitVec 64} (h : IdExOk s w vm.idExReg)
    (hnop : (getControlSignals w).isNop = false) (hx : s.alu w = .ok x)
    (hflush : vm.flushPipeline = false) :
    ∃ pc, resolveBranch vm x = { vm with
        flushPipeline := s.leaps w
        programCounter := pc } ∧
      pc = if s.leaps w then s.next w else vm.programCounter := by
  have hc := controlCase_getControlSignals hnop
  have hn : vm.idExReg.control.isNop = false := by rw [h.control, hnop]
  by_cases hb : (getControlSignals w).branch = true
  · have hout : RV5SEXVM.branchOutcome (getControlSignals w).branchOp x = s.taken w :=
      hc.branchOutcome_eq hb hx
    have hleaps : s.leaps w = s.taken w := by rw [ArchState.leaps, hb, Bool.true_and]
    have htarget : s.taken w = true → RV5SEXVM.branchTarget (getControlSignals w).branchOp s.pc
        (immGenerator w) x = s.next w := by
      intro ht
      rw [ArchState.next_of_branch hb, if_pos ht]
      exact hc.branchTarget_eq hb hx ht
    have hshape : resolveBranch vm x =
        if s.taken w then { vm with
          programCounter := RV5SEXVM.branchTarget (getControlSignals w).branchOp s.pc
            (immGenerator w) x
          flushPipeline := true }
        else vm := by
      unfold resolveBranch
      dsimp only
      rw [h.control, h.pc, h.immediate hn, ← hout, hb]
      generalize (getControlSignals w).branchOp = op
      cases op <;> rfl
    rw [hleaps, hshape]
    refine ⟨_, ?_, rfl⟩
    by_cases ht : s.taken w = true
    · rw [if_pos ht, if_pos ht, htarget ht, ht]
    · rw [if_neg ht, if_neg ht, Bool.eq_false_iff.mpr ht, ← hflush]
  · have hb : (getControlSignals w).branch = false := Bool.eq_false_iff.mpr hb
    have hj : ¬((getControlSignals w).branchOp = .jal ∨ (getControlSignals w).branchOp = .jalr) :=
      fun hj => Bool.noConfusion (hb.symm.trans (hc.branch_of_jump hj))
    have hleaps : s.leaps w = false := by rw [ArchState.leaps, hb, Bool.false_and]
    have hsame : resolveBranch vm x = vm := by
      unfold resolveBranch
      dsimp only
      rw [h.control, if_neg hj, hb]
      rfl
    exact ⟨vm.programCounter, by rw [hsame, hleaps, ← hflush], by rw [hleaps]; rfl⟩

theorem executeStage_of_bubble (h : vm.idExReg.isValid = false) :
    executeStage vm = .ok { vm with nextExMemReg := .bubble } := by
  unfold executeStage
  dsimp only
  rw [if_pos (by rw [h]; rfl)]

/-- Execute passes the instruction in the second latch on and, when it leaps,
moves the program counter to the next instruction. -/
theorem executeStage_eq (h : IdExOk s w vm.idExReg)
    (hops : (getControlSignals w).isNop = false →
      OperandsOk s w vm.idExReg.rs1Data vm.idExReg.rs2Data)
    (hx : (getControlSignals w).isNop = false → ∃ x, s.alu w = .ok x)
    (hflush : vm.flushPipeline = false) :
    ∃ l pc, executeStage vm = .ok { vm with
        nextExMemReg := l
        flushPipeline := s.leaps w
        programCounter := pc } ∧
      ExMemOk s w l ∧
      CarriesWrite vm.idExReg.control vm.idExReg.rdIndex l.control l.rdIndex ∧
      pc = if s.leaps w then s.next w else vm.programCounter := by
  have hvalid : ¬(!vm.idExReg.isValid) = true := by rw [h.isValid]; decide
  cases hnop : (getControlSignals w).isNop with
  | true =>
    have hleaps : s.leaps w = false := by
      rw [ArchState.leaps, (signals_of_isNop hnop).2.2.2.1, Bool.false_and]
    refine ⟨{ vm.nextExMemReg with
        control := vm.idExReg.control
        isValid := vm.idExReg.isValid }, vm.programCounter, ?_, exMemOk_of_isNop h hnop,
      ⟨rfl, fun hw => ?_⟩, by rw [hleaps]; rfl⟩
    · unfold executeStage
      dsimp only
      rw [if_neg hvalid, if_pos (by rw [h.control, hnop]), hleaps, ← hflush]
    · simp [h.control, signals_of_isNop hnop] at hw
  | false =>
    have hn : vm.idExReg.control.isNop = false := by rw [h.control, hnop]
    obtain ⟨x, hx⟩ := hx hnop
    -- the latch already holds the control signals when the ALU runs
    let vm₁ : RV5SStallVM := { vm with nextExMemReg := { vm.nextExMemReg with
      control := vm.idExReg.control
      isValid := vm.idExReg.isValid } }
    have h₁ : IdExOk s w vm₁.idExReg := h
    have hresult : aluResult vm.idExReg.control vm.idExReg.pc vm.idExReg.immediate
        vm.idExReg.rs1Data vm.idExReg.rs2Data = .ok x := by
      rw [h.control, h.pc, h.immediate hn, aluResult_of_operandsOk (hops hnop), hx]
    obtain ⟨pc, heq, hpc⟩ := resolveBranch_eq h₁ hnop hx hflush
    refine ⟨{
        isValid := vm.idExReg.isValid
        control := vm.idExReg.control
        pcInc := vm.idExReg.pcInc
        aluResult := x
        storeData := vm.idExReg.rs2Data
        rdIndex := vm.idExReg.rdIndex }, pc, ?_, ?_, ⟨rfl, fun _ => rfl⟩, hpc⟩
    · unfold executeStage
      dsimp only
      rw [if_neg hvalid, if_neg (by rw [hn]; decide), hresult, throwAt_ok, ok_bind, pure_eq_ok]
      change Except.ok { resolveBranch vm₁ x with nextExMemReg :=
        { (resolveBranch vm₁ x).nextExMemReg with
          pcInc := (resolveBranch vm₁ x).idExReg.pcInc
          aluResult := x
          storeData := (resolveBranch vm₁ x).idExReg.rs2Data
          rdIndex := (resolveBranch vm₁ x).idExReg.rdIndex } } = _
      rw [heq]
    · exact {
        isValid := h.isValid
        control := h.control
        pcInc := fun _ => h.pcInc
        aluResult := fun _ => hx
        storeData := fun _ => (hops hnop).right
        rdIndex := fun _ => h.rdIndex hn }

/-! ### Decode and fetch -/

theorem decodeStage_of_bubble (hf : vm.flushPipeline = false) (h : vm.ifIdReg.isValid = false) :
    decodeStage vm = { vm with nextIdExReg := .bubble } := by
  unfold decodeStage
  rw [if_neg (by rw [hf]; decide), if_pos (by rw [h]; rfl)]

/-- The decode of the instruction in the first latch: a stall, or the latch for execute. -/
theorem decodeStage_eq (vm : RV5SStallVM) (hif : IfIdOk s w vm.ifIdReg)
    (hforward : vm.forwardingEnabled = false) (hf : vm.flushPipeline = false) :
    (vm.dataStall (getControlSignals w) (rs1IndexOf w) (rs2IndexOf w) = true ∧
      decodeStage vm = { vm with stallRequest := true, nextIdExReg := .bubble }) ∨
    ∃ l, decodeStage vm = { vm with nextIdExReg := l } ∧ IdExOk s w l ∧
      ((getControlSignals w).isNop = false → Latched vm w l) := by
  have hvalid : ¬(!vm.ifIdReg.isValid) = true := by rw [hif.isValid]; decide
  cases hnop : (getControlSignals w).isNop with
  | true =>
    refine .inr ⟨vm.passedIdEx (getControlSignals w), ?_, idExOk_passedIdEx hif hnop,
      fun h => Bool.noConfusion h⟩
    unfold decodeStage
    dsimp only
    rw [if_neg (by rw [hf]; decide), if_neg hvalid, hif.instruction, if_pos hnop]
  | false =>
    have hc := controlCase_getControlSignals hnop
    have hl : IdExOk s w (vm.decodedIdEx (getControlSignals w)) := idExOk_decodedIdEx hif
    have hn : (vm.decodedIdEx (getControlSignals w)).control.isNop = false := by
      rw [hl.control, hnop]
    have hstall : vm.dataStall (getControlSignals w) (rs1IndexOf w) (rs2IndexOf w) =
        detectDataHazard (getControlSignals w)
          (vm.decodedIdEx (getControlSignals w)).rs1Index
          (vm.decodedIdEx (getControlSignals w)).rs2Index vm.idExReg vm.exMemReg := by
      rw [hl.rs1Index hn, hl.rs2Index hn, Rv5sVm.dataStall, if_neg (by rw [hforward]; decide)]
    have hdecode : decodeStage vm =
        if vm.dataStall (getControlSignals w) (rs1IndexOf w) (rs2IndexOf w) then
          { vm with stallRequest := true, nextIdExReg := .bubble }
        else { vm with nextIdExReg := vm.decodedIdEx (getControlSignals w) } := by
      rw [hstall]
      unfold decodeStage
      dsimp only
      rw [if_neg (by rw [hf]; decide), if_neg hvalid, hif.instruction,
        if_neg (by rw [hnop]; decide), if_neg fun h => hc.opcode_ne_system h.1,
        if_neg hc.opcode_ne_system]
    by_cases hs : vm.dataStall (getControlSignals w) (rs1IndexOf w) (rs2IndexOf w) = true
    · exact .inl ⟨hs, by rw [hdecode, if_pos hs]⟩
    · refine .inr ⟨_, by rw [hdecode, if_neg hs], hl, fun _ => ⟨rfl, rfl, ?_⟩⟩
      rw [hl.rs1Index hn, hl.rs2Index hn]
      exact Bool.eq_false_iff.mpr hs

/-- Without a flush the fetch is the one of the machine that predicts branches. -/
theorem fetchStage_eq (vm : RV5SStallVM) (hf : vm.flushPipeline = false) :
    fetchStage vm = RV5SEXVM.fetchStage vm := by
  have hf : ¬vm.flushPipeline = true := by rw [hf]; decide
  refine (if_neg hf).trans (Eq.trans ?_ (if_neg hf).symm)
  cases vm.memoryController.readWord vm.programCounter with
  | ok w => rfl
  | error e => cases e <;> rfl

/-- What decode and fetch can do in a cycle in which instruction `p` is the next
one to go to execute: the latches `l` and `lf` they leave, the program counter
and whether they ask for a stall. -/
inductive FrontEnd (n : Nat) (A : Nat → ArchState) (W : Nat → BitVec 32) (p : Nat)
    (vm : RV5SStallVM) : IdExReg → IfIdReg → BitVec 64 → Bool → Prop
  /-- Execute has redirected the fetch. -/
  | flushed (hf : vm.flushPipeline = true) (hpc : vm.programCounter = (A p).pc) :
    FrontEnd n A W p vm .bubble .bubble vm.programCounter false
  /-- Nothing to decode. -/
  | fetched {lf : IfIdReg} {pc : BitVec 64} (hf : vm.flushPipeline = false)
      (hv : vm.ifIdReg.isValid = false)
      (hpath : RightPath n A W p lf pc) (hend : lf.isValid = false → p = n) :
    FrontEnd n A W p vm .bubble lf pc false
  /-- An operand of instruction `p` is still to be written back. -/
  | stalled (hf : vm.flushPipeline = false) (hv : vm.ifIdReg.isValid = true)
      (hpath : RightPath n A W p vm.ifIdReg vm.programCounter)
      (hstall : vm.dataStall (getControlSignals (W p)) (rs1IndexOf (W p)) (rs2IndexOf (W p)) =
        true) :
    FrontEnd n A W p vm .bubble vm.nextIfIdReg vm.programCounter true
  /-- Instruction `p` goes to execute. -/
  | decoded {l : IdExReg} {lf : IfIdReg} {pc : BitVec 64} (hp : p < n)
      (hf : vm.flushPipeline = false) (hv : vm.ifIdReg.isValid = true)
      (hl : IdExOk (A p) (W p) l)
      (hlatched : (getControlSignals (W p)).isNop = false → Latched vm (W p) l)
      (hpath : (A p).leaps (W p) = false →
        RightPath n A W (p + 1) lf pc ∧ (lf.isValid = false → p + 1 = n)) :
    FrontEnd n A W p vm l lf pc false

/-- The machine with what decode and fetch leave. -/
def leave (vm : RV5SStallVM) (l : IdExReg) (lf : IfIdReg) (pc : BitVec 64) (stall : Bool) :
    RV5SStallVM :=
  { vm with nextIdExReg := l, nextIfIdReg := lf, programCounter := pc, stallRequest := stall }

/-- Decode, and fetch unless decode stalls. -/
def frontEnd (vm : RV5SStallVM) : Except (Fault × RV5SStallVM) RV5SStallVM :=
  let vm := decodeStage vm
  if vm.stallRequest then .ok vm else fetchStage vm

/-- The front end from a machine whose fetch is where the run goes on. -/
theorem frontEnd_eq (vm : RV5SStallVM) (t : Trace cfg size n A W)
    (h0 : (A 0).memory.Reachable cfg) (hqp : q ≤ p) (hp : p ≤ n)
    (hmem : vm.memoryController = (A q).memory) (hsize : vm.programSize = size)
    (hforward : vm.forwardingEnabled = false) (hs : vm.stallRequest = false)
    (hpath : if vm.flushPipeline then vm.programCounter = (A p).pc
      else RightPath n A W p vm.ifIdReg vm.programCounter) :
    ∃ l lf pc stall, frontEnd vm = .ok (vm.leave l lf pc stall) ∧
      FrontEnd n A W p vm l lf pc stall := by
  have hgo : ¬vm.stallRequest = true := by rw [hs]; decide
  unfold frontEnd leave
  dsimp only
  by_cases hf : vm.flushPipeline = true
  · rw [if_pos hf] at hpath
    refine ⟨.bubble, .bubble, vm.programCounter, false, ?_, .flushed hf hpath⟩
    have hdecode : decodeStage vm = { vm with nextIdExReg := .bubble } := by
      unfold decodeStage
      rw [if_pos hf]
    rw [hdecode, if_neg hgo]
    unfold fetchStage
    rw [if_pos hf, ← hs]
  rw [if_neg hf] at hpath
  have hf : vm.flushPipeline = false := Bool.eq_false_iff.mpr hf
  by_cases hv : vm.ifIdReg.isValid = true
  · obtain ⟨hlt, hif, hpc⟩ := hpath.1 hv
    rcases decodeStage_eq vm hif hforward hf with ⟨hstall, hdecode⟩ | ⟨l, hdecode, hl, hlatched⟩
    · refine ⟨.bubble, vm.nextIfIdReg, vm.programCounter, true, ?_, .stalled hf hv hpath hstall⟩
      rw [hdecode, if_pos rfl]
    · rw [hdecode, if_neg hgo, fetchStage_eq { vm with nextIdExReg := l } hf]
      cases hleaps : (A p).leaps (W p) with
      | true =>
        -- the fetch of this cycle is on the wrong path, but it does not fail
        have hread := t.path.fetch_early hqp hlt
        rw [← hmem] at hread
        have hreachable : vm.memoryController.Reachable cfg :=
          hmem ▸ t.reachable h0 (by omega)
        obtain ⟨lf, pc, hfetch⟩ := RV5SEXVM.fetchStage_of_reachable { vm with
          nextIdExReg := l } hreachable (Memory.blockSize_of_readWord hread) hf
        refine ⟨l, lf, pc, false, ?_, .decoded hlt hf hv hl hlatched fun h => ?_⟩
        · rw [hfetch, ← hs]
        · rw [hleaps] at h
          cases h
      | false =>
        have hnext : vm.programCounter = (A (p + 1)).pc := by
          rw [hpc, ArchState.pc_exec (t.exec p hlt), ArchState.next_of_not_leaps hleaps]
        obtain ⟨lf, pc, hfetch, hnext, hend⟩ := RV5SEXVM.fetchStage_of_rightPath { vm with
          nextIdExReg := l } t (Nat.le_succ_of_le hqp) (by omega) hmem hsize hnext hf
        refine ⟨l, lf, pc, false, ?_, .decoded hlt hf hv hl hlatched fun _ => ⟨hnext, hend⟩⟩
        rw [hfetch, ← hs]
  · have hv : vm.ifIdReg.isValid = false := Bool.eq_false_iff.mpr hv
    obtain ⟨lf, pc, hfetch, hnext, hend⟩ := RV5SEXVM.fetchStage_of_rightPath { vm with
      nextIdExReg := .bubble } t hqp hp hmem hsize (hpath.2 hv) hf
    refine ⟨.bubble, lf, pc, false, ?_, .fetched hf hv hnext hend⟩
    rw [decodeStage_of_bubble hf hv, if_neg hgo,
      fetchStage_eq { vm with nextIdExReg := .bubble } hf, hfetch, ← hs]

namespace FrontEnd

variable {l : IdExReg} {lf : IfIdReg} {pc : BitVec 64} {stall : Bool}

theorem holdsIdEx (h : FrontEnd n A W p vm l lf pc stall) : HoldsIdEx A W p l := by
  cases h with
  | flushed => exact holdsIdEx_bubble
  | fetched => exact holdsIdEx_bubble
  | stalled => exact holdsIdEx_bubble
  | decoded _ _ _ hl => exact .of_ok hl

theorem bound (h : FrontEnd n A W p vm l lf pc stall) (hp : p ≤ n) :
    p + l.isValid.toNat ≤ n := by
  cases h with
  | flushed => exact hp
  | fetched => exact hp
  | stalled => exact hp
  | decoded hlt _ _ hl =>
    rw [hl.isValid]
    exact hlt

theorem latched (h : FrontEnd n A W p vm l lf pc stall) (hl : l.isValid = true)
    (hnop : (getControlSignals (W p)).isNop = false) : Latched vm (W p) l := by
  cases h with
  | flushed => cases hl
  | fetched => cases hl
  | stalled => cases hl
  | decoded _ _ _ _ hlatched => exact hlatched hnop

/-- Unless instruction `p` has been decoded and leaps, the fetch stays on the path. -/
theorem rightPath (h : FrontEnd n A W p vm l lf pc stall)
    (hleaps : (l.isValid && (A p).leaps (W p)) = false) :
    RightPath n A W (p + l.isValid.toNat) (if stall then vm.ifIdReg else lf) pc := by
  cases h with
  | flushed _ hpc => exact ⟨fun h => Bool.noConfusion h, fun _ => hpc⟩
  | fetched _ _ hpath => exact hpath
  | stalled _ _ hpath => exact hpath
  | decoded _ _ _ hl _ hpath =>
    rw [hl.isValid, Bool.true_and] at hleaps
    rw [hl.isValid]
    exact (hpath hleaps).1

/-- A cycle that decodes nothing empties the front end, refills it or waits. -/
theorem progress (h : FrontEnd n A W p vm l lf pc stall) (hl : l.isValid = false)
    (hex : vm.idExReg.isValid = false → vm.idExReg = .bubble)
    (hexMem : vm.exMemReg.isValid = false → vm.exMemReg = .bubble) :
    vm.flushPipeline = true ∨
      (vm.ifIdReg.isValid = false ∧
        ((if stall then vm.ifIdReg else lf).isValid = true ∨ p = n)) ∨
      ((if stall then vm.ifIdReg else lf).isValid = true ∧
        (vm.idExReg.isValid = true ∨ vm.exMemReg.isValid = true)) := by
  cases h with
  | flushed hf => exact .inl hf
  | fetched _ hv _ hend =>
    refine .inr (.inl ⟨hv, ?_⟩)
    cases hlf : lf.isValid with
    | true => exact .inl hlf
    | false => exact .inr (hend hlf)
  | stalled _ hv _ hstall => exact .inr (.inr ⟨hv, valid_of_dataStall hex hexMem hstall⟩)
  | decoded _ _ _ hok => exact Bool.noConfusion (hl.symm.trans hok.isValid)

end FrontEnd

/-! ### The invariant -/

/-- The instruction in the second latch will redirect the fetch. -/
def leaping (A : Nat → ArchState) (W : Nat → BitVec 32) (r : Nat) (vm : RV5SStallVM) : Bool :=
  vm.idExReg.isValid && (A (vm.posEx r)).leaps (W (vm.posEx r))

/-- The machine at a cycle boundary, with `r` instructions retired. -/
structure StallInv (size : BitVec 64) (n : Nat) (A : Nat → ArchState) (W : Nat → BitVec 32)
    (r : Nat) (vm : RV5SStallVM) : Prop where
  backEnd : BackEnd n A W r vm
  programSize : vm.programSize = size
  forwardingEnabled : vm.forwardingEnabled = false
  operands : vm.idExReg.isValid = true → (getControlSignals (W (vm.posEx r))).isNop = false →
    OperandsLatched A (vm.posEx r) vm
  path : vm.leaping A W r = false →
    RightPath n A W (vm.posId r) vm.ifIdReg vm.programCounter

/-- What a cycle has done before the latches move: `vm₁` is the machine that
decode worked on. -/
structure Cycle (n : Nat) (A : Nat → ArchState) (W : Nat → BitVec 32) (r : Nat)
    (vm vm₁ : RV5SStallVM) (l : IdExReg) (lf : IfIdReg) (pc : BitVec 64) (stall : Bool) :
    Prop where
  ok : CycleOk n A W r vm vm₁ (vm₁.leave l lf pc stall)
  ifIdReg : vm₁.ifIdReg = vm.ifIdReg
  flushPipeline : vm₁.flushPipeline = vm.leaping A W r
  cycleS : vm₁.cycleS = vm.cycleS
  stallCycles : vm₁.stallCycles = vm.stallCycles
  frontEnd : FrontEnd n A W (vm.posId r) vm₁ l lf pc stall

/-- Execute on the second latch, which holds an instruction of the run or is a bubble. -/
theorem executeStage_of_holds (vm : RV5SStallVM) (t : Trace cfg size n A W)
    (hid : HoldsIdEx A W p vm.idExReg) (hp : p + vm.idExReg.isValid.toNat ≤ n)
    (hops : vm.idExReg.isValid = true → (getControlSignals (W p)).isNop = false →
      OperandsOk (A p) (W p) vm.idExReg.rs1Data vm.idExReg.rs2Data)
    (hflush : vm.flushPipeline = false) :
    ∃ l pc, executeStage vm = .ok { vm with
        nextExMemReg := l
        flushPipeline := vm.idExReg.isValid && (A p).leaps (W p)
        programCounter := pc } ∧
      HoldsExMem A W p l ∧ l.isValid = vm.idExReg.isValid ∧
      CarriesWrite vm.idExReg.control vm.idExReg.rdIndex l.control l.rdIndex ∧
      pc = if vm.idExReg.isValid && (A p).leaps (W p) then (A (p + 1)).pc
        else vm.programCounter := by
  by_cases hv : vm.idExReg.isValid = true
  · rw [hv, Bool.toNat_true] at hp
    obtain ⟨l, pc, heq, hok, hw, hpc⟩ :=
      executeStage_eq (hid.1 hv) (hops hv) (ArchState.alu_of_exec (t.exec p hp)) hflush
    rw [← ArchState.pc_exec (t.exec p hp)] at hpc
    refine ⟨l, pc, ?_, .of_ok hok, hok.isValid.trans hv.symm, hw, ?_⟩
    · rw [heq, hv, Bool.true_and]
    · rw [hv, Bool.true_and]
      exact hpc
  · have hv : vm.idExReg.isValid = false := Bool.eq_false_iff.mpr hv
    refine ⟨.bubble, vm.programCounter, ?_, holdsExMem_bubble, hv.symm, ?_, ?_⟩
    · rw [executeStage_of_bubble hv, hv, Bool.false_and, ← hflush]
    · rw [hid.2 hv]
      exact ⟨rfl, fun _ => rfl⟩
    · rw [hv, Bool.false_and]
      rfl

/-- The operands that decode has latched are the registers of the instruction. -/
theorem operandsOk_of_stallInv (t : Trace cfg size n A W) (h : StallInv size n A W r vm)
    (hv : vm.idExReg.isValid = true) (hnop : (getControlSignals (W (vm.posEx r))).isNop = false) :
    OperandsOk (A (vm.posEx r)) (W (vm.posEx r)) vm.idExReg.rs1Data vm.idExReg.rs2Data := by
  have hops := operandsOk_of_latched t h.backEnd hv hnop (h.operands hv hnop)
  have hforward : ¬vm.forwardingEnabled = true := by rw [h.forwardingEnabled]; decide
  rwa [Rv5sVm.dataAluA, Rv5sVm.dataAluB, if_neg hforward, if_neg hforward] at hops

/-- The five stages of a cycle from a state with the invariant. -/
theorem runStages_eq (t : Trace cfg size n A W) (h0 : (A 0).memory.Reachable cfg)
    (h : StallInv size n A W r vm) :
    ∃ vm₁ l lf pc stall, runStages cfg vm = .ok (leave vm₁ l lf pc stall) ∧
      Cycle n A W r vm vm₁ l lf pc stall := by
  let vm₀ : RV5SStallVM := { vm with stallRequest := false, flushPipeline := false }
  have hb : BackEnd n A W r vm₀ := ⟨h.backEnd.bound, h.backEnd.retired, h.backEnd.registers,
    h.backEnd.memory, h.backEnd.memWb, h.backEnd.exMem, h.backEnd.idEx⟩
  obtain ⟨lw, hmemory, hlwv, hlw⟩ := memoryStage_of_backEnd t hb
  have hbound := h.backEnd.bound
  have hops : vm.idExReg.isValid = true →
      (getControlSignals (W (vm.posEx r))).isNop = false →
      OperandsOk (A (vm.posEx r)) (W (vm.posEx r)) vm.idExReg.rs1Data vm.idExReg.rs2Data :=
    operandsOk_of_stallInv t h
  obtain ⟨lx, pc, hexec, hlx, hlxv, hlxw, hpc⟩ :=
    executeStage_of_holds { vm₀ with
      instructionsRetired := BitVec.ofNat 32 (vm.posMem r)
      registers := (A (vm.posMem r)).registers
      memoryController := (A (vm.posEx r)).memory
      nextMemWbReg := lw } t h.backEnd.idEx hbound hops rfl
  let vm₁ : RV5SStallVM := { vm₀ with
    instructionsRetired := BitVec.ofNat 32 (vm.posMem r)
    registers := (A (vm.posMem r)).registers
    memoryController := (A (vm.posEx r)).memory
    nextMemWbReg := lw
    nextExMemReg := lx
    flushPipeline := vm.leaping A W r
    programCounter := pc }
  have hrun : runStages cfg vm = frontEnd vm₁ := by
    unfold runStages
    dsimp only
    change (Rv5sVm.memoryStage cfg (Rv5sVm.writeBackStage vm₀) >>= fun vm =>
      executeStage vm >>= frontEnd) = _
    rw [hmemory, ok_bind]
    exact congrArg (· >>= frontEnd) hexec
  -- the front end starts where execute has redirected the fetch to, or on the path
  have hpath : if vm₁.flushPipeline then vm₁.programCounter = (A (vm.posId r)).pc
      else RightPath n A W (vm.posId r) vm₁.ifIdReg vm₁.programCounter := by
    change if vm.leaping A W r then pc = (A (vm.posId r)).pc
      else RightPath n A W (vm.posId r) vm.ifIdReg pc
    have hpc : pc = if vm.leaping A W r then (A (vm.posEx r + 1)).pc else vm.programCounter := hpc
    rw [hpc]
    by_cases hl : vm.leaping A W r = true
    · have hv : vm.idExReg.isValid = true := (Bool.and_eq_true_iff.mp hl).1
      rw [if_pos hl, if_pos hl, Rv5sVm.posId, hv, Bool.toNat_true]
    · rw [if_neg hl, if_neg hl]
      exact h.path (Bool.eq_false_iff.mpr hl)
  obtain ⟨l, lf, pc', stall, heq, hfe⟩ := frontEnd_eq vm₁ t h0 (Nat.le_add_right _ _) hbound rfl
    h.programSize h.forwardingEnabled rfl hpath
  refine ⟨vm₁, l, lf, pc', stall, hrun.trans heq, ?_, rfl, rfl, rfl, rfl, hfe⟩
  exact {
    retired := rfl
    registers := rfl
    memory := rfl
    programSize := rfl
    forwardingEnabled := rfl
    stopRequested := rfl
    memWb := hlw
    memWbValid := hlwv
    exMem := hlx
    exMemValid := hlxv
    exMemWrite := hlxw
    idEx := hfe.holdsIdEx
    bound := hfe.bound hbound
    decodedFrom := ⟨rfl, rfl, rfl, rfl⟩
    latched := hfe.latched }

/-! ### A cycle -/

namespace Cycle

variable {vm₁ : RV5SStallVM} {l : IdExReg} {lf : IfIdReg} {pc : BitVec 64} {stall : Bool}

theorem leaping_eq (h : Cycle n A W r vm vm₁ l lf pc stall) :
    leaping A W (vm.posMem r) (leave vm₁ l lf pc stall).endCycle =
      (l.isValid && (A (vm.posId r)).leaps (W (vm.posId r))) := by
  unfold leaping
  rw [h.ok.posEx_eq]
  rfl

/-- A cycle keeps the invariant. -/
theorem stallInv (h : Cycle n A W r vm vm₁ l lf pc stall) (t : Trace cfg size n A W)
    (hinv : StallInv size n A W r vm) :
    StallInv size n A W (vm.posMem r) (leave vm₁ l lf pc stall).endCycle where
  backEnd := h.ok.backEnd
  programSize := h.ok.programSize.trans hinv.programSize
  forwardingEnabled := h.ok.forwardingEnabled.trans hinv.forwardingEnabled
  operands hv hnop := by
    rw [h.ok.posEx_eq] at hnop ⊢
    refine h.ok.operandsLatched t hinv.backEnd hv hnop fun _ _ hforward => ?_
    rw [h.ok.forwardingEnabled, hinv.forwardingEnabled] at hforward
    cases hforward
  path hleaping := by
    rw [h.leaping_eq] at hleaping
    rw [h.ok.posId_eq]
    exact h.frontEnd.rightPath hleaping

/-- A cycle brings the instructions ahead, unless it has ended the run. -/
theorem finished_or_rank_lt (h : Cycle n A W r vm vm₁ l lf pc stall) (t : Trace cfg size n A W)
    (hinv : StallInv size n A W r vm) :
    (leave vm₁ l lf pc stall).endCycle.isFinished = true ∨
      (leave vm₁ l lf pc stall).endCycle.rank n (vm.posMem r) < vm.rank n r := by
  obtain ⟨-, -, hex, hexMem⟩ := h.ok.decodedFrom
  refine h.ok.finished_or_rank_lt t hinv.programSize (fun hv hd => ?_) fun hd => ?_
  · have hd : l.isValid = false := hd
    have hpath := h.frontEnd.rightPath (by rw [hd, Bool.false_and])
    have hpc := hpath.2 hv
    rwa [hd, Bool.toNat_false, Nat.add_zero] at hpc
  · have hprogress := h.frontEnd.progress hd (hex ▸ hinv.backEnd.idEx.2)
      (hexMem ▸ hinv.backEnd.exMem.2)
    rw [hex, hexMem, h.flushPipeline] at hprogress
    refine hprogress.imp (fun hl => (Bool.and_eq_true_iff.mp hl).1) (Or.imp_left fun hfetch => ?_)
    rw [← h.ifIdReg]
    exact hfetch

end Cycle

/-! ### The count of the cycles -/

/-- The instructions among the first `k` of the run that leap. -/
def leapsBefore (A : Nat → ArchState) (W : Nat → BitVec 32) (k : Nat) : Nat :=
  Nat.count (fun i => (A i).leaps (W i) = true) k

theorem leapsBefore_succ (A : Nat → ArchState) (W : Nat → BitVec 32) (k : Nat) :
    leapsBefore A W (k + 1) = leapsBefore A W k + ((A k).leaps (W k)).toNat := by
  unfold leapsBefore
  rw [Nat.count_succ]
  cases (A k).leaps (W k) <;> rfl

/-- How far the last instruction that was decoded has got. -/
def stage (vm : RV5SStallVM) : Nat :=
  if vm.idExReg.isValid then 1
  else if vm.exMemReg.isValid then 2
  else if vm.memWbReg.isValid then 3
  else 4

/-- The cycles that the next instruction can still be stalled. -/
def slack (vm : RV5SStallVM) : Nat :=
  if vm.idExReg.isValid then 2 else if vm.exMemReg.isValid then 1 else 0

/-- The counters at a cycle boundary, `c` cycles and `s` stalls after the start:
every cycle has fetched an instruction of the run, stalled, fetched on the wrong
path, been flushed, or come after the fetch of the last instruction. -/
structure Counted (n : Nat) (A : Nat → ArchState) (W : Nat → BitVec 32) (r : Nat)
    (vm : RV5SStallVM) (c s : Nat) : Prop where
  cycleS : vm.cycleS = BitVec.ofNat 32 c
  stallCycles : vm.stallCycles = BitVec.ofNat 32 s
  stalls : s + vm.slack ≤ 2 * vm.posId r
  drained : vm.posId r = n → s + 2 ≤ 2 * n
  leaping : vm.leaping A W r = true → c = vm.posId r + s + 2 * leapsBefore A W (vm.posId r - 1) + 1
  running : vm.leaping A W r = false → vm.posId r < n →
    c = vm.posId r + vm.ifIdReg.isValid.toNat + s + 2 * leapsBefore A W (vm.posId r)
  draining : vm.leaping A W r = false → vm.posId r = n →
    c = n + s + 2 * leapsBefore A W (n - 1) + vm.stage

/-- Until the run has ended, an instruction is in the pipeline. -/
theorem stage_lt (t : Trace cfg size n A W) (h : StallInv size n A W r vm)
    (hgo : vm.isFinished = false) (hl : vm.leaping A W r = false) (hend : vm.posId r = n) :
    vm.stage < 4 := by
  obtain ⟨hvalid, hpc⟩ := h.path hl
  have hif : vm.ifIdReg.isValid = false := by
    by_contra hv
    obtain ⟨hlt, -⟩ := hvalid (Bool.not_eq_false _ ▸ hv)
    omega
  have hge : vm.programSize ≤ vm.programCounter := by
    rw [h.programSize, hpc hif, hend]
    exact t.halted
  unfold stage
  unfold Rv5sVm.isFinished at hgo
  rw [decide_eq_true hge, hif] at hgo
  cases h1 : vm.idExReg.isValid <;> cases h2 : vm.exMemReg.isValid <;>
    cases h3 : vm.memWbReg.isValid <;> simp_all

namespace Cycle

variable {vm₁ : RV5SStallVM} {l : IdExReg} {lf : IfIdReg} {pc : BitVec 64} {stall : Bool}

/-- What the count needs to know of the latches after a cycle. -/
theorem stage_eq (h : Cycle n A W r vm vm₁ l lf pc stall) :
    stage (leave vm₁ l lf pc stall).endCycle =
      if l.isValid then 1 else if vm.idExReg.isValid then 2 else if vm.exMemReg.isValid then 3
      else 4 := by
  unfold stage
  rw [← h.ok.exMemValid, ← h.ok.memWbValid]
  rfl

theorem slack_eq (h : Cycle n A W r vm vm₁ l lf pc stall) :
    slack (leave vm₁ l lf pc stall).endCycle =
      if l.isValid then 2 else if vm.idExReg.isValid then 1 else 0 := by
  unfold slack
  rw [← h.ok.exMemValid]
  rfl

/-- The count after a cycle, in terms of what the cycle has left. -/
theorem counted_of (h : Cycle n A W r vm vm₁ l lf pc stall) {c s : Nat}
    (hc : Counted n A W r vm c s)
    (hstalls : s + stall.toNat +
        (if l.isValid then 2 else if vm.idExReg.isValid then 1 else 0) ≤
      2 * (vm.posId r + l.isValid.toNat))
    (hdrained : vm.posId r + l.isValid.toNat = n → s + stall.toNat + 2 ≤ 2 * n)
    (hleaping : (l.isValid && (A (vm.posId r)).leaps (W (vm.posId r))) = true →
      c + 1 = vm.posId r + l.isValid.toNat + (s + stall.toNat) +
        2 * leapsBefore A W (vm.posId r + l.isValid.toNat - 1) + 1)
    (hrunning : (l.isValid && (A (vm.posId r)).leaps (W (vm.posId r))) = false →
      vm.posId r + l.isValid.toNat < n →
      c + 1 = vm.posId r + l.isValid.toNat + (if stall then vm.ifIdReg else lf).isValid.toNat +
        (s + stall.toNat) + 2 * leapsBefore A W (vm.posId r + l.isValid.toNat))
    (hdraining : (l.isValid && (A (vm.posId r)).leaps (W (vm.posId r))) = false →
      vm.posId r + l.isValid.toNat = n →
      c + 1 = n + (s + stall.toNat) + 2 * leapsBefore A W (n - 1) +
        if l.isValid then 1 else if vm.idExReg.isValid then 2
        else if vm.exMemReg.isValid then 3 else 4) :
    Counted n A W (vm.posMem r) (leave vm₁ l lf pc stall).endCycle (c + 1)
      (s + stall.toNat) := by
  have hpos : (leave vm₁ l lf pc stall).endCycle.posId (vm.posMem r) =
      vm.posId r + l.isValid.toNat := h.ok.posId_eq
  refine ⟨?_, ?_, ?_, ?_, ?_, ?_, ?_⟩
  · change vm₁.cycleS + 1#32 = _
    rw [h.cycleS, hc.cycleS, BitVec.ofNat_add]
  · change (if stall then vm₁.stallCycles + 1#32 else vm₁.stallCycles) = _
    rw [h.stallCycles, hc.stallCycles]
    cases stall with
    | true => rw [if_pos rfl, Bool.toNat_true, BitVec.ofNat_add]
    | false => rfl
  · rwa [h.slack_eq, hpos]
  · rwa [hpos]
  · rwa [h.leaping_eq, hpos]
  · rw [h.leaping_eq, hpos]
    change _ → _ → _ = _ + (if stall then vm₁.ifIdReg else lf).isValid.toNat + _ + _
    rwa [h.ifIdReg]
  · rwa [h.leaping_eq, hpos, h.stage_eq]

/-- A cycle that sends the next instruction to execute. -/
theorem counted_of_decoded (h : Cycle n A W r vm vm₁ l lf pc false) {c s : Nat}
    (hc : Counted n A W r vm c s) (hl : l.isValid = true) (hp : vm.posId r < n)
    (hf : vm₁.flushPipeline = false) (hv : vm₁.ifIdReg.isValid = true)
    (hpath : (A (vm.posId r)).leaps (W (vm.posId r)) = false →
      RightPath n A W (vm.posId r + 1) lf pc ∧ (lf.isValid = false → vm.posId r + 1 = n)) :
    Counted n A W (vm.posMem r) (leave vm₁ l lf pc false).endCycle (c + 1) s := by
  have hbound := hc.stalls
  have hcycles := hc.running (h.flushPipeline.symm.trans hf) hp
  have hcount := leapsBefore_succ A W (vm.posId r)
  rw [← h.ifIdReg, hv, Bool.toNat_true] at hcycles
  refine h.counted_of hc ?_ ?_ ?_ ?_ ?_ <;>
    simp only [hl, if_true, Bool.true_and, Bool.toNat_true, Bool.toNat_false, Bool.false_eq_true,
      if_false, Nat.add_sub_cancel]
  · omega
  · omega
  · omega
  · intro hleaps hlt
    have hlf : lf.isValid = true := by
      by_contra hlf
      have hend := (hpath hleaps).2 (Bool.eq_false_iff.mpr hlf)
      omega
    rw [hleaps, Bool.toNat_false] at hcount
    rw [hlf, Bool.toNat_true]
    omega
  · intro _ hend
    rw [← hend, Nat.add_sub_cancel]
    omega

/-- A cycle in which execute empties the front end. -/
theorem counted_of_flushed (h : Cycle n A W r vm vm₁ .bubble .bubble pc false) {c s : Nat}
    (hc : Counted n A W r vm c s) (hf : vm₁.flushPipeline = true) :
    Counted n A W (vm.posMem r) (leave vm₁ .bubble .bubble pc false).endCycle (c + 1) s := by
  have hleaping := h.flushPipeline.symm.trans hf
  obtain ⟨hv, hleaps⟩ := Bool.and_eq_true_iff.mp hleaping
  -- the branch in execute is the last instruction that was decoded
  have hpos : vm.posId r = vm.posEx r + 1 := by rw [Rv5sVm.posId, hv, Bool.toNat_true]
  have hcount := leapsBefore_succ A W (vm.posEx r)
  have hcycles := hc.leaping hleaping
  have hbound := hc.stalls
  have hdrained := hc.drained
  have hslack : slack vm = 2 := by rw [slack, if_pos hv]
  rw [hleaps, ← hpos, Bool.toNat_true] at hcount
  rw [hpos, Nat.add_sub_cancel, ← hpos] at hcycles
  have hif : IfIdReg.bubble.isValid = false := rfl
  have hid : IdExReg.bubble.isValid = false := rfl
  refine h.counted_of hc ?_ ?_ ?_ ?_ ?_ <;>
    simp only [hif, hid, hv, if_true, Bool.false_and, Bool.toNat_false, Bool.false_eq_true,
      if_false, Nat.add_zero, false_imp_iff, true_imp_iff]
  · omega
  · exact hdrained
  · omega
  · intro hend
    rw [← hend, hpos, Nat.add_sub_cancel, ← hpos]
    omega

/-- A cycle that has nothing to decode. -/
theorem counted_of_fetched (h : Cycle n A W r vm vm₁ .bubble lf pc false)
    (t : Trace cfg size n A W) (hinv : StallInv size n A W r vm) (hgo : vm.isFinished = false)
    {c s : Nat} (hc : Counted n A W r vm c s) (hf : vm₁.flushPipeline = false)
    (hv : vm₁.ifIdReg.isValid = false) (hend : lf.isValid = false → vm.posId r = n) :
    Counted n A W (vm.posMem r) (leave vm₁ .bubble lf pc false).endCycle (c + 1) s := by
  have hno := h.flushPipeline.symm.trans hf
  have hbound := hc.stalls
  have hdrained := hc.drained
  have hid : IdExReg.bubble.isValid = false := rfl
  rw [h.ifIdReg] at hv
  refine h.counted_of hc ?_ ?_ ?_ ?_ ?_ <;>
    simp only [hid, Bool.false_and, Bool.toNat_false, Bool.false_eq_true, if_false, Nat.add_zero,
      false_imp_iff, true_imp_iff]
  · have hwait : (if vm.idExReg.isValid then 1 else 0) ≤ slack vm := by
      unfold slack
      split <;> omega
    omega
  · exact hdrained
  · intro hlt
    have hcycles := hc.running hno hlt
    have hlf : lf.isValid = true := by
      by_contra hlf
      have hend := hend (Bool.eq_false_iff.mpr hlf)
      omega
    rw [hv, Bool.toNat_false] at hcycles
    rw [hlf, Bool.toNat_true]
    omega
  · intro hend
    have hcycles := hc.draining hno hend
    have hlt := stage_lt t hinv hgo hno hend
    have hnext : (if vm.idExReg.isValid then 2 else if vm.exMemReg.isValid then 3 else 4) =
        stage vm + 1 := by
      unfold stage at hlt ⊢
      split_ifs at hlt ⊢ <;> omega
    omega

/-- A cycle in which the next instruction waits for an operand. -/
theorem counted_of_stalled (h : Cycle n A W r vm vm₁ .bubble lf pc true)
    (hinv : StallInv size n A W r vm) {c s : Nat} (hc : Counted n A W r vm c s)
    (hf : vm₁.flushPipeline = false) (hv : vm₁.ifIdReg.isValid = true) (hlt : vm.posId r < n)
    (hstall : vm₁.dataStall (getControlSignals (W (vm.posId r))) (rs1IndexOf (W (vm.posId r)))
      (rs2IndexOf (W (vm.posId r))) = true) :
    Counted n A W (vm.posMem r) (leave vm₁ .bubble lf pc true).endCycle (c + 1) (s + 1) := by
  obtain ⟨-, -, hex, hexMem⟩ := h.ok.decodedFrom
  have hbusy := valid_of_dataStall (hex ▸ hinv.backEnd.idEx.2) (hexMem ▸ hinv.backEnd.exMem.2)
    hstall
  rw [hex, hexMem] at hbusy
  have hcycles := hc.running (h.flushPipeline.symm.trans hf) hlt
  have hbound := hc.stalls
  have hid : IdExReg.bubble.isValid = false := rfl
  rw [h.ifIdReg] at hv
  rw [hv, Bool.toNat_true] at hcycles
  refine h.counted_of hc ?_ ?_ ?_ ?_ ?_ <;>
    simp only [hid, hv, Bool.false_and, Bool.toNat_false, Bool.toNat_true, Bool.false_eq_true,
      if_false, if_true, Nat.add_zero, false_imp_iff, true_imp_iff]
  · have hmore : (if vm.idExReg.isValid then 1 else 0) + 1 ≤ slack vm := by
      unfold slack
      rcases hbusy with hbusy | hbusy
      · rw [hbusy, if_pos rfl, if_pos rfl]
      · simp only [hbusy, if_true]
        split <;> omega
    omega
  · omega
  · omega
  · omega

/-- A cycle counts itself, and itself as a stall when it is one. -/
theorem counted (h : Cycle n A W r vm vm₁ l lf pc stall) (t : Trace cfg size n A W)
    (hinv : StallInv size n A W r vm) (hgo : vm.isFinished = false) {c s : Nat}
    (hc : Counted n A W r vm c s) :
    Counted n A W (vm.posMem r) (leave vm₁ l lf pc stall).endCycle (c + 1)
      (s + stall.toNat) := by
  cases h.frontEnd with
  | flushed hf => exact h.counted_of_flushed hc hf
  | fetched hf hv _ hend => exact h.counted_of_fetched t hinv hgo hc hf hv hend
  | stalled hf hv hpath hstall =>
    exact h.counted_of_stalled hinv hc hf hv (hpath.1 hv).1 hstall
  | decoded hp hf hv hl _ hpath => exact h.counted_of_decoded hc hl.isValid hp hf hv hpath

end Cycle

/-- The machine during its run, with `r` instructions retired. -/
structure Running (size : BitVec 64) (n : Nat) (A : Nat → ArchState) (W : Nat → BitVec 32)
    (r : Nat) (vm : RV5SStallVM) : Prop where
  inv : StallInv size n A W r vm
  going : vm.stopRequested = false
  status : vm.outputStatus ≠ .programEnd
  counted : 0 < n → vm.isFinished = false ∧ ∃ c s, Counted n A W r vm c s

/-- The machine at the end of its run. -/
structure Finished (n : Nat) (A : Nat → ArchState) (W : Nat → BitVec 32) (vm : RV5SStallVM) :
    Prop where
  arch : Rv5sVm.arch vm = A n
  retired : vm.instructionsRetired = BitVec.ofNat 32 n
  status : vm.outputStatus = .programEnd
  cycles : 0 < n → ∃ s, s ≤ 2 * (n - 1) ∧ vm.stallCycles = BitVec.ofNat 32 s ∧
    vm.cycleS = BitVec.ofNat 32 (n + s + 2 * leapsBefore A W (n - 1) + 4)

/-- The counters do not depend on the flags of the run loop. -/
theorem Counted.withStatus {c s : Nat} (h : Counted n A W r vm c s) {stop : Bool}
    {status : OutputStatus} :
    Counted n A W r { vm with stopRequested := stop, outputStatus := status } c s :=
  ⟨h.cycleS, h.stallCycles, h.stalls, h.drained, h.leaping, h.running, h.draining⟩

theorem StallInv.withStatus (h : StallInv size n A W r vm) {stop : Bool}
    {status : OutputStatus} :
    StallInv size n A W r { vm with stopRequested := stop, outputStatus := status } :=
  ⟨h.backEnd.withStatus, h.programSize, h.forwardingEnabled,
    fun hv hnop => (h.operands hv hnop).withStatus, h.path⟩

/-- An empty pipeline past the end of the program is at the end of the run. -/
theorem finished_of_isFinished (t : Trace cfg size n A W) (h : StallInv size n A W r vm)
    (hfin : vm.isFinished = true)
    (hc : 0 < n → ∃ c s, Counted n A W r vm c s) :
    Finished n A W { vm with stopRequested := true, outputStatus := .programEnd } := by
  have hpc : vm.ifIdReg.isValid = false → vm.idExReg.isValid = false →
      vm.programCounter = (A (vm.posId r)).pc := fun hv hv' =>
    (h.path (by rw [leaping, hv', Bool.false_and])).2 hv
  obtain ⟨harch, hretired⟩ := eq_of_isFinished t h.backEnd h.programSize hpc hfin
  obtain ⟨hpos, -, -, hrn⟩ := posId_of_isFinished t h.backEnd h.programSize hpc hfin
  refine ⟨harch, hretired, rfl, fun hn => ?_⟩
  obtain ⟨c, s, hc⟩ := hc hn
  have hend : vm.posId r = n := hpos.trans hrn
  simp only [Rv5sVm.isFinished, Bool.and_eq_true, Bool.not_eq_true'] at hfin
  obtain ⟨-, ⟨⟨-, hid⟩, hex⟩, hwb⟩ := hfin
  have hstage : vm.stage = 4 := by
    unfold stage
    rw [hid, hex, hwb]
    rfl
  have hdrained := hc.drained hend
  refine ⟨s, by omega, hc.stallCycles, hc.cycleS.trans ?_⟩
  rw [hc.draining (by rw [leaping, hid, Bool.false_and]) hend, hstage]

/-- One step of a run. -/
theorem step_of_running (t : Trace cfg size n A W) (h0 : (A 0).memory.Reachable cfg)
    (h : Running size n A W r vm) :
    ∃ vm', step cfg vm = .ok vm' ∧
      (vm'.stopRequested = true ∧ Finished n A W vm' ∨
        Running size n A W (vm.posMem r) vm' ∧ Rv5sVm.rank n (vm.posMem r) vm' < vm.rank n r) := by
  obtain ⟨vm₁, l, lf, pc, stall, hrun, hc⟩ := runStages_eq t h0 h.inv
  have hinv := hc.stallInv t h.inv
  have hcounted : 0 < n → ∃ c s,
      Counted n A W (vm.posMem r) (leave vm₁ l lf pc stall).endCycle c s := by
    intro hn
    obtain ⟨hgo, c, s, hcs⟩ := h.counted hn
    exact ⟨_, _, hc.counted t h.inv hgo hcs⟩
  refine ⟨(leave vm₁ l lf pc stall).endCycle.reportStep, ?_, ?_⟩
  · unfold step
    rw [if_neg h.status, hrun]
    rfl
  unfold Rv5sVm.reportStep
  by_cases hfin : (leave vm₁ l lf pc stall).endCycle.isFinished = true
  · rw [if_pos hfin]
    exact .inl ⟨rfl, finished_of_isFinished t hinv hfin hcounted⟩
  · rw [if_neg hfin]
    refine .inr ⟨⟨hinv.withStatus, ?_, OutputStatus.noConfusion, fun hn => ?_⟩,
      (hc.finished_or_rank_lt t h.inv).resolve_left hfin⟩
    · exact hc.ok.stopRequested.trans h.going
    · obtain ⟨c, s, hcs⟩ := hcounted hn
      exact ⟨Bool.eq_false_iff.mpr hfin, c, s, hcs.withStatus⟩

/-- A machine before its first cycle, as `Reset` and the load of a program leave it. -/
structure Fresh (cfg : VmConfig) (vm : RV5SStallVM) : Prop where
  toFresh : Rv5sVm.Fresh cfg vm
  forwardingEnabled : vm.forwardingEnabled = false
  cycleS : vm.cycleS = 0#32
  stallCycles : vm.stallCycles = 0#32

theorem running_startRun (t : Trace cfg vm.programSize n A W) (h : Fresh cfg vm)
    (harch : Rv5sVm.arch vm = A 0) : Running vm.programSize n A W 0 (startRun vm) := by
  obtain ⟨hempty, hretired, -⟩ := h.toFresh
  have hmemWb : (startRun vm).memWbReg.isValid = false := congrArg MemWbReg.isValid hempty.memWb
  have hexMem : (startRun vm).exMemReg.isValid = false := congrArg ExMemReg.isValid hempty.exMem
  have hidEx : (startRun vm).idExReg.isValid = false := congrArg IdExReg.isValid hempty.idEx
  have hifId : (startRun vm).ifIdReg.isValid = false := congrArg IfIdReg.isValid hempty.ifId
  have hmem : Rv5sVm.posMem (startRun vm) 0 = 0 := by rw [Rv5sVm.posMem, hmemWb]; rfl
  have hex : Rv5sVm.posEx (startRun vm) 0 = 0 := by rw [Rv5sVm.posEx, hmem, hexMem]; rfl
  have hpos : Rv5sVm.posId (startRun vm) 0 = 0 := by rw [Rv5sVm.posId, hex, hidEx]; rfl
  have hno : (startRun vm).leaping A W 0 = false := by rw [leaping, hidEx, Bool.false_and]
  have hpc : vm.programCounter = (A 0).pc := congrArg ArchState.pc harch
  refine ⟨?_, rfl, OutputStatus.noConfusion, fun hn => ⟨?_, 0, 0, ?_⟩⟩
  · exact {
      backEnd := {
        bound := by omega
        retired := hretired
        registers := congrArg ArchState.registers harch
        memory := by
          rw [hmem]
          exact congrArg ArchState.memory harch
        memWb := hempty.memWb ▸ holdsMemWb_bubble
        exMem := hempty.exMem ▸ holdsExMem_bubble
        idEx := hempty.idEx ▸ holdsIdEx_bubble }
      programSize := rfl
      forwardingEnabled := h.forwardingEnabled
      operands := fun hv => Bool.noConfusion (hidEx.symm.trans hv)
      path := fun _ => ⟨fun hv => Bool.noConfusion (hifId.symm.trans hv), fun _ => by
        rw [hpos]
        exact hpc⟩ }
  · have hin : ¬vm.programSize ≤ vm.programCounter := by
      rw [hpc]
      exact BitVec.not_le.mpr (t.inside 0 hn)
    exact Bool.and_eq_false_iff.mpr (.inl (decide_eq_false hin))
  · have hslack : slack (startRun vm) = 0 := by
      rw [slack, hidEx, hexMem]
      rfl
    refine ⟨h.cycleS, h.stallCycles, by omega, by omega, fun h' => ?_, fun _ _ => ?_,
      fun _ hend => by omega⟩
    · rw [hno] at h'
      cases h'
    · rw [hpos, hifId]
      rfl

/-- `Run` before the first cycle computes the run of the abstract machine. -/
theorem run_of_trace (t : Trace cfg vm.programSize n A W) (h : Fresh cfg vm)
    (harch : Rv5sVm.arch vm = A 0) :
    ∃ fuel vm', run cfg fuel vm = some (.ok vm') ∧ Finished n A W vm' := by
  have h0 : (A 0).memory.Reachable cfg := by
    rw [← harch]
    exact h.toFresh.memory
  obtain ⟨fuel, vm', hrun, hend⟩ := runUntil_of_rank
    (fun vm : RV5SStallVM => vm.stopRequested) (step cfg)
    (fun k s => ∃ r, Running vm.programSize n A W r s ∧ s.rank n r = k)
    (Finished n A W)
    (fun k s hinv => by
      obtain ⟨r, hrunning, hk⟩ := hinv
      obtain ⟨s', hstep, hnext⟩ := step_of_running t h0 hrunning
      refine ⟨s', hstep, hnext.imp_right fun ⟨hrunning', hlt⟩ => ?_⟩
      exact ⟨hrunning'.going, _, hk ▸ hlt, _, hrunning', rfl⟩)
    (s := startRun vm) ⟨0, running_startRun t h harch, rfl⟩ rfl
  exact ⟨fuel, { vm' with stopRequested := false }, by rw [run, hrun]; rfl, hend.arch,
    hend.retired, hend.status, hend.cycles⟩

/-- A program loaded into a new machine. -/
theorem fresh_of_loadProgram {program : AssembledProgram}
    (h : (new cfg).loadProgram cfg program = .ok vm) : Fresh cfg vm := by
  obtain ⟨base, hbase, rfl⟩ := bind_pure_eq_ok.mp h
  obtain ⟨m₁, c₁, m₂, c₂, htext, hdata, rfl⟩ := loadProgram_eq_ok.mp (throwWith_eq_ok.mp hbase)
  have hreachable : m₂.Reachable cfg :=
    reachable_loadData (reachable_loadText Memory.Reachable.new.reset htext) hdata
  exact ⟨⟨⟨rfl, rfl, rfl, rfl⟩, rfl, hreachable⟩, rfl, rfl, rfl⟩

/-- **The stalling pipeline computes the run of the abstract machine**: `Run`
halts with its registers, its memory and its program counter, and with as many
instructions retired. -/
theorem run_refines_trace (t : Trace cfg vm.programSize n A W) (h : Fresh cfg vm)
    (harch : Rv5sVm.arch vm = A 0) :
    ∃ fuel vm', run cfg fuel vm = some (.ok vm') ∧
      (∀ i, vm'.registers.readGpr i = (A n).registers.readGpr i) ∧
      vm'.memoryController = (A n).memory ∧
      vm'.programCounter = (A n).pc ∧
      vm'.instructionsRetired = BitVec.ofNat 32 n ∧
      vm'.outputStatus = .programEnd := by
  obtain ⟨fuel, vm', hrun, hend⟩ := run_of_trace t h harch
  have hregs : vm'.registers = (A n).registers := congrArg ArchState.registers hend.arch
  exact ⟨fuel, vm', hrun, fun i => by rw [hregs], congrArg ArchState.memory hend.arch,
    congrArg ArchState.pc hend.arch, hend.retired, hend.status⟩

/-- `addi x1, x0, 5`, `add x2, x1, x1`, a jump over the next word, `addi x2, x0, 0`,
`addi x3, x0, 1`. -/
def doubleAndSkip : AssembledProgram where
  textBuffer := [0x00500093#32, 0x00108133#32, 0x0080006f#32, 0x00000113#32, 0x00100193#32]

/-- The machine with that program. -/
def loadedDoubleAndSkip : RV5SStallVM :=
  ((new {}).loadProgram {} doubleAndSkip).toOption.getD (new {})

/-- The run of that program, one instruction at a time. -/
def runDoubleAndSkip (i : Nat) : ArchState :=
  Rv5sVm.arch (after (RV5SEXVM.runAlone {}) loadedDoubleAndSkip i)

theorem loadProgram_doubleAndSkip :
    (new {}).loadProgram {} doubleAndSkip = .ok loadedDoubleAndSkip :=
  eq_ok_getD _ (by decide +kernel)

theorem trace_doubleAndSkip :
    Trace {} loadedDoubleAndSkip.programSize 4 runDoubleAndSkip
      fun i => (runDoubleAndSkip i).word := by
  have hstep : ∀ i < 4, (RV5SEXVM.runAlone {}
      (after (RV5SEXVM.runAlone {}) loadedDoubleAndSkip i)).toOption.isSome = true := by
    decide +kernel
  have hstores : ∀ i < 4, (runDoubleAndSkip i).storeAddresses = [] := by
    decide +kernel
  have h : RV5SEXVM.Sequential {} 4 (after (RV5SEXVM.runAlone {}) loadedDoubleAndSkip) := {
    step := fun i hi => eq_ok_getD _ (hstep i hi)
    halted := by decide +kernel
    apart := fun i hi j _ a ha => by
      rw [show (Rv5sVm.arch _).storeAddresses = [] from hstores i hi] at ha
      cases ha }
  have h0 : after (RV5SEXVM.runAlone {}) loadedDoubleAndSkip 0 = loadedDoubleAndSkip := rfl
  have t := h.trace (by
    rw [h0]
    exact (fresh_of_loadProgram loadProgram_doubleAndSkip).toFresh.isEmpty)
  rw [h0] at t
  exact t

theorem run_refines_trace_doubleAndSkip :
    ∃ fuel vm', run {} fuel loadedDoubleAndSkip = some (.ok vm') ∧
      vm'.registers.readGpr 2#5 = 10#64 ∧ vm'.instructionsRetired = 4#32 := by
  obtain ⟨fuel, vm', hrun, hregs, -, -, hretired, -⟩ := run_refines_trace trace_doubleAndSkip
    (fresh_of_loadProgram loadProgram_doubleAndSkip) rfl
  refine ⟨fuel, vm', hrun, ?_, hretired⟩
  rw [hregs]
  decide +kernel

theorem run_unique {a b : Except (Fault × RV5SStallVM) RV5SStallVM} {fuel fuel' : Nat}
    (ha : run cfg fuel vm = some a) (hb : run cfg fuel' vm = some b) : a = b := by
  obtain ⟨x, hx, rfl⟩ := Option.map_eq_some_iff.mp ha
  obtain ⟨y, hy, rfl⟩ := Option.map_eq_some_iff.mp hb
  rw [runUntil_unique hx hy]

/-- **The cycles of a run** of `n` instructions are those, the stalls, two for each
instruction but the last that leaps, and the four that empty the pipeline; an
instruction after the first is stalled at most twice. -/
theorem cycleS_of_run (t : Trace cfg vm.programSize n A W) (h : Fresh cfg vm)
    (harch : Rv5sVm.arch vm = A 0) (hn : 0 < n) {fuel : Nat} {vm' : RV5SStallVM}
    (hrun : run cfg fuel vm = some (.ok vm')) :
    ∃ s, s ≤ 2 * (n - 1) ∧ vm'.stallCycles = BitVec.ofNat 32 s ∧
      vm'.cycleS = BitVec.ofNat 32 (n + s + 2 * leapsBefore A W (n - 1) + 4) := by
  obtain ⟨fuel', vm'', hrun', hend⟩ := run_of_trace t h harch
  obtain rfl := Except.ok.inj (run_unique hrun hrun')
  exact hend.cycles hn

theorem cycleS_of_run_doubleAndSkip :
    ∃ fuel vm', run {} fuel loadedDoubleAndSkip = some (.ok vm') ∧
      ∃ s, s ≤ 6 ∧ vm'.stallCycles = BitVec.ofNat 32 s ∧
        vm'.cycleS = BitVec.ofNat 32 (10 + s) := by
  have hfresh := fresh_of_loadProgram loadProgram_doubleAndSkip
  obtain ⟨fuel, vm', hrun, -⟩ := run_of_trace trace_doubleAndSkip hfresh rfl
  obtain ⟨s, hs, hstalls, hcycles⟩ :=
    cycleS_of_run trace_doubleAndSkip hfresh rfl (by decide) hrun
  have hleaps : leapsBefore runDoubleAndSkip (fun i => (runDoubleAndSkip i).word) 3 = 1 := by
    decide +kernel
  have hsum : 4 + s + 2 * leapsBefore runDoubleAndSkip (fun i => (runDoubleAndSkip i).word) (4 - 1) +
      4 = 10 + s := by
    rw [show 4 - 1 = 3 from rfl, hleaps]
    omega
  exact ⟨fuel, vm', hrun, s, hs, hstalls, hcycles.trans (congrArg (BitVec.ofNat 32) hsum)⟩

end RV5SStallVM

end RiscvSim

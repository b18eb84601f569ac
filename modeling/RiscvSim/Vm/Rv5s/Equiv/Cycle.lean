import RiscvSim.Vm.Equiv.Loader
import RiscvSim.Vm.Rv5s.Equiv.Hazards

/-!
# A cycle of the back end

`CycleOk` collects what the stages of a cycle leave in the latches, for either
machine.  Moving the latches then gives the back end of the next cycle
(`CycleOk.backEnd`), with operands that are ready (`CycleOk.operandsLatched`).
-/

namespace RiscvSim

open RV5SControlUnit RV5SHazardUnit Lib

/-- The source registers in the second latch were read from the register file
during a decode that did not stall. -/
structure Latched (vm : Rv5sVm) (w : BitVec 32) (l : IdExReg) : Prop where
  rs1Data : l.rs1Data = vm.registers.readGpr l.rs1Index
  rs2Data : l.rs2Data = vm.registers.readGpr l.rs2Index
  noStall : vm.dataStall (getControlSignals w) l.rs1Index l.rs2Index = false

/-- The registers that execute reads for the instruction in the second latch. -/
def IdExReg.Reads (l : IdExReg) (i : BitVec 5) : Prop :=
  l.control.aluSrcA = .rs1 ∧ i = l.rs1Index ∨ i = l.rs2Index

/-- Instructions still to come, weighted by how far they are from retiring. -/
def Rv5sVm.rank (n r : Nat) (vm : Rv5sVm) : Nat :=
  6 * (n - vm.posId r) + 4 * vm.idExReg.isValid.toNat + 2 * vm.exMemReg.isValid.toNat +
    vm.memWbReg.isValid.toNat + (1 - vm.ifIdReg.isValid.toNat)

/-- What the stages of a cycle leave, before the latches move.  `vm₁` is the
machine that decode worked on. -/
structure CycleOk (n : Nat) (A : Nat → ArchState) (W : Nat → BitVec 32) (r : Nat)
    (vm vm₁ vm' : Rv5sVm) : Prop where
  retired : vm'.instructionsRetired = BitVec.ofNat 32 (vm.posMem r)
  registers : vm'.registers = (A (vm.posMem r)).registers
  memory : vm'.memoryController = (A (vm.posEx r)).memory
  programSize : vm'.programSize = vm.programSize
  forwardingEnabled : vm'.forwardingEnabled = vm.forwardingEnabled
  stopRequested : vm'.stopRequested = vm.stopRequested
  memWb : HoldsMemWb A W (vm.posMem r) vm'.nextMemWbReg
  memWbValid : vm'.nextMemWbReg.isValid = vm.exMemReg.isValid
  exMem : HoldsExMem A W (vm.posEx r) vm'.nextExMemReg
  exMemValid : vm'.nextExMemReg.isValid = vm.idExReg.isValid
  exMemWrite : CarriesWrite vm.idExReg.control vm.idExReg.rdIndex vm'.nextExMemReg.control
    vm'.nextExMemReg.rdIndex
  idEx : HoldsIdEx A W (vm.posId r) vm'.nextIdExReg
  bound : vm.posId r + vm'.nextIdExReg.isValid.toNat ≤ n
  decodedFrom : vm₁.registers = vm'.registers ∧ vm₁.forwardingEnabled = vm'.forwardingEnabled ∧
    vm₁.idExReg = vm.idExReg ∧ vm₁.exMemReg = vm.exMemReg
  latched : vm'.nextIdExReg.isValid = true →
    (getControlSignals (W (vm.posId r))).isNop = false →
    Latched vm₁ (W (vm.posId r)) vm'.nextIdExReg

namespace CycleOk

variable {cfg : VmConfig} {size : BitVec 64} {n : Nat} {A : Nat → ArchState}
  {W : Nat → BitVec 32} {r : Nat} {vm vm₁ vm' : Rv5sVm}

theorem posMem_eq (h : CycleOk n A W r vm vm₁ vm') :
    vm'.endCycle.posMem (vm.posMem r) = vm.posEx r :=
  congrArg (fun v : Bool => vm.posMem r + v.toNat) h.memWbValid

theorem posEx_eq (h : CycleOk n A W r vm vm₁ vm') :
    vm'.endCycle.posEx (vm.posMem r) = vm.posId r := by
  unfold Rv5sVm.posEx
  rw [h.posMem_eq]
  exact congrArg (fun v : Bool => vm.posEx r + v.toNat) h.exMemValid

theorem posId_eq (h : CycleOk n A W r vm vm₁ vm') :
    vm'.endCycle.posId (vm.posMem r) = vm.posId r + vm'.nextIdExReg.isValid.toNat := by
  unfold Rv5sVm.posId
  rw [h.posEx_eq]
  rfl

/-- The back end of the next cycle. -/
theorem backEnd (h : CycleOk n A W r vm vm₁ vm') :
    BackEnd n A W (vm.posMem r) vm'.endCycle where
  bound := by
    rw [h.posId_eq]
    exact h.bound
  retired := h.retired
  registers := h.registers
  memory := by
    rw [h.posMem_eq]
    exact h.memory
  memWb := h.memWb
  exMem := by
    rw [h.posMem_eq]
    exact h.exMem
  idEx := by
    rw [h.posEx_eq]
    exact h.idEx

/-- The instruction that decode has latched finds its operands in the next
cycle, when no return address is forwarded to it. -/
theorem operandsLatched (h : CycleOk n A W r vm vm₁ vm') (t : Trace cfg size n A W)
    (hb : BackEnd n A W r vm) (hv : vm'.nextIdExReg.isValid = true)
    (hnop : (getControlSignals (W (vm.posId r))).isNop = false)
    (hlink : ∀ i, vm'.nextIdExReg.Reads i → vm'.forwardingEnabled = true →
      vm'.nextExMemReg.control.wbSrc = .fromPcInc →
      vm'.nextExMemReg.ForwardsTo i ((A (vm.posId r)).registers.readGpr i)) :
    OperandsLatched A (vm.posId r) vm'.endCycle := by
  have hc := controlCase_getControlSignals hnop
  have hl := h.latched hv hnop
  have hok := h.idEx.1 hv
  have hn : vm'.nextIdExReg.control.isNop = false := by rw [hok.control, hnop]
  obtain ⟨hregs, hfwd, hex, hmem⟩ := h.decodedFrom
  have hpos : vm.posEx r + vm'.nextExMemReg.isValid.toNat = vm.posId r := by
    rw [h.exMemValid]
    rfl
  have hread : vm₁.idExReg.control.memRead = true → vm₁.idExReg.control.regWrite = true := by
    rw [hex]
    intro hr
    cases hv' : vm.idExReg.isValid with
    | false =>
      rw [hb.idEx.2 hv'] at hr
      cases hr
    | true =>
      rw [(hb.idEx.1 hv').control] at hr ⊢
      cases hnop' : (getControlSignals (W (vm.posEx r))).isNop with
      | true => simp [signals_of_isNop hnop'] at hr
      | false => exact (controlCase_getControlSignals hnop').regWrite_of_memRead hr
  have hready : ∀ i, ((getControlSignals (W (vm.posId r))).aluSrcA = .rs1 ∧
        i = vm'.nextIdExReg.rs1Index ∨
      rs2Required (getControlSignals (W (vm.posId r))) = true ∧ i = vm'.nextIdExReg.rs2Index ∨
      i = 0#5) → vm'.nextIdExReg.Reads i →
      vm'.endCycle.OperandReady i ((A (vm.posId r)).registers.readGpr i) := by
    intro i hi hreads
    have hready := operandReady_of_no_stall (p := vm.posEx r) t vm₁ vm'.endCycle i hl.noStall hfwd.symm (hex ▸ h.exMemWrite)
      (hmem ▸ carriesWrite_of_holds (p := vm.posMem r) hb.exMem h.memWb h.memWbValid) hi h.exMem
      (by
        change vm.posEx r + vm'.nextExMemReg.isValid.toNat ≤ n
        rw [hpos]
        exact hb.bound) hread
      (by
        change _ → _ → vm'.nextExMemReg.ForwardsTo i
          ((A (vm.posEx r + vm'.nextExMemReg.isValid.toNat)).registers.readGpr i)
        rw [hpos]
        exact hlink i hreads)
    change vm'.endCycle.OperandReady i
      ((A (vm.posEx r + vm'.nextExMemReg.isValid.toNat)).registers.readGpr i) at hready
    rwa [hpos] at hready
  refine ⟨hl.rs1Data.trans (by rw [hregs]; rfl), hl.rs2Data.trans (by rw [hregs]; rfl),
    fun hsrc => hready _ (.inl ⟨hok.control ▸ hsrc, rfl⟩) (.inl ⟨hsrc, rfl⟩),
    hready _ (.inr ?_) (.inr rfl)⟩
  cases hr2 : rs2Required (getControlSignals (W (vm.posId r))) with
  | true => exact .inl ⟨rfl, rfl⟩
  | false => exact .inr ((hok.rs2Index hn).trans (hc.rs2IndexOf_eq_zero hr2))

/-- A cycle brings the instructions ahead, unless it has ended the run. -/
theorem finished_or_rank_lt (h : CycleOk n A W r vm vm₁ vm') (t : Trace cfg size n A W)
    (hsize : vm.programSize = size)
    (hpc : vm'.endCycle.ifIdReg.isValid = false → vm'.nextIdExReg.isValid = false →
      vm'.programCounter = (A (vm.posId r)).pc)
    (hprogress : vm'.nextIdExReg.isValid = false → vm.idExReg.isValid = true ∨
      (vm.ifIdReg.isValid = false ∧ (vm'.endCycle.ifIdReg.isValid = true ∨ vm.posId r = n)) ∨
      (vm'.endCycle.ifIdReg.isValid = true ∧
        (vm.idExReg.isValid = true ∨ vm.exMemReg.isValid = true))) :
    vm'.endCycle.isFinished = true ∨ vm'.endCycle.rank n (vm.posMem r) < vm.rank n r := by
  have hbound := h.bound
  unfold Rv5sVm.rank
  rw [h.posId_eq]
  show _ ∨ 6 * _ + 4 * vm'.nextIdExReg.isValid.toNat + 2 * vm'.nextExMemReg.isValid.toNat +
    vm'.nextMemWbReg.isValid.toNat + _ < _
  rw [h.exMemValid, h.memWbValid]
  have he := vm.idExReg.isValid.toNat_le
  have hm := vm.exMemReg.isValid.toNat_le
  cases hd : vm'.nextIdExReg.isValid with
  | true =>
    rw [hd, Bool.toNat_true] at hbound
    right
    rw [Bool.toNat_true]
    omega
  | false =>
    rw [Bool.toNat_false, Nat.add_zero]
    rcases hprogress hd with hv | ⟨hv, hv' | hend⟩ | ⟨hv', hv⟩
    · right
      rw [hv, Bool.toNat_true]
      omega
    · right
      rw [hv, hv', Bool.toNat_true, Bool.toNat_false]
      omega
    · by_cases hempty : vm.idExReg.isValid = false ∧ vm.exMemReg.isValid = false ∧
          vm'.endCycle.ifIdReg.isValid = false
      · left
        obtain ⟨hv₁, hv₂, hv₃⟩ := hempty
        have hge : vm'.programSize ≤ vm'.programCounter := by
          rw [h.programSize.trans hsize, hpc hv₃ hd, hend]
          exact t.halted
        show (decide (vm'.programSize ≤ vm'.programCounter) &&
          (!vm'.endCycle.ifIdReg.isValid && !vm'.nextIdExReg.isValid &&
            !vm'.nextExMemReg.isValid && !vm'.nextMemWbReg.isValid)) = true
        rw [decide_eq_true hge, hv₃, hd, h.exMemValid, hv₁, h.memWbValid, hv₂]
        rfl
      · right
        rw [hv, Bool.toNat_false]
        simp only [not_and_or, Bool.not_eq_false] at hempty
        rcases hempty with h' | h' | h' <;> rw [h', Bool.toNat_true] <;> omega
    · right
      rw [hv', Bool.toNat_true]
      rcases hv with hv | hv <;> rw [hv, Bool.toNat_true] <;> omega

end CycleOk

/-! ### The ends of the run -/

/-- No instruction is in the pipeline. -/
structure Rv5sVm.IsEmpty (vm : Rv5sVm) : Prop where
  ifId : vm.ifIdReg = .bubble
  idEx : vm.idExReg = .bubble
  exMem : vm.exMemReg = .bubble
  memWb : vm.memWbReg = .bubble

/-- A machine before its first cycle: nothing is in the pipeline, nothing has
retired, and the memory is one the memory class can produce.  The registers,
the predictor and the hazard mode are arbitrary. -/
structure Rv5sVm.Fresh (cfg : VmConfig) (vm : Rv5sVm) : Prop where
  isEmpty : vm.IsEmpty
  retired : vm.instructionsRetired = 0#32
  memory : vm.memoryController.Reachable cfg

/-- `Reset` and the load of a program lead to such a machine. -/
theorem fresh_of_loadProgram {cfg : VmConfig} (vm : Rv5sVm) {vm' : Rv5sVm}
    (program : AssembledProgram)
    (hm : vm.memoryController.Reachable cfg)
    (h : (vm.reset cfg).loadProgram cfg program = .ok vm') : vm'.Fresh cfg := by
  obtain ⟨base, hbase, rfl⟩ := bind_pure_eq_ok.mp h
  obtain ⟨hretired, -, -, hmemory⟩ := frame_of_loadProgram (throwWith_eq_ok.mp hbase)
  exact ⟨⟨rfl, rfl, rfl, rfl⟩, hretired, hmemory hm.reset⟩

/-- Nothing is forwarded from an empty memory and write-back stage. -/
theorem forwardOperand_of_bubble {vm : Rv5sVm} (hex : vm.exMemReg = .bubble)
    (hwb : vm.memWbReg = .bubble) (i : BitVec 5) (data : BitVec 64) :
    (if vm.forwardingEnabled then
      vm.forwardOperand (RV5SForwardingUnit.getAluSrc i vm.exMemReg vm.memWbReg) data
    else data) = data := by
  have hsrc : RV5SForwardingUnit.getAluSrc i vm.exMemReg vm.memWbReg = .fromReg := by
    rw [hex, hwb]
    simp [RV5SForwardingUnit.getAluSrc, ExMemReg.bubble, MemWbReg.bubble]
  rw [hsrc]
  exact ite_self _

/-- An instruction that is in the pipeline alone takes its operands from the registers. -/
theorem operandsOk_of_alone {s : ArchState} {w : BitVec 32} {vm : Rv5sVm}
    (hex : vm.exMemReg = .bubble) (hwb : vm.memWbReg = .bubble)
    (hregs : vm.registers = s.registers) (h1 : vm.idExReg.rs1Index = rs1IndexOf w)
    (h2 : vm.idExReg.rs2Index = rs2IndexOf w)
    (hd1 : vm.idExReg.rs1Data = vm.registers.readGpr vm.idExReg.rs1Index)
    (hd2 : vm.idExReg.rs2Data = vm.registers.readGpr vm.idExReg.rs2Index) :
    OperandsOk s w vm.dataAluA vm.dataAluB := by
  constructor
  · intro _
    refine (forwardOperand_of_bubble hex hwb _ _).trans ?_
    rw [hd1, h1, hregs]
    rfl
  · refine (forwardOperand_of_bubble hex hwb _ _).trans ?_
    rw [hd2, h2, hregs]
    rfl

section

variable {n : Nat} {A : Nat → ArchState} {W : Nat → BitVec 32} {r : Nat} {vm : Rv5sVm}
  {stop : Bool} {status : OutputStatus}

/-- The flags of the run loop are no concern of the back end. -/
theorem BackEnd.withStatus (h : BackEnd n A W r vm) :
    BackEnd n A W r { vm with stopRequested := stop, outputStatus := status } :=
  ⟨h.bound, h.retired, h.registers, h.memory, h.memWb, h.exMem, h.idEx⟩

theorem OperandsLatched.withStatus (h : OperandsLatched A r vm) :
    OperandsLatched A r { vm with stopRequested := stop, outputStatus := status } :=
  ⟨h.rs1Data, h.rs2Data, h.left, h.right⟩

end

/-- An empty pipeline past the end of the program is at the end of the run. -/
theorem posId_of_isFinished {cfg : VmConfig} {size : BitVec 64} {n : Nat} {A : Nat → ArchState}
    {W : Nat → BitVec 32} {r : Nat} {vm : Rv5sVm} (t : Trace cfg size n A W)
    (hb : BackEnd n A W r vm) (hsize : vm.programSize = size)
    (hpc : vm.ifIdReg.isValid = false → vm.idExReg.isValid = false →
      vm.programCounter = (A (vm.posId r)).pc)
    (h : vm.isFinished = true) : vm.posId r = r ∧ vm.posEx r = r ∧ vm.posMem r = r ∧ r = n := by
  simp only [Rv5sVm.isFinished, Bool.and_eq_true, decide_eq_true_eq, Bool.not_eq_true'] at h
  obtain ⟨hge, ⟨⟨hif, hid⟩, hex⟩, hwb⟩ := h
  have hmem : vm.posMem r = r := by simp [Rv5sVm.posMem, hwb]
  have hposEx : vm.posEx r = r := by simp [Rv5sVm.posEx, hmem, hex]
  have hpos : vm.posId r = r := by simp [Rv5sVm.posId, hposEx, hid]
  have hpc' := hpc hif hid
  rw [hpos] at hpc'
  rw [hsize, hpc'] at hge
  exact ⟨hpos, hposEx, hmem, t.eq_of_halted (hpos ▸ hb.bound) hge⟩

/-- An empty pipeline past the end of the program has retired the whole run. -/
theorem eq_of_isFinished {cfg : VmConfig} {size : BitVec 64} {n : Nat} {A : Nat → ArchState}
    {W : Nat → BitVec 32} {r : Nat} {vm : Rv5sVm} (t : Trace cfg size n A W)
    (hb : BackEnd n A W r vm) (hsize : vm.programSize = size)
    (hpc : vm.ifIdReg.isValid = false → vm.idExReg.isValid = false →
      vm.programCounter = (A (vm.posId r)).pc)
    (h : vm.isFinished = true) :
    vm.arch = A n ∧ vm.instructionsRetired = BitVec.ofNat 32 n := by
  obtain ⟨hpos, -, hmem, hrn⟩ := posId_of_isFinished t hb hsize hpc h
  simp only [Rv5sVm.isFinished, Bool.and_eq_true, Bool.not_eq_true'] at h
  obtain ⟨-, ⟨⟨hif, hid⟩, -⟩, -⟩ := h
  have hpc' := hpc hif hid
  rw [hpos] at hpc'
  subst hrn
  refine ⟨?_, hb.retired⟩
  have hmemory := hb.memory
  rw [hmem] at hmemory
  unfold Rv5sVm.arch
  rw [hpc', hb.registers, hmemory]

end RiscvSim

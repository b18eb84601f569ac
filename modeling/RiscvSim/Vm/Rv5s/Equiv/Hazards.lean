import RiscvSim.Vm.Rv5s.Equiv.BackEnd

/-!
# What the hazard unit rules out

When decode does not stall, the instruction it latches finds its source
registers in the next cycle (`operandReady_of_no_stall`): with forwarding
because the instruction ahead of it is no load of one of them, without
forwarding because neither of the two instructions ahead writes one.
-/

namespace RiscvSim

open RV5SControlUnit RV5SHazardUnit Lib

/-- No load of `i` in the execute stage, for a source register `i`. -/
theorem memRead_of_detectLoadUseHazard {c : ControlSignals} {i1 i2 : BitVec 5} {l : IdExReg}
    (h : detectLoadUseHazard c i1 i2 l = false) (hread : l.control.memRead = true)
    (hz : l.rdIndex ≠ 0#5) :
    (c.aluSrcA = .rs1 → l.rdIndex ≠ i1) ∧ (rs2Required c = true → l.rdIndex ≠ i2) := by
  unfold detectLoadUseHazard at h
  simp only [hread, Bool.not_true, Bool.false_eq_true, if_false, beq_iff_eq, hz] at h
  constructor
  · rintro hsrc rfl
    simp [hsrc] at h
  · rintro hreq rfl
    simp [hreq] at h

/-- No write of `i` by the two instructions ahead, for a source register `i`. -/
theorem ne_of_detectDataHazard {c : ControlSignals} {i1 i2 : BitVec 5} {l : IdExReg}
    {l' : ExMemReg} (h : detectDataHazard c i1 i2 l l' = false) :
    (l.control.regWrite = true → l.rdIndex ≠ 0#5 →
      (c.aluSrcA = .rs1 → l.rdIndex ≠ i1) ∧ (rs2Required c = true → l.rdIndex ≠ i2)) ∧
    (l'.control.regWrite = true → l'.rdIndex ≠ 0#5 →
      (c.aluSrcA = .rs1 → l'.rdIndex ≠ i1) ∧ (rs2Required c = true → l'.rdIndex ≠ i2)) := by
  unfold detectDataHazard at h
  simp only [Bool.and_eq_true, Bool.or_eq_true, beq_iff_eq, bne_iff_ne] at h
  split at h
  · cases h
  · next h1 =>
    split at h
    · cases h
    · next h2 =>
      exact ⟨fun hw hz => ⟨fun ha he => h1 ⟨⟨hw, hz⟩, .inl ⟨ha, he⟩⟩,
          fun hr he => h1 ⟨⟨hw, hz⟩, .inr ⟨hr, he⟩⟩⟩,
        fun hw hz => ⟨fun ha he => h2 ⟨⟨hw, hz⟩, .inl ⟨ha, he⟩⟩,
          fun hr he => h2 ⟨⟨hw, hz⟩, .inr ⟨hr, he⟩⟩⟩⟩

/-- There is no hazard with an empty execute and memory stage. -/
theorem valid_of_dataStall {vm : Rv5sVm} {c : ControlSignals} {i1 i2 : BitVec 5}
    (hex : vm.idExReg.isValid = false → vm.idExReg = .bubble)
    (hmem : vm.exMemReg.isValid = false → vm.exMemReg = .bubble)
    (h : vm.dataStall c i1 i2 = true) :
    vm.idExReg.isValid = true ∨ vm.exMemReg.isValid = true := by
  cases h1 : vm.idExReg.isValid with
  | true => exact .inl rfl
  | false =>
    cases h2 : vm.exMemReg.isValid with
    | true => exact .inr rfl
    | false =>
      simp [Rv5sVm.dataStall, hex h1, hmem h2, detectLoadUseHazard, detectDataHazard,
        IdExReg.bubble, ExMemReg.bubble] at h

/-- A latch that carries on the register write of the latch before it. -/
structure CarriesWrite (c : ControlSignals) (rd : BitVec 5) (c' : ControlSignals)
    (rd' : BitVec 5) : Prop where
  control : c' = c
  rdIndex : c'.regWrite = true → rd' = rd

section

variable {cfg : VmConfig} {size : BitVec 64} {n : Nat} {A : Nat → ArchState}
  {W : Nat → BitVec 32} {p : Nat}

/-- The last latch carries on the write of the third. -/
theorem carriesWrite_of_holds {l : ExMemReg} {l' : MemWbReg} (h : HoldsExMem A W p l)
    (h' : HoldsMemWb A W p l') (hv : l'.isValid = l.isValid) :
    CarriesWrite l.control l.rdIndex l'.control l'.rdIndex := by
  cases hl : l.isValid with
  | false =>
    rw [h.2 hl, h'.2 (hv.trans hl)]
    exact ⟨rfl, fun _ => rfl⟩
  | true =>
    have hok := h.1 hl
    have hok' := h'.1 (hv.trans hl)
    refine ⟨hok'.control.trans hok.control.symm, fun hw => ?_⟩
    cases hnop : (getControlSignals (W p)).isNop with
    | true => simp [hok'.control, signals_of_isNop hnop] at hw
    | false =>
      exact (hok'.rdIndex (by rw [hok'.control, hnop])).trans
        (hok.rdIndex (by rw [hok.control, hnop])).symm

/-- The instruction in the third latch forwards its ALU result to register `i`
correctly unless it is a load, or a jump whose target is not its return address. -/
theorem forwardsTo_of_hazardFree (t : Trace cfg size n A W) {l : ExMemReg} {i : BitVec 5}
    (h : HoldsExMem A W p l) (hp : p + l.isValid.toNat ≤ n)
    (hload : l.control.memRead = true → l.rdIndex = i → i ≠ 0#5 → False)
    (hlink : l.control.wbSrc = .fromPcInc →
      l.ForwardsTo i ((A (p + l.isValid.toNat)).registers.readGpr i)) :
    l.ForwardsTo i ((A (p + l.isValid.toNat)).registers.readGpr i) := by
  cases hv : l.isValid with
  | false =>
    rw [h.2 hv]
    exact fun hw => Bool.noConfusion hw
  | true =>
    have hok := h.1 hv
    rw [hv, Bool.toNat_true] at hlink hp
    rw [Bool.toNat_true]
    by_cases hpc : l.control.wbSrc = .fromPcInc
    · exact hlink hpc
    refine forwardsTo_of_fromAlu t (by omega) hok fun hw hrd hz => ?_
    have hnop : (getControlSignals (W p)).isNop = false := by
      cases hnop : (getControlSignals (W p)).isNop with
      | false => rfl
      | true => simp [hok.control, (signals_of_isNop hnop).1] at hw
    have hc : ControlCase (W p) l.control := by
      rw [hok.control]
      exact controlCase_getControlSignals hnop
    cases hsrc : l.control.wbSrc with
    | fromAlu => rfl
    | none => exact absurd hsrc (hc.wbSrc_ne_none hw)
    | fromMem => exact absurd (hc.memRead_iff.mpr hsrc) fun hread => hload hread hrd hz
    | fromPcInc => exact absurd hsrc hpc

end

/-- After a decode that does not stall, the source registers can be read in
execute.  `vm` is the machine during decode, `vm'` the one in the next cycle. -/
theorem operandReady_of_no_stall {cfg : VmConfig} {size : BitVec 64} {n : Nat}
    {A : Nat → ArchState} {W : Nat → BitVec 32} {p : Nat} (t : Trace cfg size n A W)
    (vm vm' : Rv5sVm) {c : ControlSignals} {i1 i2 : BitVec 5} (i : BitVec 5)
    (hstall : vm.dataStall c i1 i2 = false)
    (hfwd : vm'.forwardingEnabled = vm.forwardingEnabled)
    (hex : CarriesWrite vm.idExReg.control vm.idExReg.rdIndex vm'.exMemReg.control
      vm'.exMemReg.rdIndex)
    (hmem : CarriesWrite vm.exMemReg.control vm.exMemReg.rdIndex vm'.memWbReg.control
      vm'.memWbReg.rdIndex)
    (hi : c.aluSrcA = .rs1 ∧ i = i1 ∨ rs2Required c = true ∧ i = i2 ∨ i = 0#5)
    (h : HoldsExMem A W p vm'.exMemReg) (hp : p + vm'.exMemReg.isValid.toNat ≤ n)
    (hread : vm.idExReg.control.memRead = true → vm.idExReg.control.regWrite = true)
    (hlink : vm'.forwardingEnabled = true → vm'.exMemReg.control.wbSrc = .fromPcInc →
      vm'.exMemReg.ForwardsTo i ((A (p + vm'.exMemReg.isValid.toNat)).registers.readGpr i)) :
    vm'.OperandReady i ((A (p + vm'.exMemReg.isValid.toNat)).registers.readGpr i) := by
  unfold Rv5sVm.dataStall at hstall
  unfold Rv5sVm.OperandReady
  rw [hfwd]
  by_cases hf : vm.forwardingEnabled = true
  · simp only [hf, if_true] at hstall ⊢
    refine forwardsTo_of_hazardFree t h hp ?_ (hlink (hfwd.trans hf))
    intro hr hrd hz
    rw [hex.control] at hr
    rw [hex.rdIndex (by rw [hex.control]; exact hread hr)] at hrd
    subst hrd
    have hno := memRead_of_detectLoadUseHazard hstall hr hz
    rcases hi with ⟨ha, h1⟩ | ⟨hb, h2⟩ | h0
    · exact hno.1 ha h1
    · exact hno.2 hb h2
    · exact hz h0
  · simp only [hf, Bool.false_eq_true, if_false] at hstall ⊢
    have hno := ne_of_detectDataHazard hstall
    constructor
    · rintro ⟨v, hv⟩
      unfold ExMemReg.pending at hv
      split at hv
      · next hw =>
        obtain ⟨rfl, -⟩ := Prod.mk.inj (Option.some.inj hv)
        obtain ⟨hw, hz⟩ := hw
        rw [hex.rdIndex hw] at hi hz
        rw [hex.control] at hw
        rcases hi with ⟨ha, h1⟩ | ⟨hb, h2⟩ | h0
        · exact (hno.1 hw hz).1 ha h1
        · exact (hno.1 hw hz).2 hb h2
        · exact hz h0
      · cases hv
    · rintro ⟨v, hv⟩
      unfold MemWbReg.pending at hv
      split at hv
      · next hw =>
        obtain ⟨rfl, -⟩ := Prod.mk.inj (Option.some.inj hv)
        obtain ⟨hw, hz⟩ := hw
        rw [hmem.rdIndex hw] at hi hz
        rw [hmem.control] at hw
        rcases hi with ⟨ha, h1⟩ | ⟨hb, h2⟩ | h0
        · exact (hno.2 hw hz).1 ha h1
        · exact (hno.2 hw hz).2 hb h2
        · exact hz h0
      · cases hv

end RiscvSim

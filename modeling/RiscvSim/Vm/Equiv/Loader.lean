import RiscvSim.Vm.Equiv.SameMemory
import RiscvSim.Vm.VmBase

/-!
# Loading a program

The loader changes the memory by single-byte writes only, so it leads from a
reachable memory to a reachable memory, and every memory of the configuration has
words where it has put the text (`legible_of_loadText`).
-/

namespace RiscvSim

open Lib

variable {cfg : VmConfig} {m m' : Memory} {c c' : BitVec 32}

theorem reachable_loadText {textBuffer : List (BitVec 32)} (hm : m.Reachable cfg)
    (h : loadText cfg m textBuffer = .ok (m', c')) : m'.Reachable cfg := by
  refine foldlM_invariant (fun s : Memory × BitVec 32 => s.1.Reachable cfg) ?_ hm h
  rintro ⟨m, c⟩ w s' - hm hs
  obtain ⟨m₁, hw, rfl⟩ := bind_pure_eq_ok.mp hs
  exact Memory.reachable_of_writeSized hm hw

theorem reachable_loadDataElement {base : BitVec 64} {e : DataElement} (hm : m.Reachable cfg)
    (h : loadDataElement cfg base (m, c) e = .ok (m', c')) : m'.Reachable cfg := by
  cases e with
  | string bytes =>
    refine foldlM_invariant (fun s : Memory × BitVec 32 => s.1.Reachable cfg) ?_ hm h
    rintro ⟨m, c⟩ b s' - hm hs
    obtain ⟨m₁, hw, rfl⟩ := bind_pure_eq_ok.mp hs
    exact Memory.reachable_of_writeByte hm hw
  | byte value =>
    obtain ⟨m₁, hw, hs⟩ := bind_pure_eq_ok.mp h
    cases hs
    exact Memory.reachable_of_writeByte hm hw
  | _ value =>
    obtain ⟨m₁, hw, hs⟩ := bind_pure_eq_ok.mp h
    cases hs
    exact Memory.reachable_of_writeSized hm hw

theorem reachable_loadData {dataBuffer : List DataElement} (hm : m.Reachable cfg)
    (h : loadData cfg m dataBuffer = .ok (m', c')) : m'.Reachable cfg :=
  foldlM_invariant (fun s : Memory × BitVec 32 => s.1.Reachable cfg)
    (fun _ _ _ _ hm hs => reachable_loadDataElement hm hs) hm h

/-! ### The words of the text -/

/-- Every memory of the configuration has a word at the address. -/
def Memory.Legible (cfg : VmConfig) (a : BitVec 64) : Prop :=
  ∀ m : Memory, m.Reachable cfg → ∃ w, m.readWord a = .ok w

/-- Where a word can be written, one can be read. -/
theorem Memory.legible_of_writeWord {cfg : VmConfig} {m m' : Memory} {a : BitVec 64}
    {w : BitVec 32} (h : m.Reachable cfg) (hw : m.writeWord cfg a w = .ok m') :
    Legible cfg a := by
  intro m₀ h₀
  obtain ⟨_, hcheck, hloop⟩ := bind_eq_ok.mp hw
  rw [throwAt_eq_ok] at hcheck
  have hsame : m₀.memorySize = m.memorySize :=
    (sizes_of_reachable h₀).1.trans (sizes_of_reachable h).1.symm
  unfold writeGeneric at hloop
  have hread : ∃ w, m₀.readGeneric 4 a = .ok w ∧ m'.Reachable cfg := by
    refine foldlM_simulates (fun (m : Memory) _ => m.Reachable cfg) ?_ h hloop
    intro m₁ i m₂ value _ h₁ hbyte
    have hrange := (exists_write_iff h₁).mp ⟨m₂, hbyte⟩
    obtain ⟨byte, hbyte'⟩ := (exists_read_iff h₀).mpr hrange
    exact ⟨_, by rw [hbyte', ok_bind]; rfl, h₁.write hbyte⟩
  obtain ⟨w, hread, -⟩ := hread
  refine ⟨w, bind_eq_ok.mpr ⟨(), ?_, hread⟩⟩
  unfold checkRange at hcheck ⊢
  rw [hsame]
  exact hcheck

/-- The loader has written every word of the text. -/
theorem legible_of_loadText {cfg : VmConfig} {m m' : Memory} {c : BitVec 32}
    {textBuffer : List (BitVec 32)} (h : m.Reachable cfg)
    (hload : loadText cfg m textBuffer = .ok (m', c)) {a : BitVec 64}
    (ha : a.toNat < c.toNat) (h4 : a.toNat % 4 = 0) : Memory.Legible cfg a := by
  have hinv := foldlM_invariant
    (fun s : Memory × BitVec 32 => s.1.Reachable cfg ∧ s.2.toNat % 4 = 0 ∧
      ∀ a : BitVec 64, a.toNat < s.2.toNat → a.toNat % 4 = 0 → Memory.Legible cfg a)
    ?_ ⟨h, rfl, fun a ha => absurd ha (Nat.not_lt_zero _)⟩ hload
  · exact hinv.2.2 a ha h4
  rintro ⟨m₁, c₁⟩ w s' - ⟨h₁, hc₁, hall⟩ hs
  obtain ⟨m₂, hw, rfl⟩ := bind_pure_eq_ok.mp hs
  have hlt := c₁.isLt
  dsimp only at hc₁ hall ⊢
  refine ⟨Memory.reachable_of_writeSized h₁ hw, ?_, fun a ha h4 => ?_⟩
  · rw [BitVec.toNat_add, BitVec.toNat_ofNat]
    omega
  · rw [BitVec.toNat_add, BitVec.toNat_ofNat] at ha
    by_cases hlast : a.toNat = c₁.toNat
    · have haddress : a = c₁.setWidth 64 := by
        apply BitVec.eq_of_toNat_eq
        rw [BitVec.toNat_setWidth]
        omega
      rw [haddress]
      exact Memory.legible_of_writeWord h₁ hw
    · exact hall a (by omega) h4

/-! ### The rest of the machine -/

/-- A new breakpoint changes nothing else. -/
theorem addBreakpointAddress_eq (vm : VmBase) (address : BitVec 64) :
    vm.addBreakpointAddress address =
      { vm with breakpoints := (vm.addBreakpointAddress address).breakpoints } := by
  unfold VmBase.addBreakpointAddress
  split
  · rfl
  · split <;> rfl

/-- The breakpoints after an addition depend on the breakpoints only. -/
theorem addBreakpointAddress_congr (vm : VmBase) {vm' : VmBase} (h : vm'.breakpoints = vm.breakpoints)
    (address : BitVec 64) : (vm'.addBreakpointAddress address).breakpoints =
      (vm.addBreakpointAddress address).breakpoints := by
  unfold VmBase.addBreakpointAddress VmBase.checkBreakpoint
  rw [h]
  split
  · exact h
  · split
    · exact h
    · rfl

/-- The machine after the load of a program, given the memory and the size of the text. -/
def VmBase.loaded (vm : VmBase) (program : AssembledProgram) (memory : Memory)
    (size : BitVec 64) : VmBase :=
  { vm with
    program := program
    memoryController := memory
    programSize := size
    breakpoints := (vm.addBreakpointAddress size).breakpoints
    outputStatus := .programLoaded }

/-- Loading a program writes the text, then the data. -/
theorem loadProgram_eq_ok {vm vm' : VmBase} {program : AssembledProgram} :
    vm.loadProgram cfg program = .ok vm' ↔
      ∃ m₁ c₁ m₂ c₂, loadText cfg vm.memoryController program.textBuffer = .ok (m₁, c₁) ∧
        loadData cfg m₁ program.dataBuffer = .ok (m₂, c₂) ∧
        vm' = vm.loaded program m₂ (c₁.setWidth 64) := by
  have hsized : ∀ (m : Memory) (size : BitVec 64),
      (({ ({ vm with program := program } : VmBase).withMemory m with
        programSize := size } : VmBase).addBreakpointAddress size) =
      { vm.loaded program m size with outputStatus := vm.outputStatus } := by
    intro m size
    let sized : VmBase :=
      { ({ vm with program := program } : VmBase).withMemory m with programSize := size }
    show sized.addBreakpointAddress size = _
    have hbs : (sized.addBreakpointAddress size).breakpoints =
        (vm.addBreakpointAddress size).breakpoints := by
      have hsame : sized.breakpoints = vm.breakpoints := rfl
      exact addBreakpointAddress_congr vm hsame size
    rw [addBreakpointAddress_eq sized, hbs]
    rfl
  unfold VmBase.loadProgram
  constructor
  · intro h
    obtain ⟨⟨m₁, c₁⟩, ht, h⟩ := bind_eq_ok.mp h
    dsimp only at h
    rw [hsized] at h
    obtain ⟨⟨m₂, c₂⟩, hd, h⟩ := bind_eq_ok.mp h
    rw [throwWith_eq_ok] at ht hd
    exact ⟨m₁, c₁, m₂, c₂, ht, hd, (Except.ok.inj h).symm⟩
  · rintro ⟨m₁, c₁, m₂, c₂, ht, hd, rfl⟩
    refine bind_eq_ok.mpr ⟨(m₁, c₁), throwWith_eq_ok.mpr ht, ?_⟩
    dsimp only
    rw [hsized]
    exact bind_eq_ok.mpr ⟨(m₂, c₂), throwWith_eq_ok.mpr hd, rfl⟩

/-- What loading a program leaves as it was. -/
theorem frame_of_loadProgram {vm vm' : VmBase} {program : AssembledProgram}
    (h : vm.loadProgram cfg program = .ok vm') :
    vm'.instructionsRetired = vm.instructionsRetired ∧ vm'.registers = vm.registers ∧
      vm'.programCounter = vm.programCounter ∧
      (vm.memoryController.Reachable cfg → vm'.memoryController.Reachable cfg) := by
  obtain ⟨m₁, c₁, m₂, c₂, ht, hd, rfl⟩ := loadProgram_eq_ok.mp h
  exact ⟨rfl, rfl, rfl, fun hm => reachable_loadData (reachable_loadText hm ht) hd⟩

theorem counter_mod_four_of_loadText {textBuffer : List (BitVec 32)}
    (h : loadText cfg m textBuffer = .ok (m', c')) : c'.toNat % 4 = 0 := by
  refine foldlM_invariant (fun s : Memory × BitVec 32 => s.2.toNat % 4 = 0) ?_ rfl h
  rintro ⟨m₁, c₁⟩ w ⟨m₂, c₂⟩ - hc hs
  obtain ⟨m₃, -, hs⟩ := bind_pure_eq_ok.mp hs
  obtain rfl := (Prod.mk.inj hs).2
  have hc : c₁.toNat % 4 = 0 := hc
  show (c₁ + 4#32).toNat % 4 = 0
  rw [BitVec.toNat_add, BitVec.toNat_ofNat]
  omega

theorem breakpoints_of_addBreakpointAddress {vm : VmBase} {address : BitVec 64}
    (hvm : vm.breakpoints = []) (ha : address.toNat % 4 = 0) :
    (vm.addBreakpointAddress address).breakpoints = [address] := by
  have hmod : address % 4#64 = 0#64 := by
    apply BitVec.eq_of_toNat_eq
    rw [BitVec.toNat_umod]
    exact ha
  simp [VmBase.addBreakpointAddress, VmBase.checkBreakpoint, hmod, hvm]

/-- The load of a program sets one breakpoint, at the end of the text. -/
theorem breakpoints_of_loadProgram {vm vm' : VmBase} {program : AssembledProgram}
    (h : vm.loadProgram cfg program = .ok vm') (hvm : vm.breakpoints = []) :
    vm'.breakpoints = [vm'.programSize] := by
  obtain ⟨m₁, c₁, m₂, c₂, ht, -, rfl⟩ := loadProgram_eq_ok.mp h
  have hc := counter_mod_four_of_loadText ht
  have hc64 : (c₁.setWidth 64).toNat % 4 = 0 := by
    rw [BitVec.toNat_setWidth]
    omega
  exact breakpoints_of_addBreakpointAddress hvm hc64

end RiscvSim

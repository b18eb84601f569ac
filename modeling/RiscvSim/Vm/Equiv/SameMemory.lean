import RiscvSim.Vm.Equiv.MainMemory

/-!
# Memories with the same contents

Two memories that the class has produced are alike on a set of addresses when
these read the same; which blocks are present does not matter.  Writes to one
are simulated by the other (`AlikeOn.write`, `AlikeOn.writeByte`).
-/

namespace RiscvSim

namespace Memory

open Lib

variable {cfg : VmConfig} {m m' m₁ : Memory} {S T : BitVec 64 → Prop} {a : BitVec 64}

/-- The memories read the same at the addresses of `S`. -/
structure AlikeOn (cfg : VmConfig) (S : BitVec 64 → Prop) (m m' : Memory) : Prop where
  left : m.Reachable cfg
  right : m'.Reachable cfg
  read : ∀ a, S a → m'.read a = m.read a

/-! ### Sizes and single bytes -/

theorem sizes_of_reachable (h : Reachable cfg m) :
    m.memorySize = cfg.memorySize ∧ m.blockSize = cfg.memoryBlockSize.setWidth 32 := by
  have hreset := reset_of_reachable h
  exact ⟨congrArg Memory.memorySize hreset, congrArg Memory.blockSize hreset⟩

/-- Whether a byte can be written depends on its address only. -/
theorem exists_write_iff (h : Reachable cfg m) {v : BitVec 8} :
    (∃ m', m.write cfg a v = .ok m') ↔
      a < cfg.memorySize ∧ cfg.memoryBlockSize.setWidth 32 ≠ 0#32 := by
  obtain ⟨hsize, hbs⟩ := sizes_of_reachable h
  constructor
  · rintro ⟨m', hw⟩
    obtain ⟨hlt, hne, -⟩ := write_eq_ok.mp hw
    exact ⟨hsize ▸ hlt, hbs ▸ hne⟩
  · rintro ⟨hlt, hne⟩
    have hws := wellSized_of_reachable h
    obtain ⟨x, hx⟩ := hws.exists_read (hbs ▸ hne) (hsize ▸ hlt)
    exact hws.exists_write hx v

theorem exists_read_iff (h : Reachable cfg m) :
    (∃ x, m.read a = .ok x) ↔
      a < cfg.memorySize ∧ cfg.memoryBlockSize.setWidth 32 ≠ 0#32 := by
  obtain ⟨hsize, hbs⟩ := sizes_of_reachable h
  constructor
  · rintro ⟨x, hx⟩
    obtain ⟨hlt, hne, -⟩ := read_eq_ok.mp hx
    exact ⟨hsize ▸ hlt, hbs ▸ hne⟩
  · rintro ⟨hlt, hne⟩
    exact (wellSized_of_reachable h).exists_read (hbs ▸ hne) (hsize ▸ hlt)

/-- A write of a memory of the class changes no read elsewhere. -/
theorem read_of_write_of_ne (h : Reachable cfg m) {b : BitVec 64} {v : BitVec 8}
    (hw : m.write cfg b v = .ok m') (hne : a ≠ b) : m'.read a = m.read a := by
  obtain ⟨hsize, hbs⟩ := sizes_of_write hw
  have hbs' : m'.blockSize ≠ 0#32 := by
    rw [hbs]
    exact (write_eq_ok.mp hw).2.1
  exact (wellSized_of_reachable (h.write hw)).read_eq hsize hbs' (readsBackAt_of_write hw hne)

/-- Between memories of one configuration, a byte that reads back is the same byte. -/
theorem read_eq_of_readsBackAt (h : Reachable cfg m) (h' : Reachable cfg m')
    (hback : m.ReadsBackAt m' a) : m'.read a = m.read a := by
  obtain ⟨hsize, hbs⟩ := sizes_of_reachable h
  obtain ⟨hsize', hbs'⟩ := sizes_of_reachable h'
  by_cases hne : m'.blockSize = 0#32
  · have hne' : m.blockSize = 0#32 := by rw [hbs, ← hbs', hne]
    unfold Memory.read getBlockIndex
    rw [if_pos hne, if_pos hne', hsize, hsize']
    rfl
  · exact (wellSized_of_reachable h').read_eq (hsize'.trans hsize.symm) hne hback

namespace AlikeOn

theorem symm (h : AlikeOn cfg S m m') : AlikeOn cfg S m' m :=
  ⟨h.right, h.left, fun a ha => (h.read a ha).symm⟩

theorem mono (h : AlikeOn cfg T m m') (hst : ∀ a, S a → T a) : AlikeOn cfg S m m' :=
  ⟨h.left, h.right, fun a ha => h.read a (hst a ha)⟩

/-- A write of one byte, with which the memories are alike there too. -/
theorem write (h : AlikeOn cfg S m m') {b : BitVec 64} {v : BitVec 8}
    (hw : m.write cfg b v = .ok m₁) :
    ∃ m₁', m'.write cfg b v = .ok m₁' ∧ AlikeOn cfg (fun a => a = b ∨ S a) m₁ m₁' := by
  obtain ⟨m₁', hw'⟩ := (exists_write_iff h.right).mpr ((exists_write_iff h.left).mp ⟨m₁, hw⟩)
  refine ⟨m₁', hw', h.left.write hw, h.right.write hw', fun a ha => ?_⟩
  by_cases hab : a = b
  · rw [hab, read_of_write hw, read_of_write hw']
  · rw [read_of_write_of_ne h.left hw hab, read_of_write_of_ne h.right hw' hab]
    exact h.read a (ha.resolve_left hab)

theorem writeByte (h : AlikeOn cfg S m m') {b : BitVec 64} {v : BitVec 8}
    (hw : m.writeByte cfg b v = .ok m₁) :
    ∃ m₁', m'.writeByte cfg b v = .ok m₁' ∧ AlikeOn cfg (fun a => a = b ∨ S a) m₁ m₁' := by
  rw [writeByte_eq] at hw ⊢
  exact h.write hw

end AlikeOn

/-! ### Reads of several bytes -/

/-- A word keeps its value when the bytes it is read from do. -/
theorem readWord_of_framesAt_of_reachable (h : Reachable cfg m) (h' : Reachable cfg m')
    {x : BitVec 32} (hframe : ∀ i < 4, m.FramesAt m' (a + BitVec.ofNat 64 i))
    (hread : m.readWord a = .ok x) : m'.readWord a = .ok x := by
  obtain ⟨u, hcheck, hread⟩ := bind_eq_ok.mp hread
  refine bind_eq_ok.mpr ⟨u, ?_, ?_⟩
  · unfold checkRange at hcheck ⊢
    rw [(sizes_of_reachable h').1, ← (sizes_of_reachable h).1]
    exact hcheck
  · unfold readGeneric at hread ⊢
    refine foldlM_congr_ok ?_ hread
    intro value i value' hi hbyte
    obtain ⟨byte, hb, hv⟩ := bind_eq_ok.mp hbyte
    refine bind_eq_ok.mpr ⟨byte, ?_, hv⟩
    rw [read_eq_of_readsBackAt h h' (hframe i (List.mem_range.mp hi)).2]
    exact hb

end Memory

end RiscvSim

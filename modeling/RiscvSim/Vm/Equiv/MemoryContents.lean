import RiscvSim.Vm.Equiv.MainMemoryFlat

/-!
# The contents of a memory

Any memory, however it came about, has contents: the flat array that reads as
the memory does and is zero where a read fails.  An access that succeeds is the
access to the contents (`load_of_readSized`, `contents_of_writeSized`).
-/

namespace RiscvSim

open Lib

namespace Memory

variable {cfg : VmConfig} {m m' : Memory} {a b : BitVec 64} {n : Nat}

/-- The bytes of the memory; zero where there are none. -/
def contents (m : Memory) : FlatMemory 64 :=
  fun a => (m.read a).toOption.getD 0#8

theorem contents_of_read {x : BitVec 8} (h : m.read a = .ok x) : m.contents a = x := by
  unfold contents
  rw [h]
  rfl

/-- A byte that reads as other than zero reads the same after a write elsewhere. -/
theorem read_of_write_elsewhere {v x : BitVec 8} (h : m.write cfg b v = .ok m') (hne : a ≠ b)
    (hx : m.read a = .ok x) (hx0 : x ≠ 0#8) : m'.read a = .ok x := by
  obtain ⟨_, hbs, block, hset, rfl⟩ := write_eq_ok.mp h
  rw [read_eq_ok] at hx ⊢
  obtain ⟨hlt, _, hx⟩ := hx
  refine ⟨hlt, hbs, ?_⟩
  by_cases hblock : a / m.blockSize.setWidth 64 = b / m.blockSize.setWidth 64
  · have hoff : a % m.blockSize.setWidth 64 ≠ b % m.blockSize.setWidth 64 := fun hoff =>
      hne (eq_of_div_mod_eq hblock hoff)
    simp only [hblock, if_true]
    rw [byteAt_setByte hset hoff]
    unfold blockToWrite
    rw [hblock] at hx
    cases hold : m.blocks (b / m.blockSize.setWidth 64) with
    | none =>
      rw [hold] at hx
      exact absurd hx hx0
    | some old => simpa [hold] using hx
  · simpa only [hblock, if_false] using hx

/-- A write replaces one byte of the contents. -/
theorem contents_of_write {v : BitVec 8} (h : m.write cfg b v = .ok m') :
    m'.contents = m.contents.storeByte b v := by
  funext a
  unfold FlatMemory.storeByte
  by_cases hab : a = b
  · rw [if_pos hab, hab]
    exact contents_of_read (read_of_write h)
  · rw [if_neg hab]
    cases hread' : m'.read a with
    | ok x =>
      rw [contents_of_read hread', contents_of_read (readsBackAt_of_write h hab x hread')]
    | error e =>
      have hzero : m'.contents a = 0#8 := by
        unfold contents
        rw [hread']
        rfl
      rw [hzero]
      cases hread : m.read a with
      | error e =>
        unfold contents
        rw [hread]
        rfl
      | ok x =>
        rw [contents_of_read hread]
        by_contra hx0
        have := read_of_write_elsewhere h hab hread (Ne.symm hx0)
        rw [hread'] at this
        cases this

/-- A read that succeeds gives the little-endian value of its bytes. -/
theorem load_of_readSized {v : BitVec (8 * n)} (h : m.readSized n a = .ok v) :
    v = m.contents.load n a := by
  have hloop : ∀ (l : List Nat) (v₀ v : BitVec (8 * n)),
      l.foldlM (fun value i => do
        let byte ← m.read (a + BitVec.ofNat 64 i)
        pure (value ||| (byte.setWidth (8 * n) <<< (8 * i)))) v₀ = .ok v →
      v = l.foldl (fun value i =>
        value ||| ((m.contents (a + BitVec.ofNat 64 i)).setWidth (8 * n) <<< (8 * i))) v₀ := by
    intro l
    induction l with
    | nil =>
      intro v₀ v h
      exact (Except.ok.inj h).symm
    | cons i l ih =>
      intro v₀ v h
      rw [List.foldlM_cons] at h
      obtain ⟨v₁, hbyte, h⟩ := bind_eq_ok.mp h
      obtain ⟨byte, hread, rfl⟩ := bind_pure_eq_ok.mp hbyte
      rw [List.foldl_cons, contents_of_read hread]
      exact ih _ _ h
  obtain ⟨_, -, h⟩ := bind_eq_ok.mp h
  unfold FlatMemory.load
  rw [← littleEndian_eq_foldl]
  exact hloop _ _ _ h

/-- A write that succeeds stores the bytes of its value. -/
theorem contents_of_writeSized (hn : n ≤ 2 ^ 64) {v : BitVec (8 * n)}
    (h : m.writeSized cfg n a v = .ok m') : m'.contents = m.contents.store n a v := by
  have hloop : ∀ (l : List Nat) (m₁ : Memory),
      l.foldlM (fun m i => m.write cfg (a + BitVec.ofNat 64 i)
        ((v >>> (8 * i)).setWidth 8)) m₁ = .ok m' →
      m'.contents = l.foldl (fun f i =>
        f.storeByte (a + BitVec.ofNat 64 i) (byteOf v i)) m₁.contents := by
    intro l
    induction l with
    | nil =>
      intro m₁ h
      rw [Except.ok.inj h]
      rfl
    | cons i l ih =>
      intro m₁ h
      rw [List.foldlM_cons] at h
      obtain ⟨m₂, hwrite, h⟩ := bind_eq_ok.mp h
      have hstep : m₂.contents = m₁.contents.storeByte (a + BitVec.ofNat 64 i) (byteOf v i) :=
        contents_of_write hwrite
      rw [List.foldl_cons, ← hstep]
      exact ih _ h
  obtain ⟨_, -, h⟩ := bind_eq_ok.mp h
  rw [← FlatMemory.store_eq_foldl _ hn]
  exact hloop _ _ h

/-- `ReadByte` is a read of one byte. -/
theorem readByte_eq_readSized (m : Memory) (a : BitVec 64) : m.readByte a = m.readSized 1 a := by
  unfold readByte Memory.readSized readGeneric
  have hv : ∀ byte : BitVec 8, (0 : BitVec (8 * 1)) ||| (byte.setWidth (8 * 1) <<< (8 * 0)) = byte :=
    fun byte => by simp
  cases m.checkRange 1 a with
  | error e => rfl
  | ok u =>
    rw [ok_bind, ok_bind, List.range_succ, List.range_zero, List.nil_append, List.foldlM_cons,
      BitVec.add_zero]
    cases m.read a with
    | error e => rfl
    | ok byte =>
      rw [ok_bind, hv]
      rfl

end Memory

end RiscvSim

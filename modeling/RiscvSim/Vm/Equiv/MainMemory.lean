import RiscvSim.Lib.Except
import RiscvSim.Vm.MainMemory

/-!
# Frame facts about the memory

A write changes no byte at another address.  Stated for reads that succeed
after the write (`read_of_write`): a read that gave `x` after a write elsewhere
gave `x` before it.  In this direction the fact needs no assumption about the
lengths of the blocks, because a block that the write creates holds zeros, and
an absent block reads as zeros.
-/

namespace RiscvSim

namespace Memory

open Lib

variable {cfg : VmConfig} {m m' : Memory} {a b : BitVec 64}

/-- Every read that succeeds in `m'` gives the same byte in `m`. -/
def ReadsBackAt (m m' : Memory) (a : BitVec 64) : Prop :=
  ∀ x, m'.read a = .ok x → m.read a = .ok x

theorem ReadsBackAt.refl (m : Memory) (a : BitVec 64) : m.ReadsBackAt m a :=
  fun _ h => h

theorem ReadsBackAt.trans {m₁ m₂ m₃ : Memory} (h₁ : m₁.ReadsBackAt m₂ a)
    (h₂ : m₂.ReadsBackAt m₃ a) : m₁.ReadsBackAt m₃ a :=
  fun x h => h₁ x (h₂ x h)

/-- The shape of a successful read. -/
theorem read_eq_ok {x : BitVec 8} :
    m.read a = .ok x ↔
      a < m.memorySize ∧ m.blockSize ≠ 0#32 ∧
      (match m.blocks (a / m.blockSize.setWidth 64) with
        | none => x = 0#8
        | some block => block.byteAt (a % m.blockSize.setWidth 64) = some x) := by
  unfold read getBlockIndex getBlockOffset
  by_cases hsize : m.memorySize ≤ a
  · simp [hsize, BitVec.not_lt.mpr hsize]
  have hlt : a < m.memorySize := BitVec.not_le.mp hsize
  by_cases hbs : m.blockSize = 0#32
  · simp [hsize, hbs]
  cases hblock : m.blocks (a / m.blockSize.setWidth 64) with
  | none =>
    simp only [hsize, hbs, hlt, hblock, if_false, ok_bind, Except.ok.injEq, true_and, ne_eq,
      not_false_eq_true]
    exact eq_comm
  | some block =>
    cases hbyte : block.byteAt (a % m.blockSize.setWidth 64) with
    | none => simp [hsize, hbs, hblock, hbyte]
    | some byte => simp [hsize, hbs, hlt, hblock, hbyte]

/-- The block a write at block `k` works on: the present one, or a new one. -/
def blockToWrite (cfg : VmConfig) (m : Memory) (k : BitVec 64) : MemoryBlock :=
  (m.blocks k).getD (MemoryBlock.new cfg)

theorem ensureBlockExists_setByte_eq_ok {k o : BitVec 64} {v : BitVec 8} :
    (m.ensureBlockExists cfg k).setByte k o v = .ok m' ↔
      ∃ block, (m.blockToWrite cfg k).setByte o v = some block ∧
        m' = { m with blocks := fun i => if i = k then some block else m.blocks i } := by
  have hblocks : ∀ block : MemoryBlock,
      (fun i => if i = k then some block
        else if i = k then some (MemoryBlock.new cfg) else m.blocks i) =
      fun i => if i = k then some block else m.blocks i := by
    intro block
    funext i
    by_cases hi : i = k <;> simp [hi]
  cases hk : m.blocks k with
  | none =>
    cases hset : (MemoryBlock.new cfg).setByte o v with
    | none => simp [ensureBlockExists, isBlockPresent, blockToWrite, setByte, hk, hset]
    | some block =>
      simp [ensureBlockExists, isBlockPresent, blockToWrite, setByte, hk, hset, hblocks]
      exact eq_comm
  | some old =>
    cases hset : old.setByte o v with
    | none => simp [ensureBlockExists, isBlockPresent, blockToWrite, setByte, hk, hset]
    | some block =>
      simp [ensureBlockExists, isBlockPresent, blockToWrite, setByte, hk, hset]
      exact eq_comm

/-- What a successful write does to the blocks. -/
theorem write_eq_ok {v : BitVec 8} :
    m.write cfg b v = .ok m' ↔
      b < m.memorySize ∧ m.blockSize ≠ 0#32 ∧
      ∃ block, (m.blockToWrite cfg (b / m.blockSize.setWidth 64)).setByte
          (b % m.blockSize.setWidth 64) v = some block ∧
        m' = { m with blocks := fun i =>
          if i = b / m.blockSize.setWidth 64 then some block else m.blocks i } := by
  unfold write getBlockIndex getBlockOffset
  by_cases hsize : m.memorySize ≤ b
  · simp [hsize, BitVec.not_lt.mpr hsize]
  have hlt : b < m.memorySize := BitVec.not_le.mp hsize
  by_cases hbs : m.blockSize = 0#32
  · simp [hsize, hbs]
  simp only [hsize, hbs, hlt, if_false, throwAt_ok, ok_bind, ensureBlockExists_setByte_eq_ok,
    true_and, ne_eq, not_false_eq_true]

/-- The bytes of a block after one of them is set. -/
theorem byteAt_setByte {block block' : MemoryBlock} {o o' : BitVec 64} {v : BitVec 8}
    (h : block.setByte o v = some block') (hne : o' ≠ o) :
    block'.byteAt o' = block.byteAt o' := by
  unfold MemoryBlock.setByte at h
  split at h
  · obtain rfl := Option.some.inj h
    have hne' : o.toNat ≠ o'.toNat := fun heq => hne (BitVec.eq_of_toNat_eq heq.symm)
    simp [MemoryBlock.byteAt, hne']
  · cases h

/-- A new block holds only zeros. -/
theorem byteAt_new {o : BitVec 64} {x : BitVec 8}
    (h : (MemoryBlock.new cfg).byteAt o = some x) : x = 0#8 := by
  unfold MemoryBlock.byteAt MemoryBlock.new at h
  exact (List.mem_replicate.mp (List.mem_of_getElem? h)).2

/-- Two addresses with the same block and the same offset are equal. -/
theorem eq_of_div_mod_eq {s : BitVec 64} (hdiv : a / s = b / s) (hmod : a % s = b % s) :
    a = b := by
  apply BitVec.eq_of_toNat_eq
  have h1 := congrArg BitVec.toNat hdiv
  have h2 := congrArg BitVec.toNat hmod
  rw [BitVec.toNat_udiv, BitVec.toNat_udiv] at h1
  rw [BitVec.toNat_umod, BitVec.toNat_umod] at h2
  calc a.toNat = s.toNat * (a.toNat / s.toNat) + a.toNat % s.toNat := (Nat.div_add_mod _ _).symm
    _ = s.toNat * (b.toNat / s.toNat) + b.toNat % s.toNat := by rw [h1, h2]
    _ = b.toNat := Nat.div_add_mod _ _

/-- A write leaves the sizes alone. -/
theorem sizes_of_write {v : BitVec 8} (h : m.write cfg b v = .ok m') :
    m'.memorySize = m.memorySize ∧ m'.blockSize = m.blockSize := by
  obtain ⟨_, _, _, _, rfl⟩ := write_eq_ok.mp h
  exact ⟨rfl, rfl⟩

/-- A read that succeeds after a write elsewhere gave the same byte before it. -/
theorem readsBackAt_of_write {v : BitVec 8} (h : m.write cfg b v = .ok m') (hne : a ≠ b) :
    m.ReadsBackAt m' a := by
  obtain ⟨_, hbs, block, hset, rfl⟩ := write_eq_ok.mp h
  intro x hx
  rw [read_eq_ok] at hx ⊢
  obtain ⟨hlt, _, hx⟩ := hx
  refine ⟨hlt, hbs, ?_⟩
  by_cases hblock : a / m.blockSize.setWidth 64 = b / m.blockSize.setWidth 64
  · have hoff : a % m.blockSize.setWidth 64 ≠ b % m.blockSize.setWidth 64 := fun hoff =>
      hne (eq_of_div_mod_eq hblock hoff)
    simp only [hblock, if_true] at hx
    rw [byteAt_setByte hset hoff] at hx
    rw [hblock]
    unfold blockToWrite at hx
    cases hold : m.blocks (b / m.blockSize.setWidth 64) with
    | none =>
      rw [hold] at hx
      exact byteAt_new hx
    | some old => simpa [hold] using hx
  · simpa only [hblock, if_false] using hx

/-- The byte just written reads back. -/
theorem read_of_write {v : BitVec 8} (h : m.write cfg b v = .ok m') : m'.read b = .ok v := by
  obtain ⟨hlt, hbs, block, hset, rfl⟩ := write_eq_ok.mp h
  refine read_eq_ok.mpr ⟨hlt, hbs, ?_⟩
  dsimp only
  rw [if_pos rfl]
  unfold MemoryBlock.setByte at hset
  split at hset
  · obtain rfl := Option.some.inj hset
    exact List.getElem?_set_self ‹_›
  · cases hset

/-- The bound check of a single byte is that of the byte itself. -/
theorem readByte_eq (m : Memory) (a : BitVec 64) : m.readByte a = m.read a := by
  unfold readByte checkRange read
  by_cases h : m.memorySize ≤ a <;> simp [h]

theorem writeByte_eq (m : Memory) (a : BitVec 64) (v : BitVec 8) :
    m.writeByte cfg a v = m.write cfg a v := by
  unfold writeByte checkRange write
  by_cases h : m.memorySize ≤ a <;> simp [h]

/-! ### Accesses of several bytes -/

/-- `WriteByte` is a write of one byte. -/
theorem writeByte_eq_writeSized (m : Memory) (a : BitVec 64) (v : BitVec 8) :
    m.writeByte cfg a v = m.writeSized cfg 1 a v := by
  unfold writeByte Memory.writeSized writeGeneric
  have hv : (v >>> (8 * 0)).setWidth 8 = v := by simp
  cases m.checkRange 1 a with
  | error e => rfl
  | ok u =>
    rw [throwAt_ok, ok_bind, ok_bind, List.range_succ, List.range_zero, List.nil_append,
      List.foldlM_cons, hv, BitVec.add_zero]
    cases m.write cfg a v <;> rfl

/-- Memories with the same size in which the byte at `a` reads back. -/
def FramesAt (m m' : Memory) (a : BitVec 64) : Prop :=
  m'.memorySize = m.memorySize ∧ m.ReadsBackAt m' a

theorem FramesAt.refl (m : Memory) (a : BitVec 64) : m.FramesAt m a :=
  ⟨rfl, .refl m a⟩

theorem FramesAt.trans {m₁ m₂ m₃ : Memory} (h₁ : m₁.FramesAt m₂ a) (h₂ : m₂.FramesAt m₃ a) :
    m₁.FramesAt m₃ a :=
  ⟨h₂.1.trans h₁.1, h₁.2.trans h₂.2⟩

theorem framesAt_of_write {v : BitVec 8} (h : m.write cfg b v = .ok m') (hne : a ≠ b) :
    m.FramesAt m' a :=
  ⟨(sizes_of_write h).1, readsBackAt_of_write h hne⟩

theorem framesAt_of_writeSized {n : Nat} {v : BitVec (8 * n)}
    (h : m.writeSized cfg n b v = .ok m') (hne : ∀ i < n, a ≠ b + BitVec.ofNat 64 i) :
    m.FramesAt m' a := by
  obtain ⟨_, _, h⟩ := bind_eq_ok.mp h
  unfold writeGeneric at h
  refine foldlM_invariant (fun m₁ => m.FramesAt m₁ a) ?_ (FramesAt.refl m a) h
  intro m₁ i m₂ hi hm₁ hw
  exact hm₁.trans (framesAt_of_write hw (hne i (List.mem_range.mp hi)))

theorem sizes_of_writeSized {n : Nat} {v : BitVec (8 * n)}
    (h : m.writeSized cfg n b v = .ok m') :
    m'.memorySize = m.memorySize ∧ m'.blockSize = m.blockSize := by
  obtain ⟨_, _, h⟩ := bind_eq_ok.mp h
  unfold writeGeneric at h
  refine foldlM_invariant (fun s => s.memorySize = m.memorySize ∧ s.blockSize = m.blockSize)
    (fun s i s' _ hs hw => ?_) ⟨rfl, rfl⟩ h
  obtain ⟨h1, h2⟩ := sizes_of_write hw
  exact ⟨h1.trans hs.1, h2.trans hs.2⟩

theorem framesAt_of_writeByte {v : BitVec 8} (h : m.writeByte cfg b v = .ok m')
    (hne : a ≠ b) : m.FramesAt m' a := by
  obtain ⟨_, _, h⟩ := bind_eq_ok.mp h
  exact framesAt_of_write h hne

/-- A read of several bytes that succeeds after writes elsewhere gave the same
value before them. -/
theorem readSized_of_framesAt {n : Nat} {x : BitVec (8 * n)}
    (hframe : ∀ i < n, m.FramesAt m' (a + BitVec.ofNat 64 i)) (hn : 0 < n)
    (h : m'.readSized n a = .ok x) : m.readSized n a = .ok x := by
  obtain ⟨_, hcheck, hread⟩ := bind_eq_ok.mp h
  refine bind_eq_ok.mpr ⟨(), ?_, ?_⟩
  · unfold checkRange at hcheck ⊢
    rw [← (hframe 0 hn).1]
    exact hcheck
  · unfold readGeneric at hread ⊢
    refine foldlM_congr_ok ?_ hread
    intro value i value' hi hbyte
    obtain ⟨byte, hb, hv⟩ := bind_eq_ok.mp hbyte
    exact bind_eq_ok.mpr ⟨byte, (hframe i (List.mem_range.mp hi)).2 byte hb, hv⟩

theorem readWord_of_framesAt {x : BitVec 32}
    (hframe : ∀ i < 4, m.FramesAt m' (a + BitVec.ofNat 64 i))
    (h : m'.readWord a = .ok x) : m.readWord a = .ok x :=
  readSized_of_framesAt hframe (by decide) h

/-! ### Reachable memories -/

/-- The memories that the class's own operations produce under one configuration. -/
inductive Reachable (cfg : VmConfig) : Memory → Prop
  | new : Reachable cfg (.new cfg)
  | reset {m : Memory} (h : Reachable cfg m) : Reachable cfg m.reset
  | write {m m' : Memory} {a : BitVec 64} {v : BitVec 8} (h : Reachable cfg m)
      (hw : m.write cfg a v = .ok m') : Reachable cfg m'

/-- Every block has as many bytes as the block size says. -/
structure WellSized (cfg : VmConfig) (m : Memory) : Prop where
  blockSize : m.blockSize = cfg.memoryBlockSize.setWidth 32
  length : ∀ k block, m.blocks k = some block → block.data.length = m.blockSize.toNat

theorem length_of_setByte {block block' : MemoryBlock} {o : BitVec 64} {v : BitVec 8}
    (h : block.setByte o v = some block') : block'.data.length = block.data.length := by
  unfold MemoryBlock.setByte at h
  split at h
  · obtain rfl := Option.some.inj h
    exact List.length_set
  · cases h

theorem wellSized_of_reachable (h : Reachable cfg m) : m.WellSized cfg := by
  induction h with
  | new => exact ⟨rfl, fun k block hk => by cases hk⟩
  | reset _ ih => exact ⟨ih.blockSize, fun k block hk => by cases hk⟩
  | write _ hw ih =>
    obtain ⟨_, _, block, hset, rfl⟩ := write_eq_ok.mp hw
    refine ⟨ih.blockSize, fun k block' hk => ?_⟩
    dsimp only at hk ⊢
    split at hk
    · obtain rfl := Option.some.inj hk
      rw [length_of_setByte hset]
      unfold blockToWrite
      cases hold : (_ : Memory).blocks _ with
      | none => rw [Option.getD_none, ih.blockSize, MemoryBlock.new, List.length_replicate]
      | some old => rw [Option.getD_some, ih.length _ _ hold]
    · exact ih.length k block' hk

/-- A memory of the class is, after a reset, as the constructor builds it. -/
theorem reset_of_reachable (h : Reachable cfg m) : m.reset = .new cfg := by
  induction h with
  | new => rfl
  | reset _ ih => exact ih
  | write _ hw ih =>
    obtain ⟨_, _, block, hset, rfl⟩ := write_eq_ok.mp hw
    exact ih

theorem reachable_of_writeSized {n : Nat} {v : BitVec (8 * n)} (h : Reachable cfg m)
    (hw : m.writeSized cfg n b v = .ok m') : Reachable cfg m' := by
  obtain ⟨_, _, hw⟩ := bind_eq_ok.mp hw
  unfold writeGeneric at hw
  exact foldlM_invariant (Reachable cfg) (fun _ _ _ _ h₁ h₂ => h₁.write h₂) h hw

theorem reachable_of_writeByte {v : BitVec 8} (h : Reachable cfg m)
    (hw : m.writeByte cfg b v = .ok m') : Reachable cfg m' := by
  obtain ⟨_, _, hw⟩ := bind_eq_ok.mp hw
  exact h.write hw

/-- The offset of an address lies in a block of the full size. -/
theorem offset_lt (hbs : m.blockSize ≠ 0#32) (a : BitVec 64) :
    (a % m.blockSize.setWidth 64).toNat < m.blockSize.toNat := by
  have hpos : 0 < m.blockSize.toNat :=
    Nat.pos_of_ne_zero fun h0 => hbs (BitVec.eq_of_toNat_eq h0)
  have hwidth : m.blockSize.toNat % 2 ^ 64 = m.blockSize.toNat :=
    Nat.mod_eq_of_lt (Nat.lt_trans m.blockSize.isLt (by decide))
  rw [BitVec.toNat_umod, BitVec.toNat_setWidth, hwidth]
  exact Nat.mod_lt _ hpos

theorem WellSized.length_blockToWrite (hws : m.WellSized cfg) (k : BitVec 64) :
    (m.blockToWrite cfg k).data.length = m.blockSize.toNat := by
  unfold blockToWrite
  cases hold : m.blocks k with
  | none => rw [Option.getD_none, hws.blockSize, MemoryBlock.new, List.length_replicate]
  | some old => rw [Option.getD_some, hws.length _ _ hold]

/-- Where all blocks are complete, every byte within the memory can be read. -/
theorem WellSized.exists_read (hws : m.WellSized cfg) (hbs : m.blockSize ≠ 0#32)
    (ha : a < m.memorySize) : ∃ x, m.read a = .ok x := by
  simp only [read_eq_ok, hbs, ha, true_and, ne_eq, not_false_eq_true]
  cases hblock : m.blocks (a / m.blockSize.setWidth 64) with
  | none => exact ⟨0#8, rfl⟩
  | some block =>
    have hlt : (a % m.blockSize.setWidth 64).toNat < block.data.length := by
      rw [hws.length _ _ hblock]
      exact offset_lt hbs a
    exact ⟨_, List.getElem?_eq_getElem hlt⟩

/-- Where all blocks are complete, every byte that can be read can be written. -/
theorem WellSized.exists_write {x : BitVec 8} (hws : m.WellSized cfg) (h : m.read a = .ok x)
    (v : BitVec 8) : ∃ m', m.write cfg a v = .ok m' := by
  obtain ⟨hlt, hbs, _⟩ := read_eq_ok.mp h
  have hoffset : (a % m.blockSize.setWidth 64).toNat <
      (m.blockToWrite cfg (a / m.blockSize.setWidth 64)).data.length := by
    rw [hws.length_blockToWrite]
    exact offset_lt hbs a
  have hset : (m.blockToWrite cfg (a / m.blockSize.setWidth 64)).setByte
      (a % m.blockSize.setWidth 64) v = some ⟨_⟩ := if_pos hoffset
  exact ⟨_, write_eq_ok.mpr ⟨hlt, hbs, _, hset, rfl⟩⟩

/-- Between memories with complete blocks, a byte that reads back is the same byte. -/
theorem WellSized.read_eq (hws : m'.WellSized cfg) (hsize : m'.memorySize = m.memorySize)
    (hbs : m'.blockSize ≠ 0#32) (h : m.ReadsBackAt m' a) : m'.read a = m.read a := by
  by_cases ha : m.memorySize ≤ a
  · unfold read
    rw [if_pos ha, if_pos (hsize ▸ ha)]
  · obtain ⟨x, hx⟩ := hws.exists_read hbs (hsize ▸ BitVec.not_le.mp ha)
    rw [hx, h x hx]

/-- A read of a reachable memory gives a byte or is out of range. -/
theorem read_of_reachable (h : Reachable cfg m) (hbs : m.blockSize ≠ 0#32) (a : BitVec 64) :
    (∃ x, m.read a = .ok x) ∨ ∃ e, m.read a = .error e ∧ ∃ b, e = .outOfRange b := by
  by_cases hsize : m.memorySize ≤ a
  · exact .inr ⟨.outOfRange a, by simp [read, hsize], a, rfl⟩
  · exact .inl ((wellSized_of_reachable h).exists_read hbs (BitVec.not_le.mp hsize))

/-- A read of a word of a reachable memory gives a word or is out of range. -/
theorem readWord_of_reachable (h : Reachable cfg m) (hbs : m.blockSize ≠ 0#32)
    (a : BitVec 64) :
    (∃ x, m.readWord a = .ok x) ∨ ∃ e, m.readWord a = .error e ∧ ∃ b, e = .outOfRange b := by
  unfold readWord readSized checkRange
  split
  · exact .inr ⟨.outOfRange a, rfl, a, rfl⟩
  · rw [ok_bind]
    refine foldlM_ok_or (fun e => ∃ b, e = Fault.outOfRange b) (fun value i => ?_) _ _
    rcases read_of_reachable h hbs (a + BitVec.ofNat 64 i) with ⟨x, hx⟩ | ⟨e, hx, he⟩
    · exact .inl ⟨_, by rw [hx, ok_bind]; rfl⟩
    · exact .inr ⟨e, by rw [hx, error_bind], he⟩

/-- Nothing can be read with block size zero. -/
theorem blockSize_of_readWord {x : BitVec 32} (h : m.readWord a = .ok x) :
    m.blockSize ≠ 0#32 := by
  obtain ⟨_, _, h⟩ := bind_eq_ok.mp h
  unfold readGeneric at h
  rw [List.range_succ_eq_map, List.foldlM_cons, bind_eq_ok] at h
  obtain ⟨_, h, _⟩ := h
  obtain ⟨_, h, _⟩ := bind_eq_ok.mp h
  exact (read_eq_ok.mp h).2.1

/-! ### The faults of an access

With a block size other than zero an access fails with a fault of the memory only. -/

theorem failsWith_checkRange {n : Nat} : FailsWith Fault.IsMemory (m.checkRange n a) := by
  unfold checkRange
  split
  · exact .error trivial
  · exact .ok ()

theorem failsWith_read (hbs : m.blockSize ≠ 0#32) : FailsWith Fault.IsMemory (m.read a) := by
  unfold read getBlockIndex getBlockOffset
  rw [if_neg hbs, if_neg hbs, ok_bind, ok_bind]
  split
  · exact .error trivial
  · split
    · exact .ok _
    · split
      · exact .error trivial
      · exact .ok _

theorem failsWith_readByte (hbs : m.blockSize ≠ 0#32) :
    FailsWith Fault.IsMemory (m.readByte a) := by
  rw [readByte_eq]
  exact failsWith_read hbs

theorem failsWith_readSized (hbs : m.blockSize ≠ 0#32) {n : Nat} :
    FailsWith Fault.IsMemory (m.readSized n a) := by
  refine failsWith_checkRange.bind fun _ _ => ?_
  exact .foldlM (fun _ => True) (fun _ _ _ _ _ => trivial)
    (fun _ _ _ => (failsWith_read hbs).bind fun _ _ => .ok _) _ _ trivial

theorem failsWith_write (hbs : m.blockSize ≠ 0#32) {v : BitVec 8} :
    FailsWith (fun e => e.1.IsMemory) (m.write cfg a v) := by
  unfold write getBlockIndex getBlockOffset
  rw [if_neg hbs, if_neg hbs, throwAt_ok, throwAt_ok, ok_bind, ok_bind]
  split
  · exact .error trivial
  · unfold setByte
    split
    · exact .error trivial
    · split
      · exact .error trivial
      · exact .ok _

theorem failsWith_writeByte (hbs : m.blockSize ≠ 0#32) {v : BitVec 8} :
    FailsWith (fun e => e.1.IsMemory) (m.writeByte cfg a v) := by
  rw [writeByte_eq]
  exact failsWith_write hbs

theorem failsWith_writeSized (hbs : m.blockSize ≠ 0#32) {n : Nat} {v : BitVec (8 * n)} :
    FailsWith (fun e => e.1.IsMemory) (m.writeSized cfg n a v) := by
  refine (failsWith_throwAt failsWith_checkRange).bind fun _ _ => ?_
  exact .foldlM (fun m : Memory => m.blockSize ≠ 0#32)
    (fun _ _ _ h hw => (sizes_of_write hw).2 ▸ h) (fun _ _ h => failsWith_write h) _ _ hbs

end Memory

end RiscvSim

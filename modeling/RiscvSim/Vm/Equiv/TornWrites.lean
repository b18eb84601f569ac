import RiscvSim.Vm.Equiv.MainMemoryFlat
import RiscvSim.Vm.Equiv.SameMemory

/-!
# Writes that stop half-way

The check in front of a write of several bytes subtracts from the memory size
and wraps around for a memory smaller than the access.  A write that gets past
it stores the bytes that fit before it throws.

* **`Memory.allOrNothing_iff`**: which writes happen as a whole or not at all.
-/

namespace RiscvSim

open Lib

namespace Memory

/-- The outcome of a write of `n` bytes to `m` that stores all of them and nothing
else, or refuses it as out of range with every byte as it was. -/
def AllOrNothing {n : Nat} (m : Memory) (address : BitVec 64) (value : BitVec (8 * n))
    (outcome : Except (Fault × Memory) Memory) : Prop :=
  (∃ m', outcome = .ok m' ∧ ∀ b, m'.read b =
    if (b - address).toNat < n then .ok (byteOf value (b - address).toNat) else m.read b) ∨
  ∃ a m', outcome = .error (.outOfRange a, m') ∧ ∀ b, m'.read b = m.read b

/-- The writes that get past the check and do not happen as a whole: with block
size zero the first byte traps; a memory smaller than the access takes the bytes
that fit, and one of them is new. -/
def Torn {n : Nat} (m : Memory) (address : BitVec 64) (value : BitVec (8 * n)) : Prop :=
  address < m.memorySize ∧ address < m.memorySize - BitVec.ofNat 64 (n - 1) ∧
    (m.blockSize = 0#32 ∨
      m.memorySize.toNat < n ∧
        ∃ i, address.toNat + i < m.memorySize.toNat ∧
          m.read (address + BitVec.ofNat 64 i) ≠ .ok (byteOf value i))

variable {cfg : VmConfig} {m m' : Memory} {f : FlatMemory 64}

/-- A reachable memory whose block size is not zero represents what it reads as. -/
theorem represents_of_reachable (h : m.Reachable cfg) (hbs : m.blockSize ≠ 0#32) :
    Represents cfg m fun a => (m.read a).toOption.getD 0#8 where
  reachable := h
  memorySize := (sizes_of_reachable h).1
  read := fun a ha => by
    obtain ⟨x, hx⟩ := (wellSized_of_reachable h).exists_read hbs ha
    rw [hx]
    rfl

/-- The address `i` bytes after `a`. -/
theorem toNat_add_ofNat {a : BitVec 64} {i : Nat} (h : a.toNat + i < 2 ^ 64) :
    (a + BitVec.ofNat 64 i).toNat = a.toNat + i := by
  rw [BitVec.toNat_add, BitVec.toNat_ofNat, Nat.mod_eq_of_lt (a := i) (by omega)]
  exact Nat.mod_eq_of_lt (by omega)

/-- The distance of two addresses. -/
theorem toNat_sub_of_le {a b : BitVec 64} (h : a.toNat ≤ b.toNat) :
    (b - a).toNat = b.toNat - a.toNat := by
  have := b.isLt
  rw [BitVec.toNat_sub]
  omega

/-- The write that passes the check runs the loop. -/
theorem writeSized_of_check {n : Nat} {a : BitVec 64} {v : BitVec (8 * n)}
    (hbound : a < m.memorySize - BitVec.ofNat 64 (n - 1)) :
    m.writeSized cfg n a v = m.writeGeneric cfg n a v := by
  unfold writeSized checkRange
  rw [if_neg (BitVec.not_le.mpr hbound)]
  rfl

/-- With block size zero, an access to an address below the memory size traps. -/
theorem write_of_blockSize_zero {a : BitVec 64} {v : BitVec 8} (ha : a < m.memorySize)
    (hbs : m.blockSize = 0#32) : m.write cfg a v = .error (.divideTrap, m) := by
  unfold write getBlockIndex
  rw [if_neg (BitVec.not_le.mpr ha), if_pos hbs]
  rfl

/-- A loop whose first write fails. -/
theorem writeGeneric_of_error {n : Nat} (hn : 0 < n) {a : BitVec 64} {v : BitVec (8 * n)}
    {e : Fault × Memory} (h : ∀ x, m.write cfg a x = .error e) :
    m.writeGeneric cfg n a v = .error e := by
  obtain ⟨k, rfl⟩ : ∃ k, n = k + 1 := ⟨n - 1, by omega⟩
  unfold writeGeneric
  rw [List.range_succ_eq_map, List.foldlM_cons, BitVec.add_zero, h]
  rfl

/-- In a memory smaller than the access the bytes that fit are written. -/
theorem Represents.writeGeneric_of_small (h : Represents cfg m f) {n : Nat} {a : BitVec 64}
    (v : BitVec (8 * n)) (ha : a < m.memorySize) (hsmall : m.memorySize.toNat < n) :
    ∃ m', m.writeGeneric cfg n a v = .error (.outOfRange m.memorySize, m') ∧
      Represents cfg m' fun b =>
        if (b - a).toNat < m.memorySize.toNat - a.toNat then byteOf v (b - a).toNat else f b := by
  have hle : a.toNat ≤ m.memorySize.toNat := Nat.le_of_lt ha
  obtain ⟨m', hm', h'⟩ := h.writePrefix (k := m.memorySize.toNat - a.toNat) (a := a) (by omega) v
  refine ⟨m', ?_, h'⟩
  have hsize : m'.memorySize = m.memorySize := h'.memorySize.trans h.memorySize.symm
  -- the loop goes on with the byte at the end of the memory
  obtain ⟨rest, hrest⟩ : ∃ rest, List.range n =
      List.range (m.memorySize.toNat - a.toNat) ++ (m.memorySize.toNat - a.toNat) :: rest := by
    obtain ⟨k, hk⟩ : ∃ k, n = m.memorySize.toNat - a.toNat + (k + 1) :=
      ⟨n - (m.memorySize.toNat - a.toNat) - 1, by omega⟩
    rw [hk, List.range_add, List.range_succ_eq_map, List.map_cons, Nat.add_zero]
    exact ⟨_, rfl⟩
  have hend : a + BitVec.ofNat 64 (m.memorySize.toNat - a.toNat) = m.memorySize := by
    have := m.memorySize.isLt
    apply BitVec.eq_of_toNat_eq
    rw [toNat_add_ofNat (by omega)]
    omega
  have hthrow : ∀ x, m'.write cfg m.memorySize x = .error (.outOfRange m.memorySize, m') :=
    fun x => write_of_le (by rw [hsize, BitVec.le_def])
  unfold writeGeneric
  rw [hrest, List.foldlM_append, hm', ok_bind, List.foldlM_cons, hend, hthrow]
  rfl

/-- Representing memories read alike where their arrays agree. -/
theorem Represents.read_eq_iff {g : FlatMemory 64} (h : Represents cfg m f)
    (h' : Represents cfg m' g) (b : BitVec 64) :
    m'.read b = m.read b ↔ (b < m.memorySize → g b = f b) := by
  have hsize : m'.memorySize = m.memorySize := h'.memorySize.trans h.memorySize.symm
  by_cases hb : b < m.memorySize
  · rw [h.read b hb, h'.read b (hsize ▸ hb), Except.ok.injEq]
    exact ⟨fun h _ => h, fun h => h hb⟩
  · have hle := BitVec.not_lt.mp hb
    rw [read_of_le hle, read_of_le (hsize ▸ hle)]
    exact iff_of_true rfl fun h => absurd h hb

/-- A write of bytes that all fit happens as a whole. -/
theorem allOrNothing_of_inRange (h : Represents cfg m f) {n : Nat} (hn : 0 < n)
    (hsize : n ≤ m.memorySize.toNat) {a : BitVec 64} (v : BitVec (8 * n))
    (hrange : a.toNat + n ≤ m.memorySize.toNat) : AllOrNothing m a v (m.writeSized cfg n a v) := by
  have hwrite := h.writeSized hn hsize a v
  rw [if_pos hrange] at hwrite
  obtain ⟨m', hm', h'⟩ := hwrite
  refine .inl ⟨m', hm', fun b => ?_⟩
  have hsame : m'.memorySize = m.memorySize := h'.memorySize.trans h.memorySize.symm
  by_cases hb : b < m.memorySize
  · rw [h'.read b (hsame ▸ hb)]
    unfold FlatMemory.store
    split
    · rfl
    · exact (h.read b hb).symm
  · -- a byte behind the end of the memory is none of the bytes written
    have hle : m.memorySize.toNat ≤ b.toNat := BitVec.not_lt.mp hb
    rw [read_of_le (hsame ▸ BitVec.not_lt.mp hb), read_of_le (BitVec.not_lt.mp hb), if_neg]
    rw [toNat_sub_of_le (by omega)]
    omega

/-- In a memory smaller than the access, a write past the check happens as a whole
when the bytes that fit are there already. -/
theorem allOrNothing_of_small (h : Represents cfg m f) {n : Nat} {a : BitVec 64}
    (v : BitVec (8 * n)) (ha : a < m.memorySize) (hsmall : m.memorySize.toNat < n) :
    AllOrNothing m a v (m.writeGeneric cfg n a v) ↔
      ¬∃ i, a.toNat + i < m.memorySize.toNat ∧
        m.read (a + BitVec.ofNat 64 i) ≠ .ok (byteOf v i) := by
  obtain ⟨m', hm', h'⟩ := h.writeGeneric_of_small v ha hsmall
  have hlt : a.toNat < m.memorySize.toNat := ha
  have hend := m.memorySize.isLt
  rw [hm']
  unfold AllOrNothing
  constructor
  · rintro (⟨m₁, hok, -⟩ | ⟨_, m₁, herr, hread⟩) ⟨i, hi, hne⟩
    · cases hok
    · cases herr
      have hb : (a + BitVec.ofNat 64 i).toNat = a.toNat + i := toNat_add_ofNat (by omega)
      have hsub : (a + BitVec.ofNat 64 i - a).toNat = i := by
        rw [toNat_sub_of_le (by omega), hb]
        omega
      have hin : a + BitVec.ofNat 64 i < m.memorySize := by
        rw [BitVec.lt_def, hb]
        exact hi
      have hbyte := (h.read_eq_iff h' _).mp (hread _) hin
      rw [hsub, if_pos (by omega)] at hbyte
      exact hne (by rw [h.read _ hin, hbyte])
  · intro hall
    refine .inr ⟨_, m', rfl, fun b => (h.read_eq_iff h' b).mpr fun hb => ?_⟩
    have hblt : b.toNat < m.memorySize.toNat := hb
    split
    · rename_i hnear
      by_contra hne
      have hback : a + BitVec.ofNat 64 (b - a).toNat = b := by
        rw [BitVec.ofNat_toNat, BitVec.setWidth_eq, BitVec.add_comm, BitVec.sub_add_cancel]
      refine hall ⟨(b - a).toNat, by omega, ?_⟩
      rw [hback, h.read b hb]
      exact fun heq => hne (Except.ok.inj heq).symm
    · rfl

/-- **Which writes happen as a whole**: all but the ones that are `Torn`. -/
theorem allOrNothing_iff (h : m.Reachable cfg) (call : MemoryCall) :
    AllOrNothing m call.address call.value (call.run cfg m) ↔
      ¬Torn m call.address call.value := by
  obtain ⟨hpos, hle⟩ := width_bounds call
  rw [run_eq_writeSized]
  unfold Torn
  by_cases hbound : call.address < m.memorySize - BitVec.ofNat 64 (call.width - 1)
  swap
  · -- the check refuses the write
    refine iff_of_true (.inr ⟨call.address, m, ?_, fun _ => rfl⟩) fun ht => hbound ht.2.1
    unfold writeSized checkRange
    rw [if_pos (BitVec.not_lt.mp hbound)]
    rfl
  by_cases ha : call.address < m.memorySize
  swap
  · -- the first byte is refused
    refine iff_of_true (.inr ⟨call.address, m, ?_, fun _ => rfl⟩) fun ht => ha ht.1
    rw [writeSized_of_check hbound]
    exact writeGeneric_of_error hpos fun x => write_of_le (BitVec.not_lt.mp ha)
  by_cases hbs : m.blockSize = 0#32
  · refine iff_of_false ?_ fun ht => ht ⟨ha, hbound, .inl hbs⟩
    rw [writeSized_of_check hbound,
      writeGeneric_of_error hpos fun x => write_of_blockSize_zero ha hbs]
    rintro (⟨_, h, -⟩ | ⟨_, _, h, -⟩) <;> cases h
  have hrep := represents_of_reachable h hbs
  by_cases hsize : m.memorySize.toNat < call.width
  · rw [writeSized_of_check hbound, allOrNothing_of_small hrep call.value ha hsize]
    exact not_congr ⟨fun h => ⟨ha, hbound, .inr ⟨hsize, h⟩⟩,
      fun ht => (ht.2.2.resolve_left hbs).2⟩
  · have hsub : (m.memorySize - BitVec.ofNat 64 (call.width - 1)).toNat =
        m.memorySize.toNat - (call.width - 1) := by
      rw [toNat_sub_of_le] <;> rw [BitVec.toNat_ofNat, Nat.mod_eq_of_lt (by omega)]
      omega
    have hrange : call.address.toNat < m.memorySize.toNat - (call.width - 1) := by
      rw [← hsub]
      exact hbound
    refine iff_of_true (allOrNothing_of_inRange hrep hpos (by omega) call.value (by omega)) ?_
    exact fun ht => hsize (ht.2.2.resolve_left hbs).1

theorem allOrNothing_iff_newWord :
    AllOrNothing (n := 4) (.new {}) 1022#64 0x11223344#32
        (MemoryCall.run {} (.new {}) (.writeWord 1022#64 0x11223344#32)) ↔
      ¬Torn (n := 4) (.new {}) 1022#64 0x11223344#32 :=
  allOrNothing_iff (.new : Reachable {} (.new {})) (.writeWord 1022#64 0x11223344#32)

/-- Two bytes of memory. -/
def twoBytes : VmConfig where
  memorySize := 2#64

/-- A word is written to a memory of two bytes: the bytes that fit stay there. -/
theorem not_allOrNothing_writeWord :
    ¬∀ (cfg : VmConfig) (m : Memory), m.Reachable cfg → ∀ (a : BitVec 64) (v : BitVec 32),
      AllOrNothing (n := 4) m a v (m.writeWord cfg a v) := by
  intro h
  rcases h twoBytes (.new twoBytes) .new 0#64 0x01010101#32 with ⟨m', hm', -⟩ | ⟨a, m', hm', hread⟩
  · have hfail : ((new twoBytes).writeWord twoBytes 0#64 0x01010101#32).toOption.isSome = false := by
      decide +kernel
    rw [hm'] at hfail
    cases hfail
  · -- the byte at address zero after the exception
    have hbyte := congrArg
      (mapBoth (fun e : Fault × Memory => (e.2.read 0#64).toOption) fun _ => ()) hm'
    rw [mapBoth_error, hread] at hbyte
    exact absurd hbyte (by decide +kernel)

end Memory

end RiscvSim

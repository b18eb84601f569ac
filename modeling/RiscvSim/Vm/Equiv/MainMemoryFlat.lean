import RiscvSim.Lib.FlatMemory
import RiscvSim.Vm.Equiv.MainMemory

/-!
# The memory as a flat array of bytes

The blocks of the memory represent a flat array (`Represents`): every byte
below the memory size reads as the array has it.  A write call updates the
array (`represents_run`), a read gives the little-endian value of its bytes.

* **`flat_of_calls`**: after any sequence of write calls on a new memory, calls
  are accepted when their bytes are below the memory size, and reads give what
  was written last.
-/

namespace RiscvSim

open Lib

/-- A write of the memory. -/
inductive MemoryCall where
  | write (address : BitVec 64) (value : BitVec 8)
  | writeByte (address : BitVec 64) (value : BitVec 8)
  | writeHalfWord (address : BitVec 64) (value : BitVec 16)
  | writeWord (address : BitVec 64) (value : BitVec 32)
  | writeDoubleWord (address : BitVec 64) (value : BitVec 64)

namespace MemoryCall

/-- The number of bytes a call writes. -/
def width : MemoryCall → Nat
  | .write .. | .writeByte .. => 1
  | .writeHalfWord .. => 2
  | .writeWord .. => 4
  | .writeDoubleWord .. => 8

def address : MemoryCall → BitVec 64
  | .write address _ | .writeByte address _ | .writeHalfWord address _
  | .writeWord address _ | .writeDoubleWord address _ => address

/-- The value a call writes. -/
def value : (call : MemoryCall) → BitVec (8 * call.width)
  | .write _ value | .writeByte _ value | .writeHalfWord _ value
  | .writeWord _ value | .writeDoubleWord _ value => value

def run (cfg : VmConfig) (m : Memory) : MemoryCall → Except (Fault × Memory) Memory
  | .write address value => m.write cfg address value
  | .writeByte address value => m.writeByte cfg address value
  | .writeHalfWord address value => m.writeHalfWord cfg address value
  | .writeWord address value => m.writeWord cfg address value
  | .writeDoubleWord address value => m.writeDoubleWord cfg address value

/-- The memory after a call, whether it was accepted or has thrown. -/
def after (cfg : VmConfig) (m : Memory) (call : MemoryCall) : Memory :=
  match call.run cfg m with
  | .ok m' => m'
  | .error (_, m') => m'

/-- All bytes of a call are below the size of the memory. -/
def InRange (size : BitVec 64) (call : MemoryCall) : Prop :=
  call.address.toNat + call.width ≤ size.toNat

instance (size : BitVec 64) (call : MemoryCall) : Decidable (call.InRange size) :=
  inferInstanceAs (Decidable (_ ≤ _))

/-- The flat array after a call: a call that is not in range changes nothing. -/
def flat (size : BitVec 64) (f : FlatMemory 64) (call : MemoryCall) : FlatMemory 64 :=
  if call.InRange size then f.store call.width call.address call.value else f

end MemoryCall

namespace Memory

variable {cfg : VmConfig} {m m' : Memory} {f : FlatMemory 64}

/-- The memory represents the flat array `f`. -/
structure Represents (cfg : VmConfig) (m : Memory) (f : FlatMemory 64) : Prop where
  reachable : m.Reachable cfg
  memorySize : m.memorySize = cfg.memorySize
  read : ∀ a < m.memorySize, m.read a = .ok (f a)

/-- A new memory is an array of zeros. -/
theorem represents_new (hbs : (Memory.new cfg).blockSize ≠ 0#32) :
    Represents cfg (.new cfg) fun _ => 0#8 where
  reachable := .new
  memorySize := rfl
  read := fun _ ha => read_eq_ok.mpr ⟨ha, hbs, rfl⟩

/-! ### Single bytes -/

theorem Represents.write (h : Represents cfg m f) {a : BitVec 64} (ha : a < m.memorySize)
    (v : BitVec 8) : ∃ m', m.write cfg a v = .ok m' ∧ Represents cfg m' (f.storeByte a v) := by
  obtain ⟨m', hm'⟩ := (wellSized_of_reachable h.reachable).exists_write (h.read a ha) v
  obtain ⟨hsize, hbs⟩ := sizes_of_write hm'
  have hreach : m'.Reachable cfg := h.reachable.write hm'
  refine ⟨m', hm', hreach, hsize.trans h.memorySize, fun b hb => ?_⟩
  rw [hsize] at hb
  unfold FlatMemory.storeByte
  by_cases hba : b = a
  · rw [if_pos hba, hba]
    exact read_of_write hm'
  · rw [if_neg hba]
    have hbs' : m'.blockSize ≠ 0#32 := by
      rw [hbs]
      exact (read_eq_ok.mp (h.read a ha)).2.1
    rw [(wellSized_of_reachable hreach).read_eq hsize hbs' (readsBackAt_of_write hm' hba)]
    exact h.read b hb

theorem read_of_le {a : BitVec 64} (h : m.memorySize ≤ a) : m.read a = .error (.outOfRange a) := by
  unfold Memory.read
  rw [if_pos h]

theorem write_of_le {a : BitVec 64} {v : BitVec 8} (h : m.memorySize ≤ a) :
    m.write cfg a v = .error (.outOfRange a, m) := by
  unfold Memory.write
  rw [if_pos h]

/-! ### Accesses of several bytes -/

/-- The check in front of an access is the bound on its last byte. -/
theorem checkRange_eq {n : Nat} (hn : 0 < n) (hsize : n ≤ m.memorySize.toNat) (a : BitVec 64) :
    m.checkRange n a =
      if a.toNat + n ≤ m.memorySize.toNat then .ok () else .error (.outOfRange a) := by
  have hsub : (m.memorySize - BitVec.ofNat 64 (n - 1)).toNat = m.memorySize.toNat - (n - 1) := by
    have := m.memorySize.isLt
    rw [BitVec.toNat_sub, BitVec.toNat_ofNat, Nat.mod_eq_of_lt (a := n - 1) (by omega)]
    omega
  unfold checkRange
  by_cases h : a.toNat + n ≤ m.memorySize.toNat
  · rw [if_pos h, if_neg]
    rw [BitVec.le_def, hsub]
    omega
  · rw [if_neg h, if_pos]
    rw [BitVec.le_def, hsub]
    omega

/-- The bytes of an access in range are below the memory size. -/
theorem lt_of_inRange {n i : Nat} {a : BitVec 64} (h : a.toNat + n ≤ m.memorySize.toNat)
    (hi : i < n) : a + BitVec.ofNat 64 i < m.memorySize := by
  have := m.memorySize.isLt
  rw [BitVec.lt_def, BitVec.toNat_add, BitVec.toNat_ofNat]
  rw [Nat.mod_eq_of_lt (a := i) (by omega), Nat.mod_eq_of_lt (by omega)]
  omega

/-- A checked read gives the little-endian value of its bytes. -/
theorem Represents.readSized (h : Represents cfg m f) {n : Nat} (hn : 0 < n)
    (hsize : n ≤ m.memorySize.toNat) (a : BitVec 64) :
    m.readSized n a =
      if a.toNat + n ≤ m.memorySize.toNat then .ok (f.load n a) else .error (.outOfRange a) := by
  unfold Memory.readSized
  rw [checkRange_eq hn hsize]
  by_cases hrange : a.toNat + n ≤ m.memorySize.toNat
  · rw [if_pos hrange, if_pos hrange, ok_bind]
    unfold readGeneric FlatMemory.load
    rw [← littleEndian_eq_foldl]
    have hloop : ∀ (l : List Nat) (v : BitVec (8 * n)), (∀ i ∈ l, i < n) →
        l.foldlM (fun value i => do
          let byte ← m.read (a + BitVec.ofNat 64 i)
          pure (value ||| (byte.setWidth (8 * n) <<< (8 * i)))) v =
        .ok (l.foldl (fun value i =>
          value ||| ((f (a + BitVec.ofNat 64 i)).setWidth (8 * n) <<< (8 * i))) v) := by
      intro l
      induction l with
      | nil =>
        intro v _
        rfl
      | cons i l ih =>
        intro v hl
        have hi : a + BitVec.ofNat 64 i < m.memorySize :=
          lt_of_inRange hrange (hl i List.mem_cons_self)
        rw [List.foldlM_cons, h.read _ hi, ok_bind, pure_eq_ok, ok_bind,
          ih _ fun j hj => hl j (List.mem_cons_of_mem i hj)]
        rfl
    exact hloop _ _ fun i hi => List.mem_range.mp hi
  · rw [if_neg hrange, if_neg hrange]
    rfl

/-- The loop of a write, up to its `k`-th byte, stores the bytes of a prefix. -/
theorem Represents.writePrefix (h : Represents cfg m f) {n k : Nat} {a : BitVec 64}
    (hrange : a.toNat + k ≤ m.memorySize.toNat) (value : BitVec (8 * n)) :
    ∃ m', (List.range k).foldlM (fun m i => m.write cfg (a + BitVec.ofNat 64 i)
        ((value >>> (8 * i)).setWidth 8)) m = .ok m' ∧
      Represents cfg m' fun b => if (b - a).toNat < k then byteOf value (b - a).toNat else f b := by
  have hloop : ∀ (l : List Nat) (m₁ : Memory) (f₁ : FlatMemory 64), (∀ i ∈ l, i < k) →
      Represents cfg m₁ f₁ → m₁.memorySize = m.memorySize →
      ∃ m', l.foldlM (fun m i => m.write cfg (a + BitVec.ofNat 64 i)
          ((value >>> (8 * i)).setWidth 8)) m₁ = .ok m' ∧
        Represents cfg m' (l.foldl (fun f i =>
          f.storeByte (a + BitVec.ofNat 64 i) (byteOf value i)) f₁) := by
    intro l
    induction l with
    | nil =>
      intro m₁ f₁ _ h₁ _
      exact ⟨m₁, rfl, h₁⟩
    | cons i l ih =>
      intro m₁ f₁ hl h₁ hsize₁
      have hi : a + BitVec.ofNat 64 i < m₁.memorySize := by
        rw [hsize₁]
        exact lt_of_inRange hrange (hl i List.mem_cons_self)
      obtain ⟨m₂, hm₂, h₂⟩ := h₁.write hi ((value >>> (8 * i)).setWidth 8)
      obtain ⟨m', hm', h'⟩ := ih m₂ _ (fun j hj => hl j (List.mem_cons_of_mem i hj)) h₂
        ((sizes_of_write hm₂).1.trans hsize₁)
      refine ⟨m', ?_, h'⟩
      rw [List.foldlM_cons, hm₂, ok_bind]
      exact hm'
  obtain ⟨m', hm', h'⟩ := hloop (List.range k) m f (fun i hi => List.mem_range.mp hi) h rfl
  refine ⟨m', hm', ?_⟩
  have hk64 : k ≤ 2 ^ 64 := by
    have := m.memorySize.isLt
    omega
  rwa [funext fun b => f.store_prefix a value b k hk64] at h'

/-- A checked write in range stores its bytes; any other leaves the memory alone. -/
theorem Represents.writeSized (h : Represents cfg m f) {n : Nat} (hn : 0 < n)
    (hsize : n ≤ m.memorySize.toNat) (a : BitVec 64) (value : BitVec (8 * n)) :
    if a.toNat + n ≤ m.memorySize.toNat then
      ∃ m', m.writeSized cfg n a value = .ok m' ∧ Represents cfg m' (f.store n a value)
    else m.writeSized cfg n a value = .error (.outOfRange a, m) := by
  unfold Memory.writeSized
  rw [checkRange_eq hn hsize]
  by_cases hrange : a.toNat + n ≤ m.memorySize.toNat
  · rw [if_pos hrange, if_pos hrange, throwAt_ok, ok_bind]
    exact h.writePrefix hrange value
  · rw [if_neg hrange, if_neg hrange]
    rfl

/-! ### Calls -/

/-- Every call is a checked write of its width. -/
theorem run_eq_writeSized (m : Memory) (call : MemoryCall) :
    call.run cfg m = m.writeSized cfg call.width call.address call.value := by
  cases call with
  | write a v =>
    show m.write cfg a v = _
    rw [← writeByte_eq]
    exact writeByte_eq_writeSized m a v
  | writeByte a v => exact writeByte_eq_writeSized m a v
  | writeHalfWord a v => rfl
  | writeWord a v => rfl
  | writeDoubleWord a v => rfl

theorem width_bounds (call : MemoryCall) : 0 < call.width ∧ call.width ≤ 8 := by
  cases call <;> simp [MemoryCall.width]

/-- A write call is accepted when its bytes are in range, and stores them. -/
theorem represents_run (h : Represents cfg m f) (hsize : 8 ≤ cfg.memorySize.toNat)
    (call : MemoryCall) :
    if call.InRange cfg.memorySize then
      ∃ m', call.run cfg m = .ok m' ∧
        Represents cfg m' (f.store call.width call.address call.value)
    else call.run cfg m = .error (.outOfRange call.address, m) := by
  obtain ⟨hpos, hle⟩ := width_bounds call
  have hms : m.memorySize = cfg.memorySize := h.memorySize
  have hwrite := h.writeSized hpos (by rw [hms]; omega) call.address call.value
  rw [hms] at hwrite
  rw [run_eq_writeSized]
  exact hwrite

theorem represents_after (h : Represents cfg m f) (hsize : 8 ≤ cfg.memorySize.toNat)
    (call : MemoryCall) :
    Represents cfg (call.after cfg m) (call.flat cfg.memorySize f) := by
  have hrun := represents_run h hsize call
  unfold MemoryCall.after MemoryCall.flat
  by_cases hrange : call.InRange cfg.memorySize
  · rw [if_pos hrange] at hrun ⊢
    obtain ⟨m', hm', h'⟩ := hrun
    rw [hm']
    exact h'
  · rw [if_neg hrange] at hrun ⊢
    rw [hrun]
    exact h

/-- The memory after a sequence of calls represents the array after them. -/
theorem represents_calls (hbs : (Memory.new cfg).blockSize ≠ 0#32)
    (hsize : 8 ≤ cfg.memorySize.toNat) (calls : List MemoryCall) :
    Represents cfg (calls.foldl (MemoryCall.after cfg) (.new cfg))
      (calls.foldl (MemoryCall.flat cfg.memorySize) fun _ => 0#8) := by
  have hrun : ∀ (calls : List MemoryCall) (m : Memory) (f : FlatMemory 64), Represents cfg m f →
      Represents cfg (calls.foldl (MemoryCall.after cfg) m)
        (calls.foldl (MemoryCall.flat cfg.memorySize) f) := by
    intro calls
    induction calls with
    | nil => exact fun _ _ h => h
    | cons call calls ih =>
      intro m f h
      exact ih _ _ (represents_after h hsize call)
  exact hrun calls _ _ (represents_new hbs)

/-- A read of a memory that represents `f`, of one byte or more. -/
theorem Represents.reads (h : Represents cfg m f) (hsize : 8 ≤ cfg.memorySize.toNat)
    (a : BitVec 64) :
    (m.read a = if a.toNat + 1 ≤ cfg.memorySize.toNat then .ok (f a)
      else .error (.outOfRange a)) ∧
    (m.readByte a = if a.toNat + 1 ≤ cfg.memorySize.toNat then .ok (f a)
      else .error (.outOfRange a)) ∧
    (m.readHalfWord a = if a.toNat + 2 ≤ cfg.memorySize.toNat then .ok (f.load 2 a)
      else .error (.outOfRange a)) ∧
    (m.readWord a = if a.toNat + 4 ≤ cfg.memorySize.toNat then .ok (f.load 4 a)
      else .error (.outOfRange a)) ∧
    (m.readDoubleWord a = if a.toNat + 8 ≤ cfg.memorySize.toNat then .ok (f.load 8 a)
      else .error (.outOfRange a)) := by
  have hms : m.memorySize = cfg.memorySize := h.memorySize
  have hread : m.read a = if a.toNat + 1 ≤ cfg.memorySize.toNat then .ok (f a)
      else .error (.outOfRange a) := by
    by_cases ha : a.toNat + 1 ≤ cfg.memorySize.toNat
    · rw [if_pos ha]
      exact h.read a (by rw [hms, BitVec.lt_def]; omega)
    · rw [if_neg ha]
      exact read_of_le (by rw [hms, BitVec.le_def]; omega)
  have hsized : ∀ {n : Nat}, 0 < n → n ≤ 8 →
      m.readSized n a = if a.toNat + n ≤ cfg.memorySize.toNat then .ok (f.load n a)
        else .error (.outOfRange a) := by
    intro n hn h8
    rw [← hms]
    exact h.readSized hn (by rw [hms]; omega) a
  exact ⟨hread, (readByte_eq m a).trans hread, hsized (by decide) (by decide),
    hsized (by decide) (by decide), hsized (by decide) (by decide)⟩

/-- **The memory refines a flat array of bytes.**  After any sequence of write
calls on a new memory, a further one is accepted exactly when all its bytes are
below the memory size, and every read in range gives the little-endian value of
the bytes written last. -/
theorem flat_of_calls (cfg : VmConfig) (hbs : (Memory.new cfg).blockSize ≠ 0#32)
    (hsize : 8 ≤ cfg.memorySize.toNat) (calls : List MemoryCall) :
    let m := calls.foldl (MemoryCall.after cfg) (.new cfg)
    let f := calls.foldl (MemoryCall.flat cfg.memorySize) fun _ => 0#8
    (∀ call : MemoryCall,
      (∃ m', call.run cfg m = .ok m') ↔ call.InRange cfg.memorySize) ∧
    ∀ a, (m.read a = if a.toNat + 1 ≤ cfg.memorySize.toNat then .ok (f a)
        else .error (.outOfRange a)) ∧
      (m.readByte a = if a.toNat + 1 ≤ cfg.memorySize.toNat then .ok (f a)
        else .error (.outOfRange a)) ∧
      (m.readHalfWord a = if a.toNat + 2 ≤ cfg.memorySize.toNat then .ok (f.load 2 a)
        else .error (.outOfRange a)) ∧
      (m.readWord a = if a.toNat + 4 ≤ cfg.memorySize.toNat then .ok (f.load 4 a)
        else .error (.outOfRange a)) ∧
      (m.readDoubleWord a = if a.toNat + 8 ≤ cfg.memorySize.toNat then .ok (f.load 8 a)
        else .error (.outOfRange a)) := by
  intro m f
  have h : Represents cfg m f := represents_calls hbs hsize calls
  refine ⟨fun call => ?_, fun a => h.reads hsize a⟩
  have hrun := represents_run h hsize call
  by_cases hrange : call.InRange cfg.memorySize
  · rw [if_pos hrange] at hrun
    obtain ⟨m', hm', -⟩ := hrun
    exact iff_of_true ⟨m', hm'⟩ hrange
  · rw [if_neg hrange] at hrun
    refine iff_of_false ?_ hrange
    rintro ⟨m', hm'⟩
    rw [hrun] at hm'
    cases hm'

/-- Two writes that overlap across the end of a block. -/
theorem flat_of_calls_straddle :
    ([MemoryCall.writeWord 1022#64 0x11223344#32, .writeByte 1024#64 0xff#8].foldl
      (MemoryCall.after {}) (.new {})).readWord 1022#64 = .ok 0x11ff3344#32 := by
  have h := (flat_of_calls {} (by decide) (by decide)
    [.writeWord 1022#64 0x11223344#32, .writeByte 1024#64 0xff#8]).2 1022#64
  exact h.2.2.2.1.trans (by decide +kernel)

end Memory

end RiscvSim

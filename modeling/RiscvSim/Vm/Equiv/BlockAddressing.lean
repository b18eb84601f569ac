import RiscvSim.Vm.Equiv.MainMemoryFlat
import RiscvSim.Vm.Equiv.SameMemory

/-!
# Block addressing

The configured block size is narrowed to 32 bits where a memory is constructed
and again where a block is created, and every address is divided by it.

* **`Memory.blockAddressing_iff`**: under which configurations no access divides
  by zero or indexes past the end of a block.
-/

namespace RiscvSim

open Lib

/-- An access of the memory. -/
inductive MemoryAccess where
  | read (address : BitVec 64)
  | readByte (address : BitVec 64)
  | readHalfWord (address : BitVec 64)
  | readWord (address : BitVec 64)
  | readDoubleWord (address : BitVec 64)
  | write (call : MemoryCall)

namespace MemoryAccess

/-- The memory after a read, which changes nothing. -/
def afterRead {α : Type} (m : Memory) (value : Except Fault α) : Except (Fault × Memory) Memory :=
  (throwAt m value).map fun _ => m

def run (cfg : VmConfig) (m : Memory) : MemoryAccess → Except (Fault × Memory) Memory
  | .read address => afterRead m (m.read address)
  | .readByte address => afterRead m (m.readByte address)
  | .readHalfWord address => afterRead m (m.readHalfWord address)
  | .readWord address => afterRead m (m.readWord address)
  | .readDoubleWord address => afterRead m (m.readDoubleWord address)
  | .write call => call.run cfg m

/-- The memory after an access, whether it has thrown or not. -/
def after (cfg : VmConfig) (m : Memory) (access : MemoryAccess) : Memory :=
  match access.run cfg m with
  | .ok m' => m'
  | .error (_, m') => m'

end MemoryAccess

/-- No access, after any sequence of accesses to a new memory, divides by zero
or indexes past the end of a block. -/
def BlockAddressingDefined (cfg : VmConfig) : Prop :=
  ∀ (accesses : List MemoryAccess) (access : MemoryAccess) (e : Fault) (m' : Memory),
    access.run cfg (accesses.foldl (MemoryAccess.after cfg) (.new cfg)) = .error (e, m') →
      e ≠ .divideTrap ∧ e ≠ .badIndex

namespace Memory

variable {cfg : VmConfig} {m : Memory} {a : BitVec 64}

/-- The exceptions of a memory in use: the access is out of range. -/
def IsOutOfRange (e : Fault) : Prop :=
  ∃ b, e = .outOfRange b

/-- The block size is not zero when narrowed, or there is no byte to access. -/
def Addressable (cfg : VmConfig) : Prop :=
  cfg.memoryBlockSize.setWidth 32 ≠ 0#32 ∨ cfg.memorySize = 0#64

theorem failsWith_read_of_addressable (h : m.Reachable cfg) (hc : Addressable cfg) :
    FailsWith IsOutOfRange (m.read a) := by
  obtain ⟨hsize, hbs⟩ := sizes_of_reachable h
  rcases hc with hc | hc
  · rcases read_of_reachable h (hbs ▸ hc) a with ⟨x, hx⟩ | ⟨e, he, b, rfl⟩
    · rw [hx]
      exact FailsWith.ok x
    · rw [he]
      exact FailsWith.error ⟨b, rfl⟩
  · rw [read_of_le (by rw [hsize, hc, BitVec.le_def]; exact Nat.zero_le _)]
    exact FailsWith.error ⟨a, rfl⟩

theorem failsWith_checkRange_outOfRange {n : Nat} : FailsWith IsOutOfRange (m.checkRange n a) := by
  unfold checkRange
  split
  · exact FailsWith.error ⟨a, rfl⟩
  · exact FailsWith.ok ()

theorem failsWith_readSized_of_addressable (h : m.Reachable cfg) (hc : Addressable cfg) {n : Nat} :
    FailsWith IsOutOfRange (m.readSized n a) := by
  refine failsWith_checkRange_outOfRange.bind fun _ _ => ?_
  refine FailsWith.foldlM (fun _ => True) (fun _ _ _ _ _ => trivial) (fun value i _ => ?_) _ _ trivial
  exact (failsWith_read_of_addressable h hc).bind fun x _ => FailsWith.ok _

/-- A write that throws is out of range and leaves the memory as it is. -/
theorem failsWith_write_of_addressable (h : m.Reachable cfg) (hc : Addressable cfg) {v : BitVec 8} :
    FailsWith (fun e => IsOutOfRange e.1 ∧ e.2.Reachable cfg) (m.write cfg a v) := by
  obtain ⟨hsize, hbs⟩ := sizes_of_reachable h
  by_cases ha : m.memorySize ≤ a
  · rw [write_of_le ha]
    exact FailsWith.error ⟨⟨a, rfl⟩, h⟩
  · rw [BitVec.not_le] at ha
    rcases hc with hc | hc
    · obtain ⟨m', hm'⟩ := (exists_write_iff h (v := v)).mpr ⟨hsize ▸ ha, hc⟩
      rw [hm']
      exact FailsWith.ok m'
    · rw [hsize, hc] at ha
      exact absurd ha BitVec.not_lt_zero

theorem failsWith_writeSized_of_addressable (h : m.Reachable cfg) (hc : Addressable cfg) {n : Nat}
    {v : BitVec (8 * n)} :
    FailsWith (fun e => IsOutOfRange e.1 ∧ e.2.Reachable cfg) (m.writeSized cfg n a v) := by
  refine FailsWith.bind ?_ fun _ _ => ?_
  · intro e he
    cases hcheck : m.checkRange n a with
    | ok u =>
      rw [hcheck] at he
      cases he
    | error f =>
      rw [hcheck] at he
      cases he
      exact ⟨failsWith_checkRange_outOfRange f hcheck, h⟩
  · exact FailsWith.foldlM (Reachable cfg) (fun _ _ _ hm hw => hm.write hw)
      (fun _ _ hm => failsWith_write_of_addressable hm hc) _ _ h

/-- An access ends in a reachable memory, and throws out of range or not at all. -/
theorem access_of_addressable (h : m.Reachable cfg) (hc : Addressable cfg) (access : MemoryAccess) :
    (∃ m', access.run cfg m = .ok m' ∧ m'.Reachable cfg) ∨
      ∃ b m', access.run cfg m = .error (.outOfRange b, m') ∧ m'.Reachable cfg := by
  have hread : ∀ {α : Type} {x : Except Fault α}, FailsWith IsOutOfRange x →
      (∃ m', MemoryAccess.afterRead m x = .ok m' ∧ m'.Reachable cfg) ∨
        ∃ b m', MemoryAccess.afterRead m x = .error (.outOfRange b, m') ∧ m'.Reachable cfg := by
    intro α x hx
    cases x with
    | ok x => exact .inl ⟨m, rfl, h⟩
    | error e =>
      obtain ⟨b, rfl⟩ := hx e rfl
      exact .inr ⟨b, m, rfl, h⟩
  cases access with
  | read a => exact hread (failsWith_read_of_addressable h hc)
  | readByte a =>
    refine hread ?_
    rw [readByte_eq]
    exact failsWith_read_of_addressable h hc
  | readHalfWord a => exact hread (failsWith_readSized_of_addressable h hc)
  | readWord a => exact hread (failsWith_readSized_of_addressable h hc)
  | readDoubleWord a => exact hread (failsWith_readSized_of_addressable h hc)
  | write call =>
    show (∃ m', call.run cfg m = .ok m' ∧ _) ∨ ∃ b m', call.run cfg m = .error (.outOfRange b, m') ∧ _
    rw [run_eq_writeSized]
    cases hw : m.writeSized cfg call.width call.address call.value with
    | ok m' => exact .inl ⟨m', rfl, reachable_of_writeSized h hw⟩
    | error e =>
      obtain ⟨e, m'⟩ := e
      obtain ⟨⟨b, rfl⟩, hm'⟩ := failsWith_writeSized_of_addressable h hc _ hw
      exact .inr ⟨b, m', rfl, hm'⟩

/-- Every memory that accesses lead to is reachable. -/
theorem reachable_of_accesses (hc : Addressable cfg) (accesses : List MemoryAccess) :
    ∀ m : Memory, m.Reachable cfg →
      (accesses.foldl (MemoryAccess.after cfg) m).Reachable cfg := by
  induction accesses with
  | nil => exact fun m h => h
  | cons access accesses ih =>
    intro m h
    refine ih _ ?_
    unfold MemoryAccess.after
    rcases access_of_addressable h hc access with ⟨m', hm', hreach⟩ | ⟨b, m', hm', hreach⟩
    · rw [hm']
      exact hreach
    · rw [hm']
      exact hreach

/-- Block addressing is defined exactly for the addressable memories. -/
theorem blockAddressingDefined_iff (cfg : VmConfig) :
    BlockAddressingDefined cfg ↔ Addressable cfg := by
  constructor
  · intro h
    by_contra hc
    obtain ⟨hbs, hsize⟩ := not_or.mp hc
    rw [not_not] at hbs
    -- the first write to address zero traps
    have hpos : (0#64) < (Memory.new cfg).memorySize := by
      rw [BitVec.lt_def]
      exact Nat.pos_of_ne_zero fun h0 => hsize (BitVec.eq_of_toNat_eq h0)
    have htrap : (Memory.new cfg).write cfg 0#64 0#8 = .error (.divideTrap, .new cfg) := by
      unfold write getBlockIndex
      rw [if_neg (BitVec.not_le.mpr hpos), if_pos (show (Memory.new cfg).blockSize = 0#32 from hbs)]
      rfl
    exact (h [] (.write (.write 0#64 0#8)) _ _ htrap).1 rfl
  · intro hc accesses access e m' herr
    have hreach := reachable_of_accesses hc accesses _ .new
    rcases access_of_addressable hreach hc access with ⟨m'', hok, -⟩ | ⟨b, m'', herr', -⟩
    · rw [hok] at herr
      cases herr
    · rw [herr'] at herr
      cases herr
      exact ⟨Fault.noConfusion, Fault.noConfusion⟩

/-- **Block addressing is defined** under a configuration that successful calls
lead to exactly when its block size is no multiple of `2 ^ 32` or its memory is empty. -/
theorem blockAddressing_iff (calls : List VmConfig.Modification) (cfg : VmConfig)
    (_ : VmConfig.modifyAll {} calls = .ok cfg) :
    BlockAddressingDefined cfg ↔
      cfg.memoryBlockSize.setWidth 32 ≠ 0#32 ∨ cfg.memorySize = 0#64 :=
  blockAddressingDefined_iff cfg

/-- Blocks of 64 bytes. -/
theorem blockAddressing_iff_smallBlocks :
    BlockAddressingDefined { memoryBlockSize := 64#64 } ↔
      (64#64).setWidth 32 ≠ 0#32 ∨ (0xffffffffffffffff#64) = 0#64 :=
  blockAddressing_iff [⟨"Memory", "memory_block_size", "64"⟩] { memoryBlockSize := 64#64 }
    (by decide +kernel)

/-- A block size of `2 ^ 32` is accepted and narrowed to zero. -/
theorem not_blockAddressingDefined :
    ¬∀ (calls : List VmConfig.Modification) (cfg : VmConfig),
      VmConfig.modifyAll {} calls = .ok cfg → BlockAddressingDefined cfg := by
  intro h
  have hdefined := h [⟨"Memory", "memory_block_size", "4294967296"⟩]
    { memoryBlockSize := 0x100000000#64 } (by decide +kernel)
  rcases (blockAddressingDefined_iff _).mp hdefined with h0 | h0
  · exact h0 (by decide)
  · exact absurd h0 (by decide)

end Memory

end RiscvSim

import Mathlib.Data.Nat.Digits.Defs

/-!
# A flat array of bytes

Accesses of several bytes to a total function from addresses to bytes, least
significant byte first.  `littleEndian` is the number with given digits in base
256; `littleEndian_eq_foldl` computes it with shifts, and `store_eq_foldl`
writes the bytes of a value one at a time.
-/

namespace RiscvSim

namespace Lib

/-- The number whose bytes, from the least significant one, are `byte 0`, `byte 1`, … -/
def littleEndian (n : Nat) (byte : Nat → BitVec 8) : BitVec (8 * n) :=
  BitVec.ofNat (8 * n) (Nat.ofDigits 256 ((List.range n).map fun i => (byte i).toNat))

/-- The byte at position `i` of a value. -/
def byteOf {n : Nat} (value : BitVec (8 * n)) (i : Nat) : BitVec 8 :=
  (value >>> (8 * i)).setWidth 8

/-- A flat array of bytes, with addresses of `w` bits. -/
abbrev FlatMemory (w : Nat) := BitVec w → BitVec 8

namespace FlatMemory

variable {w : Nat}

/-- The array with one byte replaced. -/
def storeByte (f : FlatMemory w) (address : BitVec w) (value : BitVec 8) : FlatMemory w :=
  fun a => if a = address then value else f a

/-- The value of the `n` bytes at `address`. -/
def load (f : FlatMemory w) (n : Nat) (address : BitVec w) : BitVec (8 * n) :=
  littleEndian n fun i => f (address + BitVec.ofNat w i)

/-- The array with the `n` bytes at `address` replaced by those of `value`. -/
def store (f : FlatMemory w) (n : Nat) (address : BitVec w) (value : BitVec (8 * n)) :
    FlatMemory w :=
  fun a => if (a - address).toNat < n then byteOf value (a - address).toNat else f a

end FlatMemory

/-! ### Loads -/

theorem ofDigits_range_lt (byte : Nat → BitVec 8) (k : Nat) :
    Nat.ofDigits 256 ((List.range k).map fun i => (byte i).toNat) < 2 ^ (8 * k) := by
  have hlt := Nat.ofDigits_lt_base_pow_length (b := 256) (by decide)
    (l := (List.range k).map fun i => (byte i).toNat) fun d hd => by
      obtain ⟨i, -, rfl⟩ := List.mem_map.mp hd
      exact (byte i).isLt
  rw [List.length_map, List.length_range] at hlt
  rw [Nat.pow_mul]
  exact hlt

theorem ofDigits_range_succ (byte : Nat → BitVec 8) (k : Nat) :
    Nat.ofDigits 256 ((List.range (k + 1)).map fun i => (byte i).toNat) =
      Nat.ofDigits 256 ((List.range k).map fun i => (byte i).toNat) +
        (byte k).toNat * 2 ^ (8 * k) := by
  rw [List.range_succ, List.map_append, Nat.ofDigits_append, List.length_map, List.length_range,
    Nat.pow_mul]
  simp [Nat.mul_comm]

/-- The bytes joined with shifts, a prefix of them at a time. -/
theorem toNat_foldl_littleEndian (n : Nat) (byte : Nat → BitVec 8) :
    ∀ k ≤ n, ((List.range k).foldl (fun value i =>
        value ||| ((byte i).setWidth (8 * n) <<< (8 * i))) (0#(8 * n))).toNat =
      Nat.ofDigits 256 ((List.range k).map fun i => (byte i).toNat) := by
  intro k
  induction k with
  | zero =>
    intro _
    rfl
  | succ k ih =>
    intro hk
    have hbytes := ih (by omega)
    have hsum := ofDigits_range_lt byte (k + 1)
    have hpow : 2 ^ (8 * (k + 1)) ≤ 2 ^ (8 * n) :=
      Nat.pow_le_pow_right (by decide) (by omega)
    rw [ofDigits_range_succ] at hsum ⊢
    have hbyte : (byte k).toNat < 2 ^ (8 * n) := by
      have h8 : 2 ^ 8 ≤ 2 ^ (8 * n) := Nat.pow_le_pow_right (by decide) (by omega)
      have := (byte k).isLt
      omega
    rw [List.range_succ, List.foldl_append, List.foldl_cons, List.foldl_nil, BitVec.toNat_or,
      hbytes, BitVec.toNat_shiftLeft, BitVec.toNat_setWidth, Nat.mod_eq_of_lt hbyte,
      Nat.shiftLeft_eq, Nat.mod_eq_of_lt (by omega), ← Nat.shiftLeft_eq, Nat.or_comm,
      ← Nat.shiftLeft_add_eq_or_of_lt (ofDigits_range_lt byte k), Nat.shiftLeft_eq, Nat.add_comm]

/-- The bytes joined with shifts, as a loop over the bytes does. -/
theorem littleEndian_eq_foldl (n : Nat) (byte : Nat → BitVec 8) :
    (List.range n).foldl (fun value i => value ||| ((byte i).setWidth (8 * n) <<< (8 * i)))
      (0#(8 * n)) = littleEndian n byte := by
  apply BitVec.eq_of_toNat_eq
  unfold littleEndian
  rw [toNat_foldl_littleEndian n byte n (Nat.le_refl n), BitVec.toNat_ofNat,
    Nat.mod_eq_of_lt (ofDigits_range_lt byte n)]

/-! ### Stores -/

namespace FlatMemory

variable {w : Nat}

/-- The bytes written one at a time, a prefix of them. -/
theorem store_prefix (f : FlatMemory w) {n : Nat} (address : BitVec w) (value : BitVec (8 * n))
    (a : BitVec w) :
    ∀ k ≤ 2 ^ w, (List.range k).foldl (fun f i =>
        f.storeByte (address + BitVec.ofNat w i) (byteOf value i)) f a =
      if (a - address).toNat < k then byteOf value (a - address).toNat else f a := by
  intro k
  induction k with
  | zero =>
    intro _
    rw [if_neg (Nat.not_lt_zero _)]
    rfl
  | succ k ih =>
    intro hk
    rw [List.range_succ, List.foldl_append, List.foldl_cons, List.foldl_nil, storeByte,
      ih (by omega)]
    have hpos : a = address + BitVec.ofNat w k ↔ (a - address).toNat = k := by
      constructor
      · rintro rfl
        rw [BitVec.add_comm, BitVec.add_sub_cancel, BitVec.toNat_ofNat, Nat.mod_eq_of_lt hk]
      · intro h
        have hback : a - address = BitVec.ofNat w k := by
          apply BitVec.eq_of_toNat_eq
          rw [h, BitVec.toNat_ofNat, Nat.mod_eq_of_lt hk]
        rw [← hback, BitVec.add_comm, BitVec.sub_add_cancel]
    by_cases ha : a = address + BitVec.ofNat w k
    · have h := hpos.mp ha
      rw [if_pos ha, if_pos (by omega), h]
    · have h : (a - address).toNat ≠ k := fun h => ha (hpos.mpr h)
      rw [if_neg ha]
      by_cases hlt : (a - address).toNat < k
      · rw [if_pos hlt, if_pos (by omega)]
      · rw [if_neg hlt, if_neg (by omega)]

/-- A store writes the bytes of its value one at a time. -/
theorem store_eq_foldl (f : FlatMemory w) {n : Nat} (hn : n ≤ 2 ^ w) (address : BitVec w)
    (value : BitVec (8 * n)) :
    (List.range n).foldl (fun f i => f.storeByte (address + BitVec.ofNat w i) (byteOf value i)) f =
      f.store n address value :=
  funext fun a => store_prefix f address value a n hn

end FlatMemory

end Lib

end RiscvSim

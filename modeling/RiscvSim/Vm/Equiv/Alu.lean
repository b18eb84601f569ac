import RiscvSim.Lib.WordArithmetic
import RiscvSim.Vm.Alu

/-!
# The multiplications and divisions of the ALU

* **`Alu.execute_multiplication`**: the low and the three high products make up the exact one.
* **`Alu.execute_ne_divideTrap_iff`**: which divisions the ALU evaluates are defined.
* **`Alu.execute_division_iff`**: where the divisions and remainders are those of
  the M extension, which `DivisionOp.result` specifies through the total division of words.
-/

namespace RiscvSim

namespace Alu

open Lib

/-! ### Products -/

/-- The product of the low halves, computed with 64 bits and cut off. -/
theorem mulWord_eq (a b : BitVec 64) :
    ((word a).signExtend 64 * (word b).signExtend 64).setWidth 32 =
      BitVec.ofInt 32 ((word a).toInt * (word b).toInt) := by
  have hset : ∀ x : BitVec 32, (x.signExtend 64).setWidth 32 = x := setWidth_signExtend_double
  rw [BitVec.setWidth_mul _ _ (by decide), hset, hset, BitVec.ofInt_mul, BitVec.ofInt_toInt,
    BitVec.ofInt_toInt]

/-- **The products of the ALU**: with the low half, each high half makes up the
exact product of the operands read as it reads them. -/
theorem execute_multiplication (a b : BitVec 64) :
    ∃ lo high highSU highU low32 : BitVec 64, ∃ overflow overflow32 : Bool,
      execute .kMul a b = .ok (lo, overflow) ∧
      execute .kMulh a b = .ok (high, false) ∧
      execute .kMulhsu a b = .ok (highSU, false) ∧
      execute .kMulhu a b = .ok (highU, false) ∧
      execute .kMulw a b = .ok (low32, overflow32) ∧
      high.toInt * 2 ^ 64 + lo.toNat = a.toInt * b.toInt ∧
      highSU.toInt * 2 ^ 64 + lo.toNat = a.toInt * b.toNat ∧
      highU.toNat * 2 ^ 64 + lo.toNat = a.toNat * b.toNat ∧
      low32 = (BitVec.ofInt 32 ((word a).toInt * (word b).toInt)).signExtend 64 :=
  ⟨_, _, _, _, _, _, _, rfl, rfl, rfl, rfl, rfl, toInt_mul_upperHalf a b,
    toInt_toNat_mul_upperHalf a b, toNat_mul_upperHalf a b, by rw [mulWord_eq]⟩

/-! ### Trapping divisions -/

section Divide

variable {w : Nat} {operation : BitVec w → BitVec w → BitVec w} {a b : BitVec w}

/-- A signed division traps on the divisor zero and on the quotient `2 ^ (w - 1)`. -/
theorem divide_signed : divide true operation a b =
    if b = 0#w ∨ (a = BitVec.intMin w ∧ b = -1#w) then .error .divideTrap
    else .ok (operation a b) := by
  unfold divide
  simp only [true_and]

/-- An unsigned division traps on the divisor zero only. -/
theorem divide_unsigned : divide false operation a b =
    if b = 0#w then .error .divideTrap else .ok (operation a b) := by
  unfold divide
  simp only [Bool.false_eq_true, false_and, or_false]

theorem divide_signed_of_ne (hb : b ≠ 0#w) (ho : ¬(a = BitVec.intMin w ∧ b = -1#w)) :
    divide true operation a b = .ok (operation a b) := by
  rw [divide_signed, if_neg (not_or.mpr ⟨hb, ho⟩)]

theorem divide_unsigned_of_ne (hb : b ≠ 0#w) :
    divide false operation a b = .ok (operation a b) := by
  rw [divide_unsigned, if_neg hb]

end Divide

/-- The operands for which no division or remainder that C++ leaves undefined
is evaluated. -/
def DivisionDefined (op : AluOp) (a b : BitVec 64) : Prop :=
  match op with
  | .kDivuw | .kRemuw => b = 0#64 ∨ word b ≠ 0#32
  | .kRem => ¬(a = BitVec.intMin 64 ∧ b = -1#64)
  | .kRemw => (b = 0#64 ∨ word b ≠ 0#32) ∧ ¬(word a = BitVec.intMin 32 ∧ word b = -1#32)
  | _ => True

/-- The ALU throws only the trap of a division. -/
theorem execute_error {op : AluOp} {a b : BitVec 64} {e : Fault} (h : execute op a b = .error e) :
    e = .divideTrap := by
  cases op
  all_goals
    simp only [execute, divide_signed, divide_unsigned] at h
    try split_ifs at h
    all_goals cases h
    all_goals rfl

/-- The ALU has a result exactly where the division it evaluates is defined. -/
theorem exists_execute_iff (op : AluOp) (a b : BitVec 64) :
    (∃ r, execute op a b = .ok r) ↔ DivisionDefined op a b := by
  cases op
  case kDiv =>
    simp only [execute, DivisionDefined, iff_true]
    by_cases hb : b = 0#64
    · exact ⟨_, if_pos hb⟩
    · by_cases ho : a = BitVec.intMin 64 ∧ b = -1#64
      · exact ⟨_, (if_neg hb).trans (if_pos ho)⟩
      · rw [if_neg hb, if_neg ho, divide_signed_of_ne hb ho]
        exact ⟨_, rfl⟩
  case kDivw =>
    simp only [execute, DivisionDefined, iff_true]
    by_cases hw : word b = 0#32
    · exact ⟨_, if_pos hw⟩
    · by_cases ho : word a = BitVec.intMin 32 ∧ word b = -1#32
      · exact ⟨_, (if_neg hw).trans (if_pos ho)⟩
      · rw [if_neg hw, if_neg ho, divide_signed_of_ne hw ho]
        exact ⟨_, rfl⟩
  case kDivu | kRemu =>
    simp only [execute, DivisionDefined, divide_unsigned, iff_true]
    by_cases hb : b = 0#64 <;> simp [hb]
  case kDivuw | kRemuw =>
    simp only [execute, DivisionDefined, divide_unsigned]
    by_cases hb : b = 0#64 <;> by_cases hw : word b = 0#32 <;> simp [hb, hw]
  case kRem =>
    simp only [execute, DivisionDefined, divide_signed]
    by_cases hb : b = 0#64
    · simp [hb]
    · by_cases ho : a = BitVec.intMin 64 ∧ b = -1#64
      · rw [if_neg hb, if_pos (.inr ho)]
        simp [ho]
      · rw [if_neg hb, if_neg (not_or.mpr ⟨hb, ho⟩)]
        exact iff_of_true ⟨_, rfl⟩ ho
  case kRemw =>
    simp only [execute, DivisionDefined, divide_signed]
    by_cases hb : b = 0#64
    · simp [hb, word]
    · by_cases hw : word b = 0#32
      · simp [hb, hw]
      · by_cases ho : word a = BitVec.intMin 32 ∧ word b = -1#32
        · rw [if_neg hb, if_pos (.inr ho)]
          simp [ho]
        · rw [if_neg hb, if_neg (not_or.mpr ⟨hw, ho⟩)]
          exact iff_of_true ⟨_, rfl⟩ ⟨.inr hw, ho⟩
  all_goals exact iff_of_true ⟨_, rfl⟩ trivial

/-- **The ALU traps exactly** on the operands for which a division is not defined. -/
theorem execute_ne_divideTrap_iff (op : AluOp) (a b : BitVec 64) :
    execute op a b ≠ .error .divideTrap ↔ DivisionDefined op a b := by
  rw [← exists_execute_iff]
  cases h : execute op a b with
  | error e =>
    rw [execute_error h]
    exact iff_of_false (fun h => h rfl) fun ⟨_, h⟩ => nomatch h
  | ok r => exact iff_of_true (fun h => nomatch h) ⟨r, rfl⟩

/-- A remainder by `2 ^ 32` in the 32-bit form divides by zero. -/
theorem execute_divideTrap :
    ¬∀ (op : AluOp) (a b : BitVec 64), execute op a b ≠ .error .divideTrap :=
  fun h => h .kRemw 1#64 0x100000000#64 rfl

/-! ### The M extension -/

/-- The divisions and remainders of the M extension. -/
inductive DivisionOp where
  | div | divw | divu | divuw
  | rem | remw | remu | remuw
  deriving DecidableEq, Repr

namespace DivisionOp

/-- The operation of the ALU for a division or remainder. -/
def aluOp : DivisionOp → AluOp
  | .div => .kDiv
  | .divw => .kDivw
  | .divu => .kDivu
  | .divuw => .kDivuw
  | .rem => .kRem
  | .remw => .kRemw
  | .remu => .kRemu
  | .remuw => .kRemuw

/-- The specified result: the 32-bit forms work on the low halves and
sign-extend their result. -/
def result (op : DivisionOp) (a b : BitVec 64) : BitVec 64 :=
  match op with
  | .div => divSigned a b
  | .divw => (divSigned (word a) (word b)).signExtend 64
  | .divu => divUnsigned a b
  | .divuw => (divUnsigned (word a) (word b)).signExtend 64
  | .rem => remSigned a b
  | .remw => (remSigned (word a) (word b)).signExtend 64
  | .remu => remUnsigned a b
  | .remuw => (remUnsigned (word a) (word b)).signExtend 64

/-- The operands for which the ALU gives the specified result. -/
def Agrees (op : DivisionOp) (a b : BitVec 64) : Prop :=
  match op with
  | .div => b ≠ 0#64 ∧ ¬(a = BitVec.intMin 64 ∧ b = -1#64)
  | .divw => word b ≠ 0#32
  | .divu => b ≠ 0#64
  -- a quotient with the highest bit set is not sign-extended
  | .divuw => word b ≠ 0#32 ∧ ¬(word b = 1#32 ∧ (word a).msb = true)
  | .rem => (b = 0#64 → a = 0#64) ∧ ¬(a = BitVec.intMin 64 ∧ b = -1#64)
  | .remw =>
    (b = 0#64 → word a = 0#32) ∧ (b = 0#64 ∨ word b ≠ 0#32) ∧
      ¬(word a = BitVec.intMin 32 ∧ word b = -1#32)
  | .remu => b = 0#64 → a = 0#64
  -- nor is a remainder with the highest bit set
  | .remuw =>
    (b = 0#64 → word a = 0#32) ∧ (b = 0#64 ∨ word b ≠ 0#32) ∧
      ¬(word a < word b ∧ (word a).msb = true)

end DivisionOp

variable {a b : BitVec 64}

/-- Filling up with zeros is sign extension for the words whose highest bit is clear. -/
theorem setWidth_eq_signExtend_iff {x : BitVec 32} :
    x.setWidth 64 = x.signExtend 64 ↔ ¬x.msb = true := by
  constructor
  · intro h hmsb
    have hbit : (x.setWidth 64).getLsbD 32 = (x.signExtend 64).getLsbD 32 := by rw [h]
    rw [BitVec.getLsbD_setWidth, BitVec.getLsbD_signExtend] at hbit
    simp [hmsb] at hbit
  · intro h
    rw [BitVec.signExtend_eq_setWidth_of_msb_false (Bool.not_eq_true _ ▸ h)]

theorem word_signExtend (x : BitVec 32) : word (x.signExtend 64) = x :=
  setWidth_signExtend_double x

theorem word_zero : word 0#64 = 0#32 :=
  rfl

theorem exists_ok_iff {x r : BitVec 64} {overflow : Bool} :
    (∃ o, (.ok (x, overflow) : Except Fault (BitVec 64 × Bool)) = .ok (r, o)) ↔ x = r := by
  simp

theorem not_exists_error_eq {r : BitVec 64} {e : Fault} :
    ¬∃ o, (.error e : Except Fault (BitVec 64 × Bool)) = .ok (r, o) := by
  simp

theorem execute_div_iff :
    (∃ o, execute .kDiv a b = .ok (DivisionOp.result .div a b, o)) ↔ DivisionOp.Agrees .div a b := by
  simp only [execute, DivisionOp.result, DivisionOp.Agrees]
  by_cases hb : b = 0#64
  · rw [if_pos hb, exists_ok_iff, hb, divSigned_zero]
    exact iff_of_false (by decide) fun h => h.1 rfl
  · by_cases ho : a = BitVec.intMin 64 ∧ b = -1#64
    · obtain ⟨rfl, rfl⟩ := ho
      decide
    · rw [if_neg hb, if_neg ho, divide_signed_of_ne hb ho, ok_bind, pure_eq_ok, exists_ok_iff,
        divSigned_of_ne hb]
      exact iff_of_true rfl ⟨hb, ho⟩

theorem execute_divw_iff :
    (∃ o, execute .kDivw a b = .ok (DivisionOp.result .divw a b, o)) ↔
      DivisionOp.Agrees .divw a b := by
  simp only [execute, DivisionOp.result, DivisionOp.Agrees]
  by_cases hw : word b = 0#32
  · rw [if_pos hw, exists_ok_iff, hw, divSigned_zero]
    exact iff_of_false (by decide) fun h => h rfl
  · rw [if_neg hw, divSigned_of_ne hw]
    by_cases ho : word a = BitVec.intMin 32 ∧ word b = -1#32
    · rw [if_pos ho, exists_ok_iff, ho.1, ho.2]
      exact iff_of_true (by decide) (by decide)
    · rw [if_neg ho, divide_signed_of_ne hw ho, ok_bind, pure_eq_ok, exists_ok_iff]
      exact iff_of_true rfl hw

theorem execute_divu_iff :
    (∃ o, execute .kDivu a b = .ok (DivisionOp.result .divu a b, o)) ↔
      DivisionOp.Agrees .divu a b := by
  simp only [execute, DivisionOp.result, DivisionOp.Agrees]
  by_cases hb : b = 0#64
  · rw [if_pos hb, exists_ok_iff, hb, divUnsigned_zero]
    exact iff_of_false (by decide) fun h => h rfl
  · rw [if_neg hb, divide_unsigned_of_ne hb, ok_bind, pure_eq_ok, exists_ok_iff,
      divUnsigned_of_ne hb]
    exact iff_of_true rfl hb

theorem execute_divuw_iff :
    (∃ o, execute .kDivuw a b = .ok (DivisionOp.result .divuw a b, o)) ↔
      DivisionOp.Agrees .divuw a b := by
  simp only [execute, DivisionOp.result, DivisionOp.Agrees]
  by_cases hb : b = 0#64
  · rw [if_pos hb, exists_ok_iff, hb, word_zero, divUnsigned_zero]
    exact iff_of_false (by decide) fun h => h.1 rfl
  · rw [if_neg hb]
    by_cases hw : word b = 0#32
    · rw [divide_unsigned, if_pos hw]
      exact iff_of_false not_exists_error_eq fun h => h.1 hw
    · rw [divide_unsigned_of_ne hw, ok_bind, pure_eq_ok, exists_ok_iff, divUnsigned_of_ne hw, setWidth_eq_signExtend_iff,
        BitVec.msb_udiv, Bool.and_eq_true, beq_iff_eq, and_comm (a := (word a).msb = true)]
      exact ⟨fun h => ⟨hw, h⟩, fun h => h.2⟩

theorem execute_rem_iff :
    (∃ o, execute .kRem a b = .ok (DivisionOp.result .rem a b, o)) ↔ DivisionOp.Agrees .rem a b := by
  simp only [execute, DivisionOp.result, DivisionOp.Agrees]
  by_cases hb : b = 0#64
  · rw [if_pos hb, exists_ok_iff, hb, remSigned_zero, eq_comm]
    exact ⟨fun ha => ⟨fun _ => ha, fun ho => absurd ho.2 (by decide)⟩, fun h => h.1 rfl⟩
  · rw [if_neg hb]
    by_cases ho : a = BitVec.intMin 64 ∧ b = -1#64
    · rw [divide_signed, if_pos (.inr ho)]
      exact iff_of_false not_exists_error_eq fun h => h.2 ho
    · rw [divide_signed_of_ne hb ho, ok_bind, pure_eq_ok, exists_ok_iff, remSigned_of_ne hb]
      exact iff_of_true rfl ⟨fun h => absurd h hb, ho⟩

/-- With divisor zero the 32-bit remainders are right for the dividends whose low half is zero. -/
theorem zero_eq_signExtend_iff {x : BitVec 32} : 0#64 = x.signExtend 64 ↔ x = 0#32 := by
  constructor
  · intro h
    rw [← word_signExtend x, ← h, word_zero]
  · rintro rfl
    rfl

theorem execute_remw_iff :
    (∃ o, execute .kRemw a b = .ok (DivisionOp.result .remw a b, o)) ↔
      DivisionOp.Agrees .remw a b := by
  simp only [execute, DivisionOp.result, DivisionOp.Agrees]
  by_cases hb : b = 0#64
  · rw [if_pos hb, exists_ok_iff, hb, word_zero, remSigned_zero, zero_eq_signExtend_iff]
    exact ⟨fun ha => ⟨fun _ => ha, .inl rfl, fun ho => absurd ho.2 (by decide)⟩,
      fun h => h.1 rfl⟩
  · rw [if_neg hb]
    by_cases ht : word b = 0#32 ∨ (word a = BitVec.intMin 32 ∧ word b = -1#32)
    · rw [divide_signed, if_pos ht]
      refine iff_of_false not_exists_error_eq fun ⟨_, hw, ho⟩ => ?_
      rcases ht with ht | ht
      · exact hw.elim hb fun hw => hw ht
      · exact ho ht
    · obtain ⟨hw, ho⟩ := not_or.mp ht
      rw [divide_signed_of_ne hw ho, ok_bind, pure_eq_ok, exists_ok_iff, remSigned_of_ne hw]
      exact iff_of_true rfl ⟨fun h => absurd h hb, .inr hw, ho⟩

theorem execute_remu_iff :
    (∃ o, execute .kRemu a b = .ok (DivisionOp.result .remu a b, o)) ↔
      DivisionOp.Agrees .remu a b := by
  simp only [execute, DivisionOp.result, DivisionOp.Agrees]
  by_cases hb : b = 0#64
  · rw [if_pos hb, exists_ok_iff, hb, remUnsigned_zero, eq_comm]
    exact ⟨fun ha _ => ha, fun h => h rfl⟩
  · rw [if_neg hb, divide_unsigned_of_ne hb, ok_bind, pure_eq_ok, exists_ok_iff,
      remUnsigned_of_ne hb]
    exact iff_of_true rfl fun h => absurd h hb

theorem execute_remuw_iff :
    (∃ o, execute .kRemuw a b = .ok (DivisionOp.result .remuw a b, o)) ↔
      DivisionOp.Agrees .remuw a b := by
  simp only [execute, DivisionOp.result, DivisionOp.Agrees]
  by_cases hb : b = 0#64
  · rw [if_pos hb, exists_ok_iff, hb, word_zero, remUnsigned_zero, zero_eq_signExtend_iff]
    exact ⟨fun ha => ⟨fun _ => ha, .inl rfl, fun ho => absurd ho.1 (by rw [ha]; decide)⟩,
      fun h => h.1 rfl⟩
  · rw [if_neg hb]
    by_cases hw : word b = 0#32
    · rw [divide_unsigned, if_pos hw]
      exact iff_of_false not_exists_error_eq fun h => h.2.1.elim hb fun h => h hw
    · have hmsb : (word a % word b).msb = true ↔ word a < word b ∧ (word a).msb = true := by
        rw [BitVec.msb_umod]
        simp [hw, and_comm]
      rw [divide_unsigned_of_ne hw, ok_bind, pure_eq_ok, exists_ok_iff, remUnsigned_of_ne hw,
        setWidth_eq_signExtend_iff, hmsb]
      exact ⟨fun h => ⟨fun h0 => absurd h0 hb, .inr hw, h⟩, fun h => h.2.2⟩

/-- **The divisions of the ALU** give the results of the M extension exactly where
`Agrees` says, and those results satisfy the division equation in every case. -/
theorem execute_division_iff (a b : BitVec 64) :
    (∀ op : DivisionOp,
      (∃ overflow, execute op.aluOp a b = .ok (op.result a b, overflow)) ↔ op.Agrees a b) ∧
    DivisionOp.result .div a b * b + DivisionOp.result .rem a b = a ∧
    DivisionOp.result .divu a b * b + DivisionOp.result .remu a b = a ∧
    word (DivisionOp.result .divw a b) * word b + word (DivisionOp.result .remw a b) = word a ∧
    word (DivisionOp.result .divuw a b) * word b + word (DivisionOp.result .remuw a b) =
      word a := by
  refine ⟨fun op => ?_, divSigned_mul_add_remSigned a b, divUnsigned_mul_add_remUnsigned a b,
    ?_, ?_⟩
  · cases op with
    | div => exact execute_div_iff
    | divw => exact execute_divw_iff
    | divu => exact execute_divu_iff
    | divuw => exact execute_divuw_iff
    | rem => exact execute_rem_iff
    | remw => exact execute_remw_iff
    | remu => exact execute_remu_iff
    | remuw => exact execute_remuw_iff
  · unfold DivisionOp.result
    rw [word_signExtend, word_signExtend]
    exact divSigned_mul_add_remSigned (word a) (word b)
  · unfold DivisionOp.result
    rw [word_signExtend, word_signExtend]
    exact divUnsigned_mul_add_remUnsigned (word a) (word b)

/-- A division by zero gives zero. -/
theorem execute_division_by_zero :
    ¬∀ (op : DivisionOp) (a b : BitVec 64),
      ∃ overflow, execute op.aluOp a b = .ok (op.result a b, overflow) := by
  intro h
  obtain ⟨o, h⟩ := h .div 1#64 0#64
  have hresult : 0#64 = DivisionOp.result .div 1#64 0#64 := exists_ok_iff.mp ⟨o, h⟩
  exact absurd hresult (by decide)

end Alu

end RiscvSim

import RiscvSim.Vm.Fault

/-!
# The arithmetic and logic unit

`Alu.execute` is the integer ALU shared by all machines.  It returns the result
and an overflow flag.  Where the source evaluates a division or remainder that
C++ leaves undefined (a divisor that is zero after truncation, or the least
value divided by `-1`), the processor traps.

`Alu.fpexecute` and `Alu.dfpexecute` are the floating-point ALU of the
single-cycle machine.  They set the rounding direction of the thread and do not
restore it on every path; the arithmetic of the host is a parameter.
-/

namespace RiscvSim

/-- The operations of the ALU. -/
inductive AluOp where
  | kNone
  | kAdd | kAddw | kSub | kSubw
  | kMul | kMulh | kMulhsu | kMulhu | kMulw
  | kDiv | kDivw | kDivu | kDivuw
  | kRem | kRemw | kRemu | kRemuw
  | kAnd | kOr | kXor
  | kSll | kSllw | kSrl | kSrlw | kSra | kSraw
  | kSlt | kSltu
  | kFmaddS | kFmsubS | kFnmaddS | kFnmsubS
  | faddS | fsubS | fmulS | fdivS | fsqrtS
  | fsgnjS | fsgnjnS | fsgnjxS | fminS | fmaxS
  | feqS | fltS | fleS | fclassS
  | fcvtWS | fcvtWuS | fcvtLS | fcvtLuS
  | fcvtSW | fcvtSWu | fcvtSL | fcvtSLu
  | fmvXW | fmvWX
  | fmaddD | fmsubD | fnmaddD | fnmsubD
  | faddD | fsubD | fmulD | fdivD | fsqrtD
  | fsgnjD | fsgnjnD | fsgnjxD | fminD | fmaxD
  | feqD | fltD | fleD | fclassD
  | fcvtWD | fcvtWuD | fcvtLD | fcvtLuD
  | fcvtDW | fcvtDWu | fcvtDL | fcvtDLu
  | fcvtSD | fcvtDS
  | fmvDX | fmvXD
  deriving DecidableEq, Repr

namespace Alu

/-- The low 32 bits of an operand, as a cast to a 32-bit integer takes them. -/
def word (a : BitVec 64) : BitVec 32 :=
  a.setWidth 32

/-- The high 64 bits of a 128-bit product. -/
def highHalf (product : BitVec 128) : BitVec 64 :=
  (product.sshiftRight 64).setWidth 64

/-- A division instruction of the processor.  It traps on the divisor zero, and
the signed one where the quotient does not fit. -/
def divide {w : Nat} (isSigned : Bool) (operation : BitVec w → BitVec w → BitVec w)
    (a b : BitVec w) : Except Fault (BitVec w) :=
  if b = 0#w ∨ (isSigned = true ∧ a = BitVec.intMin w ∧ b = -1#w) then .error .divideTrap
  else .ok (operation a b)

/-- The integer operations: the result and the overflow flag. -/
def execute (op : AluOp) (a b : BitVec 64) : Except Fault (BitVec 64 × Bool) :=
  match op with
  | .kAdd => .ok (a + b, a.saddOverflow b)
  | .kAddw =>
    let result := word a + word b
    .ok (result.signExtend 64, (word a).saddOverflow (word b))
  | .kSub => .ok (a - b, a.ssubOverflow b)
  | .kSubw =>
    let result := word a - word b
    .ok (result.signExtend 64, (word a).ssubOverflow (word b))
  | .kMul => .ok (a * b, a.smulOverflow b)
  | .kMulh => .ok (highHalf (a.signExtend 128 * b.signExtend 128), false)
  | .kMulhsu => .ok (highHalf (a.signExtend 128 * b.setWidth 128), false)
  | .kMulhu => .ok (highHalf (a.setWidth 128 * b.setWidth 128), false)
  | .kMulw =>
    let result := (word a).signExtend 64 * (word b).signExtend 64
    let lowerResult := result.setWidth 32
    .ok (lowerResult.signExtend 64, result != lowerResult.signExtend 64)
  | .kDiv =>
    if b = 0#64 then .ok (0#64, false)
    else if a = BitVec.intMin 64 ∧ b = -1#64 then .ok (BitVec.intMax 64, true)
    else do
      let quotient ← divide true BitVec.sdiv a b
      pure (quotient, false)
  | .kDivw =>
    if word b = 0#32 then .ok (0#64, false)
    else if word a = BitVec.intMin 32 ∧ word b = -1#32 then
      .ok ((BitVec.intMin 32).signExtend 64, true)
    else do
      let quotient ← divide true BitVec.sdiv (word a) (word b)
      pure (quotient.signExtend 64, false)
  | .kDivu =>
    if b = 0#64 then .ok (0#64, false)
    else do
      let quotient ← divide false (· / ·) a b
      pure (quotient, false)
  | .kDivuw =>
    -- the test looks at all 64 bits of the divisor, the division at the low 32
    if b = 0#64 then .ok (0#64, false)
    else do
      let quotient ← divide false (· / ·) (word a) (word b)
      pure (quotient.setWidth 64, false)
  | .kRem =>
    if b = 0#64 then .ok (0#64, false)
    else do
      let remainder ← divide true BitVec.srem a b
      pure (remainder, false)
  | .kRemw =>
    if b = 0#64 then .ok (0#64, false)
    else do
      let remainder ← divide true BitVec.srem (word a) (word b)
      pure (remainder.signExtend 64, false)
  | .kRemu =>
    if b = 0#64 then .ok (0#64, false)
    else do
      let remainder ← divide false (· % ·) a b
      pure (remainder, false)
  | .kRemuw =>
    if b = 0#64 then .ok (0#64, false)
    else do
      let remainder ← divide false (· % ·) (word a) (word b)
      pure (remainder.setWidth 64, false)
  | .kAnd => .ok (a &&& b, false)
  | .kOr => .ok (a ||| b, false)
  | .kXor => .ok (a ^^^ b, false)
  | .kSll => .ok (a <<< (b &&& 63#64).toNat, false)
  | .kSllw => .ok ((word a <<< (word b &&& 31#32).toNat).signExtend 64, false)
  | .kSrl => .ok (a >>> (b &&& 63#64).toNat, false)
  | .kSrlw => .ok ((word a >>> (word b &&& 31#32).toNat).signExtend 64, false)
  | .kSra => .ok (a.sshiftRight (b &&& 63#64).toNat, false)
  | .kSraw => .ok (((word a).sshiftRight (b &&& 31#64).toNat).signExtend 64, false)
  | .kSlt => .ok ((BitVec.ofBool (a.slt b)).setWidth 64, false)
  | .kSltu => .ok ((BitVec.ofBool (a.ult b)).setWidth 64, false)
  | _ => .ok (0#64, false)

end Alu

/-! ### Floating point -/

/-- The rounding directions of a thread: `FE_TONEAREST` and so on. -/
inductive RoundingDirection where
  | toNearest
  | towardZero
  | downward
  | upward
  deriving DecidableEq, Repr

/-- The floating-point arithmetic of the host.  `single` and `double` are the
operations that give a number, with the exception flags they raise, when the
thread rounds in a direction; the other two say whether a comparison holds. -/
structure FloatUnit where
  single : RoundingDirection → AluOp → BitVec 64 → BitVec 64 → BitVec 64 → BitVec 64 × BitVec 8
  double : RoundingDirection → AluOp → BitVec 64 → BitVec 64 → BitVec 64 → BitVec 64 × Bool
  compareSingle : AluOp → BitVec 64 → BitVec 64 → Bool × BitVec 8
  compareDouble : AluOp → BitVec 64 → BitVec 64 → Bool × Bool

/-- A floating-point unit that answers with zeros. -/
def FloatUnit.zeros : FloatUnit where
  single := fun _ _ _ _ _ => (0#64, 0#8)
  double := fun _ _ _ _ _ => (0#64, false)
  compareSingle := fun _ _ _ => (false, 0#8)
  compareDouble := fun _ _ _ => (false, false)

namespace Alu

/-- The direction that the rounding mode of an instruction sets; modes from 4 on
leave the direction of the thread. -/
def setRound (direction : RoundingDirection) (rm : BitVec 8) : RoundingDirection :=
  match rm with
  | 0b000#8 => .toNearest
  | 0b001#8 => .towardZero
  | 0b010#8 => .downward
  | 0b011#8 => .upward
  | _ => direction

/-- The sign injections on words of `w` bits: the sign is computed from the two operands. -/
def injectSign {w : Nat} (sign : BitVec w → BitVec w → BitVec w) (a b : BitVec w) : BitVec w :=
  (a &&& ~~~BitVec.intMin w) ||| (sign a b &&& BitVec.intMin w)

/-- The single-precision operations in a thread that rounds in `direction`: the
result, the exception flags and the direction afterwards.  The integer addition,
a comparison that holds and FMV.X.W return before the direction is restored. -/
def fpexecute (fpu : FloatUnit) (direction : RoundingDirection) (op : AluOp)
    (ina inb inc : BitVec 64) (rm : BitVec 8) : (BitVec 64 × BitVec 8) × RoundingDirection :=
  let current := setRound direction rm
  match op with
  | .kAdd => ((ina + inb, 0#8), current)
  | .feqS | .fltS | .fleS =>
    let (holds, fcsr) := fpu.compareSingle op ina inb
    if holds then ((1#64, 0#8), current) else ((0#64, fcsr), direction)
  | .fsgnjS =>
    (((injectSign (fun _ b => b) (word ina) (word inb)).setWidth 64, 0#8), direction)
  | .fsgnjnS =>
    (((injectSign (fun _ b => ~~~b) (word ina) (word inb)).setWidth 64, 0#8), direction)
  | .fsgnjxS =>
    (((injectSign (fun a b => a ^^^ b) (word ina) (word inb)).setWidth 64, 0#8), direction)
  | .fmvXW => (((word ina).signExtend 64, 0#8), current)
  | .fmvWX => (((word ina).setWidth 64, 0#8), direction)
  | .kFmaddS | .kFmsubS | .kFnmaddS | .kFnmsubS
  | .faddS | .fsubS | .fmulS | .fdivS | .fsqrtS | .fminS | .fmaxS | .fclassS
  | .fcvtWS | .fcvtWuS | .fcvtLS | .fcvtLuS | .fcvtSW | .fcvtSWu | .fcvtSL | .fcvtSLu =>
    (fpu.single current op ina inb inc, direction)
  | _ => ((0#64, 0#8), direction)

/-- The double-precision operations, as `fpexecute`; FMV.D.X is the move that
returns early. -/
def dfpexecute (fpu : FloatUnit) (direction : RoundingDirection) (op : AluOp)
    (ina inb inc : BitVec 64) (rm : BitVec 8) : (BitVec 64 × Bool) × RoundingDirection :=
  let current := setRound direction rm
  match op with
  | .kAdd => ((ina + inb, false), current)
  | .feqD | .fltD | .fleD =>
    let (holds, fcsr) := fpu.compareDouble op ina inb
    if holds then ((1#64, false), current) else ((0#64, fcsr), direction)
  | .fsgnjD => ((injectSign (fun _ b => b) ina inb, false), direction)
  | .fsgnjnD => ((injectSign (fun _ b => ~~~b) ina inb, false), direction)
  | .fsgnjxD => ((injectSign (fun a b => a ^^^ b) ina inb, false), direction)
  | .fmvDX => ((ina, false), current)
  | .fmvXD => ((ina, false), direction)
  -- FCVT.S.LU stands where FCVT.D.LU should, which gives zero
  | .fmaddD | .fmsubD | .fnmaddD | .fnmsubD
  | .faddD | .fsubD | .fmulD | .fdivD | .fsqrtD | .fminD | .fmaxD | .fclassD
  | .fcvtWD | .fcvtWuD | .fcvtLD | .fcvtLuD | .fcvtDW | .fcvtDWu | .fcvtDL | .fcvtSLu
  | .fcvtDS | .fcvtSD =>
    (fpu.double current op ina inb inc, direction)
  | _ => ((0#64, false), direction)

end Alu

end RiscvSim

/-!
# The register file

The general-purpose, floating-point and control registers.  An index is taken
from a bit field of an instruction word, so the indices are bit vectors of the
field's width and the range checks of the source never fail.
-/

namespace RiscvSim

/-- The three register banks. -/
@[ext]
structure RegisterFile where
  gpr : BitVec 5 → BitVec 64
  fpr : BitVec 5 → BitVec 64
  csr : BitVec 12 → BitVec 64

namespace RegisterFile

/-- All registers zero, as the constructor and `Reset` leave them. -/
def reset : RegisterFile where
  gpr := fun _ => 0#64
  fpr := fun _ => 0#64
  csr := fun _ => 0#64

/-- Reads a general-purpose register; `x0` reads as zero. -/
def readGpr (r : RegisterFile) (reg : BitVec 5) : BitVec 64 :=
  if reg = 0#5 then 0#64 else r.gpr reg

/-- Writes a general-purpose register; a write to `x0` is dropped. -/
def writeGpr (r : RegisterFile) (reg : BitVec 5) (value : BitVec 64) : RegisterFile :=
  if reg = 0#5 then r else { r with gpr := fun i => if i = reg then value else r.gpr i }

def readFpr (r : RegisterFile) (reg : BitVec 5) : BitVec 64 :=
  r.fpr reg

def writeFpr (r : RegisterFile) (reg : BitVec 5) (value : BitVec 64) : RegisterFile :=
  { r with fpr := fun i => if i = reg then value else r.fpr i }

def readCsr (r : RegisterFile) (reg : BitVec 12) : BitVec 64 :=
  r.csr reg

def writeCsr (r : RegisterFile) (reg : BitVec 12) (value : BitVec 64) : RegisterFile :=
  { r with csr := fun i => if i = reg then value else r.csr i }

@[simp] theorem readGpr_zero (r : RegisterFile) : r.readGpr 0#5 = 0#64 :=
  rfl

@[simp] theorem writeGpr_zero (r : RegisterFile) (value : BitVec 64) :
    r.writeGpr 0#5 value = r :=
  rfl

/-- A second write of a register replaces the first. -/
theorem writeGpr_writeGpr (r : RegisterFile) (reg : BitVec 5) (value value' : BitVec 64) :
    (r.writeGpr reg value).writeGpr reg value' = r.writeGpr reg value' := by
  unfold writeGpr
  by_cases hreg : reg = 0#5
  · simp only [hreg, if_true]
  · simp only [hreg, if_false]
    congr 1
    ext i
    by_cases hi : i = reg <;> simp only [hi, if_true, if_false]

/-- Reading after a write: the written value at the written register (unless
that is `x0`), the old value elsewhere. -/
theorem readGpr_writeGpr (r : RegisterFile) (reg i : BitVec 5) (value : BitVec 64) :
    (r.writeGpr reg value).readGpr i = if reg ≠ 0#5 ∧ i = reg then value else r.readGpr i := by
  unfold writeGpr readGpr
  by_cases hreg : reg = 0#5
  · simp [hreg]
  · by_cases hi : i = reg
    · subst hi
      simp [hreg]
    · simp [hreg, hi]

theorem readGpr_writeGpr_of_ne (r : RegisterFile) {reg i : BitVec 5} (value : BitVec 64)
    (h : i ≠ reg) : (r.writeGpr reg value).readGpr i = r.readGpr i := by
  rw [readGpr_writeGpr, if_neg (fun ⟨_, hi⟩ => h hi)]

theorem readGpr_writeGpr_self (r : RegisterFile) {reg : BitVec 5} (value : BitVec 64)
    (h : reg ≠ 0#5) : (r.writeGpr reg value).readGpr reg = value := by
  rw [readGpr_writeGpr, if_pos ⟨h, rfl⟩]

end RegisterFile

end RiscvSim

/-!
# Reading through pending writes

A file of cells together with writes that are still on their way to it.  A
bypass network looks a cell up in the pending writes, youngest first, before it
looks into the file (`readThrough`); this gives the value the cell has once all
of them are committed (`readThrough_eq_commit`).  A cell that is no pending
destination can be read from the file (`commit_of_forall_not_targets`).
-/

namespace RiscvSim

namespace Lib

variable {ι α : Type} [DecidableEq ι]

/-- A write on its way: destination and value, or nothing. -/
abbrev Pending (ι α : Type) := Option (ι × α)

namespace Pending

/-- Whether the write goes to cell `i`. -/
def Targets (p : Pending ι α) (i : ι) : Prop :=
  ∃ v, p = some (i, v)

/-- The value the write brings to cell `i`, if it goes there. -/
def lookup (p : Pending ι α) (i : ι) : Option α :=
  match p with
  | none => none
  | some (d, v) => if i = d then some v else none

/-- The file after one pending write. -/
def apply (p : Pending ι α) (f : ι → α) (i : ι) : α :=
  match p with
  | none => f i
  | some (d, v) => if i = d then v else f i

@[simp] theorem apply_none (f : ι → α) (i : ι) : apply none f i = f i :=
  rfl

@[simp] theorem apply_some (d : ι) (v : α) (f : ι → α) (i : ι) :
    apply (some (d, v)) f i = if i = d then v else f i :=
  rfl

theorem getD_lookup (p : Pending ι α) (f : ι → α) (i : ι) :
    (p.lookup i).getD (f i) = p.apply f i := by
  cases p with
  | none => rfl
  | some dv =>
    obtain ⟨d, v⟩ := dv
    by_cases h : i = d <;> simp [lookup, h]

theorem apply_of_not_targets {p : Pending ι α} {i : ι} (h : ¬p.Targets i) (f : ι → α) :
    p.apply f i = f i := by
  cases p with
  | none => rfl
  | some dv =>
    obtain ⟨d, v⟩ := dv
    have hne : i ≠ d := by
      rintro rfl
      exact h ⟨v, rfl⟩
    simp [hne]

/-- A write that has been committed can be applied again. -/
theorem apply_apply (p : Pending ι α) (f : ι → α) : p.apply (p.apply f) = p.apply f := by
  funext i
  cases p with
  | none => rfl
  | some dv =>
    obtain ⟨d, v⟩ := dv
    by_cases h : i = d <;> simp [h]

end Pending

/-- The file after all pending writes; the head of the list is the youngest. -/
def commit : List (Pending ι α) → (ι → α) → ι → α
  | [], f => f
  | p :: ps, f => p.apply (commit ps f)

/-- Looks cell `i` up in the pending writes, youngest first, then in the file. -/
def readThrough : List (Pending ι α) → (ι → α) → ι → α
  | [], f, i => f i
  | p :: ps, f, i => (p.lookup i).getD (readThrough ps f i)

/-- Reading through the pending writes is reading after they are committed. -/
theorem readThrough_eq_commit (ps : List (Pending ι α)) (f : ι → α) (i : ι) :
    readThrough ps f i = commit ps f i := by
  induction ps with
  | nil => rfl
  | cons p ps ih => rw [readThrough, commit, ih, Pending.getD_lookup]

/-- A cell no pending write goes to keeps its value. -/
theorem commit_of_forall_not_targets {ps : List (Pending ι α)} {i : ι}
    (h : ∀ p ∈ ps, ¬p.Targets i) (f : ι → α) : commit ps f i = f i := by
  induction ps with
  | nil => rfl
  | cons p ps ih =>
    rw [commit, Pending.apply_of_not_targets (h p List.mem_cons_self)]
    exact ih fun q hq => h q (List.mem_cons_of_mem p hq)

end Lib

end RiscvSim

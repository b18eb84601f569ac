import RiscvSim.Lib.Except

/-!
# Faults of the machines

What can end a step of the simulator early.  A function that throws while it
changes a state `σ` returns `Except (Fault × σ) σ`: the second component is
the state at the moment of the throw, which a later call would start from.
-/

namespace RiscvSim

open Lib

/-- Why a step of a machine did not complete. -/
inductive Fault where
  /-- The `std::out_of_range` exception of the memory. -/
  | outOfRange (address : BitVec 64)
  /-- The processor's trap for a division that C++ leaves undefined. -/
  | divideTrap
  /-- An access past the end of a memory block's vector. -/
  | badIndex
  /-- The exit call: the process ends. -/
  | exited
  /-- The read call waits for a line of input that is not there. -/
  | waiting
  deriving DecidableEq, Repr

/-- The faults of an access to the memory. -/
def Fault.IsMemory : Fault → Prop
  | .outOfRange _ | .badIndex => True
  | .divideTrap | .exited | .waiting => False

/-- Attaches the state `s` to a fault of a computation that leaves it unchanged. -/
def throwAt {σ α : Type} (s : σ) (x : Except Fault α) : Except (Fault × σ) α :=
  x.mapError fun e => (e, s)

@[simp] theorem throwAt_ok {σ α : Type} (s : σ) (a : α) :
    throwAt s (.ok a) = .ok a :=
  rfl

@[simp] theorem throwAt_error {σ α : Type} (s : σ) (e : Fault) :
    throwAt (α := α) s (.error e) = .error (e, s) :=
  rfl

theorem throwAt_eq_ok {σ α : Type} {s : σ} {x : Except Fault α} {a : α} :
    throwAt s x = .ok a ↔ x = .ok a := by
  cases x <;> simp

/-- Turns the state `t` of a fault into the state `f t` of the surrounding machine. -/
def throwWith {σ τ α : Type} (f : τ → σ) (x : Except (Fault × τ) α) : Except (Fault × σ) α :=
  x.mapError fun e => (e.1, f e.2)

@[simp] theorem throwWith_ok {σ τ α : Type} (f : τ → σ) (a : α) :
    throwWith f (.ok a) = .ok a :=
  rfl

@[simp] theorem throwWith_error {σ τ α : Type} (f : τ → σ) (e : Fault × τ) :
    throwWith (α := α) f (.error e) = .error (e.1, f e.2) :=
  rfl

theorem throwWith_eq_ok {σ τ α : Type} {f : τ → σ} {x : Except (Fault × τ) α} {a : α} :
    throwWith f x = .ok a ↔ x = .ok a := by
  cases x <;> simp

/-- The computation with the state of a fault forgotten. -/
def forgetState {τ α : Type} (x : Except (Fault × τ) α) : Except Fault α :=
  x.mapError Prod.fst

theorem forgetState_eq_ok {τ α : Type} {x : Except (Fault × τ) α} {a : α} :
    forgetState x = .ok a ↔ x = .ok a := by
  cases x <;> simp [forgetState, Except.mapError]

/-! ### How a computation ends -/

theorem failsWith_throwAt {α σ : Type} {s : σ} {x : Except Fault α} {Err : Fault → Prop}
    (h : FailsWith Err x) : FailsWith (fun e => Err e.1) (throwAt s x) := by
  intro e he
  cases x with
  | ok x => cases he
  | error e' =>
    obtain rfl := Except.error.inj he
    exact h e' rfl

theorem failsWith_throwWith {σ τ α : Type} {f : τ → σ} {x : Except (Fault × τ) α}
    {Err : Fault → Prop} (h : FailsWith (fun e => Err e.1) x) :
    FailsWith (fun e => Err e.1) (throwWith f x) := by
  intro e he
  cases x with
  | ok x => cases he
  | error e' =>
    obtain rfl := Except.error.inj he
    exact h e' rfl

/-- The state a computation leaves behind, whether it completes or throws. -/
def stateOf {σ : Type} : Except (Fault × σ) σ → σ
  | .ok s => s
  | .error e => e.2

@[simp] theorem stateOf_ok {σ : Type} (s : σ) : stateOf (.ok s) = s :=
  rfl

@[simp] theorem stateOf_error {σ : Type} (e : Fault × σ) : stateOf (.error e) = e.2 :=
  rfl

/-- What the first part of a computation leaves where it throws, and the second
part otherwise. -/
theorem stateOf_bind {σ α : Type} {P : σ → Prop} {x : Except (Fault × σ) α}
    {f : α → Except (Fault × σ) σ} (hx : FailsWith (fun e => P e.2) x)
    (hf : ∀ a, x = .ok a → P (stateOf (f a))) : P (stateOf (x >>= f)) := by
  cases x with
  | error e => exact hx e rfl
  | ok a => exact hf a rfl

/-- A fault of a part that does not change the state. -/
theorem failsWith_throwAt_state {σ α : Type} {P : σ → Prop} {s : σ} (h : P s)
    (x : Except Fault α) : FailsWith (fun e => P e.2) (throwAt s x) := by
  intro e he
  cases x with
  | ok x => cases he
  | error e' =>
    obtain rfl := Except.error.inj he
    exact h

/-- A fault of a part that changes the state in a way `P` does not see. -/
theorem failsWith_throwWith_state {σ τ α : Type} {P : σ → Prop} {f : τ → σ} (h : ∀ t, P (f t))
    (x : Except (Fault × τ) α) : FailsWith (fun e => P e.2) (throwWith f x) := by
  intro e he
  cases x with
  | ok x => cases he
  | error e' =>
    obtain rfl := Except.error.inj he
    exact h e'.2

end RiscvSim

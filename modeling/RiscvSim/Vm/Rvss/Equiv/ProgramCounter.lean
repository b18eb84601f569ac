import Mathlib.Data.Nat.Bitwise
import RiscvSim.Vm.Equiv.Immediates
import RiscvSim.Vm.Equiv.Loader
import RiscvSim.Vm.Rvss.Equiv.Agreement
import RiscvSim.Vm.Rvss.Equiv.Frame

/-!
# The program counter of the single-cycle machine

Fetch moves the program counter on by four, jumps and branches add an even
immediate, and JALR sets it to a register plus an immediate as they are: the
lowest bit is not cleared.

* **`programCounter_runInstruction`**: where an instruction leaves the program
  counter, whatever word it is.
* **`programCounter_even_iff`**: the program counter stays even exactly as long
  as every JALR that is executed has an even target.
-/

namespace RiscvSim

open Lib RVSSControlUnit

/-! ### Even immediates -/

/-- `sign_extend` keeps the parity. -/
theorem even_signExtendBits {value : BitVec 32} {bits : Nat} (h : 2 ∣ value.toNat) :
    2 ∣ (signExtendBits value bits).toNat := by
  have hxor := Nat.xor_mod_two_eq (m := value.toNat) (n := (1#32 <<< (bits - 1)).toNat)
  have hmask := (1#32 <<< (bits - 1)).isLt
  unfold signExtendBits
  dsimp only
  rw [BitVec.toNat_sub, BitVec.toNat_xor]
  omega

/-- The immediate of a branch and of JAL is even. -/
theorem even_offset64 {w : BitVec 32} (h : opcodeOf w = 0b1100011#7 ∨ opcodeOf w = 0b1101111#7) :
    2 ∣ (offset64 (immGenerator w)).toNat := by
  have hshift : ∀ imm : BitVec 32, 2 ∣ (imm <<< 1).toNat := by
    intro imm
    rw [BitVec.toNat_shiftLeft]
    omega
  have himm : 2 ∣ (immGenerator w).toNat := by
    unfold immGenerator
    rcases h with h | h
    · rw [h]
      exact even_signExtendBits (hshift _)
    · rw [h]
      exact even_signExtendBits (hshift _)
  unfold offset64
  rw [BitVec.toNat_signExtend, BitVec.toNat_setWidth]
  split <;> omega

theorem even_add {a b : BitVec 64} (ha : 2 ∣ a.toNat) (hb : 2 ∣ b.toNat) : 2 ∣ (a + b).toNat := by
  rw [BitVec.toNat_add]
  omega

namespace RVSSVM

variable {cfg : VmConfig} {fpu : FloatUnit} {vm vm' : RVSSVM} {w : BitVec 32}

/-- The program counter is `pc`. -/
def CountsAt (pc : BitVec 64) (vm : RVSSVM) : Prop :=
  vm.programCounter = pc

theorem programCounter_handleSyscall (vm : RVSSVM) :
    CountsAt vm.programCounter (stateOf (vm.handleSyscall cfg)) := by
  unfold handleSyscall
  split
  · exact stateOf_bind (failsWith_throwAt_state (by rfl) _) fun _ _ => rfl
  · rfl
  · exact congrArg LoopState.programCounter (loopsAt_readSyscall vm)
  · exact congrArg LoopState.programCounter (loopsAt_writeSyscall vm)
  · rfl

/-! ### Where an instruction leaves the program counter -/

/-- The target of the JALR word `w`. -/
def jalrTarget (s : ArchState) (w : BitVec 32) : BitVec 64 :=
  s.registers.readGpr (rs1Of w) + (w.extractLsb' 20 12).signExtend 64

/-- What the instruction word `w` can leave in the program counter. -/
inductive NextCounter (s : ArchState) (w : BitVec 32) : BitVec 64 → Prop
  | next (h : opcodeOf w ≠ 0b1100111#7) : NextCounter s w (s.pc + 4#64)
  | offset (h : opcodeOf w = 0b1100011#7 ∨ opcodeOf w = 0b1101111#7) :
      NextCounter s w (s.pc + offset64 (immGenerator w))
  | jalr (h : opcodeOf w = 0b1100111#7) : NextCounter s w (jalrTarget s w)

theorem aluOf_of_jalr (vm : RVSSVM) (h : opcodeOf w = 0b1100111#7) :
    ∃ overflow, aluOf vm.arch w = .ok (jalrTarget vm.arch w, overflow) := by
  have himm : offset64 (immGenerator w) = (w.extractLsb' 20 12).signExtend 64 := by
    unfold offset64
    rw [immGenerator_of_iType (.inr (.inr h))]
    apply BitVec.eq_of_toInt_eq
    rw [BitVec.toInt_signExtend_of_le (by decide), BitVec.toInt_signExtend_of_le (by decide),
      BitVec.toInt_signExtend_of_le (by decide)]
  have hsrc : (setControlSignals w).aluSrc = true := by
    unfold setControlSignals
    rw [h]
    rfl
  have hop : getAluSignal w = .kAdd := by
    unfold getAluSignal
    rw [h]
    rfl
  unfold aluOf jalrTarget
  dsimp only
  rw [hsrc, if_pos rfl, hop, himm]
  exact ⟨_, rfl⟩

theorem isIntegerInstruction_of_isJump (h : IsJump w) : isIntegerInstruction w = true := by
  unfold isIntegerInstruction
  rcases h with h | h <;> rw [h] <;> rfl

/-- The jumps and branches of a word whose ALU result is `x`. -/
theorem nextCounter_redirect (vm : RVSSVM) {x : BitVec 64}
    (hx : opcodeOf w = 0b1100111#7 → x = jalrTarget vm.arch w) :
    NextCounter vm.arch w (redirect { vm.decoded w with executionResult := x }).programCounter := by
  by_cases hb : opcodeOf w = 0b1100011#7
  · have hbranch : (setControlSignals w).branch = true := branch_setControlSignals.mpr (.inl hb)
    unfold redirect
    rw [if_pos (show (vm.decoded w).controlUnit.branch = true from hbranch),
      executeBranch_of_branch hb, takeBranch_of_branch hb]
    show NextCounter vm.arch w (if branchFlagOf (funct3Of w) x vm.branchFlag then
      vm.programCounter + 4#64 - 4#64 + offset64 (immGenerator w) else vm.programCounter + 4#64)
    -- a value of `funct3` that no branch has keeps the flag of an earlier branch
    split
    · rw [BitVec.add_sub_cancel]
      exact .offset (.inl hb)
    · exact .next (by rw [hb]; decide)
  by_cases hjump : IsJump w
  · obtain ⟨np, ra, bf, hredirect, -⟩ := redirect_eq vm (isIntegerInstruction_of_isJump hjump) x
    rw [hredirect]
    show NextCounter vm.arch w (nextOf vm.arch w x)
    unfold nextOf
    rcases hjump with h | h
    · rw [h, hx h]
      exact .jalr h
    · rw [h]
      exact .offset (.inr h)
  · have hbranch : ¬(setControlSignals w).branch = true := by
      intro h
      rcases branch_setControlSignals.mp h with h | h | h
      · exact hb h
      · exact hjump (.inr h)
      · exact hjump (.inl h)
    unfold redirect
    rw [if_neg (show ¬(vm.decoded w).controlUnit.branch = true from hbranch),
      takeBranch_of_ne hb]
    exact .next fun h => hjump (.inl h)

theorem programCounter_executeAuipc (vm : RVSSVM) :
    vm.executeAuipc.programCounter = vm.programCounter := by
  unfold executeAuipc
  split <;> rfl

theorem nextCounter_executeInteger (vm : RVSSVM) (w : BitVec 32) :
    NextCounter vm.arch w (stateOf (vm.decoded w).executeInteger).programCounter := by
  rw [executeInteger_of_alu]
  cases halu : aluOf vm.arch w with
  | error e =>
    refine .next fun h => ?_
    obtain ⟨overflow, hok⟩ := aluOf_of_jalr vm h
    cases hok.symm.trans halu
  | ok r =>
    have hx : opcodeOf w = 0b1100111#7 → r.1 = jalrTarget vm.arch w := by
      intro h
      obtain ⟨overflow, hok⟩ := aluOf_of_jalr vm h
      rw [Except.ok.inj (halu.symm.trans hok)]
    show NextCounter vm.arch w (redirect { vm.decoded w with
      executionResult := r.1 }).executeAuipc.programCounter
    rw [programCounter_executeAuipc]
    exact nextCounter_redirect vm hx

theorem nextCounter_execute (vm : RVSSVM) (w : BitVec 32) :
    NextCounter vm.arch w (stateOf ((vm.decoded w).execute cfg fpu)).programCounter := by
  by_cases hjalr : opcodeOf w = 0b1100111#7
  · have hint := isIntegerInstruction_of_isJump (.inl hjalr)
    rw [execute_of_integer hint]
    exact nextCounter_executeInteger vm w
  unfold execute
  dsimp only
  split
  · have hpc : CountsAt (vm.programCounter + 4#64) (stateOf ((vm.decoded w).handleSyscall cfg)) :=
      programCounter_handleSyscall (vm.decoded w)
    rw [hpc]
    exact .next hjalr
  split
  · exact .next hjalr
  split
  · exact .next hjalr
  split
  · exact .next hjalr
  · exact nextCounter_executeInteger vm w

/-- **Where an instruction leaves the program counter**, whether it completes or not. -/
theorem programCounter_runInstruction (vm : RVSSVM) (hf : vm.arch.fetch = .ok w) :
    NextCounter vm.arch w (stateOf (vm.runInstruction cfg fpu)).programCounter := by
  have hexecute := @nextCounter_execute cfg fpu vm w
  unfold runInstruction
  rw [fetch_eq_ok hf, ok_bind]
  show NextCounter vm.arch w (stateOf ((vm.decoded w).execute cfg fpu >>= _)).programCounter
  cases he : (vm.decoded w).execute cfg fpu with
  | error e =>
    rw [he] at hexecute
    exact hexecute
  | ok e =>
    rw [he] at hexecute
    have hpc : CountsAt e.programCounter (stateOf (do
        let m ← e.writeMemory cfg
        pure m.writeBack.retire)) := by
      have hwrite : CountsAt e.programCounter (stateOf (e.writeMemory cfg)) :=
        congrArg LoopState.programCounter (loopsAt_writeMemory e)
      cases hm : e.writeMemory cfg with
      | error m =>
        rw [hm] at hwrite
        exact hwrite
      | ok m =>
        rw [hm] at hwrite
        exact (congrArg LoopState.programCounter (loopState_writeBack m)).trans hwrite
    rw [ok_bind]
    exact hpc ▸ hexecute

/-! ### Runs and steps -/

/-- What `Step` and `Run` do to the machine: a run is its start, its rounds and
its end, and may be asked to stop between them.  The thread that a command
starts in may round in another direction than the one before. -/
inductive Move where
  | thread (direction : RoundingDirection)
  | step
  | startRun
  | round
  | requestStop
  | endRun
  deriving DecidableEq, Repr

/-- The machine after a move, also where it throws. -/
def Move.next (cfg : VmConfig) (fpu : FloatUnit) (vm : RVSSVM) : Move → RVSSVM
  | .thread direction => { vm with roundingDirection := direction }
  | .step => stateOf (vm.step cfg fpu)
  | .startRun => vm.clearStop
  | .round =>
    if vm.stopRequested || decide (vm.programSize ≤ vm.programCounter) then vm
    else stateOf (vm.runInstruction cfg fpu)
  | .requestStop => { vm with stopRequested := true }
  | .endRun => vm.reportEnd

/-- The machine after the moves, from `vm` on. -/
def afterMoves (cfg : VmConfig) (fpu : FloatUnit) (vm : RVSSVM) (moves : List Move) : RVSSVM :=
  moves.foldl (Move.next cfg fpu) vm

/-- The move executes an instruction. -/
def Move.Executes (vm : RVSSVM) : Move → Prop
  | .step => vm.programCounter < vm.programSize
  | .round => vm.stopRequested = false ∧ vm.programCounter < vm.programSize
  | .thread _ | .startRun | .requestStop | .endRun => False

/-- If the move executes a JALR, its target is even. -/
def Move.JumpsEven (vm : RVSSVM) (move : Move) : Prop :=
  move.Executes vm → ∀ w, vm.arch.fetch = .ok w → opcodeOf w = 0b1100111#7 →
    2 ∣ (jalrTarget vm.arch w).toNat

/-- The loop of `Run` is a list of rounds. -/
theorem exists_moves_of_runLoop {fuel : Nat} {n : BitVec 64} {r : Except (Fault × RVSSVM) RVSSVM}
    (h : vm.runLoop cfg fpu fuel n = some r) :
    ∃ moves, stateOf r = afterMoves cfg fpu vm moves := by
  induction fuel generalizing n vm with
  | zero => cases h
  | succ fuel ih =>
    unfold runLoop at h
    split at h
    · cases h
      exact ⟨[], rfl⟩
    rename_i hgo
    split at h
    · cases h
      exact ⟨[], rfl⟩
    have hround : ∀ r, vm.runInstruction cfg fpu = r → Move.round.next cfg fpu vm = stateOf r := by
      rintro r rfl
      exact if_neg hgo
    split at h
    · rename_i e he
      cases h
      exact ⟨[.round], (hround _ he).symm⟩
    · rename_i vm' hvm'
      obtain ⟨moves, hmoves⟩ := ih h
      refine ⟨.round :: moves, hmoves.trans ?_⟩
      show _ = afterMoves cfg fpu (Move.round.next cfg fpu vm) moves
      rw [hround _ hvm']
      rfl

/-- `Run` is a list of moves. -/
theorem exists_moves_of_run {fuel : Nat} {r : Except (Fault × RVSSVM) RVSSVM}
    (h : vm.run cfg fpu fuel = some r) : ∃ moves, stateOf r = afterMoves cfg fpu vm moves := by
  obtain ⟨r', hloop, rfl⟩ := Option.map_eq_some_iff.mp h
  obtain ⟨moves, hmoves⟩ := exists_moves_of_runLoop hloop
  cases r' with
  | error e => exact ⟨.startRun :: moves, hmoves⟩
  | ok vm' =>
    refine ⟨.startRun :: moves ++ [.endRun], ?_⟩
    show vm'.reportEnd = _
    rw [show vm' = afterMoves cfg fpu vm (.startRun :: moves) from hmoves]
    unfold afterMoves
    rw [List.foldl_append]
    rfl

theorem afterMoves_take_succ {moves : List Move} {k : Nat} {move : Move}
    (h : moves[k]? = some move) :
    afterMoves cfg fpu vm (moves.take (k + 1)) =
      move.next cfg fpu (afterMoves cfg fpu vm (moves.take k)) := by
  unfold afterMoves
  rw [List.take_add_one, List.foldl_append, h]
  rfl

/-- A move that executes `w` leaves the program counter where `w` does. -/
theorem nextCounter_next {move : Move} (h : move.Executes vm) (hf : vm.arch.fetch = .ok w) :
    NextCounter vm.arch w (move.next cfg fpu vm).programCounter := by
  cases move with
  | step =>
    have hrun := @programCounter_runInstruction cfg fpu w vm.startDelta hf
    have hcounter : (Move.step.next cfg fpu vm).programCounter =
        (stateOf (vm.startDelta.runInstruction cfg fpu)).programCounter := by
      show (stateOf (vm.step cfg fpu)).programCounter = _
      unfold RVSSVM.step recordInstruction
      rw [if_pos (show vm.programCounter < vm.programSize from h)]
      cases vm.startDelta.runInstruction cfg fpu with
      | error e => rfl
      | ok v =>
        show v.commitDelta.reportStep.programCounter = v.programCounter
        unfold reportStep
        split <;> rfl
    rw [hcounter]
    exact hrun
  | round =>
    have hgo : ¬(vm.stopRequested || decide (vm.programSize ≤ vm.programCounter)) = true := by
      rw [h.1, Bool.false_or, decide_eq_true_eq, BitVec.not_le]
      exact h.2
    unfold Move.next
    dsimp only
    rw [if_neg hgo]
    exact programCounter_runInstruction vm hf
  | thread => exact h.elim
  | startRun => exact h.elim
  | requestStop => exact h.elim
  | endRun => exact h.elim

/-- A move that executes a JALR jumps to its target. -/
theorem programCounter_next_of_jalr {move : Move} (h : move.Executes vm)
    (hf : vm.arch.fetch = .ok w) (hop : opcodeOf w = 0b1100111#7) :
    (move.next cfg fpu vm).programCounter = jalrTarget vm.arch w := by
  have hnext := @nextCounter_next cfg fpu vm w move h hf
  generalize (move.next cfg fpu vm).programCounter = pc at hnext ⊢
  cases hnext with
  | next hne => exact absurd hop hne
  | offset hne => rcases hne with hne | hne <;> exact absurd (hop.symm.trans hne) (by decide)
  | jalr => rfl

/-- A move that executes nothing, or whose fetch fails, leaves the program counter alone. -/
theorem programCounter_next {move : Move}
    (h : move.Executes vm → ∀ w, vm.arch.fetch ≠ .ok w) :
    (move.next cfg fpu vm).programCounter = vm.programCounter := by
  have hfails : ∀ v : RVSSVM, v.arch = vm.arch → (∀ w, vm.arch.fetch ≠ .ok w) →
      CountsAt v.programCounter (stateOf (v.runInstruction cfg fpu)) := by
    intro v hv hne
    refine stateOf_bind (P := CountsAt v.programCounter)
      ((failsWith_throwAt_state (by rfl) _).bind fun _ _ => .ok _) fun a ha => ?_
    obtain ⟨w, hw, -⟩ := bind_pure_eq_ok.mp ha
    have hfetch : v.arch.fetch = .ok w := throwAt_eq_ok.mp hw
    exact absurd (hv ▸ hfetch) (hne w)
  cases move with
  | step =>
    show (stateOf (vm.step cfg fpu)).programCounter = vm.programCounter
    unfold step recordInstruction
    by_cases hpc : vm.programCounter < vm.programSize
    · rw [if_pos hpc]
      have hcounts := hfails vm.startDelta rfl (h hpc)
      cases hr : vm.startDelta.runInstruction cfg fpu with
      | error e =>
        rw [hr] at hcounts
        exact hcounts
      | ok v =>
        obtain ⟨a, ha, -⟩ := bind_eq_ok.mp hr
        obtain ⟨w, hw, -⟩ := bind_pure_eq_ok.mp ha
        exact absurd (throwAt_eq_ok.mp hw) (h hpc w)
    · rw [if_neg hpc]
      rfl
  | round =>
    unfold Move.next
    dsimp only
    split
    · rfl
    · rename_i hgo
      simp only [Bool.or_eq_true, decide_eq_true_eq, not_or, Bool.not_eq_true, BitVec.not_le]
        at hgo
      exact hfails vm rfl (h hgo)
  | thread => rfl
  | startRun => rfl
  | requestStop => rfl
  | endRun =>
    show vm.reportEnd.programCounter = vm.programCounter
    unfold reportEnd
    split <;> rfl

/-- One move keeps the program counter even if the jump it makes, if any, does. -/
theorem even_next {move : Move} (hpc : 2 ∣ vm.programCounter.toNat)
    (hjump : move.JumpsEven vm) : 2 ∣ (move.next cfg fpu vm).programCounter.toNat := by
  by_cases hex : move.Executes vm ∧ ∃ w, vm.arch.fetch = .ok w
  · obtain ⟨hexecutes, w, hf⟩ := hex
    have hnext := @nextCounter_next cfg fpu vm w move hexecutes hf
    generalize (move.next cfg fpu vm).programCounter = pc at hnext ⊢
    cases hnext with
    | next => exact even_add hpc (by decide)
    | offset hop => exact even_add hpc (even_offset64 hop)
    | jalr hop => exact hjump hexecutes w hf hop
  · rw [programCounter_next fun hexecutes w hf => hex ⟨hexecutes, w, hf⟩]
    exact hpc

/-- From an even program counter on, every state has one exactly when every
JALR that is executed has an even target. -/
theorem even_afterMoves_iff (hpc : 2 ∣ vm.programCounter.toNat) (moves : List Move) :
    (∀ k ≤ moves.length, 2 ∣ (afterMoves cfg fpu vm (moves.take k)).programCounter.toNat) ↔
      ∀ (k : Nat) (move : Move), moves[k]? = some move →
        move.JumpsEven (afterMoves cfg fpu vm (moves.take k)) := by
  constructor
  · intro heven k move hk hexecutes w hf hop
    have hlt : k < moves.length := (List.getElem?_eq_some_iff.mp hk).1
    have hnext := heven (k + 1) hlt
    rw [afterMoves_take_succ hk] at hnext
    rw [← programCounter_next_of_jalr hexecutes hf hop]
    exact hnext
  · intro hjumps k
    induction k with
    | zero => exact fun _ => hpc
    | succ k ih =>
      intro hk
      obtain ⟨move, hmove⟩ : ∃ move, moves[k]? = some move :=
        ⟨_, List.getElem?_eq_getElem (Nat.lt_of_succ_le hk)⟩
      rw [afterMoves_take_succ hmove]
      exact even_next (ih (Nat.le_of_succ_le hk)) (hjumps k move hmove)

/-- A loaded program starts at the even address zero. -/
theorem even_programCounter_of_loadProgram {program : AssembledProgram}
    (hload : (new cfg).loadProgram cfg program = .ok vm) : 2 ∣ vm.programCounter.toNat := by
  obtain ⟨base, hbase, rfl⟩ := bind_pure_eq_ok.mp hload
  have hpc := (frame_of_loadProgram (throwWith_eq_ok.mp hbase)).2.2.1
  show 2 ∣ base.programCounter.toNat
  rw [hpc]
  exact Nat.dvd_zero 2

/-- **The program counter stays even in a run exactly when every JALR that is
executed in it has an even target.** -/
theorem programCounter_even_iff (cfg : VmConfig) (fpu : FloatUnit) (program : AssembledProgram)
    (vm₀ : RVSSVM) (hload : (new cfg).loadProgram cfg program = .ok vm₀) (moves : List Move) :
    (∀ k ≤ moves.length, 2 ∣ (afterMoves cfg fpu vm₀ (moves.take k)).programCounter.toNat) ↔
      ∀ (k : Nat) (move : Move), moves[k]? = some move →
        move.JumpsEven (afterMoves cfg fpu vm₀ (moves.take k)) :=
  even_afterMoves_iff (even_programCounter_of_loadProgram hload) moves

/-- **`Run` as a whole** is a list of moves, also where it throws, and leaves an even
program counter unless one of them executes a JALR with an odd target. -/
theorem even_or_odd_jump_of_run {program : AssembledProgram} {vm₀ : RVSSVM}
    (hload : (new cfg).loadProgram cfg program = .ok vm₀) {fuel : Nat}
    {r : Except (Fault × RVSSVM) RVSSVM} (h : vm₀.run cfg fpu fuel = some r) :
    ∃ moves, stateOf r = afterMoves cfg fpu vm₀ moves ∧
      (2 ∣ (stateOf r).programCounter.toNat ∨
        ∃ (k : Nat) (move : Move), moves[k]? = some move ∧
          ¬move.JumpsEven (afterMoves cfg fpu vm₀ (moves.take k))) := by
  obtain ⟨moves, hmoves⟩ := exists_moves_of_run h
  refine ⟨moves, hmoves, ?_⟩
  -- the state that the run returns or throws is the last one of the moves
  by_cases hjumps : ∀ (k : Nat) (move : Move), moves[k]? = some move →
      move.JumpsEven (afterMoves cfg fpu vm₀ (moves.take k))
  · have heven := (even_afterMoves_iff (even_programCounter_of_loadProgram hload) moves).mpr
      hjumps moves.length (Nat.le_refl _)
    rw [List.take_length, ← hmoves] at heven
    exact .inl heven
  · simp only [not_forall] at hjumps
    obtain ⟨k, move, hmove, hodd⟩ := hjumps
    exact .inr ⟨k, move, hmove, hodd⟩

/-- `addi x1, x0, 8` and `jalr x0, 0(x1)`. -/
def jumpToEight : AssembledProgram where
  textBuffer := [0x00800093#32, 0x00008067#32]

/-- Two steps that jump to an even address. -/
theorem programCounter_even_iff_jumpToEight :
    ∃ vm₀, (new {}).loadProgram {} jumpToEight = .ok vm₀ ∧ ∀ k ≤ 2,
      2 ∣ (afterMoves {} .zeros vm₀ ([.step, .step].take k)).programCounter.toNat := by
  let vm₀ : RVSSVM := ((new {}).loadProgram {} jumpToEight).toOption.getD (new {})
  have hload : (new {}).loadProgram {} jumpToEight = .ok vm₀ := eq_ok_getD _ (by decide +kernel)
  have hfetch : vm₀.arch.fetch = .ok 0x00800093#32 := by decide +kernel
  have hfetch' : (afterMoves {} .zeros vm₀ [.step]).arch.fetch = .ok 0x00008067#32 := by
    decide +kernel
  have htarget : jalrTarget (afterMoves {} .zeros vm₀ [.step]).arch 0x00008067#32 = 8#64 := by
    decide +kernel
  clear_value vm₀
  refine ⟨vm₀, hload, (programCounter_even_iff {} .zeros jumpToEight vm₀ hload
    [.step, .step]).mpr fun k move hk _ w hf hop => ?_⟩
  rcases k with _ | _ | k
  · obtain rfl := Except.ok.inj (hfetch.symm.trans hf)
    exact absurd hop (by decide)
  · obtain rfl := Except.ok.inj (hfetch'.symm.trans hf)
    exact htarget ▸ by decide
  · cases hk

/-- `addi x1, x0, 1` and `jalr x0, 0(x1)`. -/
def jumpToOne : AssembledProgram where
  textBuffer := [0x00100093#32, 0x00008067#32]

/-- JALR leaves the lowest bit of its target as it is: after two steps the
program counter is one. -/
theorem programCounter_odd :
    ∃ vm₀ vm₁ vm₂, (new {}).loadProgram {} jumpToOne = .ok vm₀ ∧ vm₀.step {} .zeros = .ok vm₁ ∧
      vm₁.step {} .zeros = .ok vm₂ ∧ vm₂.programCounter = 1#64 := by
  let vm₀ : RVSSVM := ((new {}).loadProgram {} jumpToOne).toOption.getD (new {})
  have hload : (new {}).loadProgram {} jumpToOne = .ok vm₀ := eq_ok_getD _ (by decide +kernel)
  let vm₁ : RVSSVM := (vm₀.step {} .zeros).toOption.getD (new {})
  have hstep : vm₀.step {} .zeros = .ok vm₁ := eq_ok_getD _ (by decide +kernel)
  obtain ⟨vm₂, hstep', hpc⟩ := exists_ok_of_map (x := vm₁.step {} .zeros)
    (f := fun vm => vm.programCounter) (b := 1#64) (by decide +kernel)
  exact ⟨vm₀, vm₁, vm₂, hload, hstep, hstep', hpc⟩

end RVSSVM

end RiscvSim

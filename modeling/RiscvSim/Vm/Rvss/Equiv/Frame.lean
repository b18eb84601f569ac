import RiscvSim.Vm.Rvss.Equiv.Delta

/-!
# What an instruction leaves alone

The members that the loops of the machine look at, and those only the commands
change: an instruction of any kind moves the program counter and leaves the
others as they were (`loopState_runInstruction`).
-/

namespace RiscvSim

open Lib

namespace RVSSVM

variable {cfg : VmConfig} {fpu : FloatUnit} {vm vm' : RVSSVM}

/-- The members that the loops and the commands look at. -/
structure LoopState where
  programCounter : BitVec 64
  stopRequested : Bool
  programSize : BitVec 64
  breakpoints : List (BitVec 64)
  instructionsRetired : BitVec 32
  cycleS : BitVec 32
  undoStack : List StepDelta
  redoStack : List StepDelta

def loopState (vm : RVSSVM) : LoopState where
  programCounter := vm.programCounter
  stopRequested := vm.stopRequested
  programSize := vm.programSize
  breakpoints := vm.breakpoints
  instructionsRetired := vm.instructionsRetired
  cycleS := vm.cycleS
  undoStack := vm.undoStack
  redoStack := vm.redoStack

/-- The members of the loops are those of `s`. -/
def LoopsAt (s : LoopState) (vm : RVSSVM) : Prop :=
  vm.loopState = s

/-! ### The parts that leave the program counter alone -/

theorem loopState_writeRegister (vm : RVSSVM) (register : RegisterName) (newReg : BitVec 64) :
    (vm.writeRegister register newReg).loopState = vm.loopState := by
  unfold writeRegister
  rw [recordRegister_eq]
  rfl

theorem loopsAt_readSyscall (vm : RVSSVM) :
    LoopsAt vm.loopState (stateOf (vm.readSyscall cfg)) := by
  unfold readSyscall
  dsimp only
  split
  · rfl
  split
  · rfl
  refine stateOf_bind (failsWith_throwAt_state (by rfl) _) fun _ _ => ?_
  refine stateOf_bind (failsWith_throwWith_state (fun _ => by rfl) _) fun _ _ => ?_
  refine stateOf_bind (failsWith_throwWith_state (fun _ => by rfl) _) fun _ _ => ?_
  refine stateOf_bind (failsWith_throwAt_state (by rfl) _) fun _ _ => ?_
  exact loopState_writeRegister _ _ _

theorem loopsAt_writeSyscall (vm : RVSSVM) :
    LoopsAt vm.loopState (stateOf vm.writeSyscall) := by
  unfold writeSyscall
  dsimp only
  split
  · rfl
  refine stateOf_bind (failsWith_throwAt_state (by rfl) _) fun _ _ => ?_
  exact loopState_writeRegister _ _ _

/-- A call that completes is not the exit call, which asks the loops to stop. -/
theorem loopState_handleSyscall (h : vm.handleSyscall cfg = .ok vm') :
    vm'.loopState = vm.loopState := by
  have hread := @loopsAt_readSyscall cfg vm
  have hwrite := loopsAt_writeSyscall vm
  unfold handleSyscall at h
  split at h
  · obtain ⟨_, -, h⟩ := bind_eq_ok.mp h
    obtain rfl := Except.ok.inj h
    rfl
  · cases h
  · rw [h] at hread
    exact hread
  · rw [h] at hwrite
    exact hwrite
  · obtain rfl := Except.ok.inj h
    rfl

theorem loopsAt_accessMemory (vm : RVSSVM) (load : Except Fault (BitVec 64))
    (store : Option (Nat × (Memory → Except (Fault × Memory) Memory))) :
    LoopsAt vm.loopState (stateOf (vm.accessMemory load store)) := by
  unfold accessMemory
  refine stateOf_bind (failsWith_throwAt_state (by rfl) _) fun _ _ => ?_
  dsimp only
  split
  · split
    · unfold storeRecorded
      refine stateOf_bind (failsWith_throwAt_state (by rfl) _) fun _ _ => ?_
      refine stateOf_bind (failsWith_throwWith_state (fun _ => by rfl) _) fun _ _ => ?_
      refine stateOf_bind (failsWith_throwAt_state (by rfl) _) fun _ _ => ?_
      rw [recordMemory_eq]
      rfl
    · rfl
  · rfl

theorem loopsAt_writeMemory (vm : RVSSVM) :
    LoopsAt vm.loopState (stateOf (vm.writeMemory cfg)) := by
  unfold writeMemory writeMemoryFloat writeMemoryDouble writeMemoryInteger
  dsimp only
  split
  · rfl
  split
  · exact loopsAt_accessMemory _ _ _
  split
  · exact loopsAt_accessMemory _ _ _
  · exact loopsAt_accessMemory _ _ _

theorem loopState_writeBack (vm : RVSSVM) : vm.writeBack.loopState = vm.loopState := by
  unfold writeBack writeBackFloat writeBackDouble writeBackCsr writeBackInteger
  dsimp only
  split
  · rfl
  split
  · split
    · split
      · exact loopState_writeRegister _ _ _
      · exact loopState_writeRegister _ _ _
      · exact loopState_writeRegister _ _ _
      · split <;> exact loopState_writeRegister _ _ _
    · rfl
  split
  · split
    · split
      · exact loopState_writeRegister _ _ _
      · exact loopState_writeRegister _ _ _
      · exact loopState_writeRegister _ _ _
      · split <;> exact loopState_writeRegister _ _ _
    · rfl
  split
  · split <;> rfl
  · rw [recordRegister_eq]
    rfl

/-! ### The parts that move the program counter -/

/-- The two machines differ, of the members of the loops, in the program counter only. -/
def MovesCounter (vm vm' : RVSSVM) : Prop :=
  vm'.loopState = { vm.loopState with programCounter := vm'.programCounter }

theorem MovesCounter.trans {vm₁ vm₂ vm₃ : RVSSVM} (h₁ : MovesCounter vm₁ vm₂)
    (h₂ : MovesCounter vm₂ vm₃) : MovesCounter vm₁ vm₃ := by
  unfold MovesCounter at *
  rw [h₂, h₁]

theorem movesCounter_of_eq (h : vm'.loopState = vm.loopState) : MovesCounter vm vm' := by
  have hpc : vm'.programCounter = vm.programCounter := congrArg LoopState.programCounter h
  unfold MovesCounter
  rw [h, hpc]
  rfl

theorem movesCounter_fetch (h : vm.fetch = .ok vm') : MovesCounter vm vm' := by
  obtain ⟨_, -, rfl⟩ := bind_pure_eq_ok.mp h
  rfl

theorem movesCounter_redirect (vm : RVSSVM) : MovesCounter vm vm.redirect := by
  unfold redirect takeBranch executeBranch
  dsimp only
  split <;> split <;> first | rfl | (split <;> first | rfl | (split <;> rfl))

theorem movesCounter_executeAuipc (vm : RVSSVM) : MovesCounter vm vm.executeAuipc := by
  unfold executeAuipc
  split <;> rfl

theorem movesCounter_executeInteger (h : vm.executeInteger = .ok vm') :
    MovesCounter vm vm' := by
  obtain ⟨r, -, rfl⟩ := bind_pure_eq_ok.mp h
  have hresult : MovesCounter vm { vm with executionResult := r.1 } := rfl
  exact hresult.trans ((movesCounter_redirect _).trans (movesCounter_executeAuipc _))

theorem movesCounter_execute (h : vm.execute cfg fpu = .ok vm') : MovesCounter vm vm' := by
  unfold execute at h
  dsimp only at h
  split at h
  · exact movesCounter_of_eq (loopState_handleSyscall h)
  split at h
  · obtain rfl := Except.ok.inj h
    rfl
  split at h
  · obtain rfl := Except.ok.inj h
    rfl
  split at h
  · obtain rfl := Except.ok.inj h
    rfl
  · exact movesCounter_executeInteger h

/-- **An instruction that completes** moves the program counter and counts
itself; the other members of the loops stay. -/
theorem loopState_runInstruction (h : vm.runInstruction cfg fpu = .ok vm') :
    vm'.loopState = { vm.loopState with
      programCounter := vm'.programCounter
      instructionsRetired := vm.instructionsRetired + 1#32
      cycleS := vm.cycleS + 1#32 } := by
  obtain ⟨f, hf, h⟩ := bind_eq_ok.mp h
  obtain ⟨e, he, h⟩ := bind_eq_ok.mp h
  obtain ⟨m, hm, h⟩ := bind_eq_ok.mp h
  obtain rfl := Except.ok.inj h
  have hmemory : m.loopState = e.loopState := by
    have := @loopsAt_writeMemory cfg e
    rw [hm] at this
    exact this
  have hmoves : MovesCounter vm m.writeBack :=
    (movesCounter_fetch hf).trans ((@movesCounter_execute cfg fpu f.decode e he).trans
      ((movesCounter_of_eq hmemory).trans (movesCounter_of_eq (loopState_writeBack m))))
  have hretire : m.writeBack.retire.loopState = { m.writeBack.loopState with
      instructionsRetired := m.writeBack.loopState.instructionsRetired + 1#32
      cycleS := m.writeBack.loopState.cycleS + 1#32 } := rfl
  rw [hretire, hmoves]
  rfl

end RVSSVM

end RiscvSim

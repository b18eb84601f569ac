import RiscvSim.Vm.Rv5s.Equiv.ExVm
import RiscvSim.Vm.Rv5s.Equiv.StraightLine
import RiscvSim.Vm.Rv5s.IdealVm

/-!
# Refinement by the ideal pipeline

`RV5SVM` has no hazard unit, so it depends on the program to keep dependent
words apart.  The reference, `runSequentially`, passes one word at a time
through the stages of the machine; both end as the fold of the abstract machine
over the words does.

* **`runSequentially_eq`**: the reference computes the fold.
* **`run_eq`**: `Run` on a hazard-free program computes the fold.
* **`run_refines_runSequentially`**: the two end in the same way.
-/

namespace RiscvSim

open RV5SControlUnit Lib

namespace RV5SVM

variable {cfg : VmConfig} {words : List (BitVec 32)} {s s' : ArchState} {w : BitVec 32}
  {vm : RV5SVM} {r : Nat}

/-- The part of the machine an instruction sees. -/
def arch (vm : RV5SVM) : ArchState where
  pc := vm.programCounter
  registers := vm.registers
  memory := vm.memoryController

/-! ### The members shared with the other pipelines -/

/-- The machine with the members of the pipelines that detect hazards; it never
looks at them. -/
def widen (vm : RV5SVM) : Rv5sVm where
  toVmBase := vm.toVmBase
  branchPredictor := .ofType .staticNotTaken
  ifIdReg := vm.ifIdReg
  idExReg := vm.idExReg
  exMemReg := vm.exMemReg
  memWbReg := vm.memWbReg
  nextIfIdReg := vm.nextIfIdReg
  nextIdExReg := vm.nextIdExReg
  nextExMemReg := vm.nextExMemReg
  nextMemWbReg := vm.nextMemWbReg

def narrow (vm : Rv5sVm) : RV5SVM where
  toVmBase := vm.toVmBase
  ifIdReg := vm.ifIdReg
  idExReg := vm.idExReg
  exMemReg := vm.exMemReg
  memWbReg := vm.memWbReg
  nextIfIdReg := vm.nextIfIdReg
  nextIdExReg := vm.nextIdExReg
  nextExMemReg := vm.nextExMemReg
  nextMemWbReg := vm.nextMemWbReg

theorem writeBackStage_eq_narrow (vm : RV5SVM) :
    vm.writeBackStage = narrow vm.widen.writeBackStage := by
  unfold writeBackStage Rv5sVm.writeBackStage
  show (if (!vm.memWbReg.isValid) = true then _ else _) =
    narrow (if (!vm.memWbReg.isValid) = true then _ else _)
  split <;> rfl

/-- The memory stages of the pipelines are the same. -/
theorem memoryStage_eq_narrow (cfg : VmConfig) (vm : RV5SVM) :
    memoryStage cfg vm =
      mapBoth (fun e => (e.1, narrow e.2)) narrow (vm.widen.memoryStage cfg) := by
  unfold memoryStage Rv5sVm.memoryStage
  show (if (!vm.exMemReg.isValid) = true then _
    else if (vm.exMemReg.control.isNop || vm.exMemReg.control.isSyscall ||
      vm.exMemReg.control.isCsr) = true then _
    else if vm.exMemReg.control.memRead = true then _ else _) =
    mapBoth _ _ (if (!vm.exMemReg.isValid) = true then _
    else if (vm.exMemReg.control.isNop || vm.exMemReg.control.isSyscall ||
      vm.exMemReg.control.isCsr) = true then _
    else if vm.exMemReg.control.memRead = true then _ else _)
  by_cases hv : (!vm.exMemReg.isValid) = true
  · rw [if_pos hv, if_pos hv]
    rfl
  rw [if_neg hv, if_neg hv]
  by_cases hnop : (vm.exMemReg.control.isNop || vm.exMemReg.control.isSyscall ||
      vm.exMemReg.control.isCsr) = true
  · rw [if_pos hnop, if_pos hnop]
    rfl
  rw [if_neg hnop, if_neg hnop]
  by_cases hread : vm.exMemReg.control.memRead = true
  · rw [if_pos hread, if_pos hread]
    show throwAt _ (loadMemory vm.memoryController vm.exMemReg.control.memReadOp
      vm.exMemReg.aluResult) >>= _ = mapBoth _ _ (throwAt _ (loadMemory vm.memoryController
        vm.exMemReg.control.memReadOp vm.exMemReg.aluResult) >>= _)
    cases loadMemory vm.memoryController vm.exMemReg.control.memReadOp vm.exMemReg.aluResult with
    | error e => rfl
    | ok x => rfl
  · rw [if_neg hread, if_neg hread]
    let stored : Except (Fault × Memory) Memory := if vm.exMemReg.control.memWrite = true then
        storeMemory cfg vm.memoryController vm.exMemReg.control.memWriteOp vm.exMemReg.aluResult
          vm.exMemReg.storeData
      else .ok vm.memoryController
    show throwWith _ stored >>= _ = mapBoth _ _ (throwWith _ stored >>= _)
    cases stored with
    | error e => rfl
    | ok x => rfl

/-! ### The stages on one word -/

/-- The operands are those of the other pipelines for every word but JAL. -/
theorem operands_eq {l : IdExReg} (h : l.control.branchOp = .none) :
    operands l = aluOperands l.control l.pc l.immediate l.rs1Data l.rs2Data := by
  unfold operands aluOperands
  rw [h]
  rfl

/-- Execute on the word `w` of state `s`, whose operands are latched. -/
theorem executeStage_of_idExOk (h : IdExOk s w vm.idExReg) (hw : IsStraight w)
    (hops : (getControlSignals w).isNop = false →
      OperandsOk s w vm.idExReg.rs1Data vm.idExReg.rs2Data) :
    (∃ l, executeStage vm = .ok { vm with nextExMemReg := l } ∧ ExMemOk s w l) ∨
      ∃ e, executeStage vm = .error e ∧ s.exec cfg w = .error e.1 := by
  have hvalid : ¬(!vm.idExReg.isValid) = true := by
    rw [h.isValid]
    decide
  unfold executeStage
  rw [if_neg hvalid]
  dsimp only
  cases hnop : (getControlSignals w).isNop with
  | true =>
    have hn : vm.idExReg.control.isNop = true := by rw [h.control, hnop]
    rw [if_pos hn]
    exact .inl ⟨_, rfl, exMemOk_of_isNop h hnop⟩
  | false =>
    have hn : vm.idExReg.control.isNop = false := by rw [h.control, hnop]
    have hbranch : vm.idExReg.control.branchOp = .none := by rw [h.control, hw.branch_eq.2]
    have halu := aluResult_of_operandsOk (hops hnop)
    rw [← h.control] at halu
    unfold aluResult at halu
    rw [if_neg (by rw [hn]; decide), operands_eq hbranch, h.pc, h.immediate hn]
    obtain ⟨a, b, hab⟩ : ∃ a b, aluOperands vm.idExReg.control s.pc (immGenerator w)
      vm.idExReg.rs1Data vm.idExReg.rs2Data = (a, b) := ⟨_, _, rfl⟩
    rw [hab] at halu ⊢
    dsimp only at halu ⊢
    cases hx : Alu.execute vm.idExReg.control.aluOp a b with
    | error e =>
      rw [hx, error_bind] at halu
      rw [throwAt_error]
      exact .inr ⟨_, rfl, ArchState.exec_of_alu_error hnop halu.symm⟩
    | ok x =>
      rw [hx] at halu
      rw [throwAt_ok, ok_bind]
      refine .inl ⟨_, rfl, ?_⟩
      exact {
        isValid := h.isValid
        control := h.control
        pcInc := fun _ => h.pcInc
        aluResult := fun _ => halu.symm
        storeData := fun _ => (hops hnop).right
        rdIndex := fun _ => h.rdIndex hn }

/-- Decode on the word `w` of state `s` reads the registers as they are now. -/
theorem decodeStage_of_ifIdOk (vm : RV5SVM) (h : IfIdOk s w vm.ifIdReg) :
    ∃ l, decodeStage vm = { vm with nextIdExReg := l } ∧ IdExOk s w l ∧
      ((getControlSignals w).isNop = false → l.rs1Data = vm.registers.readGpr (rs1IndexOf w) ∧
        l.rs2Data = vm.registers.readGpr (rs2IndexOf w)) := by
  have hvalid : ¬(!vm.ifIdReg.isValid) = true := by
    rw [h.isValid]
    decide
  have hwiden : IfIdOk s w vm.widen.ifIdReg := h
  unfold decodeStage
  rw [if_neg hvalid]
  dsimp only
  rw [h.instruction]
  cases hnop : (getControlSignals w).isNop with
  | true =>
    rw [if_pos rfl]
    exact ⟨_, rfl, idExOk_passedIdEx hwiden hnop, fun hn => Bool.noConfusion hn⟩
  | false =>
    have hsystem := (controlCase_getControlSignals hnop).opcode_ne_system
    rw [if_neg Bool.false_ne_true, if_neg fun ho => hsystem ho.1, if_neg hsystem]
    refine ⟨_, rfl, ?_, fun _ => ⟨rfl, rfl⟩⟩
    exact ⟨h.isValid, rfl, h.pc, h.pcInc, fun _ => rfl, fun _ => rfl, fun _ => rfl, fun _ => rfl⟩

/-- Fetch of a word of the program. -/
theorem fetchStage_of_readWord (vm : RV5SVM) (hin : vm.programCounter < vm.programSize)
    (hread : vm.memoryController.readWord vm.programCounter = .ok w) :
    ∃ l, fetchStage vm = .ok { vm with
        nextIfIdReg := l, programCounter := vm.programCounter + 4#64 } ∧
      IfIdOk vm.arch w l := by
  unfold fetchStage
  rw [if_neg (BitVec.not_le.mpr hin), hread]
  exact ⟨_, rfl, rfl, rfl, rfl, rfl⟩

/-! ### One word at a time -/

/-- No instruction is in the pipeline. -/
structure IsEmpty (vm : RV5SVM) : Prop where
  ifId : vm.ifIdReg = .bubble
  idEx : vm.idExReg = .bubble
  exMem : vm.exMemReg = .bubble
  memWb : vm.memWbReg = .bubble

/-- Passes the word in the first latch through the other stages of the empty pipeline. -/
def passAlone (cfg : VmConfig) (vm : RV5SVM) : Except (Fault × RV5SVM) RV5SVM := do
  let vm := decodeStage vm
  let vm : RV5SVM := { vm with ifIdReg := .bubble, idExReg := vm.nextIdExReg }
  let vm ← executeStage vm
  let vm : RV5SVM := { vm with idExReg := .bubble, exMemReg := vm.nextExMemReg }
  let vm ← memoryStage cfg vm
  let vm : RV5SVM := { vm with exMemReg := .bubble, memWbReg := vm.nextMemWbReg }
  let vm := writeBackStage vm
  pure { vm with memWbReg := .bubble }

/-- Passes the word at the program counter through the empty pipeline.  A fetch
that leaves a bubble is a fault here. -/
def runAlone (cfg : VmConfig) (vm : RV5SVM) : Except (Fault × RV5SVM) RV5SVM := do
  let vm ← fetchStage vm
  let vm : RV5SVM := { vm with ifIdReg := vm.nextIfIdReg }
  if !vm.ifIdReg.isValid then .error (.outOfRange vm.ifIdReg.pc, vm)
  else passAlone cfg vm

/-- The program counter is past the program. -/
def isHalted (vm : RV5SVM) : Bool :=
  decide (vm.programSize ≤ vm.programCounter)

/-- The program one word at a time, with a bound on the number of words. -/
def runSequentially (cfg : VmConfig) (fuel : Nat) (vm : RV5SVM) :
    Option (Except (Fault × RV5SVM) RV5SVM) :=
  runUntil isHalted (runAlone cfg) fuel vm

/-- The memory stage on the word `w` of state `s`. -/
theorem memoryStage_of_exMemOk (cfg : VmConfig) (vm : RV5SVM) (h : ExMemOk s w vm.exMemReg)
    (hmem : vm.memoryController = s.memory) :
    (∃ l s', memoryStage cfg vm = .ok { vm with
        memoryController := s'.memory, nextMemWbReg := l } ∧
      s.exec cfg w = .ok s' ∧ MemWbOk s w s' l) ∨
    ∃ e, memoryStage cfg vm = .error e ∧ s.exec cfg w = .error e.1 := by
  have hex : ExMemOk s w vm.widen.exMemReg := h
  rw [memoryStage_eq_narrow]
  cases hs : vm.widen.memoryStage cfg with
  | error e => exact .inr ⟨_, rfl, exec_of_memoryStage_error hex hmem hs⟩
  | ok vm' =>
    obtain ⟨s', hexec⟩ := exec_of_memoryStage hex hmem hs
    obtain ⟨l, hl, hok⟩ := memoryStage_eq vm.widen hex hmem hexec
    obtain rfl := Except.ok.inj (hs.symm.trans hl)
    exact .inl ⟨l, s', rfl, hexec, hok⟩

/-- **A word alone in the pipeline** is executed as the abstract machine does. -/
theorem runAlone_eq (cfg : VmConfig) (hw : IsStraight w)
    (hin : vm.programCounter < vm.programSize)
    (hread : vm.memoryController.readWord vm.programCounter = .ok w) :
    (∃ vm', runAlone cfg vm = .ok vm' ∧ vm.arch.exec cfg w = .ok vm'.arch ∧
      vm'.instructionsRetired = vm.instructionsRetired + 1#32 ∧
      vm'.programSize = vm.programSize) ∨
    ∃ e, runAlone cfg vm = .error e ∧ vm.arch.exec cfg w = .error e.1 := by
  obtain ⟨lf, hfetch, hif⟩ := fetchStage_of_readWord vm hin hread
  let d : RV5SVM := { vm with
    nextIfIdReg := lf, programCounter := vm.programCounter + 4#64, ifIdReg := lf }
  obtain ⟨ld, hdecode, hid, hdata⟩ := decodeStage_of_ifIdOk d hif
  let x : RV5SVM := { d with nextIdExReg := ld, ifIdReg := .bubble, idExReg := ld }
  have hrun : runAlone cfg vm = (do
      let vm ← executeStage x
      let vm ← memoryStage cfg { vm with idExReg := .bubble, exMemReg := vm.nextExMemReg }
      let vm := writeBackStage { vm with exMemReg := .bubble, memWbReg := vm.nextMemWbReg }
      pure { vm with memWbReg := .bubble }) := by
    have hvalid : ¬(!d.ifIdReg.isValid) = true := by
      rw [hif.isValid]
      decide
    unfold runAlone
    rw [hfetch, ok_bind]
    show (if (!d.ifIdReg.isValid) = true then _ else passAlone cfg d) = _
    rw [if_neg hvalid, passAlone, hdecode]
  have hops : (getControlSignals w).isNop = false →
      OperandsOk vm.arch w x.idExReg.rs1Data x.idExReg.rs2Data := fun hnop =>
    ⟨fun _ => (hdata hnop).1, (hdata hnop).2⟩
  have hid₀ : IdExOk vm.arch w x.idExReg := hid
  rw [hrun]
  rcases executeStage_of_idExOk hid₀ hw hops with ⟨lx, hexecute, hex⟩ | ⟨e, hexecute, herr⟩
  · let m : RV5SVM := { x with nextExMemReg := lx, idExReg := .bubble, exMemReg := lx }
    have hex₀ : ExMemOk vm.arch w m.exMemReg := hex
    rw [hexecute, ok_bind]
    rcases memoryStage_of_exMemOk cfg m hex₀ rfl with
      ⟨lw, s', hmemory, hexec, hwb⟩ | ⟨e, hmemory, herr⟩
    · have hpc : s'.pc = vm.programCounter + 4#64 := by
        rw [ArchState.pc_exec hexec, ArchState.next_of_not_branch hw.branch_eq.1]
        rfl
      show (∃ vm', (memoryStage cfg m >>= _) = .ok vm' ∧ _) ∨ _
      rw [hmemory, ok_bind]
      refine .inl ⟨_, rfl, hexec.trans (congrArg Except.ok ?_), ?_, ?_⟩
      all_goals
        unfold writeBackStage
        dsimp only
        rw [hwb.isValid]
      · exact congrArg₂ (fun pc registers => ({ pc, registers, memory := s'.memory } : ArchState))
          hpc hwb.writeBack.symm
      · rfl
      · rfl
    · show _ ∨ ∃ e, (memoryStage cfg m >>= _) = .error e ∧ _
      rw [hmemory, error_bind]
      exact .inr ⟨e, rfl, herr⟩
  · rw [hexecute, error_bind]
    exact .inr ⟨e, rfl, herr⟩

/-! ### Programs in the machine -/

/-- The machine before the first cycle of a program: the words stand in the
memory from address zero on, nothing is in the pipeline and nothing has retired.
The registers, the rest of the memory and the next latches are arbitrary. -/
structure Loaded (cfg : VmConfig) (words : List (BitVec 32)) (vm : RV5SVM) : Prop where
  isEmpty : vm.IsEmpty
  programCounter : vm.programCounter = 0#64
  instructionsRetired : vm.instructionsRetired = 0#32
  programSize : vm.programSize.toNat = 4 * words.length
  memory : vm.memoryController.Reachable cfg
  text : ArchState.HoldsText words vm.memoryController

/-- What is left of a run to compare: the state an instruction sees and the count
of retired instructions, or the fault. -/
def result (out : Except (Fault × RV5SVM) RV5SVM) : Except Fault (ArchState × BitVec 32) :=
  (forgetState out).map fun vm => (vm.arch, vm.instructionsRetired)

/-- The result of a straight-line program: the fold of the abstract machine. -/
def foldResult (cfg : VmConfig) (words : List (BitVec 32)) (s : ArchState) :
    Except Fault (ArchState × BitVec 32) :=
  (words.foldlM (ArchState.exec cfg) s).map fun s => (s, BitVec.ofNat 32 words.length)

theorem foldResult_of_completes (h : ArchState.Completes cfg words s words.length) :
    foldResult cfg words s =
      .ok (s.course cfg words words.length, BitVec.ofNat 32 words.length) := by
  rw [foldResult, ArchState.foldlM_of_completes h]
  rfl

theorem foldResult_of_error {i : Nat} {e : Fault} (h : ArchState.Completes cfg words s i)
    (hi : i < words.length)
    (hs : (s.course cfg words i).exec cfg (wordAt words i) = .error e) :
    foldResult cfg words s = .error e := by
  rw [foldResult, ArchState.foldlM_of_error h (getElem?_eq_wordAt hi) hs]
  rfl

namespace Loaded

variable (h : Loaded cfg words vm)

include h

theorem size_lt : 4 * words.length < 2 ^ 64 := by
  have hlt := vm.programSize.isLt
  rw [h.programSize] at hlt
  exact hlt

/-- The addresses of the words. -/
theorem toNat_pc (hw : ∀ w ∈ words, IsStraight w) {i : Nat} (hi : i ≤ words.length) :
    (vm.arch.course cfg words i).pc = BitVec.ofNat 64 (4 * i) ∧
      (vm.arch.course cfg words i).pc.toNat = 4 * i := by
  have hsize := h.size_lt
  have hpc : (vm.arch.course cfg words i).pc = BitVec.ofNat 64 (4 * i) := by
    rw [ArchState.pc_course hw hi]
    show vm.programCounter + _ = _
    rw [h.programCounter, BitVec.zero_add]
  rw [hpc, BitVec.toNat_ofNat, Nat.mod_eq_of_lt (by omega)]
  exact ⟨rfl, rfl⟩

theorem pc_lt_iff (hw : ∀ w ∈ words, IsStraight w) {i : Nat} (hi : i ≤ words.length) :
    (vm.arch.course cfg words i).pc < vm.programSize ↔ i < words.length := by
  rw [BitVec.lt_def, (h.toNat_pc hw hi).2, h.programSize]
  omega

/-- The word at `i` can be fetched while the words before it execute. -/
theorem readWord_of_completes (hw : ∀ w ∈ words, IsStraight w) {i j : Nat}
    (hj : j ≤ words.length) (hapart : vm.arch.StoresApart cfg words j)
    (hcompletes : vm.arch.Completes cfg words j) (hi : i < words.length) :
    (vm.arch.course cfg words j).memory.readWord (vm.arch.course cfg words i).pc =
      .ok (wordAt words i) := by
  have htext := (ArchState.text_of_completes hw h.size_lt h.programCounter h.memory h.text hj
    hapart hcompletes).2 i hi
  rw [(h.toNat_pc hw (Nat.le_of_lt hi)).1, htext]
  exact congrArg Except.ok
    (Option.some.inj ((List.getElem?_eq_getElem hi).symm.trans (getElem?_eq_wordAt hi)))

end Loaded

/-! ### The reference computes the fold -/

/-- The reference after `i` words. -/
structure Alone (cfg : VmConfig) (words : List (BitVec 32)) (vm₀ : RV5SVM) (i : Nat)
    (vm : RV5SVM) : Prop where
  bound : i ≤ words.length
  arch : vm.arch = vm₀.arch.course cfg words i
  completes : vm₀.arch.Completes cfg words i
  instructionsRetired : vm.instructionsRetired = BitVec.ofNat 32 i
  programSize : vm.programSize = vm₀.programSize
  reaches : Reaches isHalted (runAlone cfg) vm₀ vm

section

variable {vm₀ : RV5SVM} {i : Nat}

theorem Loaded.alone (h₀ : Loaded cfg words vm₀) : Alone cfg words vm₀ 0 vm₀ where
  bound := Nat.zero_le _
  arch := rfl
  completes := rfl
  instructionsRetired := h₀.instructionsRetired
  programSize := rfl
  reaches := .refl

theorem Alone.isHalted_iff (hw : ∀ w ∈ words, IsStraight w) (h₀ : Loaded cfg words vm₀)
    (h : Alone cfg words vm₀ i vm) : vm.isHalted = true ↔ i = words.length := by
  have hlt := h₀.pc_lt_iff hw h.bound
  have hbound := h.bound
  have hpc : vm.programCounter = (vm₀.arch.course cfg words i).pc :=
    congrArg ArchState.pc h.arch
  unfold isHalted
  rw [decide_eq_true_eq, ← BitVec.not_lt, h.programSize, hpc, hlt]
  omega

/-- One word of the reference. -/
theorem Alone.step (hw : ∀ w ∈ words, IsStraight w) (h₀ : Loaded cfg words vm₀)
    (hapart : vm₀.arch.StoresApart cfg words i) (h : Alone cfg words vm₀ i vm)
    (hi : i < words.length) :
    (∃ vm', runAlone cfg vm = .ok vm' ∧ Alone cfg words vm₀ (i + 1) vm') ∨
      ∃ e, runAlone cfg vm = .error e ∧
        (vm₀.arch.course cfg words i).exec cfg (wordAt words i) = .error e.1 := by
  have hget := getElem?_eq_wordAt hi
  have hstraight : IsStraight (wordAt words i) := hw _ (List.mem_of_getElem? hget)
  have hgo : vm.isHalted = false := by
    rw [← Bool.not_eq_true, h.isHalted_iff hw h₀]
    omega
  have hin : vm.programCounter < vm.programSize := by
    unfold isHalted at hgo
    exact BitVec.not_le.mp (of_decide_eq_false hgo)
  have hread := h₀.readWord_of_completes hw h.bound hapart h.completes hi
  rw [← h.arch] at hread
  have halone := runAlone_eq cfg hstraight hin hread
  rw [h.arch] at halone
  rcases halone with ⟨vm', hrun, hexec, hretired, hsize⟩ | ⟨e, hrun, herr⟩
  · obtain ⟨hcompletes, harch⟩ := ArchState.completes_succ h.completes hget hexec
    refine .inl ⟨vm', hrun, hi, harch, hcompletes, ?_, hsize.trans h.programSize,
      h.reaches.tail hgo hrun⟩
    rw [hretired, h.instructionsRetired, BitVec.ofNat_add]
  · exact .inr ⟨e, hrun, herr⟩

/-- No word that the reference executes stores into the text. -/
def KeepsText (cfg : VmConfig) (vm : RV5SVM) : Prop :=
  ∀ vm', Reaches isHalted (runAlone cfg) vm vm' → vm'.isHalted = false →
    ∀ a ∈ vm'.arch.storeAddresses, vm.programSize ≤ a

/-- The reference reaches every state in which a word executes. -/
theorem storesApart_of_keepsText (hw : ∀ w ∈ words, IsStraight w) (h₀ : Loaded cfg words vm₀)
    (hkeeps : KeepsText cfg vm₀) (hi : i ≤ words.length) :
    vm₀.arch.StoresApart cfg words i ∧
      (vm₀.arch.Completes cfg words i → ∃ vm, Alone cfg words vm₀ i vm) := by
  induction i with
  | zero => exact ⟨fun j hj => absurd hj (Nat.not_lt_zero j), fun _ => ⟨vm₀, h₀.alone⟩⟩
  | succ i ih =>
    obtain ⟨hapart, hreached⟩ := ih (by omega)
    refine ⟨fun j hj hc a ha => ?_, fun hc => ?_⟩
    · rcases Nat.lt_succ_iff_lt_or_eq.mp hj with hlt | rfl
      · exact hapart j hlt hc a ha
      · obtain ⟨vm, h⟩ := hreached hc
        have hgo : vm.isHalted = false := by
          rw [← Bool.not_eq_true, h.isHalted_iff hw h₀]
          omega
        have hle := hkeeps vm h.reaches hgo a (h.arch ▸ ha)
        rwa [BitVec.le_def, h₀.programSize] at hle
    · obtain ⟨hc, hexec⟩ := ArchState.completes_of_succ hc (getElem?_eq_wordAt hi)
      obtain ⟨vm, h⟩ := hreached hc
      rcases h.step hw h₀ hapart hi with ⟨vm', -, h'⟩ | ⟨e, -, herr⟩
      · exact ⟨vm', h'⟩
      · rw [hexec] at herr
        cases herr

end

/-- **The reference computes the fold** of the abstract machine over the words. -/
theorem runSequentially_eq (hw : ∀ w ∈ words, IsStraight w) (h₀ : Loaded cfg words vm)
    (hkeeps : KeepsText cfg vm) :
    ∃ fuel out, runSequentially cfg fuel vm = some out ∧
      result out = foldResult cfg words vm.arch := by
  have hdone : ∀ {vm' : RV5SVM}, Alone cfg words vm words.length vm' →
      result (.ok vm') = foldResult cfg words vm.arch := fun h => by
    rw [foldResult_of_completes h.completes, ← h.arch, ← h.instructionsRetired]
    rfl
  by_cases hgo : isHalted vm = false
  · obtain ⟨fuel, out, hrun, hout⟩ := runUntil_outcome_of_rank isHalted (runAlone cfg)
      (fun k vm' => ∃ i, Alone cfg words vm i vm' ∧ i < words.length ∧ k = words.length - i)
      (fun out => result out = foldResult cfg words vm.arch)
      (fun k vm' hinv => by
        obtain ⟨i, h, hi, rfl⟩ := hinv
        have hapart := (storesApart_of_keepsText hw h₀ hkeeps h.bound).1
        rcases h.step hw h₀ hapart hi with ⟨vm'', hrun, h'⟩ | ⟨e, hrun, herr⟩
        · refine .inr ⟨vm'', hrun, ?_⟩
          by_cases hend : i + 1 = words.length
          · exact .inl ⟨(h'.isHalted_iff hw h₀).mpr hend, hdone (hend ▸ h')⟩
          · have hgo' : vm''.isHalted = false :=
              Bool.eq_false_iff.mpr fun hstop => hend ((h'.isHalted_iff hw h₀).mp hstop)
            exact .inr ⟨hgo', _, Nat.sub_lt_sub_left hi (Nat.lt_succ_self i), i + 1, h',
              by omega, rfl⟩
        · exact .inl ⟨e, hrun, (foldResult_of_error h.completes hi herr).symm⟩)
      ⟨0, h₀.alone, Nat.pos_of_ne_zero fun hzero =>
        Bool.noConfusion (hgo.symm.trans ((h₀.alone.isHalted_iff hw h₀).mpr hzero.symm)), rfl⟩ hgo
    exact ⟨fuel, out, hrun, hout⟩
  · rw [Bool.not_eq_false] at hgo
    refine ⟨1, .ok vm, by rw [runSequentially, runUntil, if_pos hgo], ?_⟩
    have hend := (h₀.alone.isHalted_iff hw h₀).mp hgo
    exact hdone (hend ▸ h₀.alone)

/-! ### The pipeline computes the fold -/

/-- The machine at a cycle boundary of the run from state `s`, with `r`
instructions retired: the back end holds the next words, the instruction in the
second latch has its operands, and the fetch goes on behind the first latch. -/
structure Flow (cfg : VmConfig) (words : List (BitVec 32)) (vm₀ : RV5SVM) (r : Nat)
    (vm : RV5SVM) : Prop where
  backEnd : BackEnd words.length (vm₀.arch.course cfg words) (wordAt words) r vm.widen
  completes : vm₀.arch.Completes cfg words (vm.widen.posMem r)
  programSize : vm.programSize = vm₀.programSize
  operands : vm.idExReg.isValid = true →
    (getControlSignals (wordAt words (vm.widen.posEx r))).isNop = false →
    OperandsOk (vm₀.arch.course cfg words (vm.widen.posEx r)) (wordAt words (vm.widen.posEx r))
      vm.idExReg.rs1Data vm.idExReg.rs2Data
  front : RV5SEXVM.RightPath words.length (vm₀.arch.course cfg words) (wordAt words)
    (vm.widen.posId r) vm.ifIdReg vm.programCounter

namespace Flow

variable {vm₀ : RV5SVM}

theorem wordAt_straight (hw : ∀ w ∈ words, IsStraight w) {i : Nat} (hi : i < words.length) :
    IsStraight (wordAt words i) :=
  hw _ (List.mem_of_getElem? (getElem?_eq_wordAt hi))

/-- Write-back and memory complete the instructions in the last two latches, or
the second of them faults. -/
theorem memoryStage_eq (h : Flow cfg words vm₀ r vm) :
    (∃ l, memoryStage cfg vm.writeBackStage = .ok { vm with
        instructionsRetired := BitVec.ofNat 32 (vm.widen.posMem r)
        registers := (vm₀.arch.course cfg words (vm.widen.posMem r)).registers
        memoryController := (vm₀.arch.course cfg words (vm.widen.posEx r)).memory
        nextMemWbReg := l } ∧
      l.isValid = vm.exMemReg.isValid ∧
      HoldsMemWb (vm₀.arch.course cfg words) (wordAt words) (vm.widen.posMem r) l ∧
      vm₀.arch.Completes cfg words (vm.widen.posEx r)) ∨
    ∃ e, memoryStage cfg vm.writeBackStage = .error e ∧
      foldResult cfg words vm₀.arch = .error e.1 := by
  have hwb := writeBackStage_of_backEnd h.backEnd
  have hstage : memoryStage cfg vm.writeBackStage =
      mapBoth (fun e => (e.1, narrow e.2)) narrow (vm.widen.writeBackStage.memoryStage cfg) := by
    rw [memoryStage_eq_narrow, writeBackStage_eq_narrow, hwb]
    rfl
  by_cases hexec : vm.exMemReg.isValid = true → ∃ s',
      (vm₀.arch.course cfg words (vm.widen.posMem r)).exec cfg
        (wordAt words (vm.widen.posMem r)) = .ok s'
  · -- the instruction in the third latch executes
    have hnext : vm.exMemReg.isValid = true →
        vm₀.arch.Completes cfg words (vm.widen.posMem r + 1) ∧
        (vm₀.arch.course cfg words (vm.widen.posMem r)).exec cfg
          (wordAt words (vm.widen.posMem r)) =
          .ok (vm₀.arch.course cfg words (vm.widen.posMem r + 1)) := fun hv => by
      obtain ⟨s', hs'⟩ := hexec hv
      obtain ⟨hc, rfl⟩ := ArchState.completes_succ h.completes
        (getElem?_eq_wordAt (h.backEnd.posMem_lt hv)) hs'
      exact ⟨hc, hs'⟩
    obtain ⟨l, hl, hvalid, hholds⟩ := memoryStage_of_exec h.backEnd fun hv => (hnext hv).2
    rw [hstage, hl]
    refine .inl ⟨l, rfl, hvalid, hholds, ?_⟩
    cases hv : vm.exMemReg.isValid with
    | false =>
      have hpos : vm.widen.posEx r = vm.widen.posMem r := by
        show vm.widen.posMem r + vm.exMemReg.isValid.toNat = _
        rw [hv]
        rfl
      rw [hpos]
      exact h.completes
    | true =>
      have hpos : vm.widen.posEx r = vm.widen.posMem r + 1 := by
        show vm.widen.posMem r + vm.exMemReg.isValid.toNat = _
        rw [hv]
        rfl
      rw [hpos]
      exact (hnext hv).1
  · obtain ⟨hv, hexec⟩ := Classical.not_imp.mp hexec
    have hmem : vm.widen.writeBackStage.memoryController =
        (vm₀.arch.course cfg words (vm.widen.posMem r)).memory := by
      rw [hwb]
      exact h.backEnd.memory
    have hok : ExMemOk (vm₀.arch.course cfg words (vm.widen.posMem r))
        (wordAt words (vm.widen.posMem r)) vm.widen.writeBackStage.exMemReg := by
      rw [hwb]
      exact h.backEnd.exMem.1 hv
    rw [hstage]
    cases hs : vm.widen.writeBackStage.memoryStage cfg with
    | ok vm' => exact absurd (exec_of_memoryStage hok hmem hs) hexec
    | error e =>
      exact .inr ⟨_, rfl, foldResult_of_error h.completes (h.backEnd.posMem_lt hv)
        (exec_of_memoryStage_error hok hmem hs)⟩

/-- Execute on the second latch, behind the memory stage of the cycle. -/
theorem executeStage_eq (hw : ∀ w ∈ words, IsStraight w) (h : Flow cfg words vm₀ r vm)
    {vm₁ : RV5SVM} (hid : vm₁.idExReg = vm.idExReg)
    (hc : vm₀.arch.Completes cfg words (vm.widen.posEx r)) :
    (∃ l, executeStage vm₁ = .ok { vm₁ with nextExMemReg := l } ∧
      l.isValid = vm.idExReg.isValid ∧
      HoldsExMem (vm₀.arch.course cfg words) (wordAt words) (vm.widen.posEx r) l) ∨
    ∃ e, executeStage vm₁ = .error e ∧ foldResult cfg words vm₀.arch = .error e.1 := by
  cases hv : vm.idExReg.isValid with
  | false =>
    refine .inl ⟨.bubble, ?_, rfl, holdsExMem_bubble⟩
    unfold executeStage
    rw [if_pos (by rw [hid, hv]; rfl)]
  | true =>
    have hlt : vm.widen.posEx r < words.length := by
      have hbound := h.backEnd.bound
      have hpos : vm.widen.posId r = vm.widen.posEx r + vm.idExReg.isValid.toNat := rfl
      rw [hpos, hv, Bool.toNat_true] at hbound
      omega
    have hok : IdExOk (vm₀.arch.course cfg words (vm.widen.posEx r))
        (wordAt words (vm.widen.posEx r)) vm₁.idExReg := hid ▸ h.backEnd.idEx.1 hv
    rcases executeStage_of_idExOk hok (wordAt_straight hw hlt) (hid ▸ h.operands hv) with
      ⟨l, hl, hex⟩ | ⟨e, he, herr⟩
    · exact .inl ⟨l, hl, hex.isValid, .of_ok hex⟩
    · exact .inr ⟨e, he, foldResult_of_error hc hlt herr⟩

/-- Decode on the first latch, behind the write-back of the cycle: the two
instructions that are still to be written back write no register it reads. -/
theorem decodeStage_eq (hfree : HazardFree words) (h : Flow cfg words vm₀ r vm) {vm₁ : RV5SVM}
    (hif : vm₁.ifIdReg = vm.ifIdReg)
    (hregs : vm₁.registers = (vm₀.arch.course cfg words (vm.widen.posMem r)).registers) :
    ∃ l, decodeStage vm₁ = { vm₁ with nextIdExReg := l } ∧ l.isValid = vm.ifIdReg.isValid ∧
      HoldsIdEx (vm₀.arch.course cfg words) (wordAt words) (vm.widen.posId r) l ∧
      (l.isValid = true → (getControlSignals (wordAt words (vm.widen.posId r))).isNop = false →
        OperandsOk (vm₀.arch.course cfg words (vm.widen.posId r))
          (wordAt words (vm.widen.posId r)) l.rs1Data l.rs2Data) := by
  cases hv : vm.ifIdReg.isValid with
  | false =>
    refine ⟨.bubble, ?_, rfl, holdsIdEx_bubble, fun h => Bool.noConfusion h⟩
    unfold decodeStage
    rw [if_pos (by rw [hif, hv]; rfl)]
  | true =>
    obtain ⟨hlt, hok, -⟩ := h.front.1 hv
    obtain ⟨l, hl, hid, hdata⟩ := decodeStage_of_ifIdOk vm₁ (hif ▸ hok)
    refine ⟨l, hl, hid.isValid, .of_ok hid, fun _ hnop => ?_⟩
    have hle : vm.widen.posMem r ≤ vm.widen.posId r ∧
        vm.widen.posId r ≤ vm.widen.posMem r + 2 := by
      have hex := vm.widen.exMemReg.isValid.toNat_le
      have hid := vm.widen.idExReg.isValid.toNat_le
      unfold Rv5sVm.posId Rv5sVm.posEx
      omega
    have hread : ∀ i, ReadsGpr (wordAt words (vm.widen.posId r)) i →
        vm₁.registers.readGpr i =
          (vm₀.arch.course cfg words (vm.widen.posId r)).registers.readGpr i := fun i hi => by
      rw [hregs]
      exact (ArchState.readGpr_course_of_distant hfree hle.1 hle.2 (getElem?_eq_wordAt hlt)
        hi).symm
    obtain ⟨h1, h2⟩ := hdata hnop
    exact ⟨fun _ => h1.trans (hread _ ⟨hnop, .inl rfl⟩), h2.trans (hread _ ⟨hnop, .inr rfl⟩)⟩

/-- The word the fetch of the cycle goes on with. -/
def posIf (vm : RV5SVM) (r : Nat) : Nat :=
  vm.widen.posId r + vm.ifIdReg.isValid.toNat

theorem posIf_le (h : Flow cfg words vm₀ r vm) : posIf vm r ≤ words.length := by
  have hbound := h.backEnd.bound
  unfold posIf
  cases hv : vm.ifIdReg.isValid with
  | false => exact hbound
  | true => exact (h.front.1 hv).1

/-- The program counter of the cycle is that of the next word to fetch. -/
theorem programCounter_eq (hw : ∀ w ∈ words, IsStraight w) (h : Flow cfg words vm₀ r vm) :
    vm.programCounter = (vm₀.arch.course cfg words (posIf vm r)).pc := by
  unfold posIf
  cases hv : vm.ifIdReg.isValid with
  | false => exact h.front.2 hv
  | true =>
    obtain ⟨hlt, -, hpc⟩ := h.front.1 hv
    rw [hpc, Bool.toNat_true, ArchState.course_succ (getElem?_eq_wordAt hlt),
      ArchState.pc_execOrSkip (wordAt_straight hw hlt)]

/-- Fetch, behind the other stages of the cycle: it finds the next word, or the
program is at its end. -/
theorem fetchStage_eq (hw : ∀ w ∈ words, IsStraight w) (h₀ : Loaded cfg words vm₀)
    (hkeeps : KeepsText cfg vm₀) (h : Flow cfg words vm₀ r vm) {vm₁ : RV5SVM}
    (hc : vm₀.arch.Completes cfg words (vm.widen.posEx r))
    (hmem : vm₁.memoryController = (vm₀.arch.course cfg words (vm.widen.posEx r)).memory)
    (hpc : vm₁.programCounter = vm.programCounter) (hsize : vm₁.programSize = vm.programSize) :
    ∃ l pc, fetchStage vm₁ = .ok { vm₁ with nextIfIdReg := l, programCounter := pc } ∧
      RV5SEXVM.RightPath words.length (vm₀.arch.course cfg words) (wordAt words) (posIf vm r) l pc ∧
      (l.isValid = false → posIf vm r = words.length) := by
  have hpos := h.programCounter_eq hw
  have hle := h.posIf_le
  have hlt := h₀.pc_lt_iff hw hle
  by_cases hend : posIf vm r < words.length
  · have hin : vm₁.programCounter < vm₁.programSize := by
      rw [hpc, hpos, hsize, h.programSize]
      exact hlt.mpr hend
    have hbound : vm.widen.posEx r ≤ words.length :=
      Nat.le_trans (Nat.le_add_right _ _) h.backEnd.bound
    have hread := h₀.readWord_of_completes hw hbound
      (storesApart_of_keepsText hw h₀ hkeeps hbound).1 hc hend
    rw [← hmem, ← hpos, ← hpc] at hread
    obtain ⟨l, hl, hok⟩ := fetchStage_of_readWord vm₁ hin hread
    have hok' : IfIdOk (vm₀.arch.course cfg words (posIf vm r)) (wordAt words (posIf vm r)) l :=
      ⟨hok.isValid, hok.instruction, hok.pc.trans (hpc.trans hpos),
        hok.pcInc.trans (congrArg (· + 4#64) (hpc.trans hpos))⟩
    exact ⟨l, _, hl, ⟨fun _ => ⟨hend, hok', by rw [hpc, hpos]⟩,
      fun h => Bool.noConfusion (hok.isValid.symm.trans h)⟩,
      fun h => Bool.noConfusion (hok.isValid.symm.trans h)⟩
  · refine ⟨.bubble, vm₁.programCounter, ?_, ⟨fun h => Bool.noConfusion h,
      fun _ => hpc.trans hpos⟩, fun _ => by omega⟩
    unfold fetchStage
    rw [if_pos]
    rw [hpc, hpos, hsize, h.programSize, ← BitVec.not_lt, hlt]
    exact hend

/-- Words still to come, weighted by how far they are from retiring. -/
def rank (words : List (BitVec 32)) (r : Nat) (vm : RV5SVM) : Nat :=
  5 * (words.length - posIf vm r) + 4 * vm.ifIdReg.isValid.toNat +
    3 * vm.idExReg.isValid.toNat + 2 * vm.exMemReg.isValid.toNat + vm.memWbReg.isValid.toNat

theorem runStages_eq_bind (cfg : VmConfig) (vm : RV5SVM) :
    runStages cfg vm = memoryStage cfg vm.writeBackStage >>= fun vm => executeStage vm >>=
      fun vm => fetchStage (decodeStage vm) :=
  rfl

/-- A cycle keeps the invariant; it lowers the rank or ends the run. -/
theorem runStages_eq (hfree : HazardFree words) (h₀ : Loaded cfg words vm₀)
    (hkeeps : KeepsText cfg vm₀) (h : Flow cfg words vm₀ r vm) :
    (∃ vm', runStages cfg vm = .ok vm' ∧ vm'.stopRequested = vm.stopRequested ∧
      Flow cfg words vm₀ (vm.widen.posMem r) vm'.endCycle ∧
      (vm'.endCycle.isFinished = true ∨
        rank words (vm.widen.posMem r) vm'.endCycle < rank words r vm)) ∨
    ∃ e, runStages cfg vm = .error e ∧ foldResult cfg words vm₀.arch = .error e.1 := by
  have hw := hfree.straight
  rw [runStages_eq_bind]
  rcases h.memoryStage_eq with ⟨lw, hmemory, hwv, hwb, hc⟩ | ⟨e, hmemory, herr⟩
  swap
  · exact .inr ⟨e, by rw [hmemory, error_bind], herr⟩
  let m : RV5SVM := { vm with
    instructionsRetired := BitVec.ofNat 32 (vm.widen.posMem r)
    registers := (vm₀.arch.course cfg words (vm.widen.posMem r)).registers
    memoryController := (vm₀.arch.course cfg words (vm.widen.posEx r)).memory
    nextMemWbReg := lw }
  have hmemory : memoryStage cfg vm.writeBackStage = .ok m := hmemory
  rcases h.executeStage_eq hw (show m.idExReg = vm.idExReg from rfl) hc with
    ⟨lx, hexecute, hxv, hex⟩ | ⟨e, hexecute, herr⟩
  swap
  · exact .inr ⟨e, by rw [hmemory, ok_bind, hexecute, error_bind], herr⟩
  let x : RV5SVM := { m with nextExMemReg := lx }
  have hexecute : executeStage m = .ok x := hexecute
  obtain ⟨ld, hdecode, hdv, hid, hops⟩ := h.decodeStage_eq hfree (show x.ifIdReg = vm.ifIdReg from rfl) rfl
  let d : RV5SVM := { x with nextIdExReg := ld }
  have hdecode : decodeStage x = d := hdecode
  obtain ⟨lf, pc, hfetch, hpath, hend⟩ := h.fetchStage_eq hw h₀ hkeeps hc
    (show d.memoryController = (vm₀.arch.course cfg words (vm.widen.posEx r)).memory from rfl)
    rfl rfl
  let f : RV5SVM := { d with nextIfIdReg := lf, programCounter := pc }
  have hfetch : fetchStage d = .ok f := hfetch
  have hposMem : f.endCycle.widen.posMem (vm.widen.posMem r) = vm.widen.posEx r :=
    congrArg (fun v : Bool => vm.widen.posMem r + v.toNat) hwv
  have hposEx : f.endCycle.widen.posEx (vm.widen.posMem r) = vm.widen.posId r := by
    unfold Rv5sVm.posEx
    rw [hposMem]
    exact congrArg (fun v : Bool => vm.widen.posEx r + v.toNat) hxv
  have hposId : f.endCycle.widen.posId (vm.widen.posMem r) = posIf vm r := by
    unfold Rv5sVm.posId
    rw [hposEx]
    exact congrArg (fun v : Bool => vm.widen.posId r + v.toNat) hdv
  refine .inl ⟨f, by rw [hmemory, ok_bind, hexecute, ok_bind, hdecode, hfetch], rfl, ?_, ?_⟩
  · exact {
      backEnd := {
        bound := hposId ▸ h.posIf_le
        retired := rfl
        registers := rfl
        memory := by
          rw [hposMem]
          rfl
        memWb := hwb
        exMem := by
          rw [hposMem]
          exact hex
        idEx := by
          rw [hposEx]
          exact hid }
      completes := by
        rw [hposMem]
        exact hc
      programSize := h.programSize
      operands := by
        rw [hposEx]
        exact hops
      front := by
        rw [hposId]
        exact hpath }
  · have hrank : rank words (vm.widen.posMem r) f.endCycle =
        5 * (words.length - (posIf vm r + lf.isValid.toNat)) + 4 * lf.isValid.toNat +
          3 * vm.ifIdReg.isValid.toNat + 2 * vm.idExReg.isValid.toNat +
          vm.exMemReg.isValid.toNat := by
      unfold rank
      rw [show posIf f.endCycle (vm.widen.posMem r) = posIf vm r + lf.isValid.toNat from
        congrArg (· + lf.isValid.toNat) hposId]
      show _ + _ + 3 * ld.isValid.toNat + 2 * lx.isValid.toNat + lw.isValid.toNat = _
      rw [hdv, hxv, hwv]
      rfl
    have hle := h.posIf_le
    rw [hrank]
    unfold rank
    cases hlf : lf.isValid with
    | true =>
      have hlt : posIf vm r < words.length := (hpath.1 hlf).1
      rw [Bool.toNat_true]
      omega
    | false =>
      rw [Bool.toNat_false]
      by_cases hempty : vm.ifIdReg.isValid.toNat + vm.idExReg.isValid.toNat +
          vm.exMemReg.isValid.toNat = 0
      · -- the latches run empty in this cycle
        have hpc : f.programSize ≤ pc := by
          have hge := (h₀.pc_lt_iff hw hle).not
          rw [BitVec.not_lt, ← hpath.2 hlf, hend hlf] at hge
          show vm.programSize ≤ pc
          rw [h.programSize]
          exact hge.mpr (Nat.lt_irrefl _)
        have hz : ∀ b : Bool, b.toNat = 0 → b = false := by decide
        have hif : vm.ifIdReg.isValid = false := hz _ (by omega)
        have hid : vm.idExReg.isValid = false := hz _ (by omega)
        have hex : vm.exMemReg.isValid = false := hz _ (by omega)
        left
        show (decide (f.programSize ≤ pc) && (!lf.isValid && !ld.isValid && !lx.isValid &&
          !lw.isValid)) = true
        rw [decide_eq_true hpc, hlf, hdv, hif, hxv, hid, hwv, hex]
        rfl
      · right
        omega

/-- A run that has ended has computed the fold. -/
theorem result_of_isFinished (hw : ∀ w ∈ words, IsStraight w) (h₀ : Loaded cfg words vm₀)
    (h : Flow cfg words vm₀ r vm) (hfin : vm.isFinished = true) :
    vm.arch = vm₀.arch.course cfg words words.length ∧
      vm.instructionsRetired = BitVec.ofNat 32 words.length ∧
      vm₀.arch.Completes cfg words words.length := by
  simp only [isFinished, Bool.and_eq_true, decide_eq_true_eq, Bool.not_eq_true'] at hfin
  obtain ⟨hge, ⟨⟨hif, hid⟩, hex⟩, hwb⟩ := hfin
  have hposMem : vm.widen.posMem r = r := by
    show r + vm.memWbReg.isValid.toNat = r
    rw [hwb]
    rfl
  have hposId : vm.widen.posId r = r := by
    show vm.widen.posMem r + vm.exMemReg.isValid.toNat + vm.idExReg.isValid.toNat = r
    rw [hposMem, hex, hid]
    rfl
  have hbound := h.backEnd.bound
  have hpc := h.front.2 hif
  rw [hposId] at hbound hpc
  have hlt := h₀.pc_lt_iff hw hbound
  rw [← hpc, ← h.programSize, ← not_iff_not, BitVec.not_lt] at hlt
  have hend : r = words.length := by
    have hnot := hlt.mp hge
    omega
  subst hend
  have hmemory := h.backEnd.memory
  have hcompletes := h.completes
  rw [hposMem] at hmemory hcompletes
  refine ⟨?_, h.backEnd.retired, hcompletes⟩
  unfold arch
  rw [hpc, show vm.registers = _ from h.backEnd.registers,
    show vm.memoryController = _ from hmemory]
  rfl

/-- The flags of the run loop are no concern of the invariant. -/
theorem withStatus (h : Flow cfg words vm₀ r vm) (stop : Bool) (status : OutputStatus) :
    Flow cfg words vm₀ r { vm with stopRequested := stop, outputStatus := status } :=
  ⟨⟨h.backEnd.bound, h.backEnd.retired, h.backEnd.registers, h.backEnd.memory, h.backEnd.memWb,
    h.backEnd.exMem, h.backEnd.idEx⟩, h.completes, h.programSize, h.operands, h.front⟩

/-- One step of a run. -/
theorem step_eq (hfree : HazardFree words) (h₀ : Loaded cfg words vm₀) (hkeeps : KeepsText cfg vm₀)
    (h : Flow cfg words vm₀ r vm) (hgo : vm.stopRequested = false)
    (hrunning : vm.outputStatus ≠ .programEnd) :
    (∃ e, step cfg vm = .error e ∧ result (.error e) = foldResult cfg words vm₀.arch) ∨
    ∃ vm', step cfg vm = .ok vm' ∧
      (vm'.stopRequested = true ∧ result (.ok vm') = foldResult cfg words vm₀.arch ∨
        vm'.stopRequested = false ∧ vm'.outputStatus ≠ .programEnd ∧
          Flow cfg words vm₀ (vm.widen.posMem r) vm' ∧
          rank words (vm.widen.posMem r) vm' < rank words r vm) := by
  unfold step
  rw [if_neg hrunning]
  rcases h.runStages_eq hfree h₀ hkeeps with ⟨vm', hrun, hstop, hflow, hnext⟩ | ⟨e, hrun, herr⟩
  · rw [hrun, ok_bind]
    refine .inr ⟨_, rfl, ?_⟩
    unfold reportStep
    by_cases hfin : vm'.endCycle.isFinished = true
    · rw [if_pos hfin]
      obtain ⟨harch, hretired, hcompletes⟩ := hflow.result_of_isFinished hfree.straight h₀ hfin
      refine .inl ⟨rfl, ?_⟩
      rw [foldResult_of_completes hcompletes, ← harch, ← hretired]
      rfl
    · rw [if_neg hfin]
      exact .inr ⟨hstop.trans hgo, OutputStatus.noConfusion, hflow.withStatus _ _,
        hnext.resolve_left hfin⟩
  · rw [hrun, error_bind]
    exact .inl ⟨e, rfl, herr.symm⟩

end Flow

/-- An empty pipeline at the first word has the invariant. -/
theorem Loaded.flow (h₀ : Loaded cfg words vm) : Flow cfg words vm 0 (startRun vm) := by
  have hpos : (startRun vm).widen.posId 0 = 0 := by
    show 0 + vm.memWbReg.isValid.toNat + vm.exMemReg.isValid.toNat + vm.idExReg.isValid.toNat = 0
    rw [h₀.isEmpty.memWb, h₀.isEmpty.exMem, h₀.isEmpty.idEx]
    rfl
  have hmem : (startRun vm).widen.posMem 0 = 0 := by
    show 0 + vm.memWbReg.isValid.toNat = 0
    rw [h₀.isEmpty.memWb]
    rfl
  have hid : (startRun vm).idExReg.isValid = false := congrArg IdExReg.isValid h₀.isEmpty.idEx
  have hif : (startRun vm).ifIdReg.isValid = false := congrArg IfIdReg.isValid h₀.isEmpty.ifId
  exact {
    backEnd := {
      bound := by
        rw [hpos]
        exact Nat.zero_le _
      retired := h₀.instructionsRetired
      registers := rfl
      memory := by
        rw [hmem]
        rfl
      memWb := by
        rw [show (startRun vm).widen.memWbReg = .bubble from h₀.isEmpty.memWb]
        exact holdsMemWb_bubble
      exMem := by
        rw [show (startRun vm).widen.exMemReg = .bubble from h₀.isEmpty.exMem]
        exact holdsExMem_bubble
      idEx := by
        rw [show (startRun vm).widen.idExReg = .bubble from h₀.isEmpty.idEx]
        exact holdsIdEx_bubble }
    completes := by
      rw [hmem]
      rfl
    programSize := rfl
    operands := fun hv => Bool.noConfusion (hid.symm.trans hv)
    front := ⟨fun hv => Bool.noConfusion (hif.symm.trans hv), fun _ => by
      rw [hpos]
      rfl⟩ }

/-- **`Run` on a hazard-free program** computes the fold of the abstract machine. -/
theorem run_eq (hfree : HazardFree words) (h₀ : Loaded cfg words vm) (hkeeps : KeepsText cfg vm) :
    ∃ fuel out, run cfg fuel vm = some out ∧ result out = foldResult cfg words vm.arch := by
  obtain ⟨fuel, out, hrun, hout⟩ := runUntil_outcome_of_rank
    (fun vm : RV5SVM => vm.stopRequested) (step cfg)
    (fun k vm' => ∃ r, Flow cfg words vm r vm' ∧ Flow.rank words r vm' = k ∧
      vm'.stopRequested = false ∧ vm'.outputStatus ≠ .programEnd)
    (fun out => result out = foldResult cfg words vm.arch)
    (fun k vm' hinv => by
      obtain ⟨r, hflow, rfl, hgo, hrunning⟩ := hinv
      refine (hflow.step_eq hfree h₀ hkeeps hgo hrunning).imp_right ?_
      rintro ⟨vm'', hstep, hnext⟩
      refine ⟨vm'', hstep, hnext.imp_right ?_⟩
      rintro ⟨hgo', hrunning', hflow', hlt⟩
      exact ⟨hgo', _, hlt, _, hflow', rfl, hgo', hrunning'⟩)
    ⟨0, h₀.flow, rfl, rfl, OutputStatus.noConfusion⟩ rfl
  refine ⟨fuel, out.map fun vm => { vm with stopRequested := false }, by rw [run, hrun]; rfl, ?_⟩
  rw [← hout]
  cases out <;> rfl

/-- **`Run` refines the words one at a time**: on a straight-line program that
keeps its distances and its text, it ends with the registers, the memory, the
program counter and the count of retired instructions of the reference, or with
its fault. -/
theorem run_refines_runSequentially (hfree : HazardFree words) (h₀ : Loaded cfg words vm)
    (hkeeps : KeepsText cfg vm) :
    ∃ fuel out fuel' out', run cfg fuel vm = some out ∧
      runSequentially cfg fuel' vm = some out' ∧ result out = result out' := by
  obtain ⟨fuel, out, hrun, hout⟩ := run_eq hfree h₀ hkeeps
  obtain ⟨fuel', out', hrun', hout'⟩ := runSequentially_eq hfree.straight h₀ hkeeps
  exact ⟨fuel, out, fuel', out', hrun, hrun', hout.trans hout'.symm⟩

/-- `addi x1, x0, 5`, `addi x3, x0, 1024`, a NOP, `add x2, x1, x1`, two NOPs,
`sd x2, 0(x3)`. -/
def spacedStore : AssembledProgram where
  textBuffer := [0x00500093#32, 0x40000193#32, 0x00000013#32, 0x00108133#32, 0x00000013#32,
    0x00000013#32, 0x0021b023#32]

theorem run_refines_runSequentially_spacedStore :
    ∃ vm₀, (new {}).loadProgram {} spacedStore = .ok vm₀ ∧
      ∃ fuel vm', run {} fuel vm₀ = some (.ok vm') ∧ vm'.registers.readGpr 2#5 = 10#64 ∧
        vm'.instructionsRetired = 7#32 := by
  let vm₀ : RV5SVM := ((new {}).loadProgram {} spacedStore).toOption.getD (new {})
  have hload : (new {}).loadProgram {} spacedStore = .ok vm₀ := eq_ok_getD _ (by decide +kernel)
  have hfree : HazardFree spacedStore.textBuffer := {
    straight := by
      have hall : (spacedStore.textBuffer.all fun w => decide (IsStraight w)) = true := by
        decide +kernel
      exact fun w hw => of_decide_eq_true (List.all_eq_true.mp hall w hw)
    distance := by
      intro i j hij w hw w' hw' r hwrites hreads
      have hall : ∀ j < 7, ∀ i < j, ∀ r, WritesGpr (wordAt spacedStore.textBuffer i) r →
          ReadsGpr (wordAt spacedStore.textBuffer j) r → i + 3 ≤ j := by decide +kernel
      have hj : j < spacedStore.textBuffer.length := (List.getElem?_eq_some_iff.mp hw').1
      rw [getElem?_eq_wordAt (Nat.lt_trans hij hj)] at hw
      rw [getElem?_eq_wordAt hj] at hw'
      obtain rfl := Option.some.inj hw
      obtain rfl := Option.some.inj hw'
      exact hall j hj i hij r hwrites hreads }
  have h₀ : Loaded {} spacedStore.textBuffer vm₀ := {
    isEmpty := ⟨by decide +kernel, by decide +kernel, by decide +kernel, by decide +kernel⟩
    programCounter := by decide +kernel
    instructionsRetired := by decide +kernel
    programSize := by decide +kernel
    memory := by
      obtain ⟨base, hbase, hvm⟩ := bind_pure_eq_ok.mp hload
      obtain ⟨-, -, -, hmemory⟩ := frame_of_loadProgram (throwWith_eq_ok.mp hbase)
      rw [← hvm]
      exact hmemory Memory.Reachable.new.reset
    text := by
      have hall : ∀ k < 7, ((vm₀.memoryController.readWord (BitVec.ofNat 64 (4 * k))).toOption.map
          id) = some (wordAt spacedStore.textBuffer k) := by decide +kernel
      intro k hk
      obtain ⟨x, hread, rfl⟩ := exists_ok_of_map (hall k hk)
      rw [hread]
      exact congrArg Except.ok (Option.some.inj
        ((getElem?_eq_wordAt hk).symm.trans (List.getElem?_eq_getElem hk))) }
  have hkeeps : KeepsText {} vm₀ := by
    intro vm' hreach hgo a ha
    have hstop : isHalted (after (runAlone {}) vm₀ 7) = true := by decide +kernel
    have hall : ∀ k < 8, ((after (runAlone {}) vm₀ k).arch.storeAddresses.all fun a =>
        decide (vm₀.programSize ≤ a)) = true := by decide +kernel
    obtain ⟨k, hk, rfl⟩ := hreach.exists_after hstop
    exact of_decide_eq_true (List.all_eq_true.mp (hall k (Nat.lt_succ_of_le hk)) a ha)
  have hreference : ((runSequentially {} 8 vm₀).bind Except.toOption).map
      (fun vm => (vm.registers.readGpr 2#5, vm.instructionsRetired)) = some (10#64, 7#32) := by
    decide +kernel
  clear_value vm₀
  obtain ⟨vm', hrun', hresult⟩ := exists_some_ok_of_map hreference
  obtain ⟨hgpr, hretired⟩ := Prod.mk.inj hresult
  obtain ⟨fuel, out, fuel', out', hrun, hrun'', heq⟩ := run_refines_runSequentially hfree h₀ hkeeps
  obtain rfl := runUntil_unique hrun'' hrun'
  cases out with
  | error e => cases heq
  | ok vm'' =>
    obtain ⟨harch, hretired'⟩ := Prod.mk.inj (Except.ok.inj heq)
    have hregisters : vm''.registers = vm'.registers := congrArg ArchState.registers harch
    exact ⟨vm₀, hload, fuel, vm'', hrun, by rw [hregisters, hgpr], hretired'.trans hretired⟩

end RV5SVM

end RiscvSim

import RiscvSim.Vm.Equiv.SameMemory
import RiscvSim.Vm.Rv5s.Equiv.BackEnd

/-!
# Straight-line programs

The meaning of a list of words without branches is a fold of the abstract
machine over the list.  `course` is the state before each word, `Completes`
says that the words before it execute.

* **`readGpr_course_of_distant`**: a word that keeps its distance to the words
  it depends on reads its registers before the last two words are done.
* **`text_of_completes`**: the words stay in the memory when none stores there.
-/

namespace RiscvSim

open RV5SControlUnit Lib

/-- The word writes register `i`. -/
def WritesGpr (w : BitVec 32) (i : BitVec 5) : Prop :=
  (getControlSignals w).regWrite = true ∧ rdOf w = i ∧ i ≠ 0#5

/-- The word reads register `i`. -/
def ReadsGpr (w : BitVec 32) (i : BitVec 5) : Prop :=
  (getControlSignals w).isNop = false ∧ (rs1IndexOf w = i ∨ rs2IndexOf w = i)

instance (w : BitVec 32) (i : BitVec 5) : Decidable (WritesGpr w i) :=
  inferInstanceAs (Decidable (_ ∧ _))

instance (w : BitVec 32) (i : BitVec 5) : Decidable (ReadsGpr w i) :=
  inferInstanceAs (Decidable (_ ∧ _))

/-- The opcodes of a straight-line program: no branch, no jump, no SYSTEM word. -/
def IsStraight (w : BitVec 32) : Prop :=
  opcodeOf w ≠ 0b1100011#7 ∧ opcodeOf w ≠ 0b1101111#7 ∧ opcodeOf w ≠ 0b1100111#7 ∧
    opcodeOf w ≠ 0b1110011#7

instance (w : BitVec 32) : Decidable (IsStraight w) :=
  inferInstanceAs (Decidable (_ ∧ _))

/-- A straight-line program in which a word that reads a register comes at
least three positions after the words before it that write the register. -/
structure HazardFree (words : List (BitVec 32)) : Prop where
  straight : ∀ w ∈ words, IsStraight w
  distance : ∀ i j, i < j → ∀ w, words[i]? = some w → ∀ w', words[j]? = some w' →
    ∀ r, WritesGpr w r → ReadsGpr w' r → i + 3 ≤ j

/-- Word `i` of a program; zero past its end. -/
def wordAt (words : List (BitVec 32)) (i : Nat) : BitVec 32 :=
  words.getD i 0#32

theorem getElem?_eq_wordAt {words : List (BitVec 32)} {i : Nat} (h : i < words.length) :
    words[i]? = some (wordAt words i) := by
  rw [wordAt, List.getD_eq_getElem?_getD, List.getElem?_eq_getElem h]
  rfl

variable {cfg : VmConfig} {words : List (BitVec 32)} {s s' : ArchState} {w : BitVec 32}

/-- The word is a branch or a jump. -/
def IsBranchWord (w : BitVec 32) : Prop :=
  opcodeOf w = 0b1100011#7 ∨ opcodeOf w = 0b1101111#7 ∨ opcodeOf w = 0b1100111#7

instance (w : BitVec 32) : Decidable (IsBranchWord w) :=
  inferInstanceAs (Decidable (_ ∨ _))

theorem branch_of_not_isBranchWord (h : ¬IsBranchWord w) :
    (getControlSignals w).branch = false ∧ (getControlSignals w).branchOp = .none := by
  cases hnop : (getControlSignals w).isNop with
  | true => exact ⟨(signals_of_isNop hnop).2.2.2.1, (signals_of_isNop hnop).2.2.2.2.1⟩
  | false =>
    have hc := controlCase_getControlSignals hnop
    generalize getControlSignals w = c at hc ⊢
    cases hc with
    | branch ho => exact absurd (.inl ho) h
    | jal ho => exact absurd (.inr (.inl ho)) h
    | jalr ho => exact absurd (.inr (.inr ho)) h
    | _ ho => exact ⟨rfl, rfl⟩

theorem IsStraight.branch_eq (h : IsStraight w) :
    (getControlSignals w).branch = false ∧ (getControlSignals w).branchOp = .none := by
  obtain ⟨hb, hjal, hjalr, -⟩ := h
  apply branch_of_not_isBranchWord
  rintro (ho | ho | ho)
  · exact hb ho
  · exact hjal ho
  · exact hjalr ho

namespace ArchState

/-- The state after `w`, which is passed over where it does not execute. -/
def execOrSkip (cfg : VmConfig) (s : ArchState) (w : BitVec 32) : ArchState :=
  (s.exec cfg w).toOption.getD { s with pc := s.pc + 4#64 }

theorem execOrSkip_of_exec (h : s.exec cfg w = .ok s') : s.execOrSkip cfg w = s' := by
  rw [execOrSkip, h]
  rfl

theorem pc_execOrSkip (h : IsStraight w) : (s.execOrSkip cfg w).pc = s.pc + 4#64 := by
  unfold execOrSkip
  cases hs : s.exec cfg w with
  | error e => rfl
  | ok s' =>
    show s'.pc = _
    rw [pc_exec hs, next_of_not_branch h.branch_eq.1]

theorem readGpr_execOrSkip {i : BitVec 5} (h : ¬WritesGpr w i) :
    (s.execOrSkip cfg w).registers.readGpr i = s.registers.readGpr i := by
  unfold execOrSkip
  cases hs : s.exec cfg w with
  | error e => rfl
  | ok s' => exact readGpr_exec_of_ne hs h

/-- The state before word `i`. -/
def course (cfg : VmConfig) (words : List (BitVec 32)) (s : ArchState) (i : Nat) : ArchState :=
  (words.take i).foldl (execOrSkip cfg) s

/-- The words before word `i` execute. -/
def Completes (cfg : VmConfig) (words : List (BitVec 32)) (s : ArchState) (i : Nat) : Prop :=
  (words.take i).foldlM (exec cfg) s = .ok (s.course cfg words i)

theorem course_succ {i : Nat} (h : words[i]? = some w) :
    s.course cfg words (i + 1) = (s.course cfg words i).execOrSkip cfg w := by
  unfold course
  rw [List.take_add_one, h, Option.toList_some, List.foldl_append]
  rfl

theorem pc_course (hw : ∀ w ∈ words, IsStraight w) {i : Nat} (hi : i ≤ words.length) :
    (s.course cfg words i).pc = s.pc + BitVec.ofNat 64 (4 * i) := by
  induction i with
  | zero => simp [course]
  | succ i ih =>
    have hget : words[i]? = some words[i] := List.getElem?_eq_getElem hi
    rw [course_succ hget, pc_execOrSkip (hw _ (List.getElem_mem hi)), ih (by omega),
      show 4 * (i + 1) = 4 * i + 4 by omega, BitVec.ofNat_add, BitVec.add_assoc]

/-- A register that none of the words from `i` to `j` writes. -/
theorem readGpr_course {r : BitVec 5} {i j : Nat} (hij : i ≤ j) (hj : j ≤ words.length)
    (h : ∀ k, i ≤ k → k < j → ∀ w, words[k]? = some w → ¬WritesGpr w r) :
    (s.course cfg words j).registers.readGpr r = (s.course cfg words i).registers.readGpr r := by
  obtain ⟨d, rfl⟩ := Nat.exists_eq_add_of_le hij
  induction d with
  | zero => rfl
  | succ d ih =>
    have hget : words[i + d]? = some words[i + d] := List.getElem?_eq_getElem (by omega)
    rw [← Nat.add_assoc, course_succ hget,
      readGpr_execOrSkip (h (i + d) (by omega) (by omega) _ hget)]
    exact ih (by omega) (by omega) fun k hk hkd => h k hk (by omega)

/-- **A word reads its registers early**: up to two words before it need not be done. -/
theorem readGpr_course_of_distant (h : HazardFree words) {r : BitVec 5} {i j : Nat} (hij : i ≤ j)
    (hji : j ≤ i + 2) (hw : words[j]? = some w) (hr : ReadsGpr w r) :
    (s.course cfg words j).registers.readGpr r = (s.course cfg words i).registers.readGpr r := by
  have hj : j < words.length := (List.getElem?_eq_some_iff.mp hw).1
  refine readGpr_course hij (Nat.le_of_lt hj) fun k hk hkj w' hw' hwrites => ?_
  have hdistance := h.distance k j hkj w' hw' w hw r hwrites hr
  omega

/-- Where words execute, none is passed over. -/
theorem foldl_execOrSkip_of_foldlM {l : List (BitVec 32)} (h : l.foldlM (exec cfg) s = .ok s') :
    l.foldl (execOrSkip cfg) s = s' := by
  induction l generalizing s with
  | nil => exact Except.ok.inj h
  | cons w l ih =>
    rw [List.foldlM_cons] at h
    obtain ⟨s₁, h₁, h⟩ := bind_eq_ok.mp h
    rw [List.foldl_cons, execOrSkip_of_exec h₁]
    exact ih h

theorem completes_succ {i : Nat} (h : Completes cfg words s i) (hw : words[i]? = some w)
    (hs : (s.course cfg words i).exec cfg w = .ok s') :
    Completes cfg words s (i + 1) ∧ s' = s.course cfg words (i + 1) := by
  have hcourse : s' = s.course cfg words (i + 1) := by
    rw [course_succ hw, execOrSkip_of_exec hs]
  refine ⟨?_, hcourse⟩
  unfold Completes
  rw [List.take_add_one, hw, Option.toList_some, List.foldlM_append, h, ok_bind, List.foldlM_cons,
    hs, hcourse]
  rfl

theorem completes_of_succ {i : Nat} (h : Completes cfg words s (i + 1)) (hw : words[i]? = some w) :
    Completes cfg words s i ∧
      (s.course cfg words i).exec cfg w = .ok (s.course cfg words (i + 1)) := by
  unfold Completes at h
  rw [List.take_add_one, hw, Option.toList_some, List.foldlM_append] at h
  obtain ⟨s₁, h₁, h₂⟩ := bind_eq_ok.mp h
  have hcourse : s.course cfg words i = s₁ := foldl_execOrSkip_of_foldlM h₁
  subst hcourse
  rw [List.foldlM_cons] at h₂
  obtain ⟨s₂, h₂, h₃⟩ := bind_eq_ok.mp h₂
  obtain rfl := Except.ok.inj h₃
  exact ⟨h₁, h₂⟩

/-- All words execute. -/
theorem foldlM_of_completes (h : Completes cfg words s words.length) :
    words.foldlM (exec cfg) s = .ok (s.course cfg words words.length) := by
  unfold Completes at h
  rwa [List.take_length] at h

/-- The first word that does not execute ends the program. -/
theorem foldlM_of_error {i : Nat} {e : Fault} (h : Completes cfg words s i)
    (hw : words[i]? = some w) (hs : (s.course cfg words i).exec cfg w = .error e) :
    words.foldlM (exec cfg) s = .error e := by
  obtain ⟨hi, rfl⟩ := List.getElem?_eq_some_iff.mp hw
  conv_lhs => rw [← List.take_append_drop i words, List.drop_eq_getElem_cons hi]
  rw [List.foldlM_append, h, ok_bind, List.foldlM_cons, hs, error_bind]

/-- The words of the program stand in the memory, from address zero on. -/
def HoldsText (words : List (BitVec 32)) (memory : Memory) : Prop :=
  ∀ k (hk : k < words.length), memory.readWord (BitVec.ofNat 64 (4 * k)) = .ok words[k]

/-- The stores of the words before word `i` that execute stay out of the text. -/
def StoresApart (cfg : VmConfig) (words : List (BitVec 32)) (s : ArchState) (i : Nat) : Prop :=
  ∀ j < i, Completes cfg words s j →
    ∀ a ∈ (s.course cfg words j).storeAddresses, 4 * words.length ≤ a.toNat

/-- **The text stays** as long as the words execute. -/
theorem text_of_completes (hw : ∀ w ∈ words, IsStraight w) (hsize : 4 * words.length < 2 ^ 64)
    (hpc : s.pc = 0#64) (hmemory : s.memory.Reachable cfg) (htext : HoldsText words s.memory)
    {i : Nat} (hi : i ≤ words.length) (hapart : StoresApart cfg words s i)
    (h : Completes cfg words s i) :
    (s.course cfg words i).memory.Reachable cfg ∧
      HoldsText words (s.course cfg words i).memory := by
  induction i with
  | zero => exact ⟨hmemory, htext⟩
  | succ i ih =>
    have hget : words[i]? = some words[i] := List.getElem?_eq_getElem hi
    obtain ⟨hcompletes, hs⟩ := completes_of_succ h hget
    obtain ⟨hreachable, ih⟩ :=
      ih (by omega) (fun j hj => hapart j (Nat.lt_succ_of_lt hj)) hcompletes
    have hfetch : (s.course cfg words i).fetch = .ok words[i] := by
      rw [fetch, pc_course hw (by omega), hpc, BitVec.zero_add]
      exact ih i hi
    have hreachable' := reachable_of_exec hreachable hs
    refine ⟨hreachable', fun k hk => ?_⟩
    refine Memory.readWord_of_framesAt_of_reachable hreachable hreachable' (fun b hb => ?_)
      (ih k hk)
    refine framesAt_of_exec hfetch hs fun hmem => ?_
    have hle := hapart i (Nat.lt_succ_self i) hcompletes _ hmem
    rw [BitVec.toNat_add, BitVec.toNat_ofNat, BitVec.toNat_ofNat] at hle
    omega

end ArchState

end RiscvSim

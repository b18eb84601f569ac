import RiscvSim.Vm.Rvss.Isa

/-!
# The signals of the single-cycle machine

Which opcodes set which signal, and which part of the machine executes a word.
-/

namespace RiscvSim

variable {w : BitVec 32}

namespace RVSSControlUnit

theorem branch_setControlSignals :
    (setControlSignals w).branch = true ↔
      opcodeOf w = 0b1100011#7 ∨ opcodeOf w = 0b1101111#7 ∨ opcodeOf w = 0b1100111#7 := by
  unfold setControlSignals
  generalize opcodeOf w = opcode
  revert opcode
  decide

theorem memRead_setControlSignals :
    (setControlSignals w).memRead = true ↔
      opcodeOf w = 0b0000011#7 ∨ opcodeOf w = 0b0000111#7 := by
  unfold setControlSignals
  generalize opcodeOf w = opcode
  revert opcode
  decide

theorem memWrite_setControlSignals :
    (setControlSignals w).memWrite = true ↔
      opcodeOf w = 0b0100011#7 ∨ opcodeOf w = 0b0100111#7 := by
  unfold setControlSignals
  generalize opcodeOf w = opcode
  revert opcode
  decide

end RVSSControlUnit

/-! ### The integer words -/

/-- The opcodes and values of `funct3` that no integer instruction has. -/
theorem opcode_of_isIntegerInstruction (h : isIntegerInstruction w = true) :
    opcodeOf w ≠ 0b1110011#7 ∧ opcodeOf w ≠ 0b0000111#7 ∧ opcodeOf w ≠ 0b0100111#7 ∧
      opcodeOf w ≠ 0b1010011#7 ∧ (opcodeOf w = 0b0000011#7 → funct3Of w ≠ 0b111#3) ∧
      (opcodeOf w = 0b1100011#7 → funct3Of w ≠ 0b010#3 ∧ funct3Of w ≠ 0b011#3) := by
  revert h
  unfold isIntegerInstruction
  generalize opcodeOf w = opcode
  generalize funct3Of w = funct3
  revert opcode funct3
  decide

theorem not_isFInstruction (h : isIntegerInstruction w = true) : isFInstruction w = false := by
  obtain ⟨_, hload, hstore, hfloat, _⟩ := opcode_of_isIntegerInstruction h
  unfold isFInstruction
  split <;> first | contradiction | rfl

theorem not_isDInstruction (h : isIntegerInstruction w = true) : isDInstruction w = false := by
  obtain ⟨_, hload, hstore, hfloat, _⟩ := opcode_of_isIntegerInstruction h
  unfold isDInstruction
  split <;> first | contradiction | rfl

/-- The opcodes in the assembler's integer tables, with the values of `funct3`
of the loads and branches. -/
theorem opcode_of_isEmittedInteger (h : isEmittedInteger w = true) :
    (opcodeOf w = 0b0110011#7 ∨ opcodeOf w = 0b0111011#7 ∨ opcodeOf w = 0b0010011#7 ∨
      opcodeOf w = 0b0011011#7 ∨ opcodeOf w = 0b0000011#7 ∨ opcodeOf w = 0b1100111#7 ∨
      opcodeOf w = 0b0100011#7 ∨ opcodeOf w = 0b1100011#7 ∨ opcodeOf w = 0b0110111#7 ∨
      opcodeOf w = 0b0010111#7 ∨ opcodeOf w = 0b1101111#7) ∧
    (opcodeOf w = 0b0000011#7 → funct3Of w ≠ 0b111#3) ∧
    (opcodeOf w = 0b1100011#7 → funct3Of w ≠ 0b010#3 ∧ funct3Of w ≠ 0b011#3) := by
  have hr : ∀ e ∈ rTypeInstructionEncodingMap,
      e.2.opcode = 0b0110011#7 ∨ e.2.opcode = 0b0111011#7 := by decide
  have hi1 : ∀ e ∈ i1TypeInstructionEncodingMap,
      e.2.opcode = 0b0010011#7 ∨ e.2.opcode = 0b0011011#7 ∨
        (e.2.opcode = 0b0000011#7 ∧ e.2.funct3 ≠ 0b111#3) ∨ e.2.opcode = 0b1100111#7 := by decide
  have hi2 : ∀ e ∈ i2TypeInstructionEncodingMap,
      e.2.opcode = 0b0010011#7 ∨ e.2.opcode = 0b0011011#7 := by decide
  have hs : ∀ e ∈ sTypeInstructionEncodingMap, e.2.opcode = 0b0100011#7 := by decide
  have hb : ∀ e ∈ bTypeInstructionEncodingMap,
      e.2.opcode = 0b1100011#7 ∧ e.2.funct3 ≠ 0b010#3 ∧ e.2.funct3 ≠ 0b011#3 := by decide
  have hu : ∀ e ∈ uTypeInstructionEncodingMap,
      e.2.opcode = 0b0110111#7 ∨ e.2.opcode = 0b0010111#7 := by decide
  have hj : ∀ e ∈ jTypeInstructionEncodingMap, e.2.opcode = 0b1101111#7 := by decide
  simp only [isEmittedInteger, Bool.or_eq_true, List.any_eq_true, Bool.and_eq_true, beq_iff_eq]
    at h
  rcases h with (((((⟨e, he, ⟨hop, _⟩, _⟩ | ⟨e, he, hop, hf⟩) | ⟨e, he, ⟨hop, _⟩, _⟩) |
    ⟨e, he, hop, _⟩) | ⟨e, he, hop, hf⟩) | ⟨e, he, hop⟩) | ⟨e, he, hop⟩
  · rcases hr e he with ho | ho <;> simp [hop, ho]
  · rcases hi1 e he with ho | ho | ⟨ho, hne⟩ | ho
    · simp [hop, ho]
    · simp [hop, ho]
    · simp [hop, ho, hf, hne]
    · simp [hop, ho]
  · rcases hi2 e he with ho | ho <;> simp [hop, ho]
  · simp [hop, hs e he]
  · obtain ⟨ho, hne⟩ := hb e he
    simp [hop, ho, hf, hne]
  · rcases hu e he with ho | ho <;> simp [hop, ho]
  · simp [hop, hj e he]

/-- The words of the assembler's integer tables are integer words. -/
theorem isIntegerInstruction_of_isEmittedInteger (h : isEmittedInteger w = true) :
    isIntegerInstruction w = true := by
  obtain ⟨hop, hload, hbranch⟩ := opcode_of_isEmittedInteger h
  unfold isIntegerInstruction
  rcases hop with ho | ho | ho | ho | ho | ho | ho | ho | ho | ho | ho <;>
    simp [ho, hload, hbranch]

end RiscvSim

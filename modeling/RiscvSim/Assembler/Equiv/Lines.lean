import RiscvSim.Assembler.Equiv.DataItems
import RiscvSim.Assembler.Equiv.Emission

/-!
# The lines of the text section

What parsing a line adds to the parser (`Parser.Adds`): an error, or units at
the next indices of the intermediate code.

* **`Parser.lineResult_parseSyntaxes`**: every syntax does one of these or leaves the parser alone.
-/

namespace RiscvSim

open Lib

namespace Parser

variable {cfg : VmConfig} {p p' : Parser} {block : ICUnit}

theorem currentToken_ne_eof (hgo : endsText p.currentToken = false) :
    p.currentToken.type ≠ .eof := by
  intro heof
  simp [endsText, heof] at hgo

/-! ### What a line adds -/

/-- The line loads from a data label, through AUIPC. -/
def LoadsLabel (p : Parser) : Prop :=
  p.currentToken.type = .opcode ∧ (∃ entry ∈ labelLoads, entry.1 = p.currentToken.value) ∧
    p.matchesLine [.gpRegister, .comma, .labelRef] = true ∧
    (p.dataAddress (p.peekToken 3).value).isSome = true

instance (p : Parser) : Decidable p.LoadsLabel :=
  inferInstanceAs (Decidable (_ ∧ _))

/-- The unit has the line of the current token and the next index. -/
structure Describes (p : Parser) (block : ICUnit) : Prop where
  lineNumber : block.lineNumber = p.currentToken.lineNumber
  instructionIndex : block.instructionIndex = some p.instructionIndex

/-- A reference that waits for the end of the parse. -/
def awaitLabel (p : Parser) (block : ICUnit) : Parser :=
  { p with backPatch := p.backPatch ++ [p.instructionIndex] }.emit block false

/-- What parsing a line adds, apart from moving on. -/
inductive Adds (p : Parser) : Parser → Prop where
  | report (line : BitVec 32) (message : String) : Adds p (p.reportError line message)
  | one {block : ICUnit} (h : p.Describes block) : Adds p (p.emit block true)
  | two {first second : ICUnit} (h₁ : p.Describes first)
      (h₂ : (p.emit first true).Describes second) : Adds p ((p.emit first true).emit second true)
  /-- Of the units of a load from a data label the first one has the index of the second. -/
  | load {first second : ICUnit} (h : p.LoadsLabel)
      (hline₁ : first.lineNumber = p.currentToken.lineNumber)
      (hline₂ : second.lineNumber = p.currentToken.lineNumber)
      (hindex : first.instructionIndex = some (p.instructionIndex + 1#32)) :
      Adds p ((p.emit first true).emit second true)
  | await {block : ICUnit} (h : p.Describes block) : Adds p (p.awaitLabel block)

/-- The parser has moved on and added what a line adds. -/
structure ParsesLine (p p' : Parser) : Prop where
  adds : ∃ q, p.Adds q ∧ p' = { q with rest := p'.rest }
  advances : Advances p.rest p'.rest

/-- The answer of a syntax: it does not fit, or the line has been parsed. -/
def LineResult (p : Parser) (r : Bool × Parser) : Prop :=
  r = (false, p) ∨ r.1 = true ∧ p.ParsesLine r.2

theorem lineResult_false (p : Parser) : p.LineResult (false, p) :=
  .inl rfl

/-- The unit of a mnemonic, whatever operands are set. -/
theorem describes_newBlock (p : Parser) : p.Describes p.newBlock :=
  ⟨rfl, rfl⟩

theorem Describes.lineResult (h : p.Describes block) (ht : p.currentToken.type ≠ .eof) :
    p.LineResult (p.acceptLine block) :=
  .inr ⟨rfl, ⟨_, .one h, rfl⟩, advances_skipCurrentLine ht⟩

theorem lineResult_rejectLine (ht : p.currentToken.type ≠ .eof) (n : Nat) (message : String) :
    p.LineResult (p.rejectLine n message) :=
  .inr ⟨rfl, ⟨_, .report _ _, rfl⟩, advances_skipCurrentLine ht⟩

theorem Describes.setImm (h : p.Describes block) (imm : String) : p.Describes (block.setImm imm) :=
  ⟨h.lineNumber, h.instructionIndex⟩

theorem Describes.setLabel (h : p.Describes block) (label : String) :
    p.Describes (block.setLabel label) :=
  ⟨h.lineNumber, h.instructionIndex⟩

theorem Describes.lineResult_reference (h : p.Describes block) (ht : p.currentToken.type ≠ .eof)
    (n : Nat) (low high : Int) : p.LineResult (p.parseLabelReference block n low high) := by
  unfold parseLabelReference
  cases p.textOffset (p.peekToken n).value with
  | none =>
    exact .inr ⟨rfl, ⟨_, .await (h.setLabel _), rfl⟩, advances_skipCurrentLine ht⟩
  | some offset =>
    dsimp only
    split
    · exact ((h.setImm _).setLabel _).lineResult ht
    · exact lineResult_rejectLine ht n _

/-! ### The syntaxes -/

/-- The mnemonics with the syntax of a load from a label. -/
theorem label_load_of_mem (opcode : String) (h : .oGprCDl ∈ syntaxesOf opcode) :
    ∃ entry ∈ labelLoads, entry.1 = opcode := by
  have hall : ∀ entry ∈ instructionSyntaxMap, .oGprCDl ∈ entry.2 →
      ∃ load ∈ labelLoads, load.1 = entry.1 := by
    decide +kernel
  cases hlookup : instructionSyntaxMap.lookup opcode with
  | none =>
    rw [syntaxesOf, hlookup] at h
    cases h
  | some types =>
    rw [syntaxesOf, hlookup] at h
    obtain ⟨before, after, heq, -⟩ := List.lookup_eq_some_iff.mp hlookup
    have hmem : (opcode, types) ∈ instructionSyntaxMap := by
      rw [heq]
      exact List.mem_append_right before List.mem_cons_self
    exact hall _ hmem h

/-- What a syntax may answer. -/
abbrev ParsesAs (p : Parser) (x : Except AssemblerError (Bool × Parser)) : Prop :=
  Ensures p.LineResult x

theorem parsesAs_false : p.ParsesAs (pure (false, p)) :=
  .ok p.lineResult_false

section

variable (ht : p.currentToken.type ≠ .eof)

include ht

theorem parsesAs_parseRegisters (registers : List TokenType) (rm : RmOperand) :
    p.ParsesAs (p.parseRegisters registers rm) := by
  have hfields : ∀ setField ∈ registerFields, ∀ (block : ICUnit) (reg : String),
      p.Describes block → p.Describes (setField block reg) := by
    intro setField hmem block reg h
    simp only [registerFields, List.mem_cons, List.not_mem_nil, or_false] at hmem
    rcases hmem with rfl | rfl | rfl | rfl <;> exact ⟨h.lineNumber, h.instructionIndex⟩
  unfold parseRegisters
  refine .ite (fun _ => ?_) fun _ => parsesAs_false
  refine .bind (P := p.Describes) ?_ fun block hblock => ?_
  · intro block hblock
    refine foldlM_invariant p.Describes ?_ p.describes_newBlock hblock
    rintro block ⟨setField, i⟩ block' hmem h hset
    have hfield : setField ∈ registerFields :=
      List.mem_of_mem_take (List.fst_mem_of_mem_zipIdx hmem)
    exact Ensures.map (hfields setField hfield block · h) block' hset
  · have hrm : ∀ encoding, p.Describes (block.setRm encoding) :=
      fun _ => ⟨hblock.lineNumber, hblock.instructionIndex⟩
    cases rm with
    | absent => exact .ok (hblock.lineResult ht)
    | dynamic => exact .ok ((hrm _).lineResult ht)
    | named => exact .bind (.map hrm) fun _ h => .ok (h.lineResult ht)

theorem parsesAs_parseO : p.ParsesAs p.parseO :=
  .ite (fun _ => .ok (p.describes_newBlock.lineResult ht)) fun _ => parsesAs_false

/-- A line with a unit whose immediate is checked. -/
theorem parsesAs_checked (h : p.Describes block) {c : Prop} [Decidable c] {n : Nat}
    {message : String} :
    p.ParsesAs (if c then pure (p.acceptLine block) else pure (p.rejectLine n message)) :=
  .ite (fun _ => .ok (h.lineResult ht)) fun _ => .ok (lineResult_rejectLine ht n message)

theorem parsesAs_parseOGprCGprCI : p.ParsesAs p.parseOGprCGprCI := by
  unfold parseOGprCGprCI
  refine .ite (fun _ => ?_) fun _ => parsesAs_false
  refine .ite (fun _ => ?_) fun _ => .ite (fun _ => ?_) fun _ =>
    .ok (p.describes_newBlock.lineResult ht)
  · refine .bind_any fun rd => .bind_any fun rs1 => .bind_any fun imm => ?_
    exact .ite (fun _ => parsesAs_checked ht ⟨rfl, rfl⟩) fun _ => parsesAs_checked ht ⟨rfl, rfl⟩
  · refine .bind_any fun rs1 => .bind_any fun rs2 => .bind_any fun imm => ?_
    refine .ite (fun _ => parsesAs_checked ht ⟨rfl, rfl⟩) fun _ => ?_
    exact .ok (lineResult_rejectLine ht _ _)

theorem parsesAs_parseOGprCI : p.ParsesAs p.parseOGprCI := by
  unfold parseOGprCI
  refine .ite (fun _ => ?_) fun _ => parsesAs_false
  refine .ite (fun _ => ?_) fun _ => .ite (fun _ => ?_) fun _ =>
    .ok (p.describes_newBlock.lineResult ht)
  · exact .bind_any fun rd => .bind_any fun imm => parsesAs_checked ht ⟨rfl, rfl⟩
  · refine .bind_any fun rd => .bind_any fun imm => ?_
    refine .ite (fun _ => parsesAs_checked ht ⟨rfl, rfl⟩) fun _ => ?_
    exact .ok (lineResult_rejectLine ht _ _)

theorem parsesAs_parseOGprCGprCIl : p.ParsesAs p.parseOGprCGprCIl := by
  unfold parseOGprCGprCIl
  refine .ite (fun _ => ?_) fun _ => parsesAs_false
  refine .ite (fun _ => ?_) fun _ => .ok (p.describes_newBlock.lineResult ht)
  refine .bind_any fun rs1 => .bind_any fun rs2 => .ok ?_
  exact Describes.lineResult_reference ⟨rfl, rfl⟩ ht _ _ _

theorem parsesAs_parseOGprCIl : p.ParsesAs p.parseOGprCIl := by
  unfold parseOGprCIl
  refine .ite (fun _ => ?_) fun _ => parsesAs_false
  refine .ite (fun _ => ?_) fun _ => .ok (p.describes_newBlock.lineResult ht)
  refine .bind_any fun rd => .ok ?_
  exact Describes.lineResult_reference ⟨rfl, rfl⟩ ht _ _ _

theorem parsesAs_parseOGprCDl (hopcode : p.currentToken.type = .opcode)
    (hname : ∃ entry ∈ labelLoads, entry.1 = p.currentToken.value) :
    p.ParsesAs (p.parseOGprCDl cfg) := by
  unfold parseOGprCDl
  refine .ite (fun hline => ?_) fun _ => parsesAs_false
  refine .bind_any fun reg => ?_
  cases haddress : p.dataAddress (p.peekToken 3).value with
  | none => exact .ok (lineResult_rejectLine ht _ _)
  | some address =>
    have hloads : p.LoadsLabel := ⟨hopcode, hname, hline, by rw [haddress]; rfl⟩
    exact .ok (.inr ⟨rfl, ⟨_, .load hloads rfl rfl rfl, rfl⟩, advances_skipCurrentLine ht⟩)

/-- The two halves of a line with an operand in memory. -/
theorem parsesAs_access (hset : ∀ imm rs1, p.Describes ((block.setImm imm).setRs1 rs1)) :
    p.ParsesAs (do
      let imm ← p.numberAt 3
      if -2048 ≤ imm ∧ imm ≤ 2047 then do
        let rs1 ← p.regName 5
        pure (p.acceptLine ((block.setImm (toText imm)).setRs1 rs1))
      else pure (p.rejectLine 3 "Immediate value out of range")) := by
  refine .bind_any fun imm => .ite (fun _ => ?_) fun _ => .ok (lineResult_rejectLine ht _ _)
  exact .bind_any fun rs1 => .ok ((hset _ _).lineResult ht)

theorem parsesAs_parseOGprCILpGprRp : p.ParsesAs p.parseOGprCILpGprRp := by
  unfold parseOGprCILpGprRp
  refine .ite (fun _ => ?_) fun _ => parsesAs_false
  refine .ite (fun _ => ?_) fun _ => .ite (fun _ => ?_) fun _ =>
    .ok (p.describes_newBlock.lineResult ht)
  · exact .bind_any fun rd => parsesAs_access ht fun _ _ => ⟨rfl, rfl⟩
  · exact .bind_any fun rs2 => parsesAs_access ht fun _ _ => ⟨rfl, rfl⟩

theorem parsesAs_parseOFprCILpGprRp : p.ParsesAs p.parseOFprCILpGprRp := by
  unfold parseOFprCILpGprRp
  refine .ite (fun _ => ?_) fun _ => parsesAs_false
  refine .ite (fun _ => ?_) fun _ => .ite (fun _ => ?_) fun _ =>
    .ok (p.describes_newBlock.lineResult ht)
  · exact .bind_any fun rd => parsesAs_access ht fun _ _ => ⟨rfl, rfl⟩
  · exact .bind_any fun rs2 => parsesAs_access ht fun _ _ => ⟨rfl, rfl⟩

theorem parsesAs_parseOGprCCsrCGpr : p.ParsesAs p.parseOGprCCsrCGpr := by
  unfold parseOGprCCsrCGpr
  refine .ite (fun _ => ?_) fun _ => parsesAs_false
  refine .bind_any fun rd => .bind_any fun csr => .bind_any fun rs1 => ?_
  exact .ok (Describes.lineResult ⟨rfl, rfl⟩ ht)

theorem parsesAs_parseOGprCCsrCI : p.ParsesAs p.parseOGprCCsrCI := by
  unfold parseOGprCCsrCI
  refine .ite (fun _ => ?_) fun _ => parsesAs_false
  exact .bind_any fun rd => .bind_any fun csr => .bind_any fun imm => parsesAs_checked ht ⟨rfl, rfl⟩

/-- The end of a pseudo instruction of one unit. -/
theorem Describes.parsesAs_emit (h : p.Describes block) :
    p.ParsesAs (pure (true, (p.emit block true).skipCurrentLine)) :=
  .ok (.inr ⟨rfl, ⟨_, .one h, rfl⟩, advances_skipCurrentLine ht⟩)

/-- The end of one alone on its line. -/
theorem Describes.parsesAs_emit_nextToken (h : p.Describes block) :
    p.ParsesAs (pure (true, (p.emit block true).nextToken)) :=
  .ok (.inr ⟨rfl, ⟨_, .one h, rfl⟩, advances_nextToken ht⟩)

theorem parsesAs_parseLa : p.ParsesAs (p.parseLa cfg) := by
  unfold parseLa
  refine .ite (fun _ => ?_) fun _ => parsesAs_false
  refine .bind_any fun reg => ?_
  cases p.dataAddress (p.peekToken 3).value with
  | none => exact .ok (.inr ⟨rfl, ⟨_, .report _ _, rfl⟩, advances_skipCurrentLine ht⟩)
  | some address =>
    exact .ok (.inr ⟨rfl, ⟨_, .two ⟨rfl, rfl⟩ ⟨rfl, rfl⟩, rfl⟩, advances_skipCurrentLine ht⟩)

theorem parsesAs_parseLi : p.ParsesAs p.parseLi := by
  unfold parseLi
  refine .ite (fun _ => ?_) fun _ => parsesAs_false
  refine .bind_any fun imm => .bind_any fun reg => ?_
  refine .ite (fun _ => Describes.parsesAs_emit ht ⟨rfl, rfl⟩) fun _ => ?_
  refine .ite (fun _ => ?_) fun _ => ?_
  · refine .ite (fun _ => ?_) fun _ => Describes.parsesAs_emit ht ⟨rfl, rfl⟩
    exact .ok (.inr ⟨rfl, ⟨_, .two ⟨rfl, rfl⟩ ⟨rfl, rfl⟩, rfl⟩, advances_skipCurrentLine ht⟩)
  · exact .ok (.inr ⟨rfl, ⟨_, .report _ _, rfl⟩, advances_skipCurrentLine ht⟩)

theorem parsesAs_parsePseudo : p.ParsesAs (p.parsePseudo cfg) := by
  unfold parsePseudo
  refine .ite (fun _ => parsesAs_parseLa ht) fun _ => ?_
  refine .ite (fun _ => ?_) fun _ => ?_
  · exact .ite (fun _ => Describes.parsesAs_emit_nextToken ht ⟨rfl, rfl⟩) fun _ => parsesAs_false
  refine .ite (fun _ => parsesAs_parseLi ht) fun _ => ?_
  refine .ite (fun _ => ?_) fun _ => ?_
  · refine .ite (fun _ => ?_) fun _ => parsesAs_false
    exact .bind_any fun rd => .bind_any fun rs1 => Describes.parsesAs_emit ht ⟨rfl, rfl⟩
  refine .ite (fun _ => ?_) fun _ => ?_
  · refine .ite (fun _ => ?_) fun _ => parsesAs_false
    exact .bind_any fun rd => .bind_any fun rs1 => Describes.parsesAs_emit ht ⟨rfl, rfl⟩
  refine .ite (fun _ => ?_) fun _ => parsesAs_false
  exact .ite (fun _ => Describes.parsesAs_emit_nextToken ht ⟨rfl, rfl⟩) fun _ => parsesAs_false

theorem parsesAs_parseSyntax (hopcode : p.currentToken.type = .opcode) {type : SyntaxType}
    (hname : type = .oGprCDl → ∃ entry ∈ labelLoads, entry.1 = p.currentToken.value) :
    p.ParsesAs (p.parseSyntax cfg type) := by
  cases type with
  | oGprCGprCI => exact parsesAs_parseOGprCGprCI ht
  | oGprCGprCIl => exact parsesAs_parseOGprCGprCIl ht
  | oGprCILpGprRp => exact parsesAs_parseOGprCILpGprRp ht
  | oGprCI => exact parsesAs_parseOGprCI ht
  | oGprCIl => exact parsesAs_parseOGprCIl ht
  | oGprCDl => exact parsesAs_parseOGprCDl ht hopcode (hname rfl)
  | oGprCGprCDl => exact parsesAs_false
  | o => exact parsesAs_parseO ht
  | pseudo => exact parsesAs_parsePseudo ht
  | oGprCCsrCGpr => exact parsesAs_parseOGprCCsrCGpr ht
  | oGprCCsrCI => exact parsesAs_parseOGprCCsrCI ht
  | oFprCILpGprRp => exact parsesAs_parseOFprCILpGprRp ht
  | _ => exact parsesAs_parseRegisters ht _ _

theorem parsesAs_parseSyntaxes (hopcode : p.currentToken.type = .opcode) :
    ∀ {types : List SyntaxType},
      (.oGprCDl ∈ types → ∃ entry ∈ labelLoads, entry.1 = p.currentToken.value) →
      p.ParsesAs (parseSyntaxes cfg types p) := by
  intro types
  induction types with
  | nil => exact fun _ => parsesAs_false
  | cons type types ih =>
    intro hname
    have hfirst : p.ParsesAs (p.parseSyntax cfg type) :=
      parsesAs_parseSyntax ht hopcode fun h => hname (h ▸ List.mem_cons_self)
    refine .bind hfirst ?_
    rintro ⟨valid, p₁⟩ (h | ⟨rfl, h⟩)
    · cases h
      exact ih fun h => hname (List.mem_cons_of_mem type h)
    · exact .ok (.inr ⟨rfl, h⟩)

theorem ensures_parseInstruction (hopcode : p.currentToken.type = .opcode) :
    Ensures p.ParsesLine (p.parseInstruction cfg) := by
  have hrejected : ∀ line message, p.ParsesLine (p.reportError line message).skipCurrentLine :=
    fun _ _ => ⟨⟨_, .report _ _, rfl⟩, advances_skipCurrentLine ht⟩
  have hname : .oGprCDl ∈ syntaxesOf p.currentToken.value →
      ∃ entry ∈ labelLoads, entry.1 = p.currentToken.value := by
    intro hmem
    exact label_load_of_mem _ hmem
  unfold parseInstruction
  cases disabledExtension cfg p.currentToken.value with
  | some extension => exact .ok (hrejected _ _)
  | none =>
    refine .bind (parsesAs_parseSyntaxes ht hopcode hname) ?_
    rintro ⟨valid, p₁⟩ (h | ⟨rfl, h⟩)
    · cases h
      exact .ok (hrejected _ _)
    · exact .ok h

/-- **A round of the text section** defines a label or parses a line. -/
theorem ensures_parseTextItem :
    Ensures (fun p' => p.currentToken.type = .label ∧ p' = p.parseTextLabel ∨
        p.currentToken.type ≠ .label ∧ p.ParsesLine p')
      (p.parseTextItem cfg) := by
  unfold parseTextItem
  refine .ite (fun hlabel => .ok (.inl ⟨hlabel, rfl⟩)) fun hlabel => ?_
  refine .ite (fun hopcode => ?_) fun _ => ?_
  · exact (ensures_parseInstruction ht hopcode).imp fun _ h => .inr ⟨hlabel, h⟩
  · exact .ok (.inr ⟨hlabel, ⟨_, .report _ _, rfl⟩, advances_skipCurrentLine ht⟩)

end

end Parser

end RiscvSim

import RiscvSim.Assembler.Equiv.Bookkeeping
import RiscvSim.Assembler.Equiv.Failures
import RiscvSim.Assembler.Equiv.Lexer
import RiscvSim.Assembler.Equiv.Units

/-!
# The units of a line

The tokens of the lexer are `Token.Readable`: the parser can use their values.  A
line of such tokens appends units that the code generator can encode, except for
FENCE, which has a syntax and no encoding, and for branches and jumps that wait
for their labels.

* **`Parser.fitting_parseSyntaxes`**: so does every syntax of every mnemonic.
-/

namespace RiscvSim

open Lib

/-- The value of the token is one of its type. -/
structure Token.Readable (token : Token) : Prop where
  gpRegister : token.type = .gpRegister → isValidGeneralPurposeRegister token.value = true
  fpRegister : token.type = .fpRegister → isValidFloatingPointRegister token.value = true
  csrRegister : token.type = .csrRegister → isValidCsr token.value = true
  rm : token.type = .rm → isValidRoundingMode token.value = true
  opcode : token.type = .opcode → isValidInstruction token.value = true
  num : token.type = .num → ∃ n : Int, -2 ^ 63 ≤ n ∧ n < 2 ^ 63 ∧ token.value.toList = toDecimal n

theorem Token.readable_eof : Token.eof.Readable :=
  ⟨nofun, nofun, nofun, nofun, nofun, nofun⟩

theorem valid_of_identifierType (before : List Token) (value : String) :
    (Lexer.identifierType before value = .gpRegister → isValidGeneralPurposeRegister value = true) ∧
    (Lexer.identifierType before value = .fpRegister → isValidFloatingPointRegister value = true) ∧
    (Lexer.identifierType before value = .csrRegister → isValidCsr value = true) ∧
    (Lexer.identifierType before value = .rm → isValidRoundingMode value = true) ∧
    (Lexer.identifierType before value = .opcode → isValidInstruction value = true) := by
  unfold Lexer.identifierType
  split
  · exact ⟨nofun, nofun, nofun, nofun, fun _ => ‹_›⟩
  split
  · exact ⟨fun _ => ‹_›, nofun, nofun, nofun, nofun⟩
  split
  · exact ⟨nofun, fun _ => ‹_›, nofun, nofun, nofun⟩
  split
  · exact ⟨nofun, nofun, fun _ => ‹_›, nofun, nofun⟩
  split
  · exact ⟨nofun, nofun, nofun, fun _ => ‹_›, nofun⟩
  split
  · exact ⟨nofun, nofun, nofun, nofun, nofun⟩
  · exact ⟨nofun, nofun, nofun, nofun, nofun⟩

/-- The tokens of the lexer are readable. -/
theorem Token.WellFormed.readable {fixed : BitVec 64 → String} {before : List Token}
    {token : Token} (h : token.WellFormed fixed before) : token.Readable := by
  obtain ⟨hgpr, hfpr, hcsr, hrm, hopcode⟩ := valid_of_identifierType before token.value
  unfold Token.WellFormed at h
  refine ⟨fun ht => ?_, fun ht => ?_, fun ht => ?_, fun ht => ?_, fun ht => ?_, fun ht => ?_⟩
  all_goals rw [ht] at h
  · exact hgpr h.2
  · exact hfpr h.2
  · exact hcsr h.2
  · exact hrm h.2
  · exact hopcode h.2
  · exact h

/-! ### Mnemonics and their classes -/

/-- The mnemonics that have a syntax and no encoding. -/
def fences : List String :=
  ["fence", "fence_i"]

/-- The registers that a class reads are among the first `n` fields. -/
def UnitClass.ReadsFields (c : UnitClass) (n : Nat) : Bool :=
  c.range.isNone && (!c.rd || decide (1 ≤ n)) && (!c.rs1 || decide (2 ≤ n)) &&
    (!c.rs2 || decide (3 ≤ n)) && (!c.rs3 || decide (4 ≤ n))

/-- The mnemonic belongs to a class whose operands a line of `n` registers has. -/
def readsRegisters (opcode : String) (n : Nat) : Bool :=
  unitClasses.any fun c => c.mnemonics.contains opcode && c.ReadsFields n

/-- A mnemonic with the given syntax belongs to a class whose operands the syntax has. -/
def syntaxFits (opcode : String) : SyntaxType → Bool
  | .oGprCGprCI =>
    if isValidITypeInstruction opcode then
      isValidI2TypeInstruction opcode || isValidI1TypeInstruction opcode
    else isValidBTypeInstruction opcode
  | .oGprCI => isValidUTypeInstruction opcode || isValidJTypeInstruction opcode
  | .oGprCGprCIl => isValidBTypeInstruction opcode
  | .oGprCIl => isValidJTypeInstruction opcode
  | .oGprCDl => (labelLoads.map (·.1)).contains opcode
  | .oGprCILpGprRp =>
    if isValidITypeInstruction opcode then isValidI1TypeInstruction opcode
    else isValidSTypeInstruction opcode
  | .oFprCILpGprRp => isValidFdITypeInstruction opcode || isValidFdSTypeInstruction opcode
  | .o => isValidI3TypeInstruction opcode || fences.contains opcode
  | .oGprCCsrCGpr => isValidCsrRTypeInstruction opcode
  | .oGprCCsrCI => isValidCsrITypeInstruction opcode
  | .pseudo => true
  | .oGprCGprCDl => true
  | .oGprCGprCGpr => readsRegisters opcode 3
  | .oFprCFprCFprCFpr => readsRegisters opcode 4
  | .oFprCFprCFprCFprCRm => readsRegisters opcode 4
  | .oFprCFprCFpr => readsRegisters opcode 3
  | .oFprCFprCFprCRm => readsRegisters opcode 3
  | .oFprCFpr => readsRegisters opcode 2
  | .oFprCFprCRm => readsRegisters opcode 2
  | .oFprCGpr => readsRegisters opcode 2
  | .oFprCGprCRm => readsRegisters opcode 2
  | .oGprCFpr => readsRegisters opcode 2
  | .oGprCFprCRm => readsRegisters opcode 2
  | .oGprCFprCFpr => readsRegisters opcode 3

/-- The table of syntaxes agrees with the classes of the code generator. -/
theorem syntaxFits_of_mem {opcode : String} {type : SyntaxType} (h : type ∈ syntaxesOf opcode) :
    syntaxFits opcode type = true := by
  have hall : ∀ entry ∈ instructionSyntaxMap, entry.2.all (syntaxFits entry.1) = true := by
    decide +kernel
  unfold syntaxesOf at h
  cases hlookup : instructionSyntaxMap.lookup opcode with
  | none =>
    rw [hlookup] at h
    cases h
  | some types =>
    rw [hlookup] at h
    obtain ⟨before, after, heq, -⟩ := List.lookup_eq_some_iff.mp hlookup
    have hmem : (opcode, types) ∈ instructionSyntaxMap := by
      rw [heq]
      exact List.mem_append_right before List.mem_cons_self
    exact List.all_eq_true.mp (hall _ hmem) type h

theorem truncated_of_isValidInstruction {opcode : String} (h : isValidInstruction opcode = true) :
    truncated 20 opcode = opcode := by
  have hall : ∀ opcode ∈ validInstructions, truncated 20 opcode = opcode := by
    decide +kernel
  exact hall opcode (List.contains_iff_mem.mp h)

/-! ### Units -/

theorem mem_unitClasses_of_getElem? {c : UnitClass} (i : Nat) (h : unitClasses[i]? = some c) :
    c ∈ unitClasses :=
  List.mem_of_getElem? h

/-- A unit with a word, or a FENCE. -/
def Encodable (block : ICUnit) : Prop :=
  (∃ c ∈ unitClasses, c.Fits block) ∨ block.opcode ∈ fences

/-- A branch or a jump that waits for its offset. -/
def Awaits (block : ICUnit) : Prop :=
  UnitClass.bType.HasRegisters block ∨ UnitClass.jType.HasRegisters block

/-- A unit of the intermediate code with its mark. -/
def UnitFits (unit : ICUnit × Bool) : Prop :=
  if unit.2 then Encodable unit.1 else Awaits unit.1

theorem UnitClass.HasRegisters.setImm {c : UnitClass} {block : ICUnit} (h : c.HasRegisters block)
    (imm : String) : c.HasRegisters (block.setImm imm) :=
  ⟨h.mnemonic, h.rd, h.rs1, h.rs2, h.rs3⟩

theorem UnitClass.HasRegisters.setLabel {c : UnitClass} {block : ICUnit} (h : c.HasRegisters block)
    (label : String) : c.HasRegisters (block.setLabel label) :=
  ⟨h.mnemonic, h.rd, h.rs1, h.rs2, h.rs3⟩

theorem Encodable.setLabel {block : ICUnit} (h : Encodable block) (label : String) :
    Encodable (block.setLabel label) := by
  rcases h with ⟨c, hc, hfits⟩ | hfence
  · exact .inl ⟨c, hc, hfits.toHasRegisters.setLabel label, hfits.imm⟩
  · exact .inr hfence

theorem encodable_setRm {block : ICUnit} (h : Encodable block) (rm : BitVec 8) :
    Encodable (block.setRm rm) := by
  rcases h with ⟨c, hc, hfits⟩ | hfence
  · exact .inl ⟨c, hc, ⟨hfits.mnemonic, hfits.rd, hfits.rs1, hfits.rs2, hfits.rs3⟩, hfits.imm⟩
  · exact .inr hfence

/-- A unit whose immediate has been printed. -/
theorem UnitClass.HasRegisters.encodable_setImm {c : UnitClass} {block : ICUnit}
    (h : c.HasRegisters block) (hc : c ∈ unitClasses) {low high imm : Int}
    (hrange : c.range = some (low, high)) (hlow : low ≤ imm) (hhigh : imm ≤ high)
    (h32 : -2 ^ 31 ≤ low ∧ high < 2 ^ 31) : Encodable (block.setImm (toText imm)) := by
  refine .inl ⟨c, hc, h.setImm _, fun range hrange' => ?_⟩
  obtain rfl := Option.some.inj (hrange.symm.trans hrange')
  exact ⟨imm, hlow, hhigh, immediateOf_truncated_toText (by omega) (by omega)⟩

theorem UnitClass.HasRegisters.encodable {c : UnitClass} {block : ICUnit}
    (h : c.HasRegisters block) (hc : c ∈ unitClasses) (hrange : c.range = none) :
    Encodable block := by
  refine .inl ⟨c, hc, h, fun range hrange' => ?_⟩
  cases hrange.symm.trans hrange'

namespace Parser

variable {cfg : VmConfig} {p p' : Parser} {block : ICUnit}

/-! ### Operands -/

/-- Every token ahead is readable. -/
def Readable (p : Parser) : Prop :=
  ∀ token ∈ p.rest, token.Readable

theorem Readable.peekToken (h : p.Readable) (n : Nat) : (p.peekToken n).Readable := by
  unfold Parser.peekToken
  rw [List.getD_eq_getElem?_getD]
  cases hget : p.rest[n]? with
  | none => exact Token.readable_eof
  | some token => exact h token (List.mem_of_getElem? hget)

theorem Readable.currentToken (h : p.Readable) : p.currentToken.Readable := by
  have hpeek := h.peekToken 0
  have heq : p.peekToken 0 = p.currentToken := by
    unfold Parser.peekToken Parser.currentToken
    cases p.rest <;> rfl
  rwa [heq] at hpeek

theorem hasRegister_of_lookup {reg name : String} (h : lookupAt regAliasToName reg = .ok name)
    (hvalid : isValidGeneralPurposeRegister reg = true ∨
      isValidFloatingPointRegister reg = true) : HasRegister (truncated 5 name) := by
  rcases hvalid with hvalid | hvalid
  · obtain ⟨rd, hrd⟩ := exists_registerNumber hvalid
    obtain ⟨name', hname', hindex⟩ := bind_eq_ok.mp hrd
    obtain rfl := Except.ok.inj (h.symm.trans hname')
    exact ⟨rd, hindex⟩
  · have hall : validFloatingPointRegisters.all (fun reg =>
        (regAliasToName.lookup reg).all fun name =>
          (extractRegisterIndex (truncated 5 name)).toOption.any fun n => decide (n.toNat < 32)) =
        true := by
      decide +kernel
    have hreg := List.all_eq_true.mp hall reg (List.contains_iff_mem.mp hvalid)
    have hlookup : regAliasToName.lookup reg = some name := by
      unfold lookupAt at h
      split at h
      · rename_i name' hname'
        rw [hname', Except.ok.inj h]
      · cases h
    rw [hlookup, Option.all_some] at hreg
    cases hindex : extractRegisterIndex (truncated 5 name) with
    | error e =>
      rw [hindex] at hreg
      cases hreg
    | ok n =>
      rw [hindex] at hreg
      have hlt : n.toNat < 2 ^ 5 := of_decide_eq_true hreg
      refine ⟨n.setWidth 5, hindex.trans (congrArg Except.ok ?_)⟩
      apply BitVec.eq_of_toNat_eq
      rw [BitVec.toNat_setWidth, BitVec.toNat_setWidth, Nat.mod_eq_of_lt hlt,
        Nat.mod_eq_of_lt n.isLt]

/-- A register of the line is one the code generator can encode. -/
theorem Readable.ensures_regName (h : p.Readable) {n : Nat}
    (htype : (p.peekToken n).type = .gpRegister ∨ (p.peekToken n).type = .fpRegister) :
    Ensures (fun reg => HasRegister (truncated 5 reg)) (p.regName n) := by
  intro reg hreg
  refine hasRegister_of_lookup hreg ?_
  exact htype.imp (h.peekToken n).gpRegister (h.peekToken n).fpRegister

/-! ### Lines -/

/-- The line has appended units that fit. -/
def FitsLine (p : Parser) (r : Bool × Parser) : Prop :=
  ∃ units, r.2.intermediateCode = p.intermediateCode ++ units ∧ ∀ unit ∈ units, UnitFits unit

theorem fitsLine_of_eq {r : Bool × Parser} (h : r.2.intermediateCode = p.intermediateCode) :
    p.FitsLine r :=
  ⟨[], h.trans (List.append_nil _).symm, by simp⟩

theorem fitsLine_false (p : Parser) : p.FitsLine (false, p) :=
  fitsLine_of_eq rfl

theorem fitsLine_rejectLine (p : Parser) (n : Nat) (message : String) :
    p.FitsLine (p.rejectLine n message) :=
  fitsLine_of_eq rfl

theorem fitsLine_one {r : Bool × Parser} (unit : ICUnit × Bool)
    (h : r.2.intermediateCode = p.intermediateCode ++ [unit]) (hunit : UnitFits unit) :
    p.FitsLine r :=
  ⟨[unit], h, by simpa using hunit⟩

theorem fitsLine_two {r : Bool × Parser} {first second : ICUnit × Bool}
    (h : r.2.intermediateCode = p.intermediateCode ++ [first] ++ [second])
    (hfirst : UnitFits first) (hsecond : UnitFits second) : p.FitsLine r :=
  ⟨[first, second], h.trans (List.append_assoc _ _ _), by simpa using ⟨hfirst, hsecond⟩⟩

theorem fitsLine_acceptLine (h : Encodable block) : p.FitsLine (p.acceptLine block) :=
  fitsLine_one (block, true) rfl h

/-- What a syntax may answer. -/
abbrev Fitting (p : Parser) (x : Except AssemblerError (Bool × Parser)) : Prop :=
  Ensures p.FitsLine x

theorem fitting_false : p.Fitting (pure (false, p)) :=
  .ok p.fitsLine_false

theorem fitting_reject (n : Nat) (message : String) : p.Fitting (pure (p.rejectLine n message)) :=
  .ok (p.fitsLine_rejectLine n message)

/-- A line with a unit whose immediate is checked. -/
theorem fitting_checked {c : UnitClass} (hc : c ∈ unitClasses) (hblock : c.HasRegisters block)
    {low high imm : Int} (hrange : c.range = some (low, high))
    (h32 : -2 ^ 31 ≤ low ∧ high < 2 ^ 31) {n : Nat} {message : String} :
    p.Fitting (if low ≤ imm ∧ imm ≤ high then pure (p.acceptLine (block.setImm (toText imm)))
      else pure (p.rejectLine n message)) :=
  .ite (fun h => .ok (fitsLine_acceptLine (hblock.encodable_setImm hc hrange h.1 h.2 h32)))
    fun _ => fitting_reject n message

theorem fitsLine_parseLabelReference {c : UnitClass} (hc : c ∈ unitClasses)
    (hawaits : ∀ block, c.HasRegisters block → Awaits block)
    (hblock : c.HasRegisters block) {n : Nat} {low high : Int} (hrange : c.range = some (low, high))
    (h32 : -2 ^ 31 ≤ low ∧ high < 2 ^ 31) : p.FitsLine (p.parseLabelReference block n low high) := by
  unfold parseLabelReference
  cases p.textOffset (p.peekToken n).value with
  | none =>
    exact fitsLine_one (block.setLabel (p.peekToken n).value, false) rfl
      (hawaits _ (hblock.setLabel _))
  | some offset =>
    dsimp only
    split
    · rename_i hoffset
      refine fitsLine_acceptLine ?_
      exact (hblock.encodable_setImm hc hrange hoffset.1 hoffset.2 h32).setLabel _
    · exact p.fitsLine_rejectLine n _

/-! ### Addresses -/

theorem auipc_mem (block : ICUnit) {reg : String} (hreg : HasRegister (truncated 5 reg)) :
    UnitClass.uType.HasRegisters ((block.setOpcode "auipc").setRd reg) := by
  have hmem : truncated 20 "auipc" ∈ uTypeInstructions := by
    decide +kernel
  exact ⟨hmem, fun _ => hreg, nofun, nofun, nofun⟩

theorem lui_mem {reg : String} (hreg : HasRegister (truncated 5 reg)) :
    UnitClass.uType.HasRegisters ((block.setOpcode "lui").setRd reg) := by
  have hmem : truncated 20 "lui" ∈ uTypeInstructions := by
    decide +kernel
  exact ⟨hmem, fun _ => hreg, nofun, nofun, nofun⟩

theorem addi_mem {rd rs1 : String} (hrd : HasRegister (truncated 5 rd))
    (hrs1 : HasRegister (truncated 5 rs1)) :
    UnitClass.i1Type.HasRegisters (((block.setOpcode "addi").setRd rd).setRs1 rs1) := by
  have hmem : truncated 20 "addi" ∈ i1TypeInstructions := by
    decide +kernel
  exact ⟨hmem, fun _ => hrd, fun _ => hrs1, nofun, nofun⟩

theorem hasRegister_x0 : HasRegister (truncated 5 "x0") :=
  ⟨0#5, by decide +kernel⟩

theorem hasRegister_x1 : HasRegister (truncated 5 "x1") :=
  ⟨1#5, by decide +kernel⟩

/-- The upper part of an address may be any number of 32 bits. -/
theorem encodable_upper (hblock : UnitClass.uType.HasRegisters block) (part : BitVec 32) :
    Encodable (block.setImm (toText part.toInt)) := by
  have hlow := part.le_toInt
  have hhigh := part.toInt_lt
  exact hblock.encodable_setImm (mem_unitClasses_of_getElem? 6 rfl) rfl (by omega) (by omega)
    (by omega)

theorem encodable_lower (hblock : UnitClass.i1Type.HasRegisters block) (x : BitVec 64) :
    Encodable (block.setImm (toText (Rv64i.lowerPart x).toInt)) := by
  obtain ⟨hlow, hhigh⟩ := Rv64i.toInt_lowerPart_bounds x
  exact hblock.encodable_setImm (mem_unitClasses_of_getElem? 1 rfl) rfl hlow hhigh (by omega)

/-! ### Syntaxes -/

section

variable (hreadable : p.Readable) (hopcode : p.currentToken.type = .opcode)

include hreadable

theorem ensures_gpr {types : List TokenType} {n : Nat} (hline : p.matchesLine types = true)
    (htype : types[n]? = some .gpRegister) :
    Ensures (fun reg => HasRegister (truncated 5 reg)) (p.regName (n + 1)) :=
  hreadable.ensures_regName (.inl (type_of_matchesLine hline htype).1)

theorem ensures_fpr {types : List TokenType} {n : Nat} (hline : p.matchesLine types = true)
    (htype : types[n]? = some .fpRegister) :
    Ensures (fun reg => HasRegister (truncated 5 reg)) (p.regName (n + 1)) :=
  hreadable.ensures_regName (.inr (type_of_matchesLine hline htype).1)

include hopcode

theorem opcode_newBlock : p.newBlock.opcode = p.currentToken.value :=
  truncated_of_isValidInstruction (hreadable.currentToken.opcode hopcode)

/-- The unit of a mnemonic of a class, before its operands. -/
theorem mem_newBlock {mnemonics : List String}
    (h : mnemonics.contains p.currentToken.value = true) : p.newBlock.opcode ∈ mnemonics := by
  rw [opcode_newBlock hreadable hopcode]
  exact List.contains_iff_mem.mp h

theorem fitting_parseO (hfits : syntaxFits p.currentToken.value .o = true) :
    p.Fitting p.parseO := by
  unfold parseO
  refine .ite (fun _ => .ok (fitsLine_acceptLine ?_)) fun _ => fitting_false
  rcases Bool.or_eq_true_iff.mp hfits with h | h
  · have hmem : p.newBlock.opcode ∈ i3TypeInstructions := mem_newBlock hreadable hopcode h
    have hblock : UnitClass.i3Type.HasRegisters p.newBlock := ⟨hmem, nofun, nofun, nofun, nofun⟩
    exact hblock.encodable (mem_unitClasses_of_getElem? 3 rfl) rfl
  · exact .inr (mem_newBlock hreadable hopcode h)

theorem fitting_parseOGprCGprCI (hfits : syntaxFits p.currentToken.value .oGprCGprCI = true) :
    p.Fitting p.parseOGprCGprCI := by
  have hvalue := opcode_newBlock hreadable hopcode
  unfold syntaxFits at hfits
  rw [← hvalue] at hfits
  unfold parseOGprCGprCI
  refine .ite (fun hline => ?_) fun _ => fitting_false
  refine .ite (fun hi => ?_) fun hi => .ite (fun hb => ?_) fun hb => ?_
  · rw [if_pos hi] at hfits
    refine .bind (ensures_gpr hreadable hline rfl) fun rd hrd => ?_
    refine .bind (ensures_gpr hreadable hline rfl) fun rs1 hrs1 => .bind_any fun imm => ?_
    refine .ite (fun hi2 => ?_) fun hi2 => ?_
    · have hmem : p.newBlock.opcode ∈ i2TypeInstructions := List.contains_iff_mem.mp hi2
      have hblock : UnitClass.i2Type.HasRegisters ((p.newBlock.setRd rd).setRs1 rs1) :=
        ⟨hmem, fun _ => hrd, fun _ => hrs1, nofun, nofun⟩
      exact fitting_checked (mem_unitClasses_of_getElem? 2 rfl) hblock rfl (by omega)
    · have hi1 : isValidI1TypeInstruction p.newBlock.opcode = true :=
        (Bool.or_eq_true_iff.mp hfits).resolve_left hi2
      have hmem : p.newBlock.opcode ∈ i1TypeInstructions := List.contains_iff_mem.mp hi1
      have hblock : UnitClass.i1Type.HasRegisters ((p.newBlock.setRd rd).setRs1 rs1) :=
        ⟨hmem, fun _ => hrd, fun _ => hrs1, nofun, nofun⟩
      exact fitting_checked (mem_unitClasses_of_getElem? 1 rfl) hblock rfl (by omega)
  · have hmem : p.newBlock.opcode ∈ bTypeInstructions := List.contains_iff_mem.mp hb
    refine .bind (ensures_gpr hreadable hline rfl) fun rs1 hrs1 => ?_
    refine .bind (ensures_gpr hreadable hline rfl) fun rs2 hrs2 => .bind_any fun imm => ?_
    have hblock : UnitClass.bType.HasRegisters ((p.newBlock.setRs1 rs1).setRs2 rs2) :=
      ⟨hmem, nofun, fun _ => hrs1, fun _ => hrs2, nofun⟩
    refine .ite (fun himm => ?_) fun _ => fitting_reject _ _
    refine .ite (fun _ => .ok (fitsLine_acceptLine ?_)) fun _ => fitting_reject _ _
    exact hblock.encodable_setImm (mem_unitClasses_of_getElem? 5 rfl) rfl himm.1 himm.2 (by omega)
  · rw [if_neg hi] at hfits
    exact absurd hfits hb

theorem fitting_parseOGprCI (hfits : syntaxFits p.currentToken.value .oGprCI = true) :
    p.Fitting p.parseOGprCI := by
  have hvalue := opcode_newBlock hreadable hopcode
  unfold syntaxFits at hfits
  rw [← hvalue] at hfits
  unfold parseOGprCI
  refine .ite (fun hline => ?_) fun _ => fitting_false
  refine .ite (fun hu => ?_) fun hu => .ite (fun hj => ?_) fun hj => ?_
  · have hmem : p.newBlock.opcode ∈ uTypeInstructions := List.contains_iff_mem.mp hu
    refine .bind (ensures_gpr hreadable hline rfl) fun rd hrd => .bind_any fun imm => ?_
    have hblock : UnitClass.uType.HasRegisters (p.newBlock.setRd rd) :=
      ⟨hmem, fun _ => hrd, nofun, nofun, nofun⟩
    refine .ite (fun himm => .ok (fitsLine_acceptLine ?_)) fun _ => fitting_reject _ _
    exact hblock.encodable_setImm (mem_unitClasses_of_getElem? 6 rfl) rfl (by omega) (by omega)
      (by omega)
  · have hmem : p.newBlock.opcode ∈ jTypeInstructions := List.contains_iff_mem.mp hj
    refine .bind (ensures_gpr hreadable hline rfl) fun rd hrd => .bind_any fun imm => ?_
    have hblock : UnitClass.jType.HasRegisters (p.newBlock.setRd rd) :=
      ⟨hmem, fun _ => hrd, nofun, nofun, nofun⟩
    refine .ite (fun himm => ?_) fun _ => fitting_reject _ _
    refine .ite (fun _ => .ok (fitsLine_acceptLine ?_)) fun _ => fitting_reject _ _
    exact hblock.encodable_setImm (mem_unitClasses_of_getElem? 7 rfl) rfl himm.1 himm.2 (by omega)
  · exact absurd ((Bool.or_eq_true_iff.mp hfits).resolve_left hu) hj

theorem fitting_parseOGprCGprCIl (hfits : syntaxFits p.currentToken.value .oGprCGprCIl = true) :
    p.Fitting p.parseOGprCGprCIl := by
  have hvalue := opcode_newBlock hreadable hopcode
  unfold syntaxFits at hfits
  rw [← hvalue] at hfits
  unfold parseOGprCGprCIl
  refine .ite (fun hline => .ite (fun hb => ?_) fun hb => absurd hfits hb) fun _ => fitting_false
  have hmem : p.newBlock.opcode ∈ bTypeInstructions := List.contains_iff_mem.mp hb
  refine .bind (ensures_gpr hreadable hline rfl) fun rs1 hrs1 => ?_
  refine .bind (ensures_gpr hreadable hline rfl) fun rs2 hrs2 => .ok ?_
  have hblock : UnitClass.bType.HasRegisters ((p.newBlock.setRs1 rs1).setRs2 rs2) :=
    ⟨hmem, nofun, fun _ => hrs1, fun _ => hrs2, nofun⟩
  exact fitsLine_parseLabelReference (mem_unitClasses_of_getElem? 5 rfl) (fun _ => .inl) hblock rfl
    (by omega)

theorem fitting_parseOGprCIl (hfits : syntaxFits p.currentToken.value .oGprCIl = true) :
    p.Fitting p.parseOGprCIl := by
  have hvalue := opcode_newBlock hreadable hopcode
  unfold syntaxFits at hfits
  rw [← hvalue] at hfits
  unfold parseOGprCIl
  refine .ite (fun hline => .ite (fun hj => ?_) fun hj => absurd hfits hj) fun _ => fitting_false
  have hmem : p.newBlock.opcode ∈ jTypeInstructions := List.contains_iff_mem.mp hj
  refine .bind (ensures_gpr hreadable hline rfl) fun rd hrd => .ok ?_
  have hblock : UnitClass.jType.HasRegisters (p.newBlock.setRd rd) :=
    ⟨hmem, fun _ => hrd, nofun, nofun, nofun⟩
  exact fitsLine_parseLabelReference (mem_unitClasses_of_getElem? 7 rfl) (fun _ => .inr) hblock rfl
    (by omega)

theorem fitting_parseOGprCDl (hfits : syntaxFits p.currentToken.value .oGprCDl = true) :
    p.Fitting (p.parseOGprCDl cfg) := by
  have hload : ∀ opcode ∈ labelLoads.map (·.1), opcode ∈ i1TypeInstructions := by
    decide +kernel
  have hmem : p.newBlock.opcode ∈ i1TypeInstructions :=
    hload _ (mem_newBlock hreadable hopcode hfits)
  unfold parseOGprCDl
  refine .ite (fun hline => ?_) fun _ => fitting_false
  refine .bind (ensures_gpr hreadable hline rfl) fun reg hreg => ?_
  cases p.dataAddress (p.peekToken 3).value with
  | none => exact fitting_reject _ _
  | some address =>
    dsimp only
    rw [splitOffset_eq]
    refine .ok (fitsLine_two rfl ?_ ?_)
    · exact encodable_upper (auipc_mem { p.newBlock with
        instructionIndex := some (p.instructionIndex + 1#32) } hreg) _
    · have hblock : UnitClass.i1Type.HasRegisters
          { (p.newBlock.setRd reg).setRs1 reg with instructionIndex := none } :=
        ⟨hmem, fun _ => hreg, fun _ => hreg, nofun, nofun⟩
      exact encodable_lower hblock _

theorem fitting_parseOGprCILpGprRp
    (hfits : syntaxFits p.currentToken.value .oGprCILpGprRp = true) :
    p.Fitting p.parseOGprCILpGprRp := by
  rw [← opcode_newBlock hreadable hopcode] at hfits
  have hfits : (if isValidITypeInstruction p.newBlock.opcode then
      isValidI1TypeInstruction p.newBlock.opcode
    else isValidSTypeInstruction p.newBlock.opcode) = true := hfits
  unfold parseOGprCILpGprRp
  refine .ite (fun hline => ?_) fun _ => fitting_false
  refine .ite (fun hi => ?_) fun hi => .ite (fun hs => ?_) fun hs => ?_
  · rw [if_pos hi] at hfits
    have hmem : p.newBlock.opcode ∈ i1TypeInstructions := List.contains_iff_mem.mp hfits
    refine .bind (ensures_gpr hreadable hline rfl) fun rd hrd => .bind_any fun imm => ?_
    refine .ite (fun himm => ?_) fun _ => fitting_reject _ _
    refine .bind (ensures_gpr hreadable hline rfl) fun rs1 hrs1 => .ok (fitsLine_acceptLine ?_)
    have hblock : UnitClass.i1Type.HasRegisters ((p.newBlock.setRd rd).setRs1 rs1) :=
      ⟨hmem, fun _ => hrd, fun _ => hrs1, nofun, nofun⟩
    exact hblock.encodable_setImm (mem_unitClasses_of_getElem? 1 rfl) rfl himm.1 himm.2 (by omega)
  · have hmem : p.newBlock.opcode ∈ sTypeInstructions := List.contains_iff_mem.mp hs
    refine .bind (ensures_gpr hreadable hline rfl) fun rs2 hrs2 => .bind_any fun imm => ?_
    refine .ite (fun himm => ?_) fun _ => fitting_reject _ _
    refine .bind (ensures_gpr hreadable hline rfl) fun rs1 hrs1 => .ok (fitsLine_acceptLine ?_)
    have hblock : UnitClass.sType.HasRegisters ((p.newBlock.setRs2 rs2).setRs1 rs1) :=
      ⟨hmem, nofun, fun _ => hrs1, fun _ => hrs2, nofun⟩
    exact hblock.encodable_setImm (mem_unitClasses_of_getElem? 4 rfl) rfl himm.1 himm.2 (by omega)
  · rw [if_neg hi] at hfits
    exact absurd hfits hs

theorem fitting_parseOFprCILpGprRp
    (hfits : syntaxFits p.currentToken.value .oFprCILpGprRp = true) :
    p.Fitting p.parseOFprCILpGprRp := by
  rw [← opcode_newBlock hreadable hopcode] at hfits
  unfold parseOFprCILpGprRp
  refine .ite (fun hline => ?_) fun _ => fitting_false
  refine .ite (fun hi => ?_) fun hi => .ite (fun hs => ?_) fun hs => ?_
  · have hmem : p.newBlock.opcode ∈ fdExtensionITypeInstructions := List.contains_iff_mem.mp hi
    refine .bind (ensures_fpr hreadable hline rfl) fun rd hrd => .bind_any fun imm => ?_
    refine .ite (fun himm => ?_) fun _ => fitting_reject _ _
    refine .bind (ensures_gpr hreadable hline rfl) fun rs1 hrs1 => .ok (fitsLine_acceptLine ?_)
    have hblock : UnitClass.fdIType.HasRegisters ((p.newBlock.setRd rd).setRs1 rs1) :=
      ⟨hmem, fun _ => hrd, fun _ => hrs1, nofun, nofun⟩
    exact hblock.encodable_setImm (mem_unitClasses_of_getElem? 15 rfl) rfl himm.1 himm.2 (by omega)
  · have hmem : p.newBlock.opcode ∈ fdExtensionSTypeInstructions := List.contains_iff_mem.mp hs
    refine .bind (ensures_fpr hreadable hline rfl) fun rs2 hrs2 => .bind_any fun imm => ?_
    refine .ite (fun himm => ?_) fun _ => fitting_reject _ _
    refine .bind (ensures_gpr hreadable hline rfl) fun rs1 hrs1 => .ok (fitsLine_acceptLine ?_)
    have hblock : UnitClass.fdSType.HasRegisters ((p.newBlock.setRs2 rs2).setRs1 rs1) :=
      ⟨hmem, nofun, fun _ => hrs1, fun _ => hrs2, nofun⟩
    exact hblock.encodable_setImm (mem_unitClasses_of_getElem? 16 rfl) rfl himm.1 himm.2 (by omega)
  · exact absurd ((Bool.or_eq_true_iff.mp hfits).resolve_left hi) hs

theorem fitting_parseOGprCCsrCGpr
    (hfits : syntaxFits p.currentToken.value .oGprCCsrCGpr = true) :
    p.Fitting p.parseOGprCCsrCGpr := by
  have hmem : p.newBlock.opcode ∈ csrRInstructions := mem_newBlock hreadable hopcode hfits
  unfold parseOGprCCsrCGpr
  refine .ite (fun hline => ?_) fun _ => fitting_false
  refine .bind (ensures_gpr hreadable hline rfl) fun rd hrd => .bind_any fun csr => ?_
  refine .bind (ensures_gpr hreadable hline rfl) fun rs1 hrs1 => .ok (fitsLine_acceptLine ?_)
  have hblock : UnitClass.csrRType.HasRegisters
      (((p.newBlock.setRd rd).setCsr csr).setRs1 rs1) :=
    ⟨hmem, fun _ => hrd, fun _ => hrs1, nofun, nofun⟩
  exact hblock.encodable (mem_unitClasses_of_getElem? 8 rfl) rfl

theorem fitting_parseOGprCCsrCI (hfits : syntaxFits p.currentToken.value .oGprCCsrCI = true) :
    p.Fitting p.parseOGprCCsrCI := by
  have hmem : p.newBlock.opcode ∈ csrIInstructions := mem_newBlock hreadable hopcode hfits
  unfold parseOGprCCsrCI
  refine .ite (fun hline => ?_) fun _ => fitting_false
  refine .bind (ensures_gpr hreadable hline rfl) fun rd hrd => .bind_any fun csr => ?_
  refine .bind_any fun imm => ?_
  have hblock : UnitClass.csrIType.HasRegisters ((p.newBlock.setRd rd).setCsr csr) :=
    ⟨hmem, fun _ => hrd, nofun, nofun, nofun⟩
  exact fitting_checked (mem_unitClasses_of_getElem? 9 rfl) hblock rfl (by omega)

end

/-! ### Registers -/

/-- The first `n` registers of the unit are ones the code generator can encode. -/
structure HasFields (opcode : String) (n : Nat) (block : ICUnit) : Prop where
  opcode : block.opcode = opcode
  rd : 1 ≤ n → HasRegister block.rd
  rs1 : 2 ≤ n → HasRegister block.rs1
  rs2 : 3 ≤ n → HasRegister block.rs2
  rs3 : 4 ≤ n → HasRegister block.rs3

theorem HasFields.encodable {opcode : String} {n : Nat} (h : HasFields opcode n block)
    (hreads : readsRegisters opcode n = true) : Encodable block := by
  obtain ⟨c, hc, hclass⟩ := List.any_eq_true.mp hreads
  rw [Bool.and_eq_true, List.contains_iff_mem] at hclass
  obtain ⟨hmem, hfields⟩ := hclass
  unfold UnitClass.ReadsFields at hfields
  simp only [Bool.and_eq_true, Bool.or_eq_true, Bool.not_eq_true', decide_eq_true_eq,
    Option.isNone_iff_eq_none] at hfields
  obtain ⟨⟨⟨⟨hrange, hrd⟩, hrs1⟩, hrs2⟩, hrs3⟩ := hfields
  have hnot : ∀ {b : Bool}, b = true → ¬b = false := by
    rintro _ rfl
    exact nofun
  have hblock : c.HasRegisters block :=
    { mnemonic := h.opcode ▸ hmem
      rd := fun hreg => h.rd (hrd.resolve_left (hnot hreg))
      rs1 := fun hreg => h.rs1 (hrs1.resolve_left (hnot hreg))
      rs2 := fun hreg => h.rs2 (hrs2.resolve_left (hnot hreg))
      rs3 := fun hreg => h.rs3 (hrs3.resolve_left (hnot hreg)) }
  exact hblock.encodable hc hrange

/-- A step of the fold that sets the registers of a line. -/
theorem ensures_setField {n : Nat} {setField : ICUnit → String → ICUnit}
    (hreg : Ensures (fun reg => HasRegister (truncated 5 reg)) (p.regName (2 * n + 1)))
    (hset : ∀ reg, HasRegister (truncated 5 reg) →
      HasFields p.newBlock.opcode (n + 1) (setField block reg)) :
    Ensures (HasFields p.newBlock.opcode (n + 1))
      ((p.regName (2 * n + 1)).map (setField block)) := by
  intro block' hblock'
  obtain ⟨reg, hname, rfl⟩ := map_eq_ok.mp hblock'
  exact hset reg (hreg reg hname)

theorem ensures_fields {n : Nat}
    (hreg : ∀ i < n, Ensures (fun reg => HasRegister (truncated 5 reg)) (p.regName (2 * i + 1))) :
    Ensures (HasFields p.newBlock.opcode n) (((registerFields.take n).zipIdx).foldlM
      (fun block (setField, i) => (p.regName (2 * i + 1)).map (setField block)) p.newBlock) := by
  have hrd : 0 < n → Ensures (HasFields p.newBlock.opcode 1)
      ((p.regName 1).map p.newBlock.setRd) := fun h =>
    ensures_setField (hreg 0 h) fun reg hreg =>
      ⟨rfl, fun _ => hreg, fun h => absurd h (by omega), fun h => absurd h (by omega),
        fun h => absurd h (by omega)⟩
  have hrs1 : 1 < n → ∀ block, HasFields p.newBlock.opcode 1 block →
      Ensures (HasFields p.newBlock.opcode 2) ((p.regName 3).map block.setRs1) := fun h block hblock =>
    ensures_setField (hreg 1 h) fun reg hreg =>
      ⟨hblock.opcode, fun _ => hblock.rd (by omega), fun _ => hreg, fun h => absurd h (by omega),
        fun h => absurd h (by omega)⟩
  have hrs2 : 2 < n → ∀ block, HasFields p.newBlock.opcode 2 block →
      Ensures (HasFields p.newBlock.opcode 3) ((p.regName 5).map block.setRs2) := fun h block hblock =>
    ensures_setField (hreg 2 h) fun reg hreg =>
      ⟨hblock.opcode, fun _ => hblock.rd (by omega), fun _ => hblock.rs1 (by omega), fun _ => hreg,
        fun h => absurd h (by omega)⟩
  have hrs3 : 3 < n → ∀ block, HasFields p.newBlock.opcode 3 block →
      Ensures (HasFields p.newBlock.opcode n) ((p.regName 7).map block.setRs3) := by
    intro h block hblock block' hblock'
    obtain ⟨reg, hname, rfl⟩ := map_eq_ok.mp hblock'
    exact ⟨hblock.opcode, fun _ => hblock.rd (by omega), fun _ => hblock.rs1 (by omega),
      fun _ => hblock.rs2 (by omega), fun _ => hreg 3 h reg hname⟩
  match n with
  | 0 =>
    exact .ok ⟨rfl, fun h => absurd h (by omega), fun h => absurd h (by omega),
      fun h => absurd h (by omega), fun h => absurd h (by omega)⟩
  | 1 => exact .bind (hrd (by omega)) fun _ h => .ok h
  | 2 => exact .bind (hrd (by omega)) fun _ h => .bind (hrs1 (by omega) _ h) fun _ h => .ok h
  | 3 =>
    exact .bind (hrd (by omega)) fun _ h => .bind (hrs1 (by omega) _ h) fun _ h =>
      .bind (hrs2 (by omega) _ h) fun _ h => .ok h
  | n + 4 =>
    have htake : registerFields.take (n + 4) = registerFields :=
      List.take_of_length_le (Nat.le_add_left 4 n)
    rw [htake]
    exact .bind (hrd (by omega)) fun _ h => .bind (hrs1 (by omega) _ h) fun _ h =>
      .bind (hrs2 (by omega) _ h) fun _ h => .bind (hrs3 (by omega) _ h) fun _ h => .ok h

theorem fitting_parseRegisters (hreadable : p.Readable) (hopcode : p.currentToken.type = .opcode)
    {registers : List TokenType} {rm : RmOperand}
    (hregisters : ∀ type ∈ registers, type = .gpRegister ∨ type = .fpRegister)
    (hfits : readsRegisters p.currentToken.value registers.length = true) :
    p.Fitting (p.parseRegisters registers rm) := by
  rw [← opcode_newBlock hreadable hopcode] at hfits
  unfold parseRegisters
  refine .ite (fun hline => ?_) fun _ => fitting_false
  refine .bind (ensures_fields fun i hi => hreadable.ensures_regName ?_) fun block hblock => ?_
  · have htype : (p.peekToken (2 * i + 1)).type = registers[i] := by
      refine type_of_registerLine hline ?_
      rw [List.getElem?_append_left hi, List.getElem?_eq_getElem hi]
    rw [htype]
    exact hregisters _ (List.getElem_mem hi)
  · cases rm with
    | absent => exact .ok (fitsLine_acceptLine (hblock.encodable hfits))
    | dynamic => exact .ok (fitsLine_acceptLine (encodable_setRm (hblock.encodable hfits) _))
    | named =>
      refine .bind (P := Encodable) ?_ fun _ h => .ok (fitsLine_acceptLine h)
      exact .map fun rm => encodable_setRm (hblock.encodable hfits) rm

/-! ### Pseudo instructions -/

section

variable (hreadable : p.Readable)

include hreadable

theorem fitting_parseLa : p.Fitting (p.parseLa cfg) := by
  unfold parseLa
  refine .ite (fun hline => ?_) fun _ => fitting_false
  refine .bind (ensures_gpr hreadable hline rfl) fun reg hreg => ?_
  cases p.dataAddress (p.peekToken 3).value with
  | none => exact .ok (fitsLine_of_eq rfl)
  | some address =>
    dsimp only
    rw [splitOffset_eq]
    refine .ok (fitsLine_two rfl ?_ ?_)
    · exact encodable_upper (auipc_mem _ hreg) _
    · exact encodable_lower (addi_mem hreg hreg) _

/-- The text of a number is the one the parser prints. -/
theorem Readable.ensures_numberAt {n : Nat} (htype : (p.peekToken n).type = .num) :
    Ensures (fun imm => (p.peekToken n).value = toText imm) (p.numberAt n) := by
  intro imm himm
  obtain ⟨m, hlow, hhigh, htext⟩ := (hreadable.peekToken n).num htype
  unfold numberAt at himm
  rw [mapError_eq_ok, htext, stoll_toDecimal hlow hhigh] at himm
  obtain rfl := Except.ok.inj himm
  rw [← String.ofList_toList (s := (p.peekToken n).value), htext]
  rfl

theorem fitting_parseLi : p.Fitting p.parseLi := by
  unfold parseLi
  refine .ite (fun hline => ?_) fun _ => fitting_false
  refine .bind (hreadable.ensures_numberAt (type_of_matchesLine hline rfl).1) fun imm hvalue => ?_
  refine .bind (ensures_gpr hreadable hline rfl) fun reg hreg => ?_
  refine .ite (fun hsmall => .ok (fitsLine_one _ rfl ?_)) fun _ => .ite (fun hrange => ?_)
    fun _ => .ok (fitsLine_of_eq rfl)
  · rw [hvalue]
    exact (addi_mem hreg hasRegister_x0).encodable_setImm (mem_unitClasses_of_getElem? 1 rfl) rfl
      hsmall.1 hsmall.2 (by omega)
  · have hlui : Encodable (((p.newBlock.setOpcode "lui").setRd reg).setImm
        (toText ((imm + 2 ^ 11) / 2 ^ 12))) :=
      (lui_mem hreg).encodable_setImm (mem_unitClasses_of_getElem? 6 rfl) rfl (by omega)
        (by omega) (by omega)
    refine .ite (fun _ => .ok (fitsLine_two rfl hlui ?_)) fun _ => .ok (fitsLine_one _ rfl hlui)
    exact (addi_mem hreg hreg).encodable_setImm (mem_unitClasses_of_getElem? 1 rfl) rfl (by omega)
      (by omega) (by omega)

theorem fitting_parseMv : p.Fitting p.parseMv := by
  have hmem : truncated 20 "add" ∈ rTypeInstructions := by
    decide +kernel
  unfold parseMv
  refine .ite (fun hline => ?_) fun _ => fitting_false
  refine .bind (ensures_gpr hreadable hline rfl) fun rd hrd => ?_
  refine .bind (ensures_gpr hreadable hline rfl) fun rs1 hrs1 => .ok (fitsLine_one _ rfl ?_)
  have hblock : UnitClass.rType.HasRegisters
      ((((p.newBlock.setOpcode "add").setRd rd).setRs1 rs1).setRs2 "x0") :=
    ⟨hmem, fun _ => hrd, fun _ => hrs1, fun _ => hasRegister_x0, nofun⟩
  exact hblock.encodable (mem_unitClasses_of_getElem? 0 rfl) rfl

theorem fitting_parseNot : p.Fitting p.parseNot := by
  have hmem : truncated 20 "xori" ∈ i1TypeInstructions := by
    decide +kernel
  unfold parseNot
  refine .ite (fun hline => ?_) fun _ => fitting_false
  refine .bind (ensures_gpr hreadable hline rfl) fun rd hrd => ?_
  refine .bind (ensures_gpr hreadable hline rfl) fun rs1 hrs1 => .ok (fitsLine_one _ rfl ?_)
  have hblock : UnitClass.i1Type.HasRegisters
      (((p.newBlock.setOpcode "xori").setRd rd).setRs1 rs1) :=
    ⟨hmem, fun _ => hrd, fun _ => hrs1, nofun, nofun⟩
  have htext : "-1" = toText (-1) := by
    decide +kernel
  rw [htext]
  exact hblock.encodable_setImm (mem_unitClasses_of_getElem? 1 rfl) rfl (by omega) (by omega)
    (by omega)

omit hreadable in
theorem toText_zero : "0" = toText 0 := by
  decide +kernel

omit hreadable in
theorem fitting_parseNop : p.Fitting p.parseNop := by
  unfold parseNop
  refine .ite (fun _ => .ok (fitsLine_one _ rfl ?_)) fun _ => fitting_false
  rw [toText_zero]
  exact (addi_mem hasRegister_x0 hasRegister_x0).encodable_setImm
    (mem_unitClasses_of_getElem? 1 rfl) rfl (by omega) (by omega) (by omega)

omit hreadable in
theorem fitting_parseRet : p.Fitting p.parseRet := by
  have hmem : truncated 20 "jalr" ∈ i1TypeInstructions := by
    decide +kernel
  unfold parseRet
  refine .ite (fun _ => .ok (fitsLine_one _ rfl ?_)) fun _ => fitting_false
  have hblock : UnitClass.i1Type.HasRegisters
      (((p.newBlock.setOpcode "jalr").setRd "x0").setRs1 "x1") :=
    ⟨hmem, fun _ => hasRegister_x0, fun _ => hasRegister_x1, nofun, nofun⟩
  rw [toText_zero]
  exact hblock.encodable_setImm (mem_unitClasses_of_getElem? 1 rfl) rfl (by omega) (by omega)
    (by omega)

theorem fitting_parsePseudo : p.Fitting (p.parsePseudo cfg) := by
  unfold parsePseudo
  refine .ite (fun _ => fitting_parseLa hreadable) fun _ => ?_
  refine .ite (fun _ => fitting_parseNop) fun _ => ?_
  refine .ite (fun _ => fitting_parseLi hreadable) fun _ => ?_
  refine .ite (fun _ => fitting_parseMv hreadable) fun _ => ?_
  refine .ite (fun _ => fitting_parseNot hreadable) fun _ => ?_
  exact .ite (fun _ => fitting_parseRet) fun _ => fitting_false

end

/-! ### Items -/

section

variable (hreadable : p.Readable) (hopcode : p.currentToken.type = .opcode)

include hreadable hopcode

theorem fitting_parseSyntax {type : SyntaxType} (hfits : syntaxFits p.currentToken.value type = true) :
    p.Fitting (p.parseSyntax cfg type) := by
  have hregisters : ∀ {registers : List TokenType} {rm : RmOperand},
      (∀ type ∈ registers, type = .gpRegister ∨ type = .fpRegister) →
      readsRegisters p.currentToken.value registers.length = true →
      p.Fitting (p.parseRegisters registers rm) :=
    fun h hreads => fitting_parseRegisters hreadable hopcode h hreads
  cases type with
  | oGprCGprCI => exact fitting_parseOGprCGprCI hreadable hopcode hfits
  | oGprCGprCIl => exact fitting_parseOGprCGprCIl hreadable hopcode hfits
  | oGprCILpGprRp => exact fitting_parseOGprCILpGprRp hreadable hopcode hfits
  | oGprCI => exact fitting_parseOGprCI hreadable hopcode hfits
  | oGprCIl => exact fitting_parseOGprCIl hreadable hopcode hfits
  | oGprCDl => exact fitting_parseOGprCDl hreadable hopcode hfits
  | oGprCGprCDl => exact fitting_false
  | o => exact fitting_parseO hreadable hopcode hfits
  | pseudo => exact fitting_parsePseudo hreadable
  | oGprCCsrCGpr => exact fitting_parseOGprCCsrCGpr hreadable hopcode hfits
  | oGprCCsrCI => exact fitting_parseOGprCCsrCI hreadable hopcode hfits
  | oFprCILpGprRp => exact fitting_parseOFprCILpGprRp hreadable hopcode hfits
  | _ => exact hregisters (by decide) hfits

/-- **A line appends units that fit**, whichever syntax it has. -/
theorem fitting_parseSyntaxes :
    ∀ {types : List SyntaxType}, (∀ type ∈ types, syntaxFits p.currentToken.value type = true) →
      p.Fitting (parseSyntaxes cfg types p) := by
  intro types
  induction types with
  | nil => exact fun _ => fitting_false
  | cons type types ih =>
    intro hfits r hr
    have ht : p.currentToken.type ≠ .eof := by
      rw [hopcode]
      decide
    have hname : type = .oGprCDl → ∃ entry ∈ labelLoads, entry.1 = p.currentToken.value := by
      rintro rfl
      exact List.mem_map.mp (List.contains_iff_mem.mp (hfits _ List.mem_cons_self))
    unfold parseSyntaxes at hr
    obtain ⟨⟨valid, p₁⟩, hsyntax, hr⟩ := bind_eq_ok.mp hr
    have hfitting := fitting_parseSyntax hreadable hopcode (hfits type List.mem_cons_self) _ hsyntax
    -- a syntax that does not fit leaves the parser as it is
    rcases parsesAs_parseSyntax ht hopcode hname _ hsyntax with h | ⟨rfl, -⟩
    · cases h
      exact ih (fun type' hmem => hfits type' (List.mem_cons_of_mem type hmem)) r hr
    · obtain rfl := Except.ok.inj hr
      exact hfitting

end

/-- **An item of the text section appends units that fit.** -/
theorem fits_parseTextItem (hreadable : p.Readable) (hparse : p.parseTextItem cfg = .ok p') :
    p.FitsLine (true, p') := by
  unfold parseTextItem at hparse
  split at hparse
  · obtain rfl := Except.ok.inj hparse
    unfold parseTextLabel
    split <;> exact fitsLine_of_eq rfl
  split at hparse
  · rename_i hopcode
    unfold parseInstruction at hparse
    split at hparse
    · obtain rfl := Except.ok.inj hparse
      exact fitsLine_of_eq rfl
    · obtain ⟨⟨valid, p₁⟩, hsyntaxes, hparse⟩ := bind_eq_ok.mp hparse
      obtain ⟨units, hunits, hfit⟩ := fitting_parseSyntaxes hreadable hopcode
        (fun _ => syntaxFits_of_mem) _ hsyntaxes
      dsimp only at hparse
      split at hparse
      · obtain rfl := Except.ok.inj hparse
        exact ⟨units, hunits, hfit⟩
      · obtain rfl := Except.ok.inj hparse
        exact ⟨units, hunits, hfit⟩
  · obtain rfl := Except.ok.inj hparse
    exact fitsLine_of_eq rfl


end Parser

end RiscvSim

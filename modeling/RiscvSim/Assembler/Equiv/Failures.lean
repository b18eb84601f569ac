import RiscvSim.Assembler.Equiv.Lines

/-!
# The exceptions of the parser

A line of the text section throws only what reading one of its operands throws
(`Parser.OperandsFail`): the number of a register, a number, a control register,
or a rounding mode, each at a token of its type.

* **`Parser.OperandsFail.parseTextItem`**: so does a round of the text section.
-/

namespace RiscvSim

open Lib

namespace Parser

variable {cfg : VmConfig} {Err : AssemblerError → Prop} {p : Parser}

/-! ### The tokens of a line -/

theorem type_of_matchesLine {types : List TokenType} (h : p.matchesLine types = true) {i : Nat}
    {type : TokenType} (hi : types[i]? = some type) :
    (p.peekToken (i + 1)).type = type ∧
      (p.peekToken (i + 1)).lineNumber = p.currentToken.lineNumber := by
  unfold matchesLine at h
  have hall := List.all_eq_true.mp (Bool.and_eq_true_iff.mp h).1 (type, i + 1) (by
    rw [List.mk_mem_zipIdx_iff_le_and_getElem?_sub, Nat.add_sub_cancel]
    exact ⟨Nat.le_add_left 1 i, hi⟩)
  rw [Bool.and_eq_true, beq_iff_eq, beq_iff_eq] at hall
  exact ⟨hall.2, hall.1⟩

theorem getElem?_intersperse {α : Type} (sep : α) (l : List α) (i : Nat) :
    (l.intersperse sep)[2 * i]? = l[i]? := by
  induction l generalizing i with
  | nil => rfl
  | cons a l ih =>
    cases l with
    | nil =>
      cases i with
      | zero => rfl
      | succ i => rfl
    | cons b l =>
      cases i with
      | zero => rfl
      | succ i => exact ih i

theorem type_of_registerLine {registers : List TokenType} {rm : RmOperand}
    (h : p.matchesLine (registerLine registers rm) = true) {i : Nat} {type : TokenType}
    (hi : (registers ++ if rm = RmOperand.named then [TokenType.rm] else [])[i]? = some type) :
    (p.peekToken (2 * i + 1)).type = type := by
  refine (type_of_matchesLine h ?_).1
  unfold registerLine
  rw [getElem?_intersperse, hi]

/-! ### Operands -/

/-- What the operands of the current line may throw. -/
structure OperandsFail (Err : AssemblerError → Prop) (p : Parser) : Prop where
  register : ∀ n, (p.peekToken n).type = .gpRegister ∨ (p.peekToken n).type = .fpRegister →
    FailsWith Err (p.regName n)
  number : ∀ n, (p.peekToken n).type = .num → FailsWith Err (p.numberAt n)
  csr : ∀ n, (p.peekToken n).type = .csrRegister →
    FailsWith Err (lookupAt csrToAddress (p.peekToken n).value)
  rm : ∀ n, (p.peekToken n).type = .rm → FailsWith Err (p.roundingModeAt n)

/-- A choice between two ends of a line. -/
theorem failsWith_ite {α : Type} {c : Prop} [Decidable c] {a b : α} :
    FailsWith Err (if c then pure a else pure b) :=
  .ite (fun _ => .ok a) fun _ => .ok b

namespace OperandsFail

variable (h : OperandsFail Err p)

include h

/-- A line whose registers are read before the units are made. -/
theorem bind_gpr {α : Type} {types : List TokenType} {n : Nat}
    {f : String → Except AssemblerError α} (hline : p.matchesLine types = true)
    (htype : types[n]? = some .gpRegister) (hf : ∀ reg, FailsWith Err (f reg)) :
    FailsWith Err (p.regName (n + 1) >>= f) :=
  .bind (h.register _ (.inl (type_of_matchesLine hline htype).1)) fun reg _ => hf reg

theorem bind_fpr {α : Type} {types : List TokenType} {n : Nat}
    {f : String → Except AssemblerError α} (hline : p.matchesLine types = true)
    (htype : types[n]? = some .fpRegister) (hf : ∀ reg, FailsWith Err (f reg)) :
    FailsWith Err (p.regName (n + 1) >>= f) :=
  .bind (h.register _ (.inr (type_of_matchesLine hline htype).1)) fun reg _ => hf reg

theorem bind_number {α : Type} {types : List TokenType} {n : Nat}
    {f : Int → Except AssemblerError α} (hline : p.matchesLine types = true)
    (htype : types[n]? = some .num) (hf : ∀ imm, FailsWith Err (f imm)) :
    FailsWith Err (p.numberAt (n + 1) >>= f) :=
  .bind (h.number _ (type_of_matchesLine hline htype).1) fun imm _ => hf imm

theorem bind_csr {α : Type} {types : List TokenType} {n : Nat}
    {f : BitVec 32 → Except AssemblerError α} (hline : p.matchesLine types = true)
    (htype : types[n]? = some .csrRegister) (hf : ∀ csr, FailsWith Err (f csr)) :
    FailsWith Err (lookupAt csrToAddress (p.peekToken (n + 1)).value >>= f) :=
  .bind (h.csr _ (type_of_matchesLine hline htype).1) fun csr _ => hf csr

/-! ### Syntaxes -/

theorem parseRegisters {registers : List TokenType} {rm : RmOperand}
    (hregisters : ∀ type ∈ registers, type = .gpRegister ∨ type = .fpRegister) :
    FailsWith Err (p.parseRegisters registers rm) := by
  unfold Parser.parseRegisters
  refine .ite (fun hline => ?_) fun _ => .ok _
  refine .bind (.foldlM_of_mem ?_ _) fun block _ => ?_
  · rintro block ⟨setField, i⟩ hmem
    rw [List.mem_zipIdx_iff_getElem?] at hmem
    have hi : i < registers.length :=
      Nat.lt_of_lt_of_le (List.getElem?_eq_some_iff.mp hmem).1 (List.length_take_le _ _)
    have htype : (p.peekToken (2 * i + 1)).type = registers[i] := by
      refine type_of_registerLine hline ?_
      rw [List.getElem?_append_left hi, List.getElem?_eq_getElem hi]
    refine .map (h.register _ ?_)
    rw [htype]
    exact hregisters _ (List.getElem_mem hi)
  · cases rm with
    | absent => exact .ok _
    | dynamic => exact .ok _
    | named =>
      refine .bind (.map (h.rm _ (type_of_registerLine hline ?_))) fun _ _ => .ok _
      rw [List.getElem?_append_right (Nat.le_refl _), Nat.sub_self]
      rfl

theorem parseOGprCGprCI : FailsWith Err p.parseOGprCGprCI := by
  unfold Parser.parseOGprCGprCI
  refine .ite (fun hline => ?_) fun _ => .ok _
  refine .ite (fun _ => ?_) fun _ => .ite (fun _ => ?_) fun _ => .ok _
  · exact h.bind_gpr hline rfl fun _ => h.bind_gpr hline rfl fun _ => h.bind_number hline rfl fun _ =>
      .ite (fun _ => failsWith_ite) fun _ => failsWith_ite
  · exact h.bind_gpr hline rfl fun _ => h.bind_gpr hline rfl fun _ => h.bind_number hline rfl fun _ =>
      .ite (fun _ => failsWith_ite) fun _ => .ok _

theorem parseOGprCI : FailsWith Err p.parseOGprCI := by
  unfold Parser.parseOGprCI
  refine .ite (fun hline => ?_) fun _ => .ok _
  refine .ite (fun _ => ?_) fun _ => .ite (fun _ => ?_) fun _ => .ok _
  · exact h.bind_gpr hline rfl fun _ => h.bind_number hline rfl fun _ => failsWith_ite
  · exact h.bind_gpr hline rfl fun _ => h.bind_number hline rfl fun _ =>
      .ite (fun _ => failsWith_ite) fun _ => .ok _

theorem parseOGprCGprCIl : FailsWith Err p.parseOGprCGprCIl := by
  unfold Parser.parseOGprCGprCIl
  refine .ite (fun hline => .ite (fun _ => ?_) fun _ => .ok _) fun _ => .ok _
  exact h.bind_gpr hline rfl fun _ => h.bind_gpr hline rfl fun _ => .ok _

theorem parseOGprCIl : FailsWith Err p.parseOGprCIl := by
  unfold Parser.parseOGprCIl
  refine .ite (fun hline => .ite (fun _ => ?_) fun _ => .ok _) fun _ => .ok _
  exact h.bind_gpr hline rfl fun _ => .ok _

theorem parseOGprCDl : FailsWith Err (p.parseOGprCDl cfg) := by
  unfold Parser.parseOGprCDl
  refine .ite (fun hline => h.bind_gpr hline rfl fun _ => ?_) fun _ => .ok _
  cases p.dataAddress (p.peekToken 3).value with
  | none => exact .ok _
  | some address => exact .ok _

/-- The operand in memory of a line. -/
theorem access {types : List TokenType} (hline : p.matchesLine types = true)
    (himm : types[2]? = some .num) (hrs1 : types[4]? = some .gpRegister)
    {accept : Int → String → Bool × Parser} {message : String} :
    FailsWith Err (do
      let imm ← p.numberAt 3
      if -2048 ≤ imm ∧ imm ≤ 2047 then do
        let rs1 ← p.regName 5
        pure (accept imm rs1)
      else pure (p.rejectLine 3 message)) :=
  h.bind_number hline himm fun _ =>
    .ite (fun _ => h.bind_gpr hline hrs1 fun _ => .ok _) fun _ => .ok _

theorem parseOGprCILpGprRp : FailsWith Err p.parseOGprCILpGprRp := by
  unfold Parser.parseOGprCILpGprRp
  refine .ite (fun hline => ?_) fun _ => .ok _
  refine .ite (fun _ => ?_) fun _ => .ite (fun _ => ?_) fun _ => .ok _
  · exact h.bind_gpr hline rfl fun _ => h.access hline rfl rfl
  · exact h.bind_gpr hline rfl fun _ => h.access hline rfl rfl

theorem parseOFprCILpGprRp : FailsWith Err p.parseOFprCILpGprRp := by
  unfold Parser.parseOFprCILpGprRp
  refine .ite (fun hline => ?_) fun _ => .ok _
  refine .ite (fun _ => ?_) fun _ => .ite (fun _ => ?_) fun _ => .ok _
  · exact h.bind_fpr hline rfl fun _ => h.access hline rfl rfl
  · exact h.bind_fpr hline rfl fun _ => h.access hline rfl rfl

theorem parseOGprCCsrCGpr : FailsWith Err p.parseOGprCCsrCGpr := by
  unfold Parser.parseOGprCCsrCGpr
  refine .ite (fun hline => h.bind_gpr hline rfl fun _ => ?_) fun _ => .ok _
  exact h.bind_csr hline rfl fun _ => h.bind_gpr hline rfl fun _ => .ok _

theorem parseOGprCCsrCI : FailsWith Err p.parseOGprCCsrCI := by
  unfold Parser.parseOGprCCsrCI
  refine .ite (fun hline => h.bind_gpr hline rfl fun _ => ?_) fun _ => .ok _
  exact h.bind_csr hline rfl fun _ => h.bind_number hline rfl fun _ => failsWith_ite

theorem parseLa : FailsWith Err (p.parseLa cfg) := by
  unfold Parser.parseLa
  refine .ite (fun hline => h.bind_gpr hline rfl fun _ => ?_) fun _ => .ok _
  cases p.dataAddress (p.peekToken 3).value with
  | none => exact .ok _
  | some address => exact .ok _

theorem parseLi : FailsWith Err p.parseLi := by
  unfold Parser.parseLi
  refine .ite (fun hline => ?_) fun _ => .ok _
  refine h.bind_number hline rfl fun _ => h.bind_gpr hline rfl fun _ => ?_
  exact .ite (fun _ => .ok _) fun _ => .ite (fun _ => failsWith_ite) fun _ => .ok _

theorem parsePseudo : FailsWith Err (p.parsePseudo cfg) := by
  unfold Parser.parsePseudo
  refine .ite (fun _ => h.parseLa) fun _ => .ite (fun _ => failsWith_ite) fun _ => ?_
  refine .ite (fun _ => h.parseLi) fun _ => .ite (fun _ => .ite (fun hline => ?_) fun _ => .ok _)
    fun _ => ?_
  · exact h.bind_gpr hline rfl fun _ => h.bind_gpr hline rfl fun _ => .ok _
  refine .ite (fun _ => .ite (fun hline => ?_) fun _ => .ok _) fun _ =>
    .ite (fun _ => failsWith_ite) fun _ => .ok _
  exact h.bind_gpr hline rfl fun _ => h.bind_gpr hline rfl fun _ => .ok _

theorem parseSyntax (type : SyntaxType) : FailsWith Err (p.parseSyntax cfg type) := by
  cases type with
  | oGprCGprCI => exact h.parseOGprCGprCI
  | oGprCGprCIl => exact h.parseOGprCGprCIl
  | oGprCILpGprRp => exact h.parseOGprCILpGprRp
  | oGprCI => exact h.parseOGprCI
  | oGprCIl => exact h.parseOGprCIl
  | oGprCDl => exact h.parseOGprCDl
  | oGprCGprCDl => exact .ok _
  | o => exact failsWith_ite
  | pseudo => exact h.parsePseudo
  | oGprCCsrCGpr => exact h.parseOGprCCsrCGpr
  | oGprCCsrCI => exact h.parseOGprCCsrCI
  | oFprCILpGprRp => exact h.parseOFprCILpGprRp
  | _ => exact h.parseRegisters (by decide)

theorem parseSyntaxes (hopcode : p.currentToken.type = .opcode) :
    ∀ {types : List SyntaxType},
      (.oGprCDl ∈ types → ∃ entry ∈ labelLoads, entry.1 = p.currentToken.value) →
      FailsWith Err (Parser.parseSyntaxes cfg types p) := by
  have ht : p.currentToken.type ≠ .eof := by simp [hopcode]
  intro types
  induction types with
  | nil => exact fun _ => .ok _
  | cons type types ih =>
    intro hname
    have hfirst : p.ParsesAs (p.parseSyntax cfg type) :=
      parsesAs_parseSyntax ht hopcode fun h => hname (h ▸ List.mem_cons_self)
    refine .bind (h.parseSyntax type) ?_
    rintro ⟨valid, p₁⟩ heq
    -- a syntax that does not fit leaves the parser alone
    rcases hfirst _ heq with hfalse | ⟨rfl, -⟩
    · cases hfalse
      exact ih fun h => hname (List.mem_cons_of_mem type h)
    · exact .ok _

theorem parseTextItem : FailsWith Err (p.parseTextItem cfg) := by
  unfold Parser.parseTextItem
  refine .ite (fun _ => .ok _) fun _ => .ite (fun hopcode => ?_) fun _ => .ok _
  unfold parseInstruction
  split
  · exact .ok _
  · refine .bind (h.parseSyntaxes hopcode fun hmem => label_load_of_mem _ hmem) ?_
    rintro ⟨valid, p₁⟩ -
    exact failsWith_ite

end OperandsFail

end Parser

end RiscvSim

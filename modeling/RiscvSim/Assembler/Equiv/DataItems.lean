import RiscvSim.Assembler.Parser

/-!
# The items of the data sections

What parsing an item adds to the parser: a label, or data elements and errors
(`Parser.ensures_parseDataItem`).
-/

namespace RiscvSim

open Lib

/-- The tokens `rest'` come after the first of the tokens `rest`. -/
structure Advances (rest rest' : List Token) : Prop where
  suffix : rest' <:+ rest
  shorter : rest'.length < rest.length

theorem Advances.trans_suffix {rest rest' rest'' : List Token} (h : Advances rest rest')
    (hsuffix : rest'' <:+ rest') : Advances rest rest'' :=
  ⟨hsuffix.trans h.suffix, Nat.lt_of_le_of_lt hsuffix.length_le h.shorter⟩

namespace Parser

variable {reader : FloatReader} {p p' p'' : Parser}

/-! ### Moving on -/

theorem rest_of_ne_eof (h : p.currentToken.type ≠ .eof) :
    ∃ tokens, p.rest = p.currentToken :: tokens := by
  unfold currentToken at h ⊢
  cases hrest : p.rest with
  | nil =>
    rw [hrest] at h
    exact absurd rfl h
  | cons token tokens => exact ⟨tokens, rfl⟩

theorem advances_nextToken (h : p.currentToken.type ≠ .eof) :
    Advances p.rest p.nextToken.rest := by
  obtain ⟨tokens, hrest⟩ := rest_of_ne_eof h
  show Advances p.rest p.rest.tail
  rw [hrest]
  exact ⟨List.suffix_cons _ tokens, Nat.lt_succ_self _⟩

theorem advances_dropWhile {test : Token → Bool} {token : Token} {tokens : List Token}
    (h : test token = true) : Advances (token :: tokens) ((token :: tokens).dropWhile test) := by
  rw [List.dropWhile_cons_of_pos h]
  have hsuffix := List.dropWhile_suffix (l := tokens) test
  exact ⟨hsuffix.trans (List.suffix_cons token tokens), Nat.lt_succ_of_le hsuffix.length_le⟩

theorem advances_skipCurrentLine (h : p.currentToken.type ≠ .eof) :
    Advances p.rest p.skipCurrentLine.rest := by
  obtain ⟨tokens, hrest⟩ := rest_of_ne_eof h
  show Advances p.rest (p.rest.dropWhile _)
  rw [hrest]
  refine advances_dropWhile ?_
  rw [beq_self_eq_true, Bool.true_and, bne_iff_ne]
  exact h

/-! ### Data elements -/

/-- `p'` is `p` with data elements appended, errors recorded and tokens consumed. -/
structure Appends (p p' : Parser) : Prop where
  suffix : p'.rest <:+ p.rest
  frame : p' = { p with
    rest := p'.rest, errors := p'.errors, dataBuffer := p'.dataBuffer, dataIndex := p'.dataIndex }

theorem Appends.refl (p : Parser) : p.Appends p :=
  ⟨List.suffix_refl _, rfl⟩

theorem Appends.trans (h : p.Appends p') (h' : p'.Appends p'') : p.Appends p'' where
  suffix := h'.suffix.trans h.suffix
  frame := by
    rw [h'.frame, h.frame]

theorem appends_nextToken (p : Parser) : p.Appends p.nextToken :=
  ⟨List.tail_suffix p.rest, rfl⟩

theorem appends_reportError (p : Parser) (line : BitVec 32) (message : String) :
    p.Appends (p.reportError line message) :=
  ⟨List.suffix_refl _, rfl⟩

/-- No error is recorded between the two parsers, or one. -/
def ReportsOnce (p p' : Parser) : Prop :=
  p'.errors = p.errors ∨ ∃ line message, p'.errors = (p.reportError line message).errors

/-- `p'` is `p` with the elements of one operand appended, or an error recorded. -/
structure Pushes (p p' : Parser) : Prop where
  reports : p.ReportsOnce p'
  frame : p' = { p with
    errors := p'.errors, dataBuffer := p'.dataBuffer, dataIndex := p'.dataIndex }

theorem Pushes.rest (h : p.Pushes p') : p'.rest = p.rest := by
  rw [h.frame]

theorem Pushes.appends (h : p.Pushes p') : p.Appends p' where
  suffix := h.rest ▸ List.suffix_refl _
  frame := by
    rw [h.frame]

theorem pushes_align (p : Parser) (alignment : BitVec 64) : p.Pushes (p.align alignment) := by
  unfold align
  split
  · exact ⟨.inl rfl, rfl⟩
  · exact ⟨.inl rfl, rfl⟩

theorem appends_align (p : Parser) (alignment : BitVec 64) : p.Appends (p.align alignment) :=
  (pushes_align p alignment).appends

theorem pushes_pushData (p : Parser) (alignment size : BitVec 64) (element : DataElement) :
    p.Pushes (p.pushData alignment size element) where
  reports := (pushes_align p alignment).reports
  frame := by
    unfold pushData
    rw [(pushes_align p alignment).frame]

/-- What appending the elements of an operand does, whatever directive it belongs to. -/
abbrev PushesAs (push : String → Parser → Except AssemblerError Parser) : Prop :=
  ∀ value p, Ensures p.Pushes (push value p)

theorem pushesAs_pushNumber (size : BitVec 64) (element : BitVec 64 → DataElement) :
    PushesAs (pushNumber size element) :=
  fun _ p => .map fun _ => p.pushes_pushData _ _ _

theorem pushesAs_pushFloat : PushesAs (pushFloat reader) :=
  fun _ p => .map fun _ => p.pushes_pushData _ _ _

theorem pushesAs_pushDouble : PushesAs (pushDouble reader) :=
  fun _ p => .map fun _ => p.pushes_pushData _ _ _

theorem pushesAs_pushZeros : PushesAs pushZeros := by
  refine fun value p => .map fun num => ?_
  split
  · exact ⟨.inr ⟨_, _, rfl⟩, rfl⟩
  · exact ⟨.inl rfl, rfl⟩

theorem pushesAs_pushString : PushesAs pushString :=
  fun _ p => .ok (p.pushes_pushData _ _ _)

/-- A directive of a data section: the type of its operands and what it does with one. -/
structure DataDirective where
  type : TokenType
  push : String → Parser → Except AssemblerError Parser
  pushes : PushesAs push
  type_ne : type ≠ .eof

/-- An item of a data section is a label, the operands of a directive, or an error. -/
theorem parseDataItem_cases (reader : FloatReader) (p : Parser) :
    p.currentToken.type = .label ∧ p.parseDataItem reader = .ok p.parseDataLabel ∨
    p.currentToken.type ≠ .label ∧
      ((∃ d : DataDirective, p.parseDataItem reader = p.parseOperands d.type d.push) ∨
        ∃ line message, p.parseDataItem reader = .ok (p.reportError line message).nextToken) := by
  unfold parseDataItem
  by_cases hlabel : p.currentToken.type = .label
  · exact .inl ⟨hlabel, if_pos hlabel⟩
  rw [if_neg hlabel]
  refine .inr ⟨hlabel, ?_⟩
  split_ifs
  · exact .inl ⟨⟨.num, _, pushesAs_pushNumber _ _, nofun⟩, rfl⟩
  · exact .inl ⟨⟨.num, _, pushesAs_pushNumber _ _, nofun⟩, rfl⟩
  · exact .inl ⟨⟨.num, _, pushesAs_pushNumber _ _, nofun⟩, rfl⟩
  · exact .inl ⟨⟨.num, _, pushesAs_pushNumber _ _, nofun⟩, rfl⟩
  · exact .inl ⟨⟨.float, _, pushesAs_pushFloat, nofun⟩, rfl⟩
  · exact .inl ⟨⟨.float, _, pushesAs_pushDouble, nofun⟩, rfl⟩
  · exact .inl ⟨⟨.num, _, pushesAs_pushZeros, nofun⟩, rfl⟩
  · exact .inl ⟨⟨.string, _, pushesAs_pushString, nofun⟩, rfl⟩
  · exact .inr ⟨_, _, rfl⟩

/-- The operands of a directive, whatever it does with one of them. -/
theorem ensures_parseElements {type : TokenType}
    {push : String → Parser → Except AssemblerError Parser}
    (hpush : PushesAs push) :
    ∀ (tokens : List Token) (p : Parser),
      Ensures p.Appends (parseElements type push tokens p) := by
  intro tokens
  induction tokens with
  | nil => exact fun p => .ok (.refl p)
  | cons token tokens ih =>
    intro p
    unfold parseElements
    refine .ite (fun _ => ?_) fun _ => .ite (fun _ => ?_) fun _ => .ok (.refl p)
    · refine .bind (hpush token.value p) fun p₁ h => ?_
      exact (ih p₁.nextToken).imp fun p₂ h' =>
        (h.appends.trans p₁.appends_nextToken).trans h'
    · exact (ih p.nextToken).imp fun p₂ h => p.appends_nextToken.trans h

theorem ensures_parseOperands {type : TokenType}
    {push : String → Parser → Except AssemblerError Parser}
    (hpush : PushesAs push) (p : Parser) :
    Ensures p.nextToken.Appends (p.parseOperands type push) :=
  ensures_parseElements hpush p.rest.tail p.nextToken

/-- **An item of a data section** defines a label or appends data elements. -/
theorem ensures_parseDataItem (p : Parser) :
    Ensures (fun p' => p.currentToken.type = .label ∧ p' = p.parseDataLabel ∨
        p.currentToken.type ≠ .label ∧ ∃ q, q.Appends p' ∧ p.Appends q ∧ q.rest = p.rest.tail)
      (p.parseDataItem reader) := by
  rcases parseDataItem_cases reader p with ⟨hlabel, heq⟩ | ⟨hlabel, ⟨d, heq⟩ | heq⟩
  · rw [heq]
    exact .ok (.inl ⟨hlabel, rfl⟩)
  · rw [heq]
    exact (ensures_parseOperands d.pushes p).imp fun _ h =>
      .inr ⟨hlabel, _, h, p.appends_nextToken, rfl⟩
  · obtain ⟨line, message, heq⟩ := heq
    rw [heq]
    exact .ok (.inr ⟨hlabel, _, .refl _,
      (p.appends_reportError _ _).trans (appends_nextToken _), rfl⟩)

end Parser

end RiscvSim

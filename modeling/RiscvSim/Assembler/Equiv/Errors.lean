import RiscvSim.Assembler.Equiv.Passes

/-!
# The errors of a parse

The parser counts its errors with 32 bits, and every error twice.  Each pass
finds at most one error for a token, where a reference that waits for the end of
the parse is set aside as one of them.

* **`Parser.errors_of_parse`**: the counter of a parse, and how many errors it can have.
* **`Parser.count_eq_zero_iff`**: a program of less than `2 ^ 30` tokens whose
  counter is zero has no errors.
-/

namespace RiscvSim

open Lib

theorem Advances.suffix_tail {rest rest' : List Token} (h : Advances rest rest') :
    rest' <:+ rest.tail := by
  obtain ⟨hsuffix, hshorter⟩ := h
  cases rest with
  | nil => exact absurd hshorter (Nat.not_lt_zero _)
  | cons token tokens =>
    rcases List.suffix_cons_iff.mp hsuffix with rfl | hsuffix
    · exact absurd hshorter (Nat.lt_irrefl _)
    · exact hsuffix

namespace Parser

variable {cfg : VmConfig} {reader : FloatReader} {fuel n : Nat} {p p' q : Parser}
  {tokens rest rest' : List Token}

/-! ### The tokens ahead -/

/-- The tokens that are not the end of the file. -/
def pending (tokens : List Token) : Nat :=
  tokens.countP (·.type != .eof)

theorem pending_le_of_suffix (h : rest' <:+ rest) : pending rest' ≤ pending rest :=
  h.sublist.countP_le

theorem pending_eq_tail (ht : p.currentToken.type ≠ .eof) :
    pending p.rest = pending p.rest.tail + 1 := by
  obtain ⟨tokens, hrest⟩ := rest_of_ne_eof ht
  unfold pending
  rw [hrest]
  exact List.countP_cons_of_pos (bne_iff_ne.mpr ht)

/-! ### The counter -/

/-- Every error is counted twice. -/
def Counted (p : Parser) : Prop :=
  p.errors.count = BitVec.ofNat 32 (2 * p.errors.parseErrors.length)

theorem Counted.reportError (h : p.Counted) (line : BitVec 32) (message : String) :
    (p.reportError line message).Counted := by
  show p.errors.count + 1#32 + 1#32 =
    BitVec.ofNat 32 (2 * (p.errors.parseErrors ++ [ParseError.mk line message]).length)
  rw [show p.errors.count = _ from h, List.length_append, List.length_singleton, Nat.mul_add,
    BitVec.ofNat_add, BitVec.add_assoc]
  rfl

/-- What an error adds. -/
theorem ReportsOnce.counted (h : p.ReportsOnce p') (hcounted : p.Counted) : p'.Counted := by
  unfold Counted
  rcases h with herrors | ⟨line, message, herrors⟩
  · rw [herrors]
    exact hcounted
  · rw [herrors]
    exact hcounted.reportError line message

theorem ReportsOnce.length_le (h : p.ReportsOnce p') :
    p'.errors.parseErrors.length ≤ p.errors.parseErrors.length + 1 := by
  rcases h with herrors | ⟨line, message, herrors⟩
  · rw [herrors]
    exact Nat.le_succ _
  · rw [herrors]
    exact Nat.le_of_eq List.length_append

/-- Errors are only ever added. -/
theorem ReportsOnce.errors_prefix (h : p.ReportsOnce p') :
    p.errors.parseErrors <+: p'.errors.parseErrors := by
  rcases h with herrors | ⟨line, message, herrors⟩
  · exact ⟨[], by rw [List.append_nil, herrors]⟩
  · rw [herrors]
    exact List.prefix_append _ _

/-! ### One error for a token -/

/-- The errors found, the references that wait and the tokens ahead are `n` at most. -/
structure ErrorsWithin (n : Nat) (p : Parser) : Prop where
  counted : p.Counted
  bounded : p.errors.parseErrors.length + p.backPatch.length + pending p.rest ≤ n

namespace ErrorsWithin

theorem move (h : ErrorsWithin n p) (hsuffix : rest <:+ p.rest) :
    ErrorsWithin n { p with rest := rest } := by
  refine ⟨h.counted, ?_⟩
  have hbounded := h.bounded
  have hpending := pending_le_of_suffix hsuffix
  dsimp only
  omega

/-- A token left behind pays for an error or a reference that waits. -/
theorem advance (h : ErrorsWithin n p) (ht : p.currentToken.type ≠ .eof)
    (hcounted : p'.Counted)
    (hcost : p'.errors.parseErrors.length + p'.backPatch.length ≤
      p.errors.parseErrors.length + p.backPatch.length + 1)
    (hrest : p'.rest <:+ p.rest.tail) : ErrorsWithin n p' := by
  refine ⟨hcounted, ?_⟩
  have hbounded := h.bounded
  have htail := pending_eq_tail ht
  have hpending := pending_le_of_suffix hrest
  omega

theorem advance_reportsOnce (h : ErrorsWithin n p) (ht : p.currentToken.type ≠ .eof)
    (hreports : p.ReportsOnce p') (hpatch : p'.backPatch = p.backPatch)
    (hrest : p'.rest <:+ p.rest.tail) : ErrorsWithin n p' := by
  refine h.advance ht (hreports.counted h.counted) ?_ hrest
  have hlength := hreports.length_le
  rw [hpatch]
  omega

theorem report (h : ErrorsWithin n p) (ht : p.currentToken.type ≠ .eof) (line : BitVec 32)
    (message : String) : ErrorsWithin n (p.reportError line message).nextToken :=
  h.advance_reportsOnce ht (.inr ⟨line, message, rfl⟩) rfl (List.suffix_refl _)

theorem stable : Stable fun _ p => ErrorsWithin n p where
  move := fun hsuffix h => h.move hsuffix
  report := fun ht h => h.report ht _ _

/-! ### Data sections -/

theorem parseDataLabel (h : ErrorsWithin n p) (ht : p.currentToken.type ≠ .eof) :
    ErrorsWithin n p.parseDataLabel := by
  unfold Parser.parseDataLabel
  split
  · have halign := p.pushes_align ‹_›
    refine h.advance_reportsOnce ht halign.reports ?_ ?_
    · show (p.align _).backPatch = p.backPatch
      rw [halign.frame]
    · show (p.align _).rest.tail <:+ p.rest.tail
      exact ⟨[], by rw [List.nil_append, halign.rest]⟩
  · exact h.advance_reportsOnce ht (.inr ⟨_, _, rfl⟩) rfl (List.suffix_refl _)

/-- The operands of a directive: each pays for itself. -/
theorem parseElements {type : TokenType} {push : String → Parser → Except AssemblerError Parser}
    (hpush : PushesAs push) (htype : type ≠ .eof) :
    ∀ {tokens : List Token} {p : Parser}, ErrorsWithin n p → p.rest = tokens →
      Ensures (ErrorsWithin n) (parseElements type push tokens p) := by
  intro tokens
  induction tokens with
  | nil => exact fun h _ => .ok h
  | cons token tokens ih =>
    intro p h hrest
    have htail : p.rest.tail = tokens := by rw [hrest]; rfl
    unfold Parser.parseElements
    refine .ite (fun heq => ?_) fun _ => .ite (fun _ => ?_) fun _ => .ok h
    -- an operand, whose token pays for what `push` may report
    · have ht : p.currentToken.type ≠ .eof := by
        unfold currentToken
        rw [hrest]
        exact heq ▸ htype
      refine .bind (hpush token.value p) fun p₁ hpushes => ?_
      have hnext : p₁.nextToken.rest = p.rest.tail := congrArg List.tail hpushes.rest
      refine ih (h.advance_reportsOnce ht hpushes.reports ?_ ?_) (hnext.trans htail)
      · show p₁.backPatch = p.backPatch
        rw [hpushes.frame]
      · exact hnext ▸ List.suffix_refl _
    · exact ih (h.move (List.tail_suffix p.rest)) htail

theorem parseDataItem (h : ErrorsWithin n p) (hgo : endsSection p.currentToken = false)
    (hparse : p.parseDataItem reader = .ok p') : ErrorsWithin n p' := by
  have ht : p.currentToken.type ≠ .eof := by
    intro heof
    simp [endsSection, heof] at hgo
  rcases parseDataItem_cases reader p with
    ⟨-, heq⟩ | ⟨-, ⟨d, heq⟩ | ⟨line, message, heq⟩⟩
  · obtain rfl := Except.ok.inj (heq.symm.trans hparse)
    exact h.parseDataLabel ht
  · rw [heq] at hparse
    exact parseElements d.pushes d.type_ne (h.move (List.tail_suffix p.rest)) rfl p' hparse
  · obtain rfl := Except.ok.inj (heq.symm.trans hparse)
    exact h.report ht _ _

/-! ### Text sections -/

theorem parseTextLabel (h : ErrorsWithin n p) (ht : p.currentToken.type ≠ .eof) :
    ErrorsWithin n p.parseTextLabel := by
  unfold Parser.parseTextLabel
  split
  · exact h.report ht _ _
  · exact h.advance_reportsOnce ht (.inl rfl) rfl (List.suffix_refl _)

/-- A line adds an error or a reference that waits, or neither. -/
theorem adds (h : ErrorsWithin n p) (ht : p.currentToken.type ≠ .eof) (hadds : p.Adds q)
    (hrest : rest <:+ p.rest.tail) : ErrorsWithin n { q with rest := rest } := by
  cases hadds with
  | report line message =>
    exact h.advance_reportsOnce ht (.inr ⟨line, message, rfl⟩) rfl hrest
  | one _ => exact h.advance_reportsOnce ht (.inl rfl) rfl hrest
  | two _ _ => exact h.advance_reportsOnce ht (.inl rfl) rfl hrest
  | load _ _ _ _ => exact h.advance_reportsOnce ht (.inl rfl) rfl hrest
  | await _ =>
    -- no error yet, but a place in the list that the end of the parse goes through
    refine h.advance ht h.counted ?_ hrest
    show _ + (p.backPatch ++ [p.instructionIndex]).length ≤ _
    rw [List.length_append, List.length_singleton]
    exact Nat.le_of_eq (Nat.add_assoc _ _ _).symm

theorem parseTextItem (h : ErrorsWithin n p) (hgo : endsText p.currentToken = false)
    (hparse : p.parseTextItem cfg = .ok p') : ErrorsWithin n p' := by
  have ht := currentToken_ne_eof hgo
  rcases ensures_parseTextItem ht p' hparse with ⟨-, rfl⟩ | ⟨-, ⟨q, hadds, hq⟩, hadvances⟩
  · exact h.parseTextLabel ht
  · rw [hq]
    exact h.adds ht hadds hadvances.suffix_tail

end ErrorsWithin

/-! ### The whole parse -/

/-- A round of the back-patching finds an error at most, and defines no symbol. -/
theorem reportsOnce_backPatchUnit (p : Parser) (index : BitVec 32) :
    p.ReportsOnce (p.backPatchUnit index) ∧
      (p.backPatchUnit index).symbolTable = p.symbolTable := by
  unfold backPatchUnit
  split
  · exact ⟨.inl rfl, rfl⟩
  split
  · exact ⟨.inr ⟨_, _, rfl⟩, rfl⟩
  dsimp only
  split
  · split
    · exact ⟨.inr ⟨_, _, rfl⟩, rfl⟩
    split
    · exact ⟨.inl rfl, rfl⟩
    · exact ⟨.inr ⟨_, _, rfl⟩, rfl⟩
  split
  · split
    · exact ⟨.inl rfl, rfl⟩
    · exact ⟨.inr ⟨_, _, rfl⟩, rfl⟩
  · exact ⟨.inr ⟨_, _, rfl⟩, rfl⟩

theorem counted_backPatch (indices : List (BitVec 32)) : ∀ {p : Parser}, p.Counted →
    (indices.foldl backPatchUnit p).Counted ∧
      (indices.foldl backPatchUnit p).errors.parseErrors.length ≤
        p.errors.parseErrors.length + indices.length := by
  induction indices with
  | nil => exact fun h => ⟨h, Nat.le_refl _⟩
  | cons index indices ih =>
    intro p h
    have hreports := (reportsOnce_backPatchUnit p index).1
    obtain ⟨hcounted, hlength⟩ := ih (hreports.counted h)
    have hone := hreports.length_le
    refine ⟨hcounted, ?_⟩
    rw [List.foldl_cons, List.length_cons]
    omega

theorem errors_backPatch (indices : List (BitVec 32)) : ∀ p : Parser,
    p.errors.parseErrors <+: (indices.foldl backPatchUnit p).errors.parseErrors ∧
      (indices.foldl backPatchUnit p).symbolTable = p.symbolTable := by
  induction indices with
  | nil => exact fun p => ⟨List.prefix_rfl, rfl⟩
  | cons index indices ih =>
    intro p
    obtain ⟨hreports, htable⟩ := reportsOnce_backPatchUnit p index
    obtain ⟨herrors, htable'⟩ := ih (p.backPatchUnit index)
    exact ⟨hreports.errors_prefix.trans herrors, htable'.trans htable⟩

/-- **The counter of a parse** is twice the number of its errors, modulo `2 ^ 32`,
and each pass finds one error for a token at most. -/
theorem errors_of_parse (h : parse cfg reader fuel tokens = .ok p) :
    p.errors.count = BitVec.ofNat 32 (2 * p.errors.parseErrors.length) ∧
      p.errors.parseErrors.length ≤ 2 * pending tokens := by
  obtain ⟨p₁, p₂, hfirst, hsecond, -, rfl⟩ := parse_eq_ok h
  have hstart : ErrorsWithin (pending tokens) { rest := tokens } := ⟨rfl, by simp⟩
  have hone : ErrorsWithin (pending tokens) p₁ := firstPass_invariant
    (fun _ p => ErrorsWithin (pending tokens) p) ErrorsWithin.stable
    (fun _ _ _ h => h.parseDataItem) hstart hfirst
  -- the second pass reads the tokens again, so they pay a second time
  have hrewind : ErrorsWithin (2 * pending tokens) (p₁.rewind tokens) := by
    refine ⟨hone.counted, ?_⟩
    have hbounded := hone.bounded
    show p₁.errors.parseErrors.length + p₁.backPatch.length + pending tokens ≤ _
    omega
  have htwo : ErrorsWithin (2 * pending tokens) p₂ := secondPass_invariant
    (fun _ p => ErrorsWithin (2 * pending tokens) p) ErrorsWithin.stable
    (fun _ _ _ h => h.parseTextItem) hrewind hsecond
  obtain ⟨hcounted, hlength⟩ := counted_backPatch p₂.backPatch htwo.counted
  have hbounded := htwo.bounded
  exact ⟨hcounted, by omega⟩

/-- **Below `2 ^ 30` tokens the counter is zero only without errors.** -/
theorem count_eq_zero_iff (h : parse cfg reader fuel tokens = .ok p)
    (hlength : pending tokens < 2 ^ 30) :
    p.errors.count = 0#32 ↔ p.errors.parseErrors = [] := by
  obtain ⟨hcount, hle⟩ := errors_of_parse h
  rw [hcount, ← List.length_eq_zero_iff]
  constructor
  · intro hzero
    -- at most `2 ^ 31 - 2` errors, counted twice, stay below `2 ^ 32`
    have hnat : 2 * p.errors.parseErrors.length % 2 ^ 32 = 0 :=
      (BitVec.toNat_ofNat _ 32).symm.trans (congrArg BitVec.toNat hzero)
    omega
  · intro hzero
    rw [hzero]

end Parser

end RiscvSim

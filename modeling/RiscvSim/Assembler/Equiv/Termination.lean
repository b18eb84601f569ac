import RiscvSim.Assembler.Equiv.Failures
import RiscvSim.Assembler.Equiv.Passes

/-!
# Where the parser ends

Every round of the loops of the parser moves on or fails, with one exception: the
first pass skips text up to the next name of another section, and stays where it
is in front of a label or a mnemonic with such a name.

* **`Parser.parse_unfinished_iff`**: the parser goes on for ever exactly when the
  first pass comes to such a token.
-/

namespace RiscvSim

open Lib

/-- The loops of the computation come to their ends within their bounds. -/
abbrev Finishes {α : Type} (x : Except AssemblerError α) : Prop :=
  FailsWith (· ≠ .unfinished) x

namespace Parser

variable {cfg : VmConfig} {reader : FloatReader} {fuel : Nat} {p p' : Parser}

theorem finishes_lookupAt {β : Type} (table : List (String × β)) (key : String) :
    Finishes (lookupAt table key) := by
  unfold lookupAt
  split
  · exact .ok _
  · exact .error (by decide)

theorem operandsFail_finishes (p : Parser) : OperandsFail (· ≠ .unfinished) p where
  register := fun _ _ => finishes_lookupAt _ _
  number := fun _ _ => .mapError _ (by simp)
  csr := fun _ _ => finishes_lookupAt _ _
  rm := fun n _ => by
    unfold roundingModeAt
    split
    · exact .ok _
    · exact .error (by simp)

theorem finishes_parseTextItem (p : Parser) : Finishes (p.parseTextItem cfg) :=
  p.operandsFail_finishes.parseTextItem

/-! ### Sections -/

theorem finishes_pushNumber (size : BitVec 64) (element : BitVec 64 → DataElement) (value : String)
    (p : Parser) : Finishes (p.pushNumber size element value) :=
  .map (.mapError _ (by simp))

theorem finishes_parseElements {type : TokenType}
    {push : String → Parser → Except AssemblerError Parser}
    (hpush : ∀ value p, Finishes (push value p)) :
    ∀ (tokens : List Token) (p : Parser), Finishes (parseElements type push tokens p) := by
  intro tokens
  induction tokens with
  | nil => exact fun p => .ok p
  | cons token tokens ih =>
    intro p
    unfold parseElements
    refine .ite (fun _ => ?_) fun _ => .ite (fun _ => ih _) fun _ => .ok p
    exact .bind (hpush token.value p) fun p₁ _ => ih p₁.nextToken

theorem finishes_parseDataItem (p : Parser) : Finishes (p.parseDataItem reader) := by
  unfold parseDataItem
  refine .ite (fun _ => .ok _) fun _ => ?_
  refine .ite (fun _ => finishes_parseElements (finishes_pushNumber _ _) _ _) fun _ => ?_
  refine .ite (fun _ => finishes_parseElements (finishes_pushNumber _ _) _ _) fun _ => ?_
  refine .ite (fun _ => finishes_parseElements (finishes_pushNumber _ _) _ _) fun _ => ?_
  refine .ite (fun _ => finishes_parseElements (finishes_pushNumber _ _) _ _) fun _ => ?_
  refine .ite (fun _ => finishes_parseElements (fun _ _ => .map (.mapError _ (by simp))) _ _)
    fun _ => ?_
  refine .ite (fun _ => finishes_parseElements (fun _ _ => .map (.mapError _ (by simp))) _ _)
    fun _ => ?_
  refine .ite (fun _ => finishes_parseElements (fun _ _ => .map (.mapError _ (by simp))) _ _)
    fun _ => ?_
  exact .ite (fun _ => finishes_parseElements (fun _ _ => .ok _) _ _) fun _ => .ok _

/-- A round of a data section moves on. -/
theorem advances_parseDataItem (hgo : endsSection p.currentToken = false)
    (h : p.parseDataItem reader = .ok p') : Advances p.rest p'.rest := by
  have hne : p.currentToken.type ≠ .eof := by
    intro heof
    simp [endsSection, heof] at hgo
  rcases ensures_parseDataItem p p' h with ⟨-, rfl⟩ | ⟨-, q, happends, -, hrest⟩
  · have hlabel : p.parseDataLabel.rest = p.nextToken.rest := by
      unfold parseDataLabel
      cases directiveAlignments.lookup (p.peekToken 1).value with
      | none => rfl
      | some alignment =>
        have hframe := (p.appends_align alignment).frame
        show (p.align alignment).rest.tail = p.rest.tail
        unfold align
        split
        · rfl
        · rfl
    rw [hlabel]
    exact advances_nextToken hne
  · have hnext : Advances p.rest q.rest := by
      rw [hrest]
      exact advances_nextToken hne
    exact hnext.trans_suffix happends.suffix

/-- A round of a text section moves on. -/
theorem advances_parseTextItem (hgo : endsText p.currentToken = false)
    (h : p.parseTextItem cfg = .ok p') : Advances p.rest p'.rest := by
  have hne := currentToken_ne_eof hgo
  rcases ensures_parseTextItem hne p' h with ⟨-, rfl⟩ | ⟨-, hline⟩
  · unfold parseTextLabel
    split
    · exact advances_nextToken hne
    · exact advances_nextToken hne
  · exact hline.advances

/-- A loop over the tokens whose rounds move on comes to an end or fails. -/
theorem runWithin_of_advances {stop : Parser → Bool} {step : Parser → Except AssemblerError Parser}
    (hround : ∀ q q', stop q = false → step q = .ok q' → Advances q.rest q'.rest)
    (hfinishes : ∀ q, Finishes (step q)) (hfuel : p.rest.length < fuel) :
    (∃ p', runWithin .unfinished stop step fuel p = .ok p' ∧ p'.rest <:+ p.rest) ∨
      ∃ e, runWithin .unfinished stop step fuel p = .error e ∧ e ≠ .unfinished := by
  rcases runWithin_cases AssemblerError.unfinished (·.rest.length) (fun q => q.rest <:+ p.rest)
      (fun q q' hsuffix hgo hstep =>
        ⟨(hround q q' hgo hstep).suffix.trans hsuffix, (hround q q' hgo hstep).shorter⟩)
      (List.suffix_refl p.rest) hfuel with ⟨p', hp', hsuffix, -⟩ | ⟨q, e, he, -, -, hstep⟩
  · exact .inl ⟨p', hp', hsuffix⟩
  · exact .inr ⟨e, he, hfinishes q e hstep⟩

theorem parseDataDirective_cases (hfuel : p.rest.length < fuel) :
    (∃ p', p.parseDataDirective reader fuel = .ok p' ∧ p'.rest <:+ p.rest) ∨
      ∃ e, p.parseDataDirective reader fuel = .error e ∧ e ≠ .unfinished :=
  runWithin_of_advances (fun _ _ hgo hstep => advances_parseDataItem hgo hstep)
    finishes_parseDataItem hfuel

theorem parseTextDirective_cases (cfg : VmConfig) (hfuel : p.rest.length < fuel) :
    (∃ p', p.parseTextDirective cfg fuel = .ok p' ∧ p'.rest <:+ p.rest) ∨
      ∃ e, p.parseTextDirective cfg fuel = .error e ∧ e ≠ .unfinished :=
  runWithin_of_advances (fun _ _ hgo hstep => advances_parseTextItem hgo hstep)
    finishes_parseTextItem hfuel

/-- A text section that starts at a label or a mnemonic moves on. -/
theorem advances_parseTextDirective (hgo : endsText p.currentToken = false)
    (h : p.parseTextDirective cfg fuel = .ok p') : Advances p.rest p'.rest := by
  have hrun := runUntil_of_runWithin h
  cases fuel with
  | zero => cases hrun
  | succ fuel =>
    rw [runUntil, hgo] at hrun
    cases hstep : p.parseTextItem cfg with
    | error e =>
      rw [hstep] at hrun
      cases hrun
    | ok p₁ =>
      rw [hstep] at hrun
      have hsuffix : p'.rest <:+ p₁.rest :=
        (reaches_of_runUntil hrun).1.invariant (fun q => q.rest <:+ p₁.rest)
          (fun q q' hq hgo hstep => (advances_parseTextItem hgo hstep).suffix.trans hq)
          (List.suffix_refl _)
      exact (advances_parseTextItem hgo hstep).trans_suffix hsuffix

/-! ### Passes -/

/-- A label or a mnemonic at which the first pass takes a section to begin. -/
def Stuck (p : Parser) : Prop :=
  (p.currentToken.type = .label ∨ p.currentToken.type = .opcode) ∧
    (p.currentToken.value = "data" ∨ p.currentToken.value = "section" ∨
      p.currentToken.value = "bss")

theorem firstPassItem_of_stuck (h : p.Stuck) : firstPassItem reader fuel p = .ok p := by
  obtain ⟨htype, hvalue⟩ := h
  have hdirective : ∀ name, p.atDirective name = false := by
    intro name
    unfold atDirective
    rcases htype with htype | htype <;> rw [htype, Bool.and_eq_false_iff] <;> exact .inr rfl
  have hstart : (p.atDirective "text" || p.currentToken.type == .label ||
      p.currentToken.type == .opcode) = true := by
    rcases htype with htype | htype <;> simp [htype]
  have hskips : skipsText p.currentToken = false := by
    unfold skipsText
    rcases hvalue with hvalue | hvalue | hvalue <;> simp [hvalue]
  have hskip : p.skipWhile skipsText = p := by
    unfold skipWhile currentToken at *
    cases hrest : p.rest with
    | nil =>
      rw [List.dropWhile_nil, ← hrest]
    | cons token tokens =>
      rw [hrest] at hskips
      rw [List.dropWhile_cons_of_neg (by simpa using hskips), ← hrest]
  unfold firstPassItem
  rw [hdirective, hdirective, hdirective, if_neg (by decide), if_neg (by decide),
    if_neg (by decide), if_pos hstart, hskip]

theorem advances_skipWhile {test : Token → Bool} (hne : p.currentToken.type ≠ .eof)
    (h : test p.currentToken = true) : Advances p.rest (p.skipWhile test).rest := by
  obtain ⟨tokens, hrest⟩ := rest_of_ne_eof hne
  show Advances p.rest (p.rest.dropWhile test)
  rw [hrest]
  exact advances_dropWhile h

/-- What a round of a pass does elsewhere. -/
def MovesOn (p : Parser) (x : Except AssemblerError Parser) : Prop :=
  (∃ p', x = .ok p' ∧ Advances p.rest p'.rest) ∨ ∃ e, x = .error e ∧ e ≠ .unfinished

theorem movesOn_nextToken (hne : p.currentToken.type ≠ .eof) : p.MovesOn (.ok p.nextToken) :=
  .inl ⟨_, rfl, advances_nextToken hne⟩

theorem movesOn_of_cases {q : Parser} {x : Except AssemblerError Parser}
    (hadvances : Advances p.rest q.rest)
    (h : (∃ p', x = .ok p' ∧ p'.rest <:+ q.rest) ∨ ∃ e, x = .error e ∧ e ≠ .unfinished) :
    p.MovesOn x :=
  h.imp_left fun ⟨p', hx, hsuffix⟩ => ⟨p', hx, hadvances.trans_suffix hsuffix⟩

theorem firstPassItem_cases (reader : FloatReader) (hne : p.currentToken.type ≠ .eof)
    (hstuck : ¬p.Stuck) (hfuel : p.rest.length < fuel) : p.MovesOn (firstPassItem reader fuel p) := by
  have hnext := advances_nextToken hne
  unfold firstPassItem
  split
  · exact movesOn_nextToken hne
  split
  · refine movesOn_of_cases hnext (parseDataDirective_cases ?_)
    exact Nat.lt_trans hnext.shorter hfuel
  split
  · refine .inl ⟨_, rfl, hnext.trans_suffix ?_⟩
    exact List.dropWhile_suffix _
  split
  · rename_i hsection hdata hbss htext
    refine .inl ⟨_, rfl, advances_skipWhile hne ?_⟩
    -- the name of another section would have been a directive or a stuck token
    unfold skipsText
    rw [Bool.and_eq_true, Bool.and_eq_true, Bool.and_eq_true, bne_iff_ne, bne_iff_ne, bne_iff_ne,
      bne_iff_ne]
    simp only [Bool.or_eq_true, beq_iff_eq, atDirective, Bool.and_eq_true] at htext
    refine ⟨⟨⟨hne, ?_⟩, ?_⟩, ?_⟩
    all_goals
      intro hvalue
      rcases htext with (⟨htext, -⟩ | hlabel) | hopcode
    all_goals first
      | exact absurd (hvalue.symm.trans htext) (by decide)
      | exact hstuck ⟨.inl hlabel, by simp [hvalue]⟩
      | exact hstuck ⟨.inr hopcode, by simp [hvalue]⟩
  · exact .inl ⟨_, rfl, hnext⟩

theorem secondPassItem_cases (cfg : VmConfig) (hne : p.currentToken.type ≠ .eof) (hfuel : p.rest.length < fuel) :
    p.MovesOn (secondPassItem cfg fuel p) := by
  have hnext := advances_nextToken hne
  unfold secondPassItem
  split
  · exact movesOn_nextToken hne
  split
  · rename_i hdata
    refine .inl ⟨_, rfl, advances_skipWhile hne ?_⟩
    unfold skipsData
    rw [Bool.and_eq_true, bne_iff_ne, bne_iff_ne]
    simp only [Bool.or_eq_true, beq_iff_eq, atDirective, Bool.and_eq_true] at hdata
    refine ⟨hne, fun hvalue => ?_⟩
    rcases hdata with ⟨hdata, -⟩ | ⟨hbss, -⟩
    · exact absurd (hvalue.symm.trans hdata) (by decide)
    · exact absurd (hvalue.symm.trans hbss) (by decide)
  split
  · refine movesOn_of_cases hnext (parseTextDirective_cases cfg ?_)
    exact Nat.lt_trans hnext.shorter hfuel
  split
  · rename_i htype
    have hgo : endsText p.currentToken = false := by
      unfold endsText
      rcases htype with htype | htype <;> simp [htype]
    rcases parseTextDirective_cases cfg hfuel with ⟨p', hp', -⟩ | herror
    · exact .inl ⟨p', hp', advances_parseTextDirective hgo hp'⟩
    · exact .inr herror
  · exact .inl ⟨_, rfl, hnext⟩

/-- The tokens at which a pass ends. -/
def atEnd (p : Parser) : Bool :=
  p.currentToken.type == .eof

theorem ne_eof_of_not_atEnd (h : p.atEnd = false) : p.currentToken.type ≠ .eof :=
  fun heof => by simp [atEnd, heof] at h

theorem secondPass_finishes (hfuel : p.rest.length < fuel) : Finishes (secondPass cfg fuel p) := by
  have hround : ∀ q q', q.rest.length < fuel → q.atEnd = false →
      secondPassItem cfg fuel q = .ok q' →
      q'.rest.length < fuel ∧ q'.rest.length < q.rest.length := by
    intro q q' hq hgo hstep
    rcases secondPassItem_cases cfg (ne_eof_of_not_atEnd hgo) hq with
      ⟨p', hp', hadvances⟩ | ⟨e', he', -⟩
    · obtain rfl := Except.ok.inj (hstep.symm.trans hp')
      exact ⟨Nat.lt_trans hadvances.shorter hq, hadvances.shorter⟩
    · exact absurd (hstep.symm.trans he') (by simp)
  intro e he
  rcases runWithin_cases AssemblerError.unfinished (fun q : Parser => q.rest.length)
      (fun q => q.rest.length < fuel) hround hfuel hfuel with ⟨t, ht, -, -⟩ | ⟨q, e', he', hq, hgo, hstep⟩
  · exact absurd (ht.symm.trans he) (by simp)
  · obtain rfl := Except.error.inj (he'.symm.trans he)
    rcases secondPassItem_cases cfg (ne_eof_of_not_atEnd hgo) hq with
      ⟨p', hp', -⟩ | ⟨e'', he'', hne⟩
    · exact absurd (hstep.symm.trans hp') (by simp)
    · obtain rfl := Except.error.inj (hstep.symm.trans he'')
      exact hne

/-- The states of the first pass. -/
abbrev FirstPassReaches (reader : FloatReader) (fuel : Nat) (p p' : Parser) : Prop :=
  Reaches atEnd (firstPassItem reader fuel) p p'

theorem firstPass_finishes (hfuel : p.rest.length < fuel)
    (h : ∀ q, FirstPassReaches reader fuel p q → ¬q.Stuck) : Finishes (firstPass reader fuel p) := by
  have hround : ∀ q q', FirstPassReaches reader fuel p q ∧ q.rest.length < fuel →
      q.atEnd = false → firstPassItem reader fuel q = .ok q' →
      (FirstPassReaches reader fuel p q' ∧ q'.rest.length < fuel) ∧
        q'.rest.length < q.rest.length := by
    rintro q q' ⟨hreaches, hq⟩ hgo hstep
    rcases firstPassItem_cases reader (ne_eof_of_not_atEnd hgo) (h q hreaches) hq with
      ⟨p', hp', hadvances⟩ | ⟨e', he', -⟩
    · obtain rfl := Except.ok.inj (hstep.symm.trans hp')
      exact ⟨⟨hreaches.tail hgo hstep, Nat.lt_trans hadvances.shorter hq⟩, hadvances.shorter⟩
    · exact absurd (hstep.symm.trans he') (by simp)
  intro e he
  rcases runWithin_cases AssemblerError.unfinished (fun q : Parser => q.rest.length)
      (fun q => FirstPassReaches reader fuel p q ∧ q.rest.length < fuel) hround
      ⟨.refl, hfuel⟩ hfuel with ⟨t, ht, -, -⟩ | ⟨q, e', he', ⟨hreaches, hq⟩, hgo, hstep⟩
  · exact absurd (ht.symm.trans he) (by simp)
  · obtain rfl := Except.error.inj (he'.symm.trans he)
    rcases firstPassItem_cases reader (ne_eof_of_not_atEnd hgo) (h q hreaches) hq with
      ⟨p', hp', -⟩ | ⟨e'', he'', hne⟩
    · exact absurd (hstep.symm.trans hp') (by simp)
    · obtain rfl := Except.error.inj (hstep.symm.trans he'')
      exact hne

theorem not_atEnd_of_stuck (h : p.Stuck) : p.atEnd = false := by
  unfold atEnd
  rcases h.1 with htype | htype <;> simp [htype]

theorem firstPass_of_stuck (hreaches : FirstPassReaches reader fuel p p') (h : p'.Stuck) :
    firstPass reader fuel p = .error .unfinished := by
  have hnone : runUntil atEnd (firstPassItem reader fuel) fuel p = none :=
    hreaches.runUntil_eq_none (not_atEnd_of_stuck h) (firstPassItem_of_stuck h)
  show (runUntil atEnd (firstPassItem reader fuel) fuel p).getD _ = _
  rw [hnone]
  rfl

theorem rest_suffix_of_firstPassReaches (hfuel : p.rest.length < fuel)
    (h : FirstPassReaches reader fuel p p') : p'.rest <:+ p.rest := by
  refine Reaches.invariant (fun q => q.rest <:+ p.rest) (fun q q' hq hgo hstep => ?_)
    (List.suffix_refl _) h
  by_cases hstuck : q.Stuck
  · obtain rfl := Except.ok.inj ((firstPassItem_of_stuck hstuck).symm.trans hstep)
    exact hq
  · have hlt : q.rest.length < fuel := Nat.lt_of_le_of_lt hq.length_le hfuel
    rcases firstPassItem_cases reader (ne_eof_of_not_atEnd hgo) hstuck hlt with
      ⟨p', hp', hadvances⟩ | ⟨e', he', -⟩
    · obtain rfl := Except.ok.inj (hstep.symm.trans hp')
      exact hadvances.suffix.trans hq
    · exact absurd (hstep.symm.trans he') (by simp)

theorem parse_eq_unfinished_iff (cfg : VmConfig) {tokens : List Token} (hfuel : tokens.length < fuel) :
    parse cfg reader fuel tokens = .error .unfinished ↔
      ∃ p, FirstPassReaches reader fuel { rest := tokens } p ∧ p.Stuck := by
  constructor
  · intro h
    by_contra hnone
    have hnever : ∀ q, FirstPassReaches reader fuel { rest := tokens } q → ¬q.Stuck :=
      fun q hq hstuck => hnone ⟨q, hq, hstuck⟩
    refine FailsWith.bind (firstPass_finishes hfuel hnever) (fun p₁ _ => ?_) _ h rfl
    exact .bind (secondPass_finishes hfuel) fun _ _ => .ok _
  · rintro ⟨p, hreaches, hstuck⟩
    unfold parse
    rw [firstPass_of_stuck hreaches hstuck]
    rfl

/-- **Where the parser goes on for ever**: exactly where the first pass comes to a
label or a mnemonic named like another section.  Where the program has no such
token, a bound on the rounds above the number of the tokens is enough. -/
theorem parse_unfinished_iff {tokens : List Token} (hfuel : tokens.length < fuel) :
    (parse cfg reader fuel tokens = .error .unfinished ↔
      ∃ p, FirstPassReaches reader fuel { rest := tokens } p ∧ p.Stuck) ∧
    ((∀ token ∈ tokens, token.type = .label ∨ token.type = .opcode →
        token.value ≠ "data" ∧ token.value ≠ "section" ∧ token.value ≠ "bss") →
      parse cfg reader fuel tokens ≠ .error .unfinished) := by
  refine ⟨parse_eq_unfinished_iff cfg hfuel, fun hnames h => ?_⟩
  obtain ⟨p, hreaches, htype, hvalue⟩ := (parse_eq_unfinished_iff cfg hfuel).mp h
  have hne : p.currentToken.type ≠ .eof := by
    rcases htype with htype | htype <;> simp [htype]
  obtain ⟨rest, hrest⟩ := rest_of_ne_eof hne
  have hmem : p.currentToken ∈ tokens := by
    refine (rest_suffix_of_firstPassReaches hfuel hreaches).subset ?_
    rw [hrest]
    exact List.mem_cons_self
  obtain ⟨hdata, hsection, hbss⟩ := hnames _ hmem htype
  rcases hvalue with hvalue | hvalue | hvalue
  · exact hdata hvalue
  · exact hsection hvalue
  · exact hbss hvalue

/-- A label with the name of a section. -/
theorem parse_unfinished_iff_dataLabel :
    parse {} .zeros 3 [⟨.label, "data", 1#32⟩, ⟨.eof, "", 1#32⟩] = .error .unfinished :=
  (parse_unfinished_iff (by decide)).1.mpr ⟨_, .refl, .inl rfl, .inl rfl⟩

end Parser

end RiscvSim

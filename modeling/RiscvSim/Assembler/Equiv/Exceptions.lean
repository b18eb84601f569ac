import RiscvSim.Assembler.Equiv.Fitting
import RiscvSim.Assembler.Equiv.Termination

/-!
# The exceptions on the tokens of the lexer

On readable tokens the parser throws for two reasons only: a number with a fraction
that the conversions refuse, and a floating-point register without an entry in the
table of aliases.

* **`Parser.failsWith_parse`**: so does the whole parse, if it ends.
-/

namespace RiscvSim

open Lib

namespace Parser

variable {cfg : VmConfig} {reader : FloatReader} {fuel : Nat} {p p' : Parser}
  {tokens : List Token}

/-- What the parser throws on the tokens of the lexer; `unfinished` is no exception. -/
inductive Throws (reader : FloatReader) (tokens : List Token) : AssemblerError → Prop
  | unfinished : Throws reader tokens .unfinished
  | float {token : Token} {e : ConversionError} (hmem : token ∈ tokens)
      (htype : token.type = .float)
      (h : reader.stof token.value.toList = .error e ∨ reader.stod token.value.toList = .error e) :
      Throws reader tokens (.conversion e)
  | register {token : Token} (hmem : token ∈ tokens) (htype : token.type = .fpRegister)
      (h : regAliasToName.lookup token.value = none) : Throws reader tokens .outOfRange

/-- The floating-point registers of the lexer without an entry are `ft12` to `ft31`. -/
example : validFloatingPointRegisters.filter (fun reg => (regAliasToName.lookup reg).isNone) =
    (List.range 20).map fun i => "ft" ++ toText (i + 12) := by
  decide +kernel

/-! ### Operands -/

theorem exists_lookupAt {β : Type} {table : List (String × β)} {key : String}
    (h : (table.lookup key).isSome = true) : ∃ value, lookupAt table key = .ok value := by
  obtain ⟨value, hvalue⟩ := Option.isSome_iff_exists.mp h
  exact ⟨value, by unfold lookupAt; rw [hvalue]⟩

/-- A token ahead that is not the one past the end. -/
theorem mem_of_peekToken {n : Nat} (h : (p.peekToken n).type ≠ .eof) : p.peekToken n ∈ p.rest := by
  unfold peekToken at h ⊢
  rw [List.getD_eq_getElem?_getD] at h ⊢
  cases hget : p.rest[n]? with
  | none =>
    rw [hget] at h
    exact absurd rfl h
  | some token => exact List.mem_of_getElem? hget

theorem exists_stoull_toDecimal {n : Int} (hlow : -2 ^ 63 ≤ n) (hhigh : n < 2 ^ 63) :
    ∃ bits, stoull 10 (toDecimal n) = .ok bits := by
  unfold stoull
  rw [readNumeral_toDecimal]
  dsimp only
  rw [if_neg (by omega)]
  exact ⟨_, rfl⟩

/-- The number of a readable token is converted. -/
theorem exists_dataNumber {token : Token} (h : token.Readable) (htype : token.type = .num) :
    ∃ bits, dataNumber token.value = .ok bits := by
  obtain ⟨n, hlow, hhigh, htext⟩ := h.num htype
  obtain ⟨bits, hbits⟩ := exists_stoull_toDecimal hlow hhigh
  unfold dataNumber
  rw [htext, hbits]
  exact ⟨bits, rfl⟩

theorem failsWith_of_ok {ε α : Type} {Err : ε → Prop} {x : Except ε α} (h : ∃ a, x = .ok a) :
    FailsWith Err x := by
  obtain ⟨a, rfl⟩ := h
  exact .ok a

/-- The tokens ahead are tokens of the program. -/
structure Within (tokens : List Token) (p : Parser) : Prop where
  readable : p.Readable
  subset : p.rest ⊆ tokens

theorem Within.of_suffix (h : Within tokens p) (hsuffix : p'.rest <:+ p.rest) :
    Within tokens p' where
  readable := fun token htoken => h.readable token (hsuffix.subset htoken)
  subset := fun _ htoken => h.subset (hsuffix.subset htoken)

theorem Within.operandsFail (h : Within tokens p) : OperandsFail (Throws reader tokens) p where
  register := by
    intro n htype
    rcases htype with htype | htype
    · have hvalid := (h.readable.peekToken n).gpRegister htype
      have hall : ∀ reg ∈ validGeneralPurposeRegisters, (regAliasToName.lookup reg).isSome = true := by
        decide +kernel
      exact failsWith_of_ok (exists_lookupAt (hall _ (List.contains_iff_mem.mp hvalid)))
    · have hmem : p.peekToken n ∈ tokens := h.subset (mem_of_peekToken (by simp [htype]))
      unfold regName lookupAt
      split
      · exact .ok _
      · exact .error (.register hmem htype ‹_›)
  number := by
    intro n htype
    obtain ⟨m, hlow, hhigh, htext⟩ := (h.readable.peekToken n).num htype
    unfold numberAt
    rw [htext, stoll_toDecimal hlow hhigh]
    exact .ok m
  csr := by
    intro n htype
    have hvalid := (h.readable.peekToken n).csrRegister htype
    have hall : ∀ reg ∈ validCsrRegisters, (csrToAddress.lookup reg).isSome = true := by
      decide +kernel
    exact failsWith_of_ok (exists_lookupAt (hall _ (List.contains_iff_mem.mp hvalid)))
  rm := by
    intro n htype
    obtain ⟨encoding, hlookup⟩ :=
      Option.isSome_iff_exists.mp ((h.readable.peekToken n).rm htype)
    unfold roundingModeAt
    rw [hlookup]
    exact .ok _

/-! ### Data sections -/

theorem failsWith_parseElements {Err : AssemblerError → Prop} {type : TokenType}
    {push : String → Parser → Except AssemblerError Parser} :
    ∀ {l : List Token}, (∀ token ∈ l, token.type = type → ∀ p, FailsWith Err (push token.value p)) →
      ∀ p, FailsWith Err (parseElements type push l p) := by
  intro l
  induction l with
  | nil => exact fun _ p => .ok p
  | cons token l ih =>
    intro hpush p
    have hrest := ih fun token' hmem => hpush token' (List.mem_cons_of_mem token hmem)
    unfold parseElements
    refine .ite (fun htype => ?_) fun _ => .ite (fun _ => hrest _) fun _ => .ok p
    exact .bind (hpush token List.mem_cons_self htype p) fun p₁ _ => hrest p₁.nextToken

theorem Within.parseDataItem (h : Within tokens p) :
    FailsWith (Throws reader tokens) (p.parseDataItem reader) := by
  have hmem : ∀ token ∈ p.rest.tail, token ∈ p.rest := fun token => List.mem_of_mem_tail
  have hnumber : ∀ (size : BitVec 64) (element : BitVec 64 → DataElement),
      FailsWith (Throws reader tokens) (p.parseOperands .num (pushNumber size element)) := by
    intro size element
    refine failsWith_parseElements (fun token htoken htype q => .map (failsWith_of_ok ?_)) _
    exact exists_dataNumber (h.readable token (hmem token htoken)) htype
  unfold Parser.parseDataItem
  refine .ite (fun _ => .ok _) fun _ => ?_
  refine .ite (fun _ => hnumber _ _) fun _ => ?_
  refine .ite (fun _ => hnumber _ _) fun _ => ?_
  refine .ite (fun _ => hnumber _ _) fun _ => ?_
  refine .ite (fun _ => hnumber _ _) fun _ => ?_
  refine .ite (fun _ => ?_) fun _ => .ite (fun _ => ?_) fun _ => .ite (fun _ => ?_) fun _ => ?_
  · refine failsWith_parseElements (fun token htoken htype q => .map ?_) _
    intro e he
    cases hread : reader.stof token.value.toList with
    | ok bits =>
      rw [hread] at he
      cases he
    | error e' =>
      rw [hread] at he
      cases he
      exact .float (h.subset (hmem token htoken)) htype (.inl hread)
  · refine failsWith_parseElements (fun token htoken htype q => .map ?_) _
    intro e he
    cases hread : reader.stod token.value.toList with
    | ok bits =>
      rw [hread] at he
      cases he
    | error e' =>
      rw [hread] at he
      cases he
      exact .float (h.subset (hmem token htoken)) htype (.inr hread)
  · refine failsWith_parseElements (fun token htoken htype q => .map (failsWith_of_ok ?_)) _
    exact exists_dataNumber (h.readable token (hmem token htoken)) htype
  · exact .ite (fun _ => failsWith_parseElements (fun _ _ _ _ => .ok _) _) fun _ => .ok _

theorem Within.parseDataDirective (h : Within tokens p) :
    FailsWith (Throws reader tokens) (p.parseDataDirective reader fuel) :=
  failsWith_runWithin (Within tokens) .unfinished
    (fun _ _ hq hgo hstep => hq.of_suffix (advances_parseDataItem hgo hstep).suffix)
    (fun _ hq _ => hq.parseDataItem) fuel p h

theorem Within.parseTextDirective (h : Within tokens p) :
    FailsWith (Throws reader tokens) (p.parseTextDirective cfg fuel) :=
  failsWith_runWithin (Within tokens) .unfinished
    (fun _ _ hq hgo hstep => hq.of_suffix (advances_parseTextItem hgo hstep).suffix)
    (fun _ hq _ => hq.operandsFail.parseTextItem) fuel p h

/-! ### Passes -/

/-- A loop over the tokens whose rounds move on ends further on. -/
theorem suffix_of_runWithin {stop : Parser → Bool} {step : Parser → Except AssemblerError Parser}
    (hround : ∀ q q', stop q = false → step q = .ok q' → q'.rest <:+ q.rest)
    (h : runWithin .unfinished stop step fuel p = .ok p') : p'.rest <:+ p.rest :=
  (reaches_of_runUntil (runUntil_of_runWithin h)).1.invariant (fun q => q.rest <:+ p.rest)
    (fun q q' hq hgo hstep => (hround q q' hgo hstep).trans hq) (List.suffix_refl _)

theorem suffix_firstPassItem (h : firstPassItem reader fuel p = .ok p') : p'.rest <:+ p.rest := by
  have hnext : p.nextToken.rest <:+ p.rest := List.tail_suffix _
  unfold firstPassItem at h
  split at h
  · cases h
    exact hnext
  split at h
  · exact (suffix_of_runWithin (fun _ _ hgo hstep => (advances_parseDataItem hgo hstep).suffix)
      h).trans hnext
  split at h
  · cases h
    exact (List.dropWhile_suffix _).trans hnext
  split at h
  · cases h
    exact List.dropWhile_suffix _
  · cases h
    exact hnext

theorem suffix_secondPassItem (h : secondPassItem cfg fuel p = .ok p') : p'.rest <:+ p.rest := by
  have hnext : p.nextToken.rest <:+ p.rest := List.tail_suffix _
  have htext : ∀ {q : Parser}, q.parseTextDirective cfg fuel = .ok p' → p'.rest <:+ q.rest :=
    fun h => suffix_of_runWithin (fun _ _ hgo hstep => (advances_parseTextItem hgo hstep).suffix) h
  unfold secondPassItem at h
  split at h
  · cases h
    exact hnext
  split at h
  · cases h
    exact List.dropWhile_suffix _
  split at h
  · exact (htext h).trans hnext
  split at h
  · exact htext h
  · cases h
    exact hnext

theorem Within.firstPass (h : Within tokens p) :
    FailsWith (Throws reader tokens) (firstPass reader fuel p) := by
  refine failsWith_runWithin (Within tokens) .unfinished
    (fun _ _ hq _ hstep => hq.of_suffix (suffix_firstPassItem hstep)) (fun q hq _ => ?_) fuel p h
  have hnext : Within tokens q.nextToken := hq.of_suffix (List.tail_suffix _)
  unfold firstPassItem
  refine .ite (fun _ => .ok _) fun _ => .ite (fun _ => hnext.parseDataDirective) fun _ => ?_
  exact .ite (fun _ => .ok _) fun _ => .ite (fun _ => .ok _) fun _ => .ok _

theorem Within.secondPass (h : Within tokens p) :
    FailsWith (Throws reader tokens) (secondPass cfg fuel p) := by
  refine failsWith_runWithin (Within tokens) .unfinished
    (fun _ _ hq _ hstep => hq.of_suffix (suffix_secondPassItem hstep)) (fun q hq _ => ?_) fuel p h
  have hnext : Within tokens q.nextToken := hq.of_suffix (List.tail_suffix _)
  unfold secondPassItem
  refine .ite (fun _ => .ok _) fun _ => .ite (fun _ => .ok _) fun _ => ?_
  refine .ite (fun _ => hnext.parseTextDirective) fun _ => ?_
  exact .ite (fun _ => hq.parseTextDirective) fun _ => .ok _

/-- **What the parser throws** on readable tokens. -/
theorem failsWith_parse (h : ∀ token ∈ tokens, token.Readable) :
    FailsWith (Throws reader tokens) (parse cfg reader fuel tokens) := by
  have hstart : ∀ p : Parser, p.rest = tokens → Within tokens p := by
    rintro p rfl
    exact ⟨h, List.Subset.refl _⟩
  unfold parse
  refine .bind (hstart _ rfl).firstPass fun p₁ _ => ?_
  exact .bind (hstart _ rfl).secondPass fun p₂ _ => .ok _

end Parser

end RiscvSim

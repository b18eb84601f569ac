import Mathlib.Data.List.TakeWhile
import RiscvSim.Assembler.Lexer

/-!
# What the lexer reads

On a line without newlines every function of the lexer moves on within the line
(`Moves`), and every token takes at least one character, so the loops end.

* **`readToken_reads`**: a token is what its type says (`Token.WellFormed`).
* **`tokens_of_file`**: so is every token of a file; the tokens come in the order of
  their lines, and only the last one is the end of the file.
-/

namespace RiscvSim

open Lib

/-- A text that starts like an identifier and goes on like one. -/
def Lexer.IsIdentifier (text : List Char) : Prop :=
  text.head?.any (fun c => c.isAlpha || c = '_') = true ∧ ∀ c ∈ text, Lexer.isIdentifierChar c = true

/-- A token as the lexer makes it behind the tokens `before`.  An invalid token says nothing. -/
def Token.WellFormed (fixed : BitVec 64 → String) (before : List Token) (token : Token) : Prop :=
  match token.type with
  | .opcode | .gpRegister | .fpRegister | .csrRegister | .rm | .labelRef =>
    Lexer.IsIdentifier token.value.toList ∧ Lexer.identifierType before token.value = token.type
  | .label => Lexer.IsIdentifier token.value.toList ∧ '.' ∉ token.value.toList
  | .num => ∃ n : Int, -2 ^ 63 ≤ n ∧ n < 2 ^ 63 ∧ token.value.toList = toDecimal n
  | .float => ∃ bits, token.value = fixed bits
  | .directive => ∀ c ∈ token.value.toList, c.isAlpha = true
  | .string => '"' ∉ token.value.toList ∧ '\n' ∉ token.value.toList
  | .comma => token.value = ","
  | .lparen => token.value = "("
  | .rparen => token.value = ")"
  | .invalid => True
  | .eof | .identifier | .vecRegister => False

namespace Lexer

variable {reader : FloatReader} {fixed : BitVec 64 → String} {lexer lexer' : Lexer}
  {tokens : List Token}

/-! ### Moving on -/

/-- `lexer'` is at the same place of the line or further on. -/
structure Moves (lexer lexer' : Lexer) : Prop where
  currentLine : lexer'.currentLine = lexer.currentLine
  lineNumber : lexer'.lineNumber = lexer.lineNumber
  pos : lexer.pos ≤ lexer'.pos

theorem Moves.trans {lexer₁ lexer₂ lexer₃ : Lexer} (h₁ : Moves lexer₁ lexer₂)
    (h₂ : Moves lexer₂ lexer₃) : Moves lexer₁ lexer₃ :=
  ⟨h₂.currentLine.trans h₁.currentLine, h₂.lineNumber.trans h₁.lineNumber,
    Nat.le_trans h₁.pos h₂.pos⟩

theorem moves_advance (lexer : Lexer) (n : Nat) : Moves lexer (lexer.advance n) :=
  ⟨rfl, rfl, Nat.le_add_right _ _⟩

theorem Moves.rest_eq (h : Moves lexer lexer') :
    lexer'.rest = lexer.rest.drop (lexer'.pos - lexer.pos) := by
  have hpos := h.pos
  rw [rest, rest, h.currentLine, List.drop_drop]
  congr 1
  omega

theorem Moves.mem_of_mem (h : Moves lexer lexer') {c : Char} (hc : c ∈ lexer'.rest) :
    c ∈ lexer.rest := by
  rw [h.rest_eq] at hc
  exact List.mem_of_mem_drop hc

@[simp] theorem advance_advance (lexer : Lexer) (m n : Nat) :
    (lexer.advance m).advance n = lexer.advance (m + n) := by
  simp only [advance, BitVec.ofNat_add, BitVec.add_assoc, Nat.add_assoc]

@[simp] theorem rest_advance (lexer : Lexer) (n : Nat) :
    (lexer.advance n).rest = lexer.rest.drop n := by
  simp only [rest, advance, List.drop_drop]

@[simp] theorem advance_zero (lexer : Lexer) : lexer.advance 0 = lexer := by
  simp [advance]

/-! ### White space and comments -/

theorem drop_length_takeWhile (p : Char → Bool) (text : List Char) :
    text.drop (text.takeWhile p).length = text.dropWhile p := by
  induction text with
  | nil => rfl
  | cons c text ih =>
    rw [List.takeWhile_cons, List.dropWhile_cons]
    split
    · exact ih
    · rfl

theorem foldl_skipSpace {text : List Char} (h : '\n' ∉ text) (lexer : Lexer) :
    text.foldl skipSpace lexer = lexer.advance text.length := by
  induction text generalizing lexer with
  | nil => exact (advance_zero lexer).symm
  | cons c text ih =>
    rw [List.mem_cons, not_or] at h
    have hc : lexer.skipSpace c = lexer.advance 1 := if_neg (Ne.symm h.1)
    rw [List.foldl_cons, hc, ih h.2, advance_advance, List.length_cons, Nat.add_comm]

theorem skipWhitespace_eq (h : '\n' ∉ lexer.rest) :
    lexer.skipWhitespace = lexer.advance (lexer.rest.takeWhile isSpace).length :=
  foldl_skipSpace (fun hmem => h ((List.takeWhile_prefix _).subset hmem)) lexer

theorem skipLine_eq (h : '\n' ∉ lexer.rest) : lexer.skipLine = lexer.advance lexer.rest.length := by
  have htake : lexer.rest.takeWhile (· ≠ '\n') = lexer.rest := by
    refine List.takeWhile_eq_self_iff.mpr fun c hc => ?_
    rw [decide_eq_true_eq]
    rintro rfl
    exact h hc
  unfold skipLine
  rw [htake]
  dsimp only
  rw [rest_advance, List.drop_length]
  rfl

/-- The number of characters before the next token of a line. -/
def blanks (text : List Char) : Nat :=
  if (text.dropWhile isSpace).head?.any startsComment then text.length
  else (text.takeWhile isSpace).length

theorem skipBlanks_eq {fuel : Nat} (hfuel : 0 < fuel) (h : '\n' ∉ lexer.rest) :
    lexer.skipBlanks fuel = lexer.advance (blanks lexer.rest) := by
  -- behind a comment nothing is left of the line
  have hend : ∀ {fuel : Nat} {lexer : Lexer}, lexer.rest = [] → lexer.skipBlanks fuel = lexer := by
    intro fuel lexer hnil
    cases fuel with
    | zero => rfl
    | succ fuel =>
      have hspace : lexer.skipWhitespace = lexer := by
        unfold skipWhitespace
        rw [hnil]
        rfl
      rw [skipBlanks, hspace, hnil]
      rfl
  obtain ⟨fuel, rfl⟩ := Nat.exists_eq_add_one_of_ne_zero hfuel.ne'
  have hrest : (lexer.advance (lexer.rest.takeWhile isSpace).length).rest =
      lexer.rest.dropWhile isSpace := by
    rw [rest_advance, drop_length_takeWhile]
  have hlength := congrArg List.length (List.takeWhile_append_dropWhile (p := isSpace) (l := lexer.rest))
  rw [List.length_append] at hlength
  rw [skipBlanks, skipWhitespace_eq h, hrest, blanks]
  split
  · have hline : '\n' ∉ (lexer.advance (lexer.rest.takeWhile isSpace).length).rest := by
      rw [hrest]
      exact fun hmem => h ((List.dropWhile_suffix _).subset hmem)
    rw [skipComment, skipLine_eq hline, hrest, advance_advance, hlength]
    exact hend (by rw [rest_advance, List.drop_length])
  · rfl

theorem blanks_le (text : List Char) : blanks text ≤ text.length := by
  unfold blanks
  split
  · exact Nat.le_refl _
  · exact (List.takeWhile_prefix _).length_le

theorem getNextToken_eq (h : '\n' ∉ lexer.rest) :
    lexer.getNextToken reader fixed tokens =
      (lexer.advance (blanks lexer.rest)).readToken reader fixed tokens := by
  rw [getNextToken, skipBlanks_eq (Nat.succ_pos _) h]

/-! ### The values of tokens -/

theorem wellFormed_identifierType {before : List Token} {value : String}
    (h : IsIdentifier value.toList) (line : BitVec 32) :
    Token.WellFormed fixed before ⟨identifierType before value, value, line⟩ := by
  unfold Token.WellFormed
  dsimp only
  generalize hty : identifierType before value = type
  have hmem : type ∈ [TokenType.opcode, .gpRegister, .fpRegister, .csrRegister, .rm, .labelRef,
      .invalid] := by
    rw [← hty]
    unfold identifierType
    repeat' split
    all_goals simp
  cases type
  all_goals first | exact ⟨h, rfl⟩ | trivial

/-- What reading a token from a text that is not empty does. -/
structure Reads (fixed : BitVec 64 → String) (before : List Token) (lexer : Lexer) (token : Token)
    (lexer' : Lexer) : Prop where
  moves : Moves lexer lexer'
  progress : lexer.pos < lexer'.pos
  lineNumber : token.lineNumber = lexer.lineNumber
  wellFormed : token.WellFormed fixed before

theorem identifier_reads (h : lexer.rest.head?.any (fun c => c.isAlpha || c = '_') = true) :
    Reads fixed tokens lexer (lexer.identifier tokens).1.1 (lexer.identifier tokens).2 := by
  have hid : IsIdentifier (lexer.rest.takeWhile isIdentifierChar) := by
    refine ⟨?_, fun c hc => List.mem_takeWhile_imp hc⟩
    cases hrest : lexer.rest with
    | nil => simp [hrest] at h
    | cons c text =>
      rw [hrest] at h
      have hc : (c.isAlpha || c = '_') = true := h
      have hpos : isIdentifierChar c = true := by
        unfold isIdentifierChar Char.isAlphanum
        grind
      rw [List.takeWhile_cons, if_pos hpos]
      exact hc
  have hlength : 0 < (lexer.rest.takeWhile isIdentifierChar).length := by
    cases htext : lexer.rest.takeWhile isIdentifierChar with
    | nil =>
      rw [htext] at hid
      exact absurd hid.1 (by simp)
    | cons c text => exact Nat.succ_pos _
  unfold identifier
  dsimp only
  split
  · refine ⟨⟨rfl, rfl, ?_⟩, ?_, rfl, ?_⟩
    · simp only [advance]
      omega
    · simp only [advance]
      omega
    · by_cases hdot : '.' ∈ lexer.rest.takeWhile isIdentifierChar
      · simp only [hdot, if_true, Token.WellFormed]
      · rw [if_neg hdot]
        refine ⟨?_, ?_⟩
        · rwa [String.toList_ofList]
        · rwa [String.toList_ofList]
  · refine ⟨moves_advance _ _, ?_, rfl, ?_⟩
    · simp only [advance]
      omega
    · exact wellFormed_identifierType (by rwa [String.toList_ofList]) _

theorem stollIn_range {base : Nat} {text : List Char} {n : Int} (h : stollIn base text = .ok n) :
    -2 ^ 63 ≤ n ∧ n < 2 ^ 63 := by
  unfold stollIn at h
  split at h
  · cases h
  · rename_i negative magnitude _
    generalize (if negative then -(magnitude : Int) else magnitude) = value at h
    dsimp only at h
    by_cases hrange : -2 ^ 63 ≤ value ∧ value < 2 ^ 63
    · rw [if_pos hrange] at h
      exact Except.ok.inj h ▸ hrange
    · rw [if_neg hrange] at h
      cases h

/-- A number is invalid, a decimal number that fits, or a printed double. -/
theorem wellFormed_numberValue {type : TokenType} {value : String} {text : List Char}
    (h : numberValue reader fixed text = .ok (type, value)) (before : List Token)
    (line : BitVec 32) : Token.WellFormed fixed before ⟨type, value, line⟩ := by
  have hnum : ∀ {base : Nat} {text : List Char},
      (stollIn base text).map (fun n => (TokenType.num, String.ofList (toDecimal n))) =
        .ok (type, value) → Token.WellFormed fixed before ⟨type, value, line⟩ := by
    intro base text h
    obtain ⟨n, hn, heq⟩ := map_eq_ok.mp h
    cases heq
    obtain ⟨hlow, hhigh⟩ := stollIn_range hn
    exact ⟨n, hlow, hhigh, String.toList_ofList⟩
  unfold numberValue at h
  dsimp only at h
  split at h
  · exact hnum h
  split at h
  · exact hnum h
  split at h
  · exact hnum h
  split at h
  · exact hnum h
  split at h
  · obtain ⟨bits, -, heq⟩ := map_eq_ok.mp h
    cases heq
    exact ⟨bits, rfl⟩
  · cases h
    trivial

theorem advance_pos (lexer : Lexer) (n : Nat) : (lexer.advance n).pos = lexer.pos + n :=
  rfl

theorem number_reads {read : (Token × BitVec 32) × Lexer}
    (h : lexer.rest.head?.any (fun c => c.isDigit || c = '-') = true)
    (hread : lexer.number reader fixed = .ok read) :
    Reads fixed tokens lexer read.1.1 read.2 := by
  have hlength : 0 < (lexer.rest.takeWhile isNumberChar).length := by
    cases hrest : lexer.rest with
    | nil => simp [hrest] at h
    | cons c text =>
      rw [hrest] at h
      have hc : (c.isDigit || c = '-') = true := h
      have hchar : isNumberChar c = true := by
        unfold isNumberChar Char.isAlphanum
        grind
      rw [List.takeWhile_cons, if_pos hchar]
      exact Nat.succ_pos _
  unfold number at hread
  obtain ⟨⟨type, value⟩, hvalue, rfl⟩ := map_eq_ok.mp hread
  refine ⟨moves_advance _ _, ?_, rfl, wellFormed_numberValue hvalue tokens _⟩
  rw [advance_pos]
  omega

theorem stringLiteral_reads (hline : '\n' ∉ lexer.rest) :
    Reads fixed tokens lexer lexer.stringLiteral.1.1 lexer.stringLiteral.2 := by
  unfold stringLiteral
  dsimp only
  split
  · refine ⟨⟨rfl, rfl, ?_⟩, ?_, rfl, ?_, ?_⟩
    · simp only [advance_pos]
      omega
    · simp only [advance_pos]
      omega
    · rw [String.toList_ofList]
      intro hmem
      simpa using List.mem_takeWhile_imp hmem
    · rw [String.toList_ofList]
      intro hmem
      have hdrop := (List.takeWhile_prefix _).subset hmem
      exact hline ((moves_advance lexer 1).mem_of_mem hdrop)
  · refine ⟨⟨rfl, rfl, ?_⟩, ?_, rfl, trivial⟩
    · simp only [advance_pos]
      omega
    · simp only [advance_pos]
      omega

theorem directive_reads : Reads fixed tokens lexer lexer.directive.1.1 lexer.directive.2 := by
  unfold directive
  dsimp only
  refine ⟨⟨rfl, rfl, ?_⟩, ?_, rfl, ?_⟩
  · simp only [advance_pos]
    omega
  · simp only [advance_pos]
    omega
  · intro c hc
    rw [String.toList_ofList] at hc
    exact List.mem_takeWhile_imp hc

theorem single_reads {type : TokenType} {value : String}
    (h : ∀ line, Token.WellFormed fixed tokens ⟨type, value, line⟩) :
    Reads fixed tokens lexer (lexer.single type value).1.1 (lexer.single type value).2 :=
  ⟨moves_advance _ _, Nat.lt_succ_self _, rfl, h _⟩

theorem readToken_reads {read : (Token × BitVec 32) × Lexer} (hline : '\n' ∉ lexer.rest)
    (hrest : lexer.rest ≠ []) (hread : lexer.readToken reader fixed tokens = .ok read) :
    Reads fixed tokens lexer read.1.1 read.2 := by
  obtain ⟨c, text, htext⟩ := List.exists_cons_of_ne_nil hrest
  have hhead : ∀ p : Char → Bool, p c = true → lexer.rest.head?.any p = true := by
    intro p hp
    rw [htext]
    exact hp
  unfold readToken at hread
  rw [htext] at hread
  dsimp only at hread
  split at hread
  · rename_i hc
    cases hread
    exact identifier_reads (hhead _ hc)
  split at hread
  · rename_i hc
    exact number_reads (hhead _ hc) hread
  split at hread
  · cases hread
    exact single_reads fun _ => rfl
  split at hread
  · cases hread
    exact stringLiteral_reads hline
  split at hread
  · cases hread
    exact single_reads fun _ => rfl
  split at hread
  · cases hread
    exact single_reads fun _ => rfl
  split at hread
  · cases hread
    exact directive_reads
  · cases hread
    rw [skipLine_eq hline]
    refine ⟨moves_advance _ _, ?_, rfl, trivial⟩
    rw [advance_pos]
    have := List.length_pos_iff.mpr hrest
    omega

/-! ### Lines -/

/-- Every token is as the lexer makes it behind the ones before it. -/
def WellFormedTokens (fixed : BitVec 64 → String) (tokens : List Token) : Prop :=
  ∀ before token after, tokens = before ++ token :: after → token.WellFormed fixed before

theorem wellFormedTokens_nil : WellFormedTokens fixed [] := by
  intro before token after h
  simp at h

theorem wellFormedTokens_append_singleton {token : Token} (h : WellFormedTokens fixed tokens)
    (htoken : token.WellFormed fixed tokens) : WellFormedTokens fixed (tokens ++ [token]) := by
  intro before token' after heq
  rcases List.eq_nil_or_concat after with rfl | ⟨after, last, rfl⟩
  · obtain ⟨rfl, hlast⟩ := List.append_inj' heq rfl
    cases hlast
    exact htoken
  · rw [List.concat_eq_append, ← List.cons_append, ← List.append_assoc] at heq
    obtain ⟨rfl, -⟩ := List.append_inj' heq rfl
    exact h before token' after rfl

theorem ne_eof_of_wellFormed {token : Token} (h : token.WellFormed fixed tokens) :
    token.type ≠ .eof := by
  intro heof
  unfold Token.WellFormed at h
  rw [heof] at h
  exact h

/-- The tokens without their columns. -/
def Progress.list (s : Progress) : List Token :=
  s.tokens.map (·.1)

/-- The state within a line of `size` characters, with the tokens and the line
number from which the line was begun. -/
structure WithinLine (fixed : BitVec 64 → String) (before : List Token) (line : BitVec 32)
    (size : Nat) (s : Progress) : Prop where
  newline : '\n' ∉ s.lexer.rest
  lineNumber : s.lexer.lineNumber = line
  tokens : ∃ new, s.list = before ++ new ∧ (∀ token ∈ new, token.lineNumber = line) ∧
    new.length + s.lexer.rest.length ≤ size
  wellFormed : WellFormedTokens fixed s.list

theorem WithinLine.addToken {before : List Token} {line : BitVec 32} {size : Nat}
    {s s' : Progress} (h : WithinLine fixed before line size s)
    (hgo : s.lexer.rest.isEmpty = false) (hstep : addToken reader fixed s = .ok s') :
    WithinLine fixed before line size s' ∧ s'.lexer.rest.length < s.lexer.rest.length := by
  have hpos : 0 < s.lexer.rest.length := List.length_pos_iff.mpr (by simpa using hgo)
  obtain ⟨new, hnew, hlines, hsize⟩ := h.tokens
  obtain ⟨⟨⟨token, column⟩, lexer'⟩, hread, rfl⟩ := map_eq_ok.mp hstep
  rw [mapError_eq_ok, getNextToken_eq h.newline] at hread
  have hle := blanks_le s.lexer.rest
  have hblank : '\n' ∉ (s.lexer.advance (blanks s.lexer.rest)).rest :=
    fun hmem => h.newline ((moves_advance _ _).mem_of_mem hmem)
  cases hrest : (s.lexer.advance (blanks s.lexer.rest)).rest with
  | nil =>
    -- white space and a comment up to the end of the line
    have hall : blanks s.lexer.rest = s.lexer.rest.length := by
      rw [rest_advance, List.drop_eq_nil_iff] at hrest
      omega
    unfold readToken at hread
    rw [hrest] at hread
    cases hread
    have hlength := congrArg List.length hrest
    rw [List.length_nil] at hlength
    refine ⟨⟨hblank, h.lineNumber, ⟨new, hnew, hlines, ?_⟩, h.wellFormed⟩, ?_⟩
    · show new.length + (s.lexer.advance (blanks s.lexer.rest)).rest.length ≤ size
      omega
    · rw [hrest]
      exact hpos
  | cons c text =>
    have hreads := readToken_reads hblank (by simp [hrest]) hread
    have hlist : Progress.list ⟨lexer', if token.type = .eof then s.tokens
        else s.tokens ++ [(token, column)]⟩ = s.list ++ [token] := by
      rw [if_neg (ne_eof_of_wellFormed hreads.wellFormed)]
      simp [Progress.list]
    have hmoves := (moves_advance s.lexer (blanks s.lexer.rest)).trans hreads.moves
    have hless : lexer'.rest.length < s.lexer.rest.length := by
      have hprogress := hreads.progress
      rw [advance_pos] at hprogress
      rw [hmoves.rest_eq, List.length_drop]
      omega
    refine ⟨⟨fun hmem => h.newline (hmoves.mem_of_mem hmem),
      hmoves.lineNumber.trans h.lineNumber, ⟨new ++ [token], ?_, ?_, ?_⟩, ?_⟩, hless⟩
    · rw [hlist, hnew, List.append_assoc]
    · intro token' hmem
      rw [List.mem_append, List.mem_singleton] at hmem
      rcases hmem with hmem | rfl
      · exact hlines token' hmem
      · exact hreads.lineNumber.trans h.lineNumber
    · show (new ++ [token]).length + lexer'.rest.length ≤ size
      rw [List.length_append, List.length_singleton]
      omega
    · rw [hlist]
      exact wellFormedTokens_append_singleton h.wellFormed hreads.wellFormed

/-- What the loop over a line of `size` characters does. -/
structure ReadsLine (fixed : BitVec 64 → String) (size : Nat) (s s' : Progress) : Prop where
  lineNumber : s'.lexer.lineNumber = s.lexer.lineNumber + 1#32
  tokens : ∃ new, s'.list = s.list ++ new ∧
    (∀ token ∈ new, token.lineNumber = s.lexer.lineNumber + 1#32) ∧ new.length ≤ size
  wellFormed : WellFormedTokens fixed s'.list

/-- A line is read to its end, or one of its numbers cannot be converted. -/
theorem addLine_cases (reader : FloatReader) {s : Progress} {line : List Char} (hline : '\n' ∉ line)
    (h : WellFormedTokens fixed s.list) :
    (∃ s', addLine reader fixed s line = .ok s' ∧ ReadsLine fixed line.length s s') ∨
      ∃ e, addLine reader fixed s line = .error (.conversion e) := by
  have hstart : WithinLine fixed s.list (s.lexer.lineNumber + 1#32) line.length
      { s with lexer := { currentLine := line, lineNumber := s.lexer.lineNumber + 1#32 } } :=
    ⟨hline, rfl, ⟨[], (List.append_nil _).symm, by simp, by simp [rest]⟩, h⟩
  rcases runWithin_cases AssemblerError.unfinished (·.lexer.rest.length)
      (WithinLine fixed s.list (s.lexer.lineNumber + 1#32) line.length)
      (fun _ _ hinv hgo hstep => hinv.addToken hgo hstep) hstart (Nat.lt_succ_self line.length) with
    ⟨s', hs', hinv, -⟩ | ⟨s', e, he, -, -, hstep⟩
  · obtain ⟨new, hnew, hlines, hsize⟩ := hinv.tokens
    exact .inl ⟨s', hs', hinv.lineNumber, ⟨new, hnew, hlines, by omega⟩, hinv.wellFormed⟩
  · right
    unfold addToken at hstep
    cases hread : s'.lexer.getNextToken reader fixed (s'.tokens.map (·.1)) with
    | error e' =>
      rw [hread] at hstep
      cases hstep
      exact ⟨e', he⟩
    | ok read =>
      rw [hread] at hstep
      cases hstep

/-! ### Files -/

/-- The tokens of each line carry its number. -/
def Numbered (groups : List (List Token)) : Prop :=
  ∀ i group, groups[i]? = some group → ∀ token ∈ group, token.lineNumber = BitVec.ofNat 32 (i + 1)

/-- The state after some lines, with the tokens of each. -/
structure Collected (fixed : BitVec 64 → String) (groups : List (List Token)) (s : Progress) :
    Prop where
  lineNumber : s.lexer.lineNumber = BitVec.ofNat 32 groups.length
  list : s.list = groups.flatten
  numbered : Numbered groups
  wellFormed : WellFormedTokens fixed s.list

theorem Collected.readsLine {groups : List (List Token)} {size : Nat} {s s' : Progress}
    (h : Collected fixed groups s) (hline : ReadsLine fixed size s s') :
    ∃ group, Collected fixed (groups ++ [group]) s' ∧ group.length ≤ size := by
  obtain ⟨new, hnew, hlines, hsize⟩ := hline.tokens
  have hnumber : s.lexer.lineNumber + 1#32 = BitVec.ofNat 32 (groups.length + 1) := by
    rw [h.lineNumber, BitVec.ofNat_add]
  refine ⟨new, ⟨?_, ?_, ?_, hline.wellFormed⟩, hsize⟩
  · rw [hline.lineNumber, hnumber, List.length_append, List.length_singleton]
  · rw [hnew, h.list, List.flatten_append, List.flatten_singleton]
  · intro i group hgroup token htoken
    rcases Nat.lt_trichotomy i groups.length with hlt | rfl | hgt
    · rw [List.getElem?_append_left hlt] at hgroup
      exact h.numbered i group hgroup token htoken
    · rw [List.getElem?_concat_length] at hgroup
      obtain rfl := Option.some.inj hgroup
      exact (hlines token htoken).trans hnumber
    · rw [List.getElem?_eq_none (by simp; omega)] at hgroup
      cases hgroup

theorem foldlM_addLine_cases (reader : FloatReader) (lines : List (List Char))
    (hlines : ∀ line ∈ lines, '\n' ∉ line) {groups : List (List Token)} {s : Progress} (h : Collected fixed groups s) :
    (∃ s' groups', lines.foldlM (addLine reader fixed) s = .ok s' ∧ Collected fixed groups' s' ∧
        groups'.length = groups.length + lines.length ∧
        groups'.flatten.length ≤ groups.flatten.length + lines.flatten.length) ∨
      ∃ e, lines.foldlM (addLine reader fixed) s = .error (.conversion e) := by
  induction lines generalizing groups s with
  | nil => exact .inl ⟨s, groups, rfl, h, rfl, Nat.le_refl _⟩
  | cons line lines ih =>
    rw [List.foldlM_cons]
    rcases addLine_cases reader (hlines line List.mem_cons_self) h.wellFormed with
      ⟨s₁, hs₁, hline⟩ | ⟨e, he⟩
    · rw [hs₁, ok_bind]
      obtain ⟨group, h₁, hgroup⟩ := h.readsLine hline
      rcases ih (fun line hmem => hlines line (List.mem_cons_of_mem _ hmem)) h₁ with
        ⟨s', groups', hs', h', hlength, hsize⟩ | herror
      · refine .inl ⟨s', groups', hs', h', ?_, ?_⟩
        · rw [hlength, List.length_append, List.length_singleton, List.length_cons]
          omega
        · rw [List.flatten_append, List.flatten_singleton, List.length_append] at hsize
          rw [List.flatten_cons, List.length_append]
          omega
      · exact .inr herror
    · rw [he]
      exact .inr ⟨e, rfl⟩

theorem newline_notMem_getLines (text : List Char) : ∀ line ∈ getLines text, '\n' ∉ line := by
  induction text with
  | nil =>
    intro line h
    cases h
  | cons c text ih =>
    intro line h
    rw [getLines] at h
    split at h
    · rcases List.mem_cons.mp h with rfl | h
      · exact List.not_mem_nil
      · exact ih line h
    · rename_i hc
      split at h
      · obtain rfl := List.mem_singleton.mp h
        simpa using Ne.symm hc
      · rename_i heq
        rw [heq] at ih
        rcases List.mem_cons.mp h with rfl | h
        · rw [List.mem_cons, not_or]
          exact ⟨Ne.symm hc, ih _ List.mem_cons_self⟩
        · exact ih line (List.mem_cons_of_mem _ h)

/-- The lines have at most the characters of the text, and newlines between them. -/
theorem length_getLines_le (text : List Char) :
    (getLines text).flatten.length ≤ text.length ∧ (getLines text).length ≤ text.length := by
  induction text with
  | nil => exact ⟨Nat.le_refl _, Nat.le_refl _⟩
  | cons c text ih =>
    rw [getLines, List.length_cons]
    split
    · rw [List.flatten_cons, List.length_append, List.length_nil, List.length_cons]
      omega
    · cases heq : getLines text with
      | nil =>
        show 1 ≤ text.length + 1 ∧ 1 ≤ text.length + 1
        omega
      | cons line lines =>
        rw [heq, List.flatten_cons, List.length_append, List.length_cons] at ih
        rw [List.flatten_cons, List.length_append, List.length_cons, List.length_cons]
        omega

/-- The last token of a file with the given number of lines. -/
def endOfFile (count : Nat) : Token :=
  ⟨.eof, "", BitVec.ofNat 32 count⟩

/-- The lexer always ends: either a number of the file cannot be converted, or the
tokens come line by line, with the end of the file behind them. -/
theorem getTokenList_cases (reader : FloatReader) (fixed : BitVec 64 → String)
    (input : List Char) :
    (∃ groups : List (List Token),
      (getTokenList reader fixed input).map (List.map Prod.fst) =
        .ok (groups.flatten ++ [endOfFile (getLines input).length]) ∧
      groups.length = (getLines input).length ∧ Numbered groups ∧
      WellFormedTokens fixed groups.flatten ∧ groups.flatten.length ≤ input.length) ∨
    ∃ e, getTokenList reader fixed input = .error (.conversion e) := by
  have hstart : Collected fixed []
      { lexer := { currentLine := [], lineNumber := 0#32, columnNumber := 0#32 }, tokens := [] } :=
    ⟨rfl, rfl, by simp [Numbered], wellFormedTokens_nil⟩
  rcases foldlM_addLine_cases reader (getLines input) (newline_notMem_getLines input) hstart with ⟨s, groups, hs, h, hlength, hsize⟩ | ⟨e, he⟩
  · rw [List.length_nil, Nat.zero_add] at hlength
    rw [List.flatten_nil, List.length_nil, Nat.zero_add] at hsize
    refine .inl ⟨groups, ?_, hlength, h.numbered, ?_, hsize.trans (length_getLines_le input).1⟩
    · unfold getTokenList
      rw [hs, ok_bind, pure_eq_ok]
      show Except.ok (List.map Prod.fst (s.tokens ++ _)) = _
      rw [List.map_append, ← hlength]
      congr 1
      rw [← h.list, endOfFile, ← h.lineNumber]
      rfl
    · rw [← h.list]
      exact h.wellFormed
  · right
    unfold getTokenList
    rw [he]
    exact ⟨e, rfl⟩

theorem exists_line_of_mem {groups : List (List Token)} (h : Numbered groups) {token : Token}
    (htoken : token ∈ groups.flatten) :
    ∃ i < groups.length, token.lineNumber = BitVec.ofNat 32 (i + 1) := by
  obtain ⟨group, hgroup, htoken⟩ := List.mem_flatten.mp htoken
  obtain ⟨i, hi⟩ := List.mem_iff_getElem?.mp hgroup
  exact ⟨i, (List.getElem?_eq_some_iff.mp hi).1, h i group hi token htoken⟩

/-- In a file that is not too long the tokens come in the order of their lines. -/
theorem pairwise_of_numbered {groups : List (List Token)} (h : Numbered groups)
    (hlength : groups.length < 2 ^ 32) :
    (groups.flatten ++ [endOfFile groups.length]).Pairwise (·.lineNumber ≤ ·.lineNumber) := by
  rw [List.pairwise_append]
  refine ⟨?_, List.pairwise_singleton _ _, ?_⟩
  · rw [List.pairwise_flatten]
    refine ⟨?_, ?_⟩
    · intro group hgroup
      obtain ⟨i, hi⟩ := List.mem_iff_getElem?.mp hgroup
      refine List.pairwise_of_forall_mem_list fun a ha b hb => ?_
      rw [h i group hi a ha, h i group hi b hb]
      exact BitVec.le_refl _
    · rw [List.pairwise_iff_getElem]
      intro i j hi hj hlt a ha b hb
      rw [h i _ (List.getElem?_eq_getElem hi) a ha, h j _ (List.getElem?_eq_getElem hj) b hb,
        BitVec.le_def, BitVec.toNat_ofNat, BitVec.toNat_ofNat]
      omega
  · intro token htoken last hlast
    obtain rfl := List.mem_singleton.mp hlast
    obtain ⟨i, hi, hnumber⟩ := exists_line_of_mem h htoken
    rw [hnumber, endOfFile, BitVec.le_def, BitVec.toNat_ofNat, BitVec.toNat_ofNat]
    omega

/-- **The tokens of a file**: either a number cannot be converted, or the list ends
with the end of the file, every other token has the value its type says and the
number of a line of the file, and the tokens of a file that is not too long come in
the order of their lines. -/
theorem tokens_of_file (reader : FloatReader) (fixed : BitVec 64 → String) (input : List Char) :
    (∃ e, getTokenList reader fixed input = .error (.conversion e)) ∨
      ∃ tokens, (getTokenList reader fixed input).map (List.map Prod.fst) =
          .ok (tokens ++ [endOfFile (getLines input).length]) ∧
        WellFormedTokens fixed tokens ∧
        (∀ token ∈ tokens, token.type ≠ .eof ∧
          ∃ i < (getLines input).length, token.lineNumber = BitVec.ofNat 32 (i + 1)) ∧
        ((getLines input).length < 2 ^ 32 →
          (tokens ++ [endOfFile (getLines input).length]).Pairwise
            (·.lineNumber ≤ ·.lineNumber)) := by
  rcases getTokenList_cases reader fixed input with
    ⟨groups, hread, hlength, hnumbered, hwf, -⟩ | herror
  · refine .inr ⟨groups.flatten, hread, hwf, fun token htoken => ?_, fun hlt => ?_⟩
    · obtain ⟨before, after, heq⟩ := List.append_of_mem htoken
      refine ⟨ne_eof_of_wellFormed (hwf before token after heq), ?_⟩
      rw [← hlength]
      exact exists_line_of_mem hnumbered htoken
    · rw [← hlength] at hlt ⊢
      exact pairwise_of_numbered hnumbered hlt
  · exact .inl herror

end Lexer

end RiscvSim

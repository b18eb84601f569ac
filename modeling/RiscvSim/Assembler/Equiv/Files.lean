import RiscvSim.Assembler.Equiv.Acceptance
import RiscvSim.Assembler.Equiv.Exceptions
import RiscvSim.Assembler.Equiv.LineMapping

/-!
# Assembling a file

The lexer, the parser, the code generator and the map from lines to instructions,
one behind the other.

* **`assembleFile_outcome`**: what assembling a file can end in.
-/

namespace RiscvSim

open Lib

variable {cfg : VmConfig} {reader : FloatReader} {fixed : BitVec 64 → String}
  {fuel lineFuel : Nat} {tokens : List Token} {p p' q : Parser}

/-! ### Machine code -/

theorem not_mem_fences {c : UnitClass} (hc : c ∈ unitClasses) {opcode : String}
    (h : opcode ∈ c.mnemonics) : opcode ∉ fences := by
  have hall : unitClasses.all (fun c => fences.all fun opcode => !c.mnemonics.contains opcode) =
      true := by
    decide +kernel
  intro hfence
  have hnot := List.all_eq_true.mp (List.all_eq_true.mp hall c hc) opcode hfence
  rw [List.contains_iff_mem.mpr h] at hnot
  cases hnot

/-- FENCE has no generator. -/
theorem generateUnitCode_of_fence {block : ICUnit} (h : block.opcode ∈ fences) :
    generateUnitCode block = .error (.invalidInstructionType block.opcode) := by
  have hnone : (generators.find? fun g => g.1.contains block.opcode) = none := by
    rw [List.find?_eq_none]
    intro g hg hmem
    have hclass : ∃ c ∈ unitClasses, c.mnemonics = g.1 := by
      have hmap : g ∈ unitClasses.map fun c => (c.mnemonics, c.generate) := hg
      obtain ⟨c, hc, rfl⟩ := List.mem_map.mp hmap
      exact ⟨c, hc, rfl⟩
    obtain ⟨c, hc, heq⟩ := hclass
    exact not_mem_fences hc (heq ▸ List.contains_iff_mem.mp hmem) h
  rw [generateUnitCode_eq, hnone]
  rfl

/-- The code of encodable units ends at the first FENCE. -/
theorem generateMachineCode_cases {code : List (ICUnit × Bool)}
    (h : ∀ unit ∈ code, Encodable unit.1) :
    (∀ unit ∈ code, unit.1.opcode ∉ fences) ∧
        (∃ words, generateMachineCode code = .ok words ∧ words.length = code.length) ∨
      ∃ unit ∈ code, unit.1.opcode ∈ fences ∧
        generateMachineCode code = .error (.invalidInstructionType unit.1.opcode) := by
  induction code with
  | nil => exact .inl ⟨nofun, [], rfl, rfl⟩
  | cons unit code ih =>
    have hcons : generateMachineCode (unit :: code) = (do
        let word ← generateUnitCode unit.1
        let words ← generateMachineCode code
        pure (word :: words)) := List.mapM_cons
    rw [hcons]
    rcases h unit List.mem_cons_self with ⟨c, hc, hfits⟩ | hfence
    · obtain ⟨word, hword⟩ := exists_generateUnitCode hc hfits
      rw [hword, ok_bind]
      rcases ih fun unit' hmem => h unit' (List.mem_cons_of_mem unit hmem) with
        ⟨hnone, words, hwords, hlength⟩ | ⟨unit', hmem, hfence, herror⟩
      · rw [hwords]
        refine .inl ⟨fun unit' hmem => ?_, word :: words, rfl, congrArg (· + 1) hlength⟩
        rcases List.mem_cons.mp hmem with rfl | hmem
        · exact not_mem_fences hc hfits.mnemonic
        · exact hnone unit' hmem
      · rw [herror]
        exact .inr ⟨unit', List.mem_cons_of_mem unit hmem, hfence, rfl⟩
    · rw [generateUnitCode_of_fence hfence]
      exact .inr ⟨unit, List.mem_cons_self, hfence, rfl⟩

/-! ### Lines of units -/

namespace Parser

/-- The units so far are on lines of the tokens. -/
structure OnLines (tokens : List Token) (p : Parser) : Prop where
  subset : p.rest ⊆ tokens
  lines : ∀ line ∈ p.unitLines, ∃ token ∈ tokens, token.lineNumber = line

theorem stable_onLines : Stable fun _ p => p.OnLines tokens :=
  .of_report (fun hsuffix h => ⟨fun _ htoken => h.subset (hsuffix.subset htoken), h.lines⟩)
    fun h => ⟨h.subset, h.lines⟩

theorem OnLines.emit (h : p.OnLines tokens) {block : ICUnit}
    (hline : ∃ token ∈ tokens, token.lineNumber = block.lineNumber) (resolved : Bool) :
    (p.emit block resolved).OnLines tokens := by
  refine ⟨h.subset, fun line hmem => ?_⟩
  rw [unitLines_emit, List.mem_append, List.mem_singleton] at hmem
  rcases hmem with hmem | rfl
  · exact h.lines line hmem
  · exact hline

theorem OnLines.adds (h : p.OnLines tokens) (ht : p.currentToken.type ≠ .eof) (hadds : p.Adds q) :
    q.OnLines tokens := by
  obtain ⟨rest, hrest⟩ := rest_of_ne_eof ht
  have hcurrent : p.currentToken ∈ tokens := h.subset (by rw [hrest]; exact List.mem_cons_self)
  have hline : ∀ {block : ICUnit}, block.lineNumber = p.currentToken.lineNumber →
      ∃ token ∈ tokens, token.lineNumber = block.lineNumber :=
    fun h => ⟨_, hcurrent, h.symm⟩
  cases hadds with
  | report line message => exact ⟨h.subset, h.lines⟩
  | one hblock => exact h.emit (hline hblock.lineNumber) true
  | two hfirst hsecond =>
    exact (h.emit (hline hfirst.lineNumber) true).emit (hline hsecond.lineNumber) true
  | load _ hfirst hsecond _ => exact (h.emit (hline hfirst) true).emit (hline hsecond) true
  | await hblock => exact ⟨h.subset, (h.emit (hline hblock.lineNumber) false).lines⟩

theorem OnLines.parseTextItem (h : p.OnLines tokens) (hgo : endsText p.currentToken = false)
    (hparse : p.parseTextItem cfg = .ok p') : p'.OnLines tokens := by
  have ht := currentToken_ne_eof hgo
  rcases ensures_parseTextItem ht p' hparse with ⟨-, rfl⟩ | ⟨-, ⟨q, hadds, hq⟩, hadvances⟩
  · unfold parseTextLabel
    split <;> exact ⟨fun _ htoken => h.subset (List.mem_of_mem_tail htoken), h.lines⟩
  · rw [hq]
    exact ⟨fun _ htoken => h.subset (hadvances.suffix.subset htoken), (h.adds ht hadds).lines⟩

/-- Every unit of a program is on the line of a token. -/
theorem lines_of_parse (h : parse cfg reader fuel tokens = .ok p) :
    ∀ line ∈ p.unitLines, ∃ token ∈ tokens, token.lineNumber = line := by
  obtain ⟨p₁, p₂, hfirst, hsecond, -, rfl⟩ := parse_eq_ok h
  have hcode : (p₁.rewind tokens).intermediateCode = [] := (noCode_firstPass hfirst).intermediateCode
  have hstart : (p₁.rewind tokens).OnLines tokens := by
    refine ⟨List.Subset.refl _, fun line hline => ?_⟩
    rw [unitLines, hcode] at hline
    cases hline
  have honLines : p₂.OnLines tokens := secondPass_invariant (fun _ p => p.OnLines tokens)
    stable_onLines (fun _ _ _ h => h.parseTextItem) hstart hsecond
  rw [unitLines_eq_of_books (books_backPatch p₂.backPatch p₂)]
  exact honLines.lines

end Parser

/-! ### Outcomes -/

/-- What assembling a file can end in. -/
inductive FileOutcome (cfg : VmConfig) (reader : FloatReader) (fixed : BitVec 64 → String)
    (fuel : Nat) (input : List Char) : Except AssembleError AssembledProgram → Prop
  /-- The lexer comes to a number that cannot be converted. -/
  | lexer {e : ConversionError} (h : Lexer.getTokenList reader fixed input = .error (.conversion e)) :
      FileOutcome cfg reader fixed fuel input (.error (.thrown (.conversion e)))
  /-- The parser throws, or goes on for ever. -/
  | parser {tokens : List Token} {e : AssemblerError}
      (hread : (Lexer.getTokenList reader fixed input).map (List.map Prod.fst) = .ok tokens)
      (hparse : Parser.parse cfg reader fuel tokens = .error e)
      (hthrows : Parser.Throws reader tokens e)
      (hstuck : e = .unfinished ↔
        ∃ p, Parser.FirstPassReaches reader fuel { rest := tokens } p ∧ p.Stuck) :
      FileOutcome cfg reader fixed fuel input (.error (.thrown e))
  /-- The parser reports errors. -/
  | errors {tokens : List Token} {p : Parser}
      (hread : (Lexer.getTokenList reader fixed input).map (List.map Prod.fst) = .ok tokens)
      (hparse : Parser.parse cfg reader fuel tokens = .ok p)
      (herrors : p.errors.parseErrors ≠ []) :
      FileOutcome cfg reader fixed fuel input (.error .failedToParse)
  /-- The parser accepts a FENCE. -/
  | fence {tokens : List Token} {p : Parser} {unit : ICUnit × Bool}
      (hread : (Lexer.getTokenList reader fixed input).map (List.map Prod.fst) = .ok tokens)
      (hparse : Parser.parse cfg reader fuel tokens = .ok p) (hnone : p.errors.parseErrors = [])
      (hmem : unit ∈ p.intermediateCode) (hfence : unit.1.opcode ∈ fences) :
      FileOutcome cfg reader fixed fuel input
        (.error (.thrown (.invalidInstructionType unit.1.opcode)))
  /-- There is a program: a word for each unit, and the right breakpoint for each line. -/
  | program {tokens : List Token} {p : Parser} {program : AssembledProgram}
      (hread : (Lexer.getTokenList reader fixed input).map (List.map Prod.fst) = .ok tokens)
      (haccepts : Accepts cfg reader fuel tokens p) (hnone : p.errors.parseErrors = [])
      (hunits : ∀ unit ∈ p.intermediateCode, unit.2 = true ∧ unit.1.opcode ∉ fences)
      (htext : generateMachineCode p.intermediateCode = .ok program.textBuffer)
      (hlength : program.textBuffer.length = p.intermediateCode.length)
      (hline : ∀ l : BitVec 64, l.toNat < 2 ^ 32 → LineBreakpoint p.unitLines program l) :
      FileOutcome cfg reader fixed fuel input (.ok program)

/-- An accepted program without FENCE is assembled. -/
theorem assemble_of_accepts
    (hsorted : tokens.Pairwise fun token token' => token.lineNumber ≤ token'.lineNumber)
    (hlines : ∀ token ∈ tokens, token.lineNumber ≠ -1#32) (hlength : tokens.length ≤ 2 ^ 31)
    (hfuel : 2 ^ 32 < lineFuel) (haccepts : Accepts cfg reader fuel tokens p) {words : List (BitVec 32)}
    (hwords : generateMachineCode p.intermediateCode = .ok words) :
    ∃ program, assemble cfg reader fuel lineFuel tokens = .ok program ∧ program.textBuffer = words ∧
      ∀ l : BitVec 64, l.toNat < 2 ^ 32 → LineBreakpoint p.unitLines program l := by
  have hsize : p.intermediateCode.length ≤ 2 ^ 32 := by
    obtain ⟨q, -, hbooks, hle⟩ := Parser.exists_tracked (fun _ => 0#32) hsorted haccepts.parse
    rw [← Parser.length_eq_of_books hbooks]
    omega
  have hunits : p.unitLines.length ≤ 2 ^ 32 := by
    rwa [Parser.unitLines, List.length_map]
  obtain ⟨hnumbered, hascending⟩ := Parser.mapping_eq_numbered hsorted haccepts.parse hsize
  have hlast : -1#32 ∉ p.unitLines := by
    intro hmem
    obtain ⟨token, htoken, hline⟩ := Parser.lines_of_parse haccepts.parse _ hmem
    exact hlines token htoken hline
  obtain ⟨mapping, hok⟩ := (lineNumberInstructionNumberMapping_numbered lineFuel hascending).2
    hlast hfuel
  obtain ⟨-, hmapping⟩ :=
    (lineNumberInstructionNumberMapping_numbered lineFuel hascending).1 mapping hok
  let program : AssembledProgram := {
    lineNumberInstructionNumberMapping := mapping
    symbolTable := p.symbolTable
    dataBuffer := p.dataBuffer
    textBuffer := words }
  refine ⟨program, ?_, rfl, fun l hl => ?_⟩
  · unfold assemble
    rw [haccepts.parse]
    show (if p.errors.count = 0#32 then _ else _) = _
    rw [if_pos haccepts.count, hwords, hnumbered]
    show (lineNumberInstructionNumberMapping lineFuel _).mapError _ >>= _ = _
    rw [hok]
    rfl
  · exact ⟨least_of_mapping hmapping hunits, defined_of_mapping hmapping hascending,
      (breakpoint_iff hmapping l).mpr (.inl hl)⟩

/-- The numbers of the lines of a file do not reach the last number. -/
theorem ofNat_ne_last {n : Nat} (h : n < 2 ^ 32 - 1) : BitVec.ofNat 32 n ≠ -1#32 := by
  intro heq
  have hnat : n % 2 ^ 32 = 2 ^ 32 - 1 := (BitVec.toNat_ofNat n 32).symm.trans
    (congrArg BitVec.toNat heq)
  omega

/-- What the parser may assume of the tokens of a file. -/
structure Lexed (input : List Char) (tokens : List Token) : Prop where
  readable : ∀ token ∈ tokens, token.Readable
  sorted : tokens.Pairwise fun token token' => token.lineNumber ≤ token'.lineNumber
  lines : ∀ token ∈ tokens, token.lineNumber ≠ -1#32
  length : tokens.length ≤ input.length + 1
  pending : Parser.pending tokens ≤ input.length

/-- The tokens of a file are such, or a number in it cannot be converted. -/
theorem lexed_or_conversion {input : List Char} (hsize : input.length < 2 ^ 31) :
    (∃ tokens, (Lexer.getTokenList reader fixed input).map (List.map Prod.fst) = .ok tokens ∧
        Lexed input tokens) ∨
      ∃ e, Lexer.getTokenList reader fixed input = .error (.conversion e) := by
  rcases Lexer.getTokenList_cases reader fixed input with
    ⟨groups, hread, hlength, hnumbered, hwf, htokens⟩ | ⟨e, he⟩
  · have hcount := (Lexer.length_getLines_le input).2
    have hlines : ∀ token ∈ groups.flatten ++ [Lexer.endOfFile (getLines input).length],
        token.Readable ∧ token.lineNumber ≠ -1#32 := by
      intro token hmem
      rcases List.mem_append.mp hmem with hmem | hmem
      · obtain ⟨before, after, heq⟩ := List.append_of_mem hmem
        obtain ⟨i, hi, hline⟩ := Lexer.exists_line_of_mem hnumbered hmem
        rw [hline]
        exact ⟨(hwf before token after heq).readable, ofNat_ne_last (by omega)⟩
      · obtain rfl := List.mem_singleton.mp hmem
        exact ⟨⟨nofun, nofun, nofun, nofun, nofun, nofun⟩, ofNat_ne_last (by omega)⟩
    have hsorted := Lexer.pairwise_of_numbered hnumbered (by omega)
    rw [hlength] at hsorted
    have htotal : (groups.flatten ++ [Lexer.endOfFile (getLines input).length]).length ≤
        input.length + 1 := by
      rw [List.length_append, List.length_singleton]
      omega
    have hpending : Parser.pending
        (groups.flatten ++ [Lexer.endOfFile (getLines input).length]) ≤ input.length := by
      have hle := List.countP_le_length (p := fun token : Token => token.type != .eof)
        (l := groups.flatten)
      -- the end of the file is no token that can be reported
      have hnone : [Lexer.endOfFile (getLines input).length].countP
          (fun token => token.type != .eof) = 0 := rfl
      rw [List.length_append, List.length_singleton] at htotal
      unfold Parser.pending
      rw [List.countP_append, hnone]
      omega
    exact .inl ⟨_, hread, fun token hmem => (hlines token hmem).1, hsorted,
      fun token hmem => (hlines token hmem).2, htotal, hpending⟩
  · exact .inr ⟨e, he⟩

/-- The outcome from the tokens on. -/
theorem fileOutcome_of_tokens {input : List Char}
    (hread : (Lexer.getTokenList reader fixed input).map (List.map Prod.fst) = .ok tokens)
    (hreadable : ∀ token ∈ tokens, token.Readable)
    (hsorted : tokens.Pairwise fun token token' => token.lineNumber ≤ token'.lineNumber)
    (hlines : ∀ token ∈ tokens, token.lineNumber ≠ -1#32) (hlength : tokens.length ≤ 2 ^ 31)
    (hpending : Parser.pending tokens < 2 ^ 30) (hfuel : tokens.length < fuel)
    (hlineFuel : 2 ^ 32 < lineFuel) :
    FileOutcome cfg reader fixed fuel input (assemble cfg reader fuel lineFuel tokens) := by
  cases hparse : Parser.parse cfg reader fuel tokens with
  | error e =>
    have herror : assemble cfg reader fuel lineFuel tokens = .error (.thrown e) := by
      unfold assemble
      rw [hparse]
      rfl
    rw [herror]
    refine .parser hread hparse (Parser.failsWith_parse hreadable e hparse) ?_
    rw [← Parser.parse_eq_unfinished_iff cfg hfuel, hparse, Except.error.injEq]
  | ok p =>
    have hiff := Parser.count_eq_zero_iff hparse hpending
    by_cases hcount : p.errors.count = 0#32
    case neg =>
      have hfailed : assemble cfg reader fuel lineFuel tokens = .error .failedToParse := by
        unfold assemble
        rw [hparse]
        exact if_neg hcount
      rw [hfailed]
      exact .errors hread hparse fun hnone => hcount (hiff.mpr hnone)
    have hnone := hiff.mp hcount
    have hunits := Parser.encodable_of_parse hreadable hlength hparse hnone
    rcases generateMachineCode_cases fun unit hmem => (hunits unit hmem).2 with
      ⟨hfences, words, hwords, hcode⟩ | ⟨unit, hmem, hfence, herror⟩
    · have haccepts : Accepts cfg reader fuel tokens p := ⟨hparse, hcount, words, hwords⟩
      obtain ⟨program, hprogram, rfl, hbreakpoints⟩ :=
        assemble_of_accepts hsorted hlines hlength hlineFuel haccepts hwords
      rw [hprogram]
      exact .program hread haccepts hnone
        (fun unit hmem => ⟨(hunits unit hmem).1, hfences unit hmem⟩) hwords hcode hbreakpoints
    · have hthrows : assemble cfg reader fuel lineFuel tokens =
          .error (.thrown (.invalidInstructionType unit.1.opcode)) := by
        unfold assemble
        rw [hparse]
        show (if p.errors.count = 0#32 then _ else _) = _
        rw [if_pos hcount, herror]
        rfl
      rw [hthrows]
      exact .fence hread hparse hnone hmem hfence

/-- **What assembling a file can end in**, if the file has less than `2 ^ 30`
characters: as many that are tokens with an error in each pass take the counter
of errors round.  The bounds on the rounds are enough. -/
theorem assembleFile_outcome {input : List Char} (hsize : input.length < 2 ^ 30)
    (hfuel : input.length + 1 < fuel) (hlineFuel : 2 ^ 32 < lineFuel) :
    FileOutcome cfg reader fixed fuel input
      (assembleFile cfg reader fixed fuel lineFuel input) := by
  rcases lexed_or_conversion (show input.length < 2 ^ 31 by omega) with
    ⟨tokens, hread, hlexed⟩ | ⟨e, he⟩
  · have hassemble : assembleFile cfg reader fixed fuel lineFuel input =
        assemble cfg reader fuel lineFuel tokens := by
      obtain ⟨pairs, hlexer, rfl⟩ := map_eq_ok.mp hread
      unfold assembleFile
      rw [hlexer]
      rfl
    have hlength := hlexed.length
    have hpending := hlexed.pending
    rw [hassemble]
    exact fileOutcome_of_tokens hread hlexed.readable hlexed.sorted hlexed.lines (by omega)
      (by omega) (by omega) hlineFuel
  · have herror : assembleFile cfg reader fixed fuel lineFuel input =
        .error (.thrown (.conversion e)) := by
      unfold assembleFile
      rw [he]
      rfl
    rw [herror]
    exact .lexer he

/-- A file with a FENCE is accepted, and not assembled. -/
theorem assembleFile_outcome_fence :
    FileOutcome {} .zeros (fun _ => "") 8 "fence\n".toList
        (assembleFile {} .zeros (fun _ => "") 8 (2 ^ 32 + 1) "fence\n".toList) ∧
      (assembleFile {} .zeros (fun _ => "") 8 (2 ^ 32 + 1) "fence\n".toList).map
        AssembledProgram.textBuffer = .error (.thrown (.invalidInstructionType "fence")) :=
  ⟨assembleFile_outcome (by decide) (by decide) (by decide), by decide +kernel⟩

end RiscvSim

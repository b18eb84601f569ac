import RiscvSim.Assembler.Equiv.LabelAddresses
import RiscvSim.Assembler.Equiv.Passes

/-!
# The numbering of the intermediate code

The parser keeps a counter of instructions, a vector of units, a map from
instructions to lines, and an index in each unit (`Parser.Bookkeeping`).

* **`Parser.bookkeeping_iff`**: they agree exactly in the programs without a load
  from a data label that have less than `2 ^ 32` instructions.
-/

namespace RiscvSim

open Lib

namespace Parser

variable {cfg : VmConfig} {reader : FloatReader} {fuel : Nat} {p p' q : Parser}
  {l : List Parser} {block : ICUnit} {garbage : Nat → BitVec 32}

/-! ### The numbering -/

/-- The lines of the units. -/
def unitLines (p : Parser) : List (BitVec 32) :=
  p.intermediateCode.map (·.1.lineNumber)

/-- `getInstructionIndex` of the units, when uninitialised members hold `garbage`. -/
def unitIndices (garbage : Nat → BitVec 32) (p : Parser) : List Nat :=
  p.intermediateCode.zipIdx.map fun (unit, i) =>
    (unit.1.instructionIndex.getD (garbage i)).toNat

/-- The counter, the map from instructions to lines, the waiting references and
the units agree about the numbers of the instructions. -/
structure Bookkeeping (garbage : Nat → BitVec 32) (p : Parser) : Prop where
  size : p.intermediateCode.length = p.instructionIndex.toNat
  keys : p.instructionNumberLineNumberMapping.map (·.1.toNat) = List.range p.intermediateCode.length
  lines : p.instructionNumberLineNumberMapping.map (·.2) = p.unitLines
  sorted : p.unitLines.Pairwise (· ≤ ·)
  backPatch : ∀ index ∈ p.backPatch, index.toNat < p.intermediateCode.length
  indices : p.unitIndices garbage = List.range p.intermediateCode.length

/-- The map that gives the instructions these lines. -/
def numbered (lines : List (BitVec 32)) : List (BitVec 32 × BitVec 32) :=
  lines.zipIdx.map fun (line, i) => (BitVec.ofNat 32 i, line)

theorem numbered_append (lines : List (BitVec 32)) (line : BitVec 32) :
    numbered (lines ++ [line]) = numbered lines ++ [(BitVec.ofNat 32 lines.length, line)] := by
  unfold numbered
  rw [List.zipIdx_append, List.map_append]
  simp

theorem keys_numbered {lines : List (BitVec 32)} (h : lines.length ≤ 2 ^ 32) :
    (numbered lines).map (·.1.toNat) = List.range lines.length := by
  refine List.ext_getElem (by simp [numbered]) fun i hi _ => ?_
  have hlt : i < lines.length := by simpa [numbered] using hi
  simp only [numbered, List.getElem_map, List.getElem_zipIdx, BitVec.toNat_ofNat,
    List.getElem_range]
  omega

theorem lines_numbered (lines : List (BitVec 32)) : (numbered lines).map (·.2) = lines := by
  unfold numbered
  rw [List.map_map]
  exact List.zipIdx_map_fst 0 lines

/-- An assignment behind all keys. -/
theorem assignEntry_of_lt {key value : BitVec 32} :
    ∀ {entries : List (BitVec 32 × BitVec 32)}, (∀ entry ∈ entries, entry.1 < key) →
      assignEntry key value entries = entries ++ [(key, value)] := by
  intro entries
  induction entries with
  | nil => exact fun _ => rfl
  | cons entry entries ih =>
    intro h
    have hlt : entry.1 < key := h entry List.mem_cons_self
    have hne : key ≠ entry.1 := by
      rintro rfl
      exact BitVec.lt_irrefl _ hlt
    rw [assignEntry, if_neg (BitVec.not_lt.mpr (BitVec.le_of_lt hlt)), if_neg hne,
      ih fun entry' hmem => h entry' (List.mem_cons_of_mem entry hmem)]
    rfl

theorem assignEntry_numbered {lines : List (BitVec 32)} (line : BitVec 32)
    (h : lines.length < 2 ^ 32) :
    assignEntry (BitVec.ofNat 32 lines.length) line (numbered lines) =
      numbered (lines ++ [line]) := by
  rw [numbered_append]
  refine assignEntry_of_lt fun entry hentry => ?_
  obtain ⟨⟨line', i⟩, hmem, rfl⟩ := List.mem_map.mp hentry
  have hi : i < lines.length := by
    have := List.snd_lt_of_mem_zipIdx hmem
    omega
  rw [BitVec.lt_def, BitVec.toNat_ofNat, BitVec.toNat_ofNat]
  omega

/-! ### The invariant of the second pass -/

/-- The numbering as long as the counter has not gone round, with the lines of
the tokens still ahead. -/
structure Numbering (p : Parser) : Prop where
  index : p.instructionIndex = BitVec.ofNat 32 p.intermediateCode.length
  mapping : p.intermediateCode.length ≤ 2 ^ 32 →
    p.instructionNumberLineNumberMapping = numbered p.unitLines
  sorted : p.unitLines.Pairwise (· ≤ ·)
  ahead : ∀ line ∈ p.unitLines, ∀ token ∈ p.rest, line ≤ token.lineNumber
  tokens : p.rest.Pairwise fun token token' => token.lineNumber ≤ token'.lineNumber
  backPatch : p.intermediateCode.length ≤ 2 ^ 32 →
    ∀ index ∈ p.backPatch, index.toNat < p.intermediateCode.length

theorem length_emit (p : Parser) (block : ICUnit) (resolved : Bool) :
    (p.emit block resolved).intermediateCode.length = p.intermediateCode.length + 1 :=
  List.length_append

theorem unitLines_emit (p : Parser) (block : ICUnit) (resolved : Bool) :
    (p.emit block resolved).unitLines = p.unitLines ++ [block.lineNumber] :=
  List.map_append

theorem unitIndices_emit (p : Parser) (block : ICUnit) (resolved : Bool) :
    (p.emit block resolved).unitIndices garbage = p.unitIndices garbage ++
      [(block.instructionIndex.getD (garbage p.intermediateCode.length)).toNat] := by
  unfold unitIndices emit
  rw [List.zipIdx_append, List.map_append]
  simp

namespace Numbering

theorem move {rest : List Token} (hsuffix : rest <:+ p.rest) (h : p.Numbering) :
    Numbering { p with rest := rest } :=
  { h with
    ahead := fun line hline token htoken => h.ahead line hline token (hsuffix.subset htoken)
    tokens := h.tokens.sublist hsuffix.sublist }

theorem report {line : BitVec 32} {message : String} (h : p.Numbering) :
    (p.reportError line message).Numbering :=
  { h with }

theorem define (h : p.Numbering) (name : String) (data : SymbolData) :
    (p.defineSymbol name data).Numbering :=
  { h with }

/-- A unit with the line of the current token. -/
theorem emit (h : p.Numbering) (ht : p.currentToken.type ≠ .eof)
    (hline : block.lineNumber = p.currentToken.lineNumber) (resolved : Bool) :
    (p.emit block resolved).Numbering := by
  obtain ⟨tokens, hrest⟩ := rest_of_ne_eof ht
  have hlength := length_emit p block resolved
  have hcurrent : p.currentToken ∈ p.rest := by
    rw [hrest]
    exact List.mem_cons_self
  constructor
  case index =>
    rw [hlength, BitVec.ofNat_add]
    exact congrArg (· + 1#32) h.index
  case mapping =>
    intro hle
    rw [hlength] at hle
    have hlt : p.unitLines.length < 2 ^ 32 := by
      rw [unitLines, List.length_map]
      omega
    have hindex : p.instructionIndex = BitVec.ofNat 32 p.unitLines.length := by
      rw [unitLines, List.length_map]
      exact h.index
    rw [unitLines_emit, ← assignEntry_numbered block.lineNumber hlt, ← hindex,
      ← h.mapping (by omega)]
    rfl
  case sorted =>
    rw [unitLines_emit, List.pairwise_append]
    refine ⟨h.sorted, List.pairwise_singleton _ _, fun line hmem line' hmem' => ?_⟩
    rw [List.mem_singleton.mp hmem', hline]
    exact h.ahead line hmem p.currentToken hcurrent
  case ahead =>
    intro line hmem token htoken
    rw [unitLines_emit, List.mem_append, List.mem_singleton] at hmem
    rcases hmem with hmem | rfl
    · exact h.ahead line hmem token htoken
    · have htokens := h.tokens
      have htoken' : token ∈ p.rest := htoken
      rw [hrest] at htokens htoken'
      rw [hline]
      rcases List.mem_cons.mp htoken' with rfl | hmem
      · exact BitVec.le_refl _
      · exact (List.pairwise_cons.mp htokens).1 token hmem
  case tokens => exact h.tokens
  case backPatch =>
    intro hle index hmem
    rw [hlength] at hle ⊢
    exact Nat.lt_succ_of_lt (h.backPatch (by omega) index hmem)

/-- A unit whose reference waits. -/
theorem await (h : p.Numbering) (ht : p.currentToken.type ≠ .eof)
    (hline : block.lineNumber = p.currentToken.lineNumber) : (p.awaitLabel block).Numbering := by
  have hemit := h.emit ht hline false
  have hlength : (p.awaitLabel block).intermediateCode.length = p.intermediateCode.length + 1 :=
    length_emit p block false
  refine { hemit with backPatch := fun hle index hmem => ?_ }
  rcases List.mem_append.mp hmem with hmem | hmem
  · exact hemit.backPatch hle index hmem
  · rw [List.mem_singleton.mp hmem, hlength, h.index, BitVec.toNat_ofNat]
    omega

end Numbering

/-- The indices in the units are right so far. -/
def Indexed (garbage : Nat → BitVec 32) (p : Parser) : Prop :=
  p.unitIndices garbage = List.range p.intermediateCode.length

theorem indexed_emit_iff (p : Parser) (block : ICUnit) (resolved : Bool) :
    (p.emit block resolved).Indexed garbage ↔ p.Indexed garbage ∧
      (block.instructionIndex.getD (garbage p.intermediateCode.length)).toNat =
        p.intermediateCode.length := by
  unfold Indexed
  rw [unitIndices_emit, length_emit, List.range_succ]
  constructor
  · intro h
    obtain ⟨hindices, hlast⟩ := List.append_inj' h rfl
    exact ⟨hindices, List.singleton_inj.mp hlast⟩
  · rintro ⟨hindices, hlast⟩
    rw [hindices, hlast]

theorem Numbering.indexed_emit (h : p.Numbering)
    (hlt : p.intermediateCode.length < 2 ^ 32)
    (hindex : block.instructionIndex = some p.instructionIndex) (resolved : Bool) :
    (p.emit block resolved).Indexed garbage ↔ p.Indexed garbage := by
  rw [indexed_emit_iff, and_iff_left_iff_imp]
  intro _
  rw [hindex, Option.getD_some, h.index, BitVec.toNat_ofNat, Nat.mod_eq_of_lt hlt]

/-! ### A line -/

theorem Numbering.adds (h : p.Numbering) (ht : p.currentToken.type ≠ .eof) (hadds : p.Adds q) :
    q.Numbering := by
  cases hadds with
  | report line message => exact h.report
  | one hblock => exact h.emit ht hblock.lineNumber true
  | two hfirst hsecond => exact (h.emit ht hfirst.lineNumber true).emit ht hsecond.lineNumber true
  | load _ hfirst hsecond _ => exact (h.emit ht hfirst true).emit ht hsecond true
  | await hblock => exact h.await ht hblock.lineNumber

theorem Adds.rest (hadds : p.Adds q) : q.rest = p.rest := by
  cases hadds <;> rfl

/-- A line adds two units at most. -/
theorem Adds.length_le (hadds : p.Adds q) :
    p.intermediateCode.length ≤ q.intermediateCode.length ∧
      q.intermediateCode.length ≤ p.intermediateCode.length + 2 := by
  cases hadds with
  | report line message => exact ⟨Nat.le_refl _, Nat.le_add_right _ 2⟩
  | one hblock =>
    rw [length_emit]
    omega
  | two hfirst hsecond =>
    rw [length_emit, length_emit]
    omega
  | load _ _ _ _ =>
    rw [length_emit, length_emit]
    omega
  | @await block hblock =>
    have hlength : (p.awaitLabel block).intermediateCode.length = p.intermediateCode.length + 1 :=
      length_emit p block false
    omega

/-- A line that does not load from a data label keeps the indices right. -/
theorem Numbering.indexed_adds (h : p.Numbering) (ht : p.currentToken.type ≠ .eof)
    (hnot : ¬p.LoadsLabel) (hadds : p.Adds q) (hle : q.intermediateCode.length ≤ 2 ^ 32) :
    q.Indexed garbage ↔ p.Indexed garbage := by
  cases hadds with
  | report line message => exact Iff.rfl
  | one hblock =>
    rw [length_emit] at hle
    exact h.indexed_emit (by omega) hblock.instructionIndex true
  | two hfirst hsecond =>
    rw [length_emit, length_emit] at hle
    have hnext := h.emit ht hfirst.lineNumber true
    rw [hnext.indexed_emit (by rw [length_emit]; omega) hsecond.instructionIndex true]
    exact h.indexed_emit (by omega) hfirst.instructionIndex true
  | load hloads _ _ _ => exact absurd hloads hnot
  | @await block hblock =>
    have hlength : (p.awaitLabel block).intermediateCode.length = p.intermediateCode.length + 1 :=
      length_emit p block false
    exact h.indexed_emit (by omega) hblock.instructionIndex false

/-- The units of a load from a data label. -/
theorem parseTextItem_of_loadsLabel (h : p.LoadsLabel) (hparse : p.parseTextItem cfg = .ok p') :
    ∃ first second, first.lineNumber = p.currentToken.lineNumber ∧
      second.lineNumber = p.currentToken.lineNumber ∧
      first.instructionIndex = some (p.instructionIndex + 1#32) ∧
      p' = ((p.emit first true).emit second true).skipCurrentLine := by
  obtain ⟨htype, ⟨⟨name, op⟩, hmem, rfl⟩, hline, haddress⟩ := h
  obtain ⟨henabled, hsyntaxes⟩ := parseSyntaxes_labelLoad cfg hmem hline
  obtain ⟨address, haddress⟩ := Option.isSome_iff_exists.mp haddress
  cases hreg : p.regName 1 with
  | error e =>
    have herror : p.parseOGprCDl cfg = .error e := by
      unfold parseOGprCDl
      rw [if_pos hline, hreg]
      rfl
    have hthrows : parseSyntaxes cfg (syntaxesOf p.currentToken.value) p = .error e := by
      rw [hsyntaxes]
      unfold parseSyntaxes
      show p.parseOGprCDl cfg >>= _ = _
      rw [herror]
      rfl
    rw [parseTextItem_of_error htype henabled hthrows] at hparse
    cases hparse
  | ok reg =>
    have hdata : ∃ p', p.parseOGprCDl cfg = .ok (true, p') ∧ ∃ first second,
        first.lineNumber = p.currentToken.lineNumber ∧
        second.lineNumber = p.currentToken.lineNumber ∧
        first.instructionIndex = some (p.instructionIndex + 1#32) ∧
        p' = ((p.emit first true).emit second true).skipCurrentLine := by
      unfold parseOGprCDl
      rw [if_pos hline, hreg, ok_bind, haddress]
      exact ⟨_, rfl, _, _, rfl, rfl, rfl, rfl⟩
    obtain ⟨p₁, hload, hunits⟩ := hdata
    rw [parseTextItem_labelLoad hmem htype hline hload] at hparse
    obtain rfl := Except.ok.inj hparse
    exact hunits

/-- The index of the first one is wrong, whatever that of the second one is. -/
theorem Numbering.not_indexed (h : p.Numbering) {first : ICUnit} (second : ICUnit)
    (hindex : first.instructionIndex = some (p.instructionIndex + 1#32)) :
    ¬((p.emit first true).emit second true).Indexed garbage := by
  rw [indexed_emit_iff, indexed_emit_iff, hindex, Option.getD_some, h.index, ← BitVec.ofNat_add,
    BitVec.toNat_ofNat]
  omega

/-- The invariant of the second pass over the items it has parsed. -/
structure Tracked (garbage : Nat → BitVec 32) (l : List Parser) (p : Parser) : Prop where
  numbering : p.Numbering
  indices : p.intermediateCode.length ≤ 2 ^ 32 → (p.Indexed garbage ↔ ∀ q ∈ l, ¬q.LoadsLabel)

theorem Tracked.report (h : Tracked garbage l p) (line : BitVec 32) (message : String) :
    Tracked garbage l (p.reportError line message) :=
  ⟨h.numbering.report, h.indices⟩

theorem stable_tracked : Stable (Tracked garbage) :=
  .of_report (fun hsuffix h => ⟨h.numbering.move hsuffix, h.indices⟩) fun h => h.report _ _

theorem Tracked.parseTextLabel (h : Tracked garbage l p) : Tracked garbage l p.parseTextLabel := by
  unfold Parser.parseTextLabel
  split
  · exact stable_tracked.nextToken (h.report _ _)
  · exact stable_tracked.nextToken ⟨h.numbering.define _ _, h.indices⟩

/-- An item of the text section. -/
theorem Tracked.parseTextItem (h : Tracked garbage l p) (hgo : endsText p.currentToken = false)
    (hparse : p.parseTextItem cfg = .ok p') : Tracked garbage (l ++ [p]) p' := by
  have ht := currentToken_ne_eof hgo
  have hall : (∀ q ∈ l ++ [p], ¬q.LoadsLabel) ↔ (∀ q ∈ l, ¬q.LoadsLabel) ∧ ¬p.LoadsLabel := by
    simp [or_imp, forall_and]
  by_cases hloads : p.LoadsLabel
  · obtain ⟨first, second, hfirst, hsecond, hindex, rfl⟩ := parseTextItem_of_loadsLabel hloads hparse
    have hnumbering := (h.numbering.emit ht hfirst true).emit ht hsecond true
    refine ⟨hnumbering.move (List.dropWhile_suffix _), fun _ => ?_⟩
    have hnot := @Numbering.not_indexed p garbage h.numbering first second hindex
    rw [hall]
    exact ⟨fun hindexed => absurd hindexed hnot, fun h => absurd hloads h.2⟩
  · rcases ensures_parseTextItem ht p' hparse with
      ⟨-, rfl⟩ | ⟨-, ⟨q, hadds, hq⟩, hadvances⟩
    · have hlabel := h.parseTextLabel
      refine ⟨hlabel.numbering, fun hle => ?_⟩
      rw [hall, and_iff_left hloads]
      exact hlabel.indices hle
    · have hnumbering := h.numbering.adds ht hadds
      have hindexed := @Numbering.indexed_adds p q garbage h.numbering ht hloads hadds
      have hlength := hadds.length_le.1
      rw [hq]
      have hsuffix : p'.rest <:+ q.rest := by
        rw [hadds.rest]
        exact hadvances.suffix
      refine ⟨hnumbering.move hsuffix, fun hle => ?_⟩
      have hle' : q.intermediateCode.length ≤ 2 ^ 32 := hle
      rw [hall, and_iff_left hloads, ← h.indices (by omega)]
      exact hindexed hle'

/-! ### The whole parse -/

/-- No intermediate code yet. -/
structure NoCode (p : Parser) : Prop where
  intermediateCode : p.intermediateCode = []
  backPatch : p.backPatch = []
  mapping : p.instructionNumberLineNumberMapping = []

theorem NoCode.appends (h : p.NoCode) (happends : p.Appends p') : p'.NoCode := by
  rw [happends.frame]
  exact { h with }

theorem NoCode.parseDataLabel (h : p.NoCode) : p.parseDataLabel.NoCode := by
  unfold Parser.parseDataLabel
  dsimp only
  split
  · exact { h.appends (p.appends_align _) with }
  · exact { h with }

theorem noCode_firstPass {tokens : List Token}
    (h : firstPass reader fuel { rest := tokens } = .ok p) : p.NoCode := by
  refine firstPass_invariant (fun _ q => q.NoCode)
    (.of_report (fun _ h => { h with }) fun h => { h with })
    ?_ ⟨rfl, rfl, rfl⟩ h
  intro _ q q' hq _ hparse
  rcases ensures_parseDataItem q q' hparse with ⟨-, rfl⟩ | ⟨-, q₁, h₁, h₂, -⟩
  · exact hq.parseDataLabel
  · exact (hq.appends h₂).appends h₁

/-- The second pass starts with the numbering of no code. -/
theorem NoCode.tracked (h : p.NoCode) {tokens : List Token}
    (htokens : tokens.Pairwise fun token token' => token.lineNumber ≤ token'.lineNumber) :
    Tracked garbage [] (p.rewind tokens) := by
  have hcode : (p.rewind tokens).intermediateCode = [] := h.intermediateCode
  have hlines : (p.rewind tokens).unitLines = [] := by
    rw [unitLines, hcode]
    rfl
  refine ⟨⟨by rw [hcode]; rfl, fun _ => ?_, ?_, ?_, htokens, fun _ index hmem => ?_⟩, fun _ => ?_⟩
  · rw [hlines]
    exact h.mapping
  · rw [hlines]
    exact List.Pairwise.nil
  · rw [hlines]
    exact fun line hline => absurd hline List.not_mem_nil
  · have hmem' : index ∈ p.backPatch := hmem
    rw [h.backPatch] at hmem'
    cases hmem'
  · rw [Indexed, unitIndices, hcode]
    simp

/-- What the bookkeeping reads of the parser. -/
def books (p : Parser) : List (BitVec 32 × Option (BitVec 32)) × List (BitVec 32) ×
    List (BitVec 32 × BitVec 32) × BitVec 32 :=
  (p.intermediateCode.map fun unit => (unit.1.lineNumber, unit.1.instructionIndex), p.backPatch,
    p.instructionNumberLineNumberMapping, p.instructionIndex)

theorem books_resolveUnit {index : BitVec 32} {old new : ICUnit} {resolved : Bool}
    (hold : p.intermediateCode[index.toNat]? = some (old, resolved))
    (hline : new.lineNumber = old.lineNumber)
    (hindex : new.instructionIndex = old.instructionIndex) :
    (p.resolveUnit index new).books = p.books := by
  obtain ⟨hi, hget⟩ := List.getElem?_eq_some_iff.mp hold
  have hset : (p.intermediateCode.set index.toNat (new, true)).map
      (fun unit => (unit.1.lineNumber, unit.1.instructionIndex)) =
      p.intermediateCode.map fun unit => (unit.1.lineNumber, unit.1.instructionIndex) := by
    refine List.ext_getElem (by simp) fun i h₁ h₂ => ?_
    rw [List.getElem_map, List.getElem_map, List.getElem_set]
    by_cases hi' : index.toNat = i
    · subst hi'
      rw [if_pos rfl, hget, hline, hindex]
    · rw [if_neg hi']
  unfold books resolveUnit
  rw [hset]

theorem books_backPatchUnit (p : Parser) (index : BitVec 32) :
    (p.backPatchUnit index).books = p.books := by
  unfold backPatchUnit
  split
  · rfl
  · rename_i block resolved hunit
    have hpatch : ∀ imm, (p.resolveUnit index (block.setImm imm)).books = p.books :=
      fun imm => books_resolveUnit hunit rfl rfl
    split
    · rfl
    dsimp only
    split
    · split
      · exact books_resolveUnit (p := p.reportError _ _) hunit rfl rfl
      split
      · exact hpatch _
      · rfl
    split
    · split
      · exact hpatch _
      · rfl
    · rfl

theorem books_backPatch (indices : List (BitVec 32)) :
    ∀ p : Parser, (indices.foldl backPatchUnit p).books = p.books := by
  induction indices with
  | nil => exact fun _ => rfl
  | cons index indices ih =>
    intro p
    rw [List.foldl_cons, ih, books_backPatchUnit]

theorem unitLines_eq_of_books (h : p.books = p'.books) : p.unitLines = p'.unitLines := by
  simpa [books, unitLines, Function.comp_def] using congrArg (fun b => b.1.map (·.1)) h

theorem unitIndices_eq_of_books (h : p.books = p'.books) :
    p.unitIndices garbage = p'.unitIndices garbage := by
  have hindices := congrArg
    (fun b => b.1.zipIdx.map fun (unit, i) => (unit.2.getD (garbage i)).toNat) h
  simpa [books, unitIndices, List.zipIdx_map, Function.comp_def] using hindices

theorem length_eq_of_books (h : p.books = p'.books) :
    p.intermediateCode.length = p'.intermediateCode.length := by
  simpa [books] using congrArg (fun b => b.1.length) h

theorem mapping_eq_of_books (h : p.books = p'.books) :
    p.instructionNumberLineNumberMapping = p'.instructionNumberLineNumberMapping :=
  congrArg (fun b => b.2.2.1) h

theorem Bookkeeping.congr (h : p.Bookkeeping garbage) (hbooks : p.books = p'.books) :
    p'.Bookkeeping garbage := by
  have hpatch : p.backPatch = p'.backPatch := congrArg (fun b => b.2.1) hbooks
  have hindex : p.instructionIndex = p'.instructionIndex := congrArg (fun b => b.2.2.2) hbooks
  obtain ⟨h₁, h₂, h₃, h₄, h₅, h₆⟩ := h
  rw [length_eq_of_books hbooks] at h₁ h₂ h₅ h₆
  rw [mapping_eq_of_books hbooks] at h₂ h₃
  rw [unitLines_eq_of_books hbooks] at h₃ h₄
  rw [hindex] at h₁
  rw [hpatch] at h₅
  rw [unitIndices_eq_of_books hbooks] at h₆
  exact ⟨h₁, h₂, h₃, h₄, h₅, h₆⟩

theorem Tracked.books_agree_iff (h : Tracked garbage l p) :
    p.Bookkeeping garbage ↔ (∀ q ∈ l, ¬q.LoadsLabel) ∧ p.intermediateCode.length < 2 ^ 32 := by
  have hunits : p.unitLines.length = p.intermediateCode.length := List.length_map _
  constructor
  · intro hbooks
    have hlt : p.intermediateCode.length < 2 ^ 32 := by
      rw [hbooks.size]
      exact p.instructionIndex.isLt
    exact ⟨(h.indices (by omega)).mp hbooks.indices, hlt⟩
  · rintro ⟨hloads, hlt⟩
    have hle : p.intermediateCode.length ≤ 2 ^ 32 := by omega
    have hmapping := h.numbering.mapping hle
    constructor
    case size => rw [h.numbering.index, BitVec.toNat_ofNat, Nat.mod_eq_of_lt hlt]
    case keys => rw [hmapping, keys_numbered (by omega), hunits]
    case lines => rw [hmapping, lines_numbered]
    case sorted => exact h.numbering.sorted
    case backPatch => exact h.numbering.backPatch hle
    case indices => exact (h.indices hle).mpr hloads

/-- A token makes two units at most. -/
theorem length_secondPass_le (hcode : p.intermediateCode = [])
    (h : secondPass cfg fuel p = .ok p') : p'.intermediateCode.length ≤ 2 * p.rest.length := by
  have hall : p'.intermediateCode.length + 2 * p'.rest.length ≤ 2 * p.rest.length := by
    refine secondPass_invariant
      (fun _ q => q.intermediateCode.length + 2 * q.rest.length ≤ 2 * p.rest.length)
      (.of_report (fun hsuffix h => ?_) fun h => h) ?_ (by rw [hcode, List.length_nil, Nat.zero_add]) h
    · have hrest := hsuffix.length_le
      dsimp only
      omega
    · intro _ q q' hq hgo hparse
      rcases ensures_parseTextItem (currentToken_ne_eof hgo) q' hparse with
        ⟨-, rfl⟩ | ⟨-, ⟨q₁, hadds, hq'⟩, hadvances⟩
      · have hlabel : q.parseTextLabel.intermediateCode = q.intermediateCode ∧
            q.parseTextLabel.rest = q.rest.tail := by
          unfold parseTextLabel
          split <;> exact ⟨rfl, rfl⟩
        rw [hlabel.1, hlabel.2, List.length_tail]
        omega
      · have hcode' : q'.intermediateCode = q₁.intermediateCode := by rw [hq']
        have hshorter := hadvances.shorter
        have hadded := hadds.length_le.2
        rw [hcode']
        omega
  omega

/-- The result of a parse has the books of the invariant of the second pass. -/
theorem exists_tracked (garbage : Nat → BitVec 32) {tokens : List Token}
    (htokens : tokens.Pairwise fun token token' => token.lineNumber ≤ token'.lineNumber)
    (h : parse cfg reader fuel tokens = .ok p) :
    ∃ q, Tracked garbage (parsedText cfg reader fuel tokens) q ∧ q.books = p.books ∧
      q.intermediateCode.length ≤ 2 * tokens.length := by
  obtain ⟨p₁, p₂, hfirst, hsecond, htext, rfl⟩ := parse_eq_ok h
  have hnocode := noCode_firstPass hfirst
  have hcode : (p₁.rewind tokens).intermediateCode = [] := hnocode.intermediateCode
  rw [htext]
  refine ⟨p₂, ?_, (books_backPatch p₂.backPatch p₂).symm, length_secondPass_le hcode hsecond⟩
  exact secondPass_invariant (Tracked garbage) stable_tracked (fun _ _ _ h => h.parseTextItem)
    (hnocode.tracked htokens) hsecond

/-- The map from instructions to lines, as long as its keys suffice. -/
theorem mapping_eq_numbered {tokens : List Token}
    (htokens : tokens.Pairwise fun token token' => token.lineNumber ≤ token'.lineNumber)
    (h : parse cfg reader fuel tokens = .ok p) (hle : p.intermediateCode.length ≤ 2 ^ 32) :
    p.instructionNumberLineNumberMapping = numbered p.unitLines ∧
      p.unitLines.Pairwise (· ≤ ·) := by
  obtain ⟨q, htracked, hbooks, -⟩ := exists_tracked (fun _ => 0#32) htokens h
  rw [← mapping_eq_of_books hbooks, ← unitLines_eq_of_books hbooks]
  rw [← length_eq_of_books hbooks] at hle
  exact ⟨htracked.numbering.mapping hle, htracked.numbering.sorted⟩

/-- **The bookkeeping agrees exactly** where no line loads from a data label and
the counter does not go round, which takes `2 ^ 31` tokens, whatever is in the
members that are not set.  The tokens are those of a file: in the order of their
lines. -/
theorem bookkeeping_iff (garbage : Nat → BitVec 32) {tokens : List Token}
    (htokens : tokens.Pairwise fun token token' => token.lineNumber ≤ token'.lineNumber)
    (h : parse cfg reader fuel tokens = .ok p) :
    (p.Bookkeeping garbage ↔ (∀ q ∈ parsedText cfg reader fuel tokens, ¬q.LoadsLabel) ∧
        p.intermediateCode.length < 2 ^ 32) ∧
      (tokens.length < 2 ^ 31 → p.intermediateCode.length < 2 ^ 32) := by
  obtain ⟨q, htracked, hbooks, hle⟩ := exists_tracked garbage htokens h
  rw [← length_eq_of_books hbooks]
  constructor
  · rw [← htracked.books_agree_iff]
    exact ⟨fun h => h.congr hbooks.symm, fun h => h.congr hbooks⟩
  · intro hlt
    omega

theorem bookkeeping_iff_la :
    ∃ p, parse {} .zeros 10 laProgram = .ok p ∧ p.Bookkeeping (fun _ => 32765#32) ∧
      p.intermediateCode.length = 2 := by
  have hparse := eq_ok_getD { rest := [] }
    (show (parse {} .zeros 10 laProgram).toOption.isSome = true by decide +kernel)
  exact ⟨_, hparse, (bookkeeping_iff _ (by decide) hparse).1.mpr
    ⟨by decide +kernel, by decide +kernel⟩, by decide +kernel⟩

/-- A program that loads from its only data label. -/
def labelLoadProgram : List Token :=
  [⟨.directive, "data", 1#32⟩, ⟨.label, "v", 2#32⟩, ⟨.directive, "word", 2#32⟩,
    ⟨.num, "7", 2#32⟩, ⟨.directive, "text", 3#32⟩, ⟨.opcode, "lw", 4#32⟩,
    ⟨.gpRegister, "a0", 4#32⟩, ⟨.comma, ",", 4#32⟩, ⟨.labelRef, "v", 4#32⟩, ⟨.eof, "", 4#32⟩]

/-- The first unit has the index of the second one, which has none of its own. -/
theorem not_bookkeeping_labelLoad :
    ∃ p, parse {} .zeros 10 labelLoadProgram = .ok p ∧ p.errors.count = 0#32 ∧
      p.intermediateCode.map (·.1.instructionIndex) = [some 1#32, none] ∧
      ∀ garbage, ¬p.Bookkeeping garbage := by
  have hparse := eq_ok_getD { rest := [] }
    (show (parse {} .zeros 10 labelLoadProgram).toOption.isSome = true by decide +kernel)
  have hindices : ((parse {} .zeros 10 labelLoadProgram).toOption.getD
      { rest := [] }).intermediateCode.map (·.1.instructionIndex) = [some 1#32, none] := by
    decide +kernel
  refine ⟨_, hparse, by decide +kernel, hindices, fun garbage hbooks => ?_⟩
  have hrange := hbooks.indices
  generalize (parse {} .zeros 10 labelLoadProgram).toOption.getD { rest := [] } = p
    at hindices hrange
  unfold unitIndices at hrange
  cases hcode : p.intermediateCode with
  | nil =>
    rw [hcode] at hindices
    cases hindices
  | cons unit code =>
    rw [hcode] at hindices hrange
    have hindex : unit.1.instructionIndex = some 1#32 := (List.cons.inj hindices).1
    rw [List.zipIdx_cons, List.map_cons, List.length_cons, List.range_succ_eq_map] at hrange
    have hzero : (unit.1.instructionIndex.getD (garbage 0)).toNat = 0 := (List.cons.inj hrange).1
    rw [hindex] at hzero
    exact absurd hzero Nat.one_ne_zero

end Parser

end RiscvSim

import RiscvSim.Assembler.Equiv.Fitting
import RiscvSim.Assembler.Equiv.Labels

/-!
# Accepted programs and their code

In the second pass every unit of the intermediate code fits, and the units without
an offset are those whose indices wait (`Parser.Marked`).  Back-patching gives each
of them an offset or reports an error.

* **`Parser.encodable_of_parse`**: the code generator can encode all units of a
  program without errors but FENCE.
-/

namespace RiscvSim

open Lib

namespace Parser

variable {cfg : VmConfig} {reader : FloatReader} {fuel : Nat} {p p' q : Parser} {block : ICUnit}

/-! ### The second pass -/

/-- The units without an offset are those whose indices wait. -/
structure Marked (p : Parser) : Prop where
  index : p.instructionIndex = BitVec.ofNat 32 p.intermediateCode.length
  unresolved : ∀ i block, p.intermediateCode[i]? = some (block, false) →
    BitVec.ofNat 32 i ∈ p.backPatch
  waits : p.intermediateCode.length ≤ 2 ^ 32 → ∀ index ∈ p.backPatch,
    ∃ block, p.intermediateCode[index.toNat]? = some (block, false)

theorem getElem?_emit_of_lt {i : Nat} (h : i < p.intermediateCode.length) (resolved : Bool) :
    (p.emit block resolved).intermediateCode[i]? = p.intermediateCode[i]? :=
  List.getElem?_append_left h

theorem getElem?_emit_eq_some {i : Nat} {resolved : Bool} {unit : ICUnit × Bool}
    (h : (p.emit block resolved).intermediateCode[i]? = some unit) :
    p.intermediateCode[i]? = some unit ∨
      i = p.intermediateCode.length ∧ unit = (block, resolved) := by
  have hget : (p.intermediateCode ++ [(block, resolved)])[i]? = some unit := h
  rw [List.getElem?_append] at hget
  split at hget
  · exact .inl hget
  · obtain ⟨hi, hunit⟩ := List.getElem?_eq_some_iff.mp hget
    have hi' : i - p.intermediateCode.length < 1 := hi
    exact .inr ⟨by omega, by simpa using hunit.symm⟩

namespace Marked

theorem index_emit (h : p.Marked) (resolved : Bool) :
    (p.emit block resolved).instructionIndex =
      BitVec.ofNat 32 (p.emit block resolved).intermediateCode.length := by
  rw [length_emit, BitVec.ofNat_add]
  exact congrArg (· + 1#32) h.index

theorem emit (h : p.Marked) : (p.emit block true).Marked where
  index := h.index_emit true
  unresolved := by
    intro i block' hget
    rcases getElem?_emit_eq_some hget with hget | ⟨-, hunit⟩
    · exact h.unresolved i block' hget
    · cases hunit
  waits := by
    intro hle index hmem
    rw [length_emit] at hle
    obtain ⟨block', hget⟩ := h.waits (by omega) index hmem
    exact ⟨block', (getElem?_emit_of_lt (List.getElem?_eq_some_iff.mp hget).1 true).trans hget⟩

theorem await (h : p.Marked) : (p.awaitLabel block).Marked where
  index := h.index_emit false
  unresolved := by
    intro i block' hget
    rcases getElem?_emit_eq_some hget with hget | ⟨rfl, -⟩
    · exact List.mem_append_left _ (h.unresolved i block' hget)
    · rw [← h.index]
      exact List.mem_append_right _ List.mem_cons_self
  waits := by
    intro hle index hmem
    have hlength : (p.awaitLabel block).intermediateCode.length = p.intermediateCode.length + 1 :=
      length_emit p block false
    rw [hlength] at hle
    rcases List.mem_append.mp hmem with hmem | hmem
    · obtain ⟨block', hget⟩ := h.waits (by omega) index hmem
      exact ⟨block', (getElem?_emit_of_lt (List.getElem?_eq_some_iff.mp hget).1 false).trans hget⟩
    · refine ⟨block, ?_⟩
      rw [List.mem_singleton.mp hmem, h.index, BitVec.toNat_ofNat, Nat.mod_eq_of_lt (by omega)]
      exact List.getElem?_concat_length

theorem adds (h : p.Marked) (hadds : p.Adds q) : q.Marked := by
  cases hadds with
  | report line message => exact { h with }
  | one _ => exact h.emit
  | two _ _ => exact h.emit.emit
  | load _ _ _ _ => exact h.emit.emit
  | await _ => exact h.await

end Marked

/-- The invariant of the second pass. -/
structure Fitted (p : Parser) : Prop extends p.Marked where
  readable : p.Readable
  fits : ∀ unit ∈ p.intermediateCode, UnitFits unit

theorem stable_fitted : Stable fun _ p => p.Fitted :=
  .of_report (fun hsuffix h => { h with
    readable := fun token htoken => h.readable token (hsuffix.subset htoken) }) fun h => { h with }

/-- An item of the text section. -/
theorem Fitted.parseTextItem (h : p.Fitted) (hgo : endsText p.currentToken = false)
    (hparse : p.parseTextItem cfg = .ok p') : p'.Fitted := by
  obtain ⟨units, hunits, hfit⟩ := fits_parseTextItem h.readable hparse
  have hfits : ∀ unit ∈ p'.intermediateCode, UnitFits unit := by
    intro unit hunit
    rw [show p'.intermediateCode = _ from hunits, List.mem_append] at hunit
    exact hunit.elim (h.fits unit) (hfit unit)
  rcases ensures_parseTextItem (currentToken_ne_eof hgo) p' hparse with
    ⟨-, rfl⟩ | ⟨-, ⟨q, hadds, hq⟩, hadvances⟩
  · have hreadable : ∀ token ∈ p.rest.tail, token.Readable :=
      fun token htoken => h.readable token (List.mem_of_mem_tail htoken)
    unfold parseTextLabel
    split <;> exact { h with readable := hreadable }
  · have hmarked := h.toMarked.adds hadds
    rw [hq] at hfits ⊢
    exact { hmarked with
      fits := hfits
      readable := fun token htoken => h.readable token (hadvances.suffix.subset htoken) }

theorem NoCode.fitted (h : p.NoCode) {tokens : List Token} (htokens : ∀ token ∈ tokens, token.Readable) :
    (p.rewind tokens).Fitted := by
  have hcode : (p.rewind tokens).intermediateCode = [] := h.intermediateCode
  have hpatch : (p.rewind tokens).backPatch = [] := h.backPatch
  refine ⟨⟨by rw [hcode]; rfl, ?_, ?_⟩, htokens, ?_⟩
  · rw [hcode]
    exact fun i block hget => absurd hget (by simp)
  · rw [hpatch]
    exact fun _ index hmem => absurd hmem List.not_mem_nil
  · rw [hcode]
    exact fun unit hunit => absurd hunit List.not_mem_nil

/-! ### Back-patching -/

/-- The invariant of the loop over the waiting indices, while there is no error. -/
structure Patching (indices : List (BitVec 32)) (p : Parser) : Prop where
  size : p.intermediateCode.length ≤ 2 ^ 32
  awaits : ∀ index ∈ indices, ∀ unit, p.intermediateCode[index.toNat]? = some unit → Awaits unit.1
  resolved : ∀ unit ∈ p.intermediateCode, unit.2 = true → Encodable unit.1
  unresolved : ∀ i block, p.intermediateCode[i]? = some (block, false) →
    BitVec.ofNat 32 i ∈ indices

theorem Awaits.of_bType (h : Awaits block) (hb : isValidBTypeInstruction block.opcode = true) :
    UnitClass.bType.HasRegisters block := by
  have hdisjoint : ∀ opcode ∈ jTypeInstructions, isValidBTypeInstruction opcode = false := by
    decide +kernel
  rcases h with h | h
  · exact h
  · rw [hdisjoint _ h.mnemonic] at hb
    cases hb

theorem Awaits.of_jType (h : Awaits block) (hj : isValidJTypeInstruction block.opcode = true) :
    UnitClass.jType.HasRegisters block := by
  have hdisjoint : ∀ opcode ∈ bTypeInstructions, isValidJTypeInstruction opcode = false := by
    decide +kernel
  rcases h with h | h
  · rw [hdisjoint _ h.mnemonic] at hj
    cases hj
  · exact h

/-- What a round does: the index has no unit, there is an error, or the unit gets an offset. -/
theorem backPatchUnit_cases {index : BitVec 32}
    (hawaits : ∀ unit, p.intermediateCode[index.toNat]? = some unit → Awaits unit.1) :
    p.intermediateCode[index.toNat]? = none ∧ p.backPatchUnit index = p ∨
    (p.backPatchUnit index).errors.parseErrors ≠ [] ∨
    ∃ block, Awaits block ∧ Encodable block ∧ p.backPatchUnit index = p.resolveUnit index block := by
  have hreport : ∀ line message, (p.reportError line message).errors.parseErrors ≠ [] :=
    fun line message => List.append_ne_nil_of_right_ne_nil _ (List.cons_ne_nil _ _)
  unfold backPatchUnit
  split
  · exact .inl ⟨‹_›, rfl⟩
  rename_i block resolved hunit
  have hblock : Awaits block := hawaits _ hunit
  right
  split
  · exact .inl (hreport _ _)
  rename_i symbol hsymbol
  dsimp only
  split
  · rename_i hb
    split
    · exact .inl (hreport _ _)
    split
    · rename_i hoffset
      have hregisters := Awaits.of_bType hblock hb
      exact .inr ⟨_, .inl (hregisters.setImm _), hregisters.encodable_setImm
        (mem_unitClasses_of_getElem? 5 rfl) rfl hoffset.1 hoffset.2 (by omega), rfl⟩
    · exact .inl (hreport _ _)
  split
  · rename_i hj
    split
    · rename_i hoffset
      have hregisters := Awaits.of_jType hblock hj
      exact .inr ⟨_, .inr (hregisters.setImm _), hregisters.encodable_setImm
        (mem_unitClasses_of_getElem? 7 rfl) rfl hoffset.1 hoffset.2 (by omega), rfl⟩
    · exact .inl (hreport _ _)
  · exact .inl (hreport _ _)

/-- A round of the loop. -/
theorem Patching.backPatchUnit {index : BitVec 32} {indices : List (BitVec 32)}
    (h : Patching (index :: indices) p)
    (hnone : (p.backPatchUnit index).errors.parseErrors = []) :
    Patching indices (p.backPatchUnit index) := by
  have hindex : ∀ i < p.intermediateCode.length, BitVec.ofNat 32 i = index → i = index.toNat := by
    rintro i hi rfl
    have hsize := h.size
    rw [BitVec.toNat_ofNat, Nat.mod_eq_of_lt (by omega)]
  have hlt : ∀ {i : Nat} {unit : ICUnit × Bool}, p.intermediateCode[i]? = some unit →
      i < p.intermediateCode.length := fun hget => (List.getElem?_eq_some_iff.mp hget).1
  rcases backPatchUnit_cases (h.awaits index List.mem_cons_self) with
    ⟨hunit, heq⟩ | herrors | ⟨block, hawaits, hencodable, heq⟩
  · rw [heq]
    refine { h with
      awaits := fun index' hmem => h.awaits index' (List.mem_cons_of_mem index hmem)
      unresolved := fun i block hget => ?_ }
    rcases List.mem_cons.mp (h.unresolved i block hget) with hi | hmem
    · rw [hindex i (hlt hget) hi, hunit] at hget
      cases hget
    · exact hmem
  · exact absurd hnone herrors
  · rw [heq]
    constructor
    case size =>
      show (p.intermediateCode.set index.toNat (block, true)).length ≤ _
      rw [List.length_set]
      exact h.size
    case awaits =>
      intro index' hmem unit hget
      have hget' : (p.intermediateCode.set index.toNat (block, true))[index'.toNat]? = some unit :=
        hget
      rw [List.getElem?_set] at hget'
      split at hget'
      · split at hget'
        · obtain rfl := Option.some.inj hget'
          exact hawaits
        · cases hget'
      · exact h.awaits index' (List.mem_cons_of_mem index hmem) unit hget'
    case resolved =>
      intro unit hmem hresolved
      rcases List.mem_or_eq_of_mem_set hmem with hmem | rfl
      · exact h.resolved unit hmem hresolved
      · exact hencodable
    case unresolved =>
      intro i block' hget
      have hget' : (p.intermediateCode.set index.toNat (block, true))[i]? = some (block', false) :=
        hget
      rw [List.getElem?_set] at hget'
      split at hget'
      · split at hget'
        · cases hget'
        · cases hget'
      · rename_i hne
        refine (List.mem_cons.mp (h.unresolved i block' hget')).resolve_left fun hi => ?_
        exact hne (hindex i (hlt hget') hi).symm

theorem Patching.foldl : ∀ {indices : List (BitVec 32)} {p : Parser}, Patching indices p →
    (indices.foldl Parser.backPatchUnit p).errors.parseErrors = [] →
      Patching [] (indices.foldl Parser.backPatchUnit p) := by
  intro indices
  induction indices with
  | nil => exact fun h _ => h
  | cons index indices ih =>
    intro p h hnone
    rw [List.foldl_cons] at hnone ⊢
    have herrors := (errors_backPatch indices (p.backPatchUnit index)).1
    rw [hnone] at herrors
    exact ih (h.backPatchUnit (List.prefix_nil.mp herrors)) hnone

theorem Fitted.patching (h : p.Fitted) (hsize : p.intermediateCode.length ≤ 2 ^ 32) :
    Patching p.backPatch p where
  size := hsize
  awaits := by
    intro index hmem unit hget
    obtain ⟨block, hblock⟩ := h.waits hsize index hmem
    obtain rfl := Option.some.inj (hget.symm.trans hblock)
    exact h.fits _ (List.mem_of_getElem? hblock)
  resolved := by
    intro unit hmem hresolved
    have hfits := h.fits unit hmem
    unfold UnitFits at hfits
    rwa [if_pos hresolved] at hfits
  unresolved := h.unresolved

/-! ### The whole parse -/

/-- The units of a program without errors are resolved, and the code generator can
encode all of them but FENCE. -/
theorem encodable_of_parse {tokens : List Token} (htokens : ∀ token ∈ tokens, token.Readable)
    (hlength : tokens.length ≤ 2 ^ 31) (h : parse cfg reader fuel tokens = .ok p)
    (hnone : p.errors.parseErrors = []) :
    ∀ unit ∈ p.intermediateCode, unit.2 = true ∧ Encodable unit.1 := by
  obtain ⟨p₁, p₂, hfirst, hsecond, -, rfl⟩ := parse_eq_ok h
  have hnocode := noCode_firstPass hfirst
  have hcode : (p₁.rewind tokens).intermediateCode = [] := hnocode.intermediateCode
  have hfitted : p₂.Fitted := secondPass_invariant (fun _ p => p.Fitted) stable_fitted
    (fun _ _ _ h => h.parseTextItem) (hnocode.fitted htokens) hsecond
  have hsize : p₂.intermediateCode.length ≤ 2 * tokens.length := length_secondPass_le hcode hsecond
  have hpatching := (hfitted.patching (by omega)).foldl hnone
  rintro ⟨block, resolved⟩ hmem
  have hresolved : resolved = true := by
    cases resolved with
    | true => rfl
    | false =>
      obtain ⟨i, hi⟩ := List.mem_iff_getElem?.mp hmem
      exact absurd (hpatching.unresolved i block hi) List.not_mem_nil
  exact ⟨hresolved, hpatching.resolved _ hmem hresolved⟩

end Parser

end RiscvSim

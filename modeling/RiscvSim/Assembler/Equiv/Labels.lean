import RiscvSim.Assembler.Equiv.Errors

/-!
# The definitions of labels

The first pass collects the labels of the data sections, and the second one
those of the text sections, into one symbol table.  Only the second one looks a
label up before it defines it.

* **`Parser.unique_definitions_iff`**: all definitions are unique exactly when those
  of the data sections are and no text label finds its name in the table, which
  an accepted program of less than `2 ^ 30` tokens never has.
-/

namespace RiscvSim

open Lib

namespace Parser

variable {cfg : VmConfig} {reader : FloatReader} {fuel : Nat} {p p' q : Parser}
  {l : List Parser} {tokens labels : List Token} {name : String}

/-- The labels among the tokens the parser has come to. -/
def labelTokens (l : List Parser) : List Token :=
  (l.map currentToken).filter (·.type = .label)

theorem labelTokens_of_label (l : List Parser) (h : p.currentToken.type = .label) :
    labelTokens (l ++ [p]) = labelTokens l ++ [p.currentToken] := by
  simp [labelTokens, h]

theorem labelTokens_of_ne (l : List Parser) (h : p.currentToken.type ≠ .label) :
    labelTokens (l ++ [p]) = labelTokens l := by
  simp [labelTokens, h]

/-- The definitions of the data sections. -/
def dataLabels (reader : FloatReader) (fuel : Nat) (tokens : List Token) : List Token :=
  labelTokens (dataItems reader fuel { rest := tokens })

/-- The definitions of the text sections. -/
def textLabels (cfg : VmConfig) (reader : FloatReader) (fuel : Nat) (tokens : List Token) :
    List Token :=
  labelTokens (parsedText cfg reader fuel tokens)

/-- All definitions of labels in a program. -/
def definitions (cfg : VmConfig) (reader : FloatReader) (fuel : Nat) (tokens : List Token) :
    List Token :=
  dataLabels reader fuel tokens ++ textLabels cfg reader fuel tokens

/-! ### The symbol table -/

/-- The definitions of a name. -/
def definitionsOf (name : String) (labels : List Token) : List Token :=
  labels.filter (·.value = name)

/-- The symbol table has the last definition of each name. -/
def HasLast (labels : List Token) (p : Parser) : Prop :=
  ∀ name, (p.symbolTable name).map (·.lineNumber) =
    (definitionsOf name labels).getLast?.map (·.lineNumber.toNat)

theorem HasLast.define (h : p.HasLast labels) {token : Token} {symbol : SymbolData}
    (hline : symbol.lineNumber = token.lineNumber.toNat) :
    (p.defineSymbol token.value symbol).HasLast (labels ++ [token]) := by
  intro name
  unfold definitionsOf
  rw [List.filter_append]
  by_cases hname : token.value = name
  · subst hname
    simp [defineSymbol, hline]
  · have hsame : [token].filter (fun t => decide (t.value = name)) = [] := by
      simp [hname]
    have htable : (p.defineSymbol token.value symbol).symbolTable name = p.symbolTable name :=
      if_neg (Ne.symm hname)
    rw [hsame, List.append_nil, htable]
    exact h name

/-- Names without a definition are not in the table. -/
theorem HasLast.symbolTable_eq_none_iff (h : p.HasLast labels) :
    p.symbolTable name = none ↔ name ∉ labels.map (·.value) := by
  have hname := h name
  have hnone : definitionsOf name labels = [] ↔ name ∉ labels.map (·.value) := by
    simp [definitionsOf, List.filter_eq_nil_iff]
  rw [← hnone]
  constructor
  · intro hsymbol
    rw [hsymbol] at hname
    simpa using hname.symm
  · intro hlabels
    rw [hlabels] at hname
    simpa using hname

/-- Of a name that is defined once. -/
theorem definitionsOf_eq_singleton (hnodup : (labels.map (·.value)).Nodup) {token : Token}
    (hlast : (definitionsOf name labels).getLast? = some token) :
    definitionsOf name labels = [token] := by
  have hvalues : (definitionsOf name labels).map (·.value) =
      List.replicate (definitionsOf name labels).length name := by
    refine List.eq_replicate_of_mem ?_ |>.trans (by rw [List.length_map])
    intro value hvalue
    obtain ⟨token', hmem, rfl⟩ := List.mem_map.mp hvalue
    simpa using (List.mem_filter.mp hmem).2
  have hle : (definitionsOf name labels).length ≤ 1 := by
    rw [← List.nodup_replicate (a := name), ← hvalues]
    exact hnodup.sublist (List.filter_sublist.map _)
  match hdefs : definitionsOf name labels, hle with
  | [], _ =>
    rw [hdefs] at hlast
    cases hlast
  | [token'], _ =>
    rw [hdefs] at hlast
    exact congrArg (fun t => [t]) (Option.some.inj hlast)

/-! ### The first pass -/

theorem HasLast.congr (h : p.HasLast labels) (htable : p'.symbolTable = p.symbolTable) :
    p'.HasLast labels := by
  intro name
  rw [htable]
  exact h name

theorem symbolTable_appends (h : p.Appends p') : p'.symbolTable = p.symbolTable := by
  rw [h.frame]

theorem HasLast.parseDataLabel (h : p.HasLast labels) :
    p.parseDataLabel.HasLast (labels ++ [p.currentToken]) := by
  unfold Parser.parseDataLabel
  dsimp only
  split
  · exact (h.congr (symbolTable_appends (p.appends_align _))).define rfl
  · exact (h.congr rfl).define rfl

theorem hasLast_firstPass (h : firstPass reader fuel { rest := tokens } = .ok p) :
    p.HasLast (dataLabels reader fuel tokens) := by
  refine firstPass_invariant (fun l q => q.HasLast (labelTokens l))
    (.of_report (fun _ h => h) fun h => h) ?_ (fun _ => rfl) h
  intro l q q' hq _ hparse
  rcases ensures_parseDataItem q q' hparse with ⟨hlabel, rfl⟩ | ⟨hlabel, q₁, h₁, h₂, -⟩
  · rw [labelTokens_of_label l hlabel]
    exact hq.parseDataLabel
  · rw [labelTokens_of_ne l hlabel]
    exact hq.congr ((symbolTable_appends h₁).trans (symbolTable_appends h₂))

/-! ### The second pass -/

/-- The table has the definitions of the data sections and of the items, and
those of the items are new. -/
structure Defines (labels : List Token) (l : List Parser) (p : Parser) : Prop where
  hasLast : p.HasLast (labels ++ labelTokens l)
  nodup : (labels.map (·.value)).Nodup → ((labels ++ labelTokens l).map (·.value)).Nodup

theorem Defines.congr (h : Defines labels l p) (htable : p'.symbolTable = p.symbolTable) :
    Defines labels l p' :=
  ⟨h.hasLast.congr htable, h.nodup⟩

theorem Defines.parseTextLabel (h : Defines labels l p) (hlabel : p.currentToken.type = .label)
    (hnone : p.symbolTable p.currentToken.value = none) :
    Defines labels (l ++ [p]) p.parseTextLabel := by
  unfold Parser.parseTextLabel
  rw [hnone]
  have hall : labels ++ labelTokens (l ++ [p]) =
      labels ++ labelTokens l ++ [p.currentToken] := by
    rw [labelTokens_of_label l hlabel, List.append_assoc]
  refine ⟨?_, fun hnodup => ?_⟩
  · rw [hall]
    exact h.hasLast.define rfl
  · have hnew := h.hasLast.symbolTable_eq_none_iff.mp hnone
    rw [hall, List.map_append, List.map_singleton]
    refine List.nodup_append.mpr ⟨h.nodup hnodup, List.pairwise_singleton _ _, ?_⟩
    rintro value hvalue _ hmem rfl
    rw [List.mem_singleton.mp hmem] at hvalue
    exact hnew hvalue

/-- The parser is at a label whose name is in the table. -/
def Redefines (p : Parser) : Prop :=
  p.currentToken.type = .label ∧ p.symbolTable p.currentToken.value ≠ none

theorem Adds.symbolTable (hadds : p.Adds q) : q.symbolTable = p.symbolTable := by
  cases hadds <;> rfl

theorem Adds.errors_prefix (hadds : p.Adds q) :
    p.errors.parseErrors <+: q.errors.parseErrors := by
  cases hadds with
  | report line message => exact List.prefix_append _ _
  | _ => exact List.prefix_rfl

/-- The invariant of the second pass: up to the first label that finds its name
in the table, the table has the definitions; and such a label is reported. -/
structure Tabled (labels : List Token) (l : List Parser) (p : Parser) : Prop where
  defines : (∀ q ∈ l, ¬q.Redefines) → Defines labels l p
  unique : ((labels ++ labelTokens l).map (·.value)).Nodup → ∀ q ∈ l, ¬q.Redefines
  accepted : p.errors.parseErrors = [] → ∀ q ∈ l, ¬q.Redefines

namespace Tabled

theorem stable : Stable (Tabled labels) :=
  .of_report (fun _ h => ⟨fun hl => (h.defines hl).congr rfl, h.unique, h.accepted⟩)
    fun h => ⟨fun hl => (h.defines hl).congr rfl, h.unique,
      fun herrors => absurd herrors (List.append_ne_nil_of_right_ne_nil _ (List.cons_ne_nil _ _))⟩

theorem not_redefines_append (hl : ∀ q ∈ l, ¬q.Redefines) (hp : ¬p.Redefines) :
    ∀ q ∈ l ++ [p], ¬q.Redefines := by
  intro q hq
  rcases List.mem_append.mp hq with hq | hq
  · exact hl q hq
  · obtain rfl := List.mem_singleton.mp hq
    exact hp

theorem parseTextLabel (h : Tabled labels l p) (hlabel : p.currentToken.type = .label) :
    Tabled labels (l ++ [p]) p.parseTextLabel := by
  have hall : labels ++ labelTokens (l ++ [p]) = labels ++ labelTokens l ++ [p.currentToken] := by
    rw [labelTokens_of_label l hlabel, List.append_assoc]
  have hinit : ((labels ++ labelTokens (l ++ [p])).map (·.value)).Nodup →
      ((labels ++ labelTokens l).map (·.value)).Nodup := by
    rw [hall, List.map_append]
    exact fun hnodup => (List.nodup_append.mp hnodup).1
  cases hsymbol : p.symbolTable p.currentToken.value with
  -- a new name, which the table takes
  | none =>
    have hnew : ¬p.Redefines := fun hp => hp.2 hsymbol
    have herrors : p.parseTextLabel.errors = p.errors := by
      unfold Parser.parseTextLabel
      rw [hsymbol]
      rfl
    refine ⟨fun hl => ?_, fun hnodup => ?_, fun hnil => ?_⟩
    · exact (h.defines fun q hq => hl q (List.mem_append_left _ hq)).parseTextLabel hlabel hsymbol
    · exact not_redefines_append (h.unique (hinit hnodup)) hnew
    · exact not_redefines_append (h.accepted (herrors ▸ hnil)) hnew
  -- a name that is there: an error, and the table stays
  | some symbol =>
    have hold : p.Redefines := ⟨hlabel, by rw [hsymbol]; exact Option.some_ne_none symbol⟩
    refine ⟨fun hl => ?_, fun hnodup => ?_, fun hnil => ?_⟩
    · exact absurd hold (hl p (List.mem_append_right _ List.mem_cons_self))
    · -- the name is in the table, so it is among the definitions so far
      have hlast := (h.defines (h.unique (hinit hnodup))).hasLast
      have hmem : p.currentToken.value ∈ (labels ++ labelTokens l).map (·.value) := by
        by_contra hnot
        exact hold.2 (hlast.symbolTable_eq_none_iff.mpr hnot)
      rw [hall, List.map_append, List.map_singleton] at hnodup
      exact absurd rfl ((List.nodup_append.mp hnodup).2.2 _ hmem _ List.mem_cons_self)
    · have herrors : p.parseTextLabel.errors.parseErrors ≠ [] := by
        unfold Parser.parseTextLabel
        rw [hsymbol]
        exact List.append_ne_nil_of_right_ne_nil _ (List.cons_ne_nil _ _)
      exact absurd hnil herrors

theorem parseTextItem (h : Tabled labels l p) (hgo : endsText p.currentToken = false)
    (hparse : p.parseTextItem cfg = .ok p') : Tabled labels (l ++ [p]) p' := by
  rcases ensures_parseTextItem (currentToken_ne_eof hgo) p' hparse with
    ⟨hlabel, rfl⟩ | ⟨hlabel, ⟨q, hadds, hq⟩, -⟩
  · exact h.parseTextLabel hlabel
  · have hnew : ¬p.Redefines := fun hp => hlabel hp.1
    have hlabels := labelTokens_of_ne l hlabel
    have htable : p'.symbolTable = p.symbolTable := by
      rw [hq]
      exact hadds.symbolTable
    have herrors : p.errors.parseErrors <+: p'.errors.parseErrors := by
      rw [hq]
      exact hadds.errors_prefix
    refine ⟨fun hl => ?_, fun hnodup => ?_, fun hnil => ?_⟩
    · have hdefines :=
        (h.defines fun q hq => hl q (List.mem_append_left _ hq)).congr htable
      exact ⟨hlabels ▸ hdefines.hasLast, hlabels ▸ hdefines.nodup⟩
    · exact not_redefines_append (h.unique (hlabels ▸ hnodup)) hnew
    · rw [hnil] at herrors
      exact not_redefines_append (h.accepted (List.prefix_nil.mp herrors)) hnew

end Tabled

/-! ### The whole parse -/

theorem tabled_secondPass (h0 : p.HasLast labels) (h : secondPass cfg fuel p = .ok p') :
    Tabled labels (textItems cfg fuel p) p' := by
  have hnil : labels ++ labelTokens [] = labels := List.append_nil labels
  refine secondPass_invariant (Tabled labels) Tabled.stable (fun _ _ _ h => h.parseTextItem) ?_ h
  refine ⟨fun _ => ⟨?_, ?_⟩, fun _ q hq => (List.not_mem_nil hq).elim,
    fun _ q hq => (List.not_mem_nil hq).elim⟩
  · rw [hnil]
    exact h0
  · rw [hnil]
    exact id

/-- **All definitions of a program are unique exactly when those of the data
sections are and no text label finds its name in the table**, and then each
entry of the symbol table is the definition of its name.  A text label that does
is reported: an accepted program has none, unless its errors have taken the
counter round, which takes `2 ^ 30` tokens.  So of the duplicates only those
within the data sections are accepted. -/
theorem unique_definitions_iff (h : parse cfg reader fuel tokens = .ok p)
    (haccepted : p.errors.count = 0#32) :
    ((((definitions cfg reader fuel tokens).map (·.value)).Nodup ∧
        ∀ name symbol, p.symbolTable name = some symbol →
          ∃ token, definitionsOf name (definitions cfg reader fuel tokens) = [token] ∧
            symbol.lineNumber = token.lineNumber.toNat) ↔
      ((dataLabels reader fuel tokens).map (·.value)).Nodup ∧
        ∀ q ∈ parsedText cfg reader fuel tokens, ¬q.Redefines) ∧
    (pending tokens < 2 ^ 30 → ∀ q ∈ parsedText cfg reader fuel tokens, ¬q.Redefines) := by
  have hzero := count_eq_zero_iff h
  obtain ⟨p₁, p₂, hfirst, hsecond, htext, rfl⟩ := parse_eq_ok h
  obtain ⟨herrors, htable⟩ := errors_backPatch p₂.backPatch p₂
  have hlast : (p₁.rewind tokens).HasLast (dataLabels reader fuel tokens) :=
    (hasLast_firstPass hfirst).congr rfl
  have htabled := tabled_secondPass hlast hsecond
  unfold definitions textLabels
  rw [htext, htable]
  refine ⟨⟨?_, ?_⟩, fun hlength => ?_⟩
  · rintro ⟨hnodup, -⟩
    refine ⟨?_, htabled.unique hnodup⟩
    rw [List.map_append] at hnodup
    exact (List.nodup_append.mp hnodup).1
  · rintro ⟨hdata, hnew⟩
    have hdefines := htabled.defines hnew
    have hnodup := hdefines.nodup hdata
    refine ⟨hnodup, fun name symbol hsymbol => ?_⟩
    have hline := hdefines.hasLast name
    rw [hsymbol] at hline
    obtain ⟨token, htoken, hline⟩ := Option.map_eq_some_iff.mp hline.symm
    exact ⟨token, definitionsOf_eq_singleton hnodup htoken, hline.symm⟩
  · rw [(hzero hlength).mp haccepted] at herrors
    exact htabled.accepted (List.prefix_nil.mp herrors)

/-- A program with a label in a data section and one in a text section. -/
def twoLabels : List Token :=
  [⟨.directive, "data", 1#32⟩, ⟨.label, "v", 2#32⟩, ⟨.directive, "word", 2#32⟩,
    ⟨.num, "7", 2#32⟩, ⟨.directive, "text", 3#32⟩, ⟨.label, "main", 4#32⟩, ⟨.opcode, "nop", 5#32⟩,
    ⟨.eof, "", 5#32⟩]

theorem unique_definitions_iff_twoLabels :
    ∃ p, parse {} .zeros 10 twoLabels = .ok p ∧ p.errors.count = 0#32 ∧
      ((definitions {} .zeros 10 twoLabels).map (·.value)).Nodup := by
  have hparse := eq_ok_getD { rest := [] }
    (show (parse {} .zeros 10 twoLabels).toOption.isSome = true by decide +kernel)
  have haccepted : ((parse {} .zeros 10 twoLabels).toOption.getD
      { rest := [] }).errors.count = 0#32 := by
    decide +kernel
  obtain ⟨hiff, hnew⟩ := unique_definitions_iff hparse haccepted
  exact ⟨_, hparse, haccepted, (hiff.mpr ⟨by decide +kernel, hnew (by decide)⟩).1⟩

/-- A program that defines its data label twice. -/
def duplicateDataLabel : List Token :=
  [⟨.directive, "data", 1#32⟩, ⟨.label, "v", 2#32⟩, ⟨.directive, "word", 2#32⟩,
    ⟨.num, "1", 2#32⟩, ⟨.label, "v", 3#32⟩, ⟨.directive, "word", 3#32⟩, ⟨.num, "2", 3#32⟩,
    ⟨.eof, "", 3#32⟩]

/-- It is accepted, and the second definition takes the place of the first one. -/
theorem duplicateDataLabel_accepted :
    ∃ p, parse {} .zeros 10 duplicateDataLabel = .ok p ∧ p.errors.count = 0#32 ∧
      (definitions {} .zeros 10 duplicateDataLabel).map (·.value) = ["v", "v"] ∧
      p.symbolTable "v" = some ⟨4#64, 3, true⟩ := by
  have hparse := eq_ok_getD { rest := [] }
    (show (parse {} .zeros 10 duplicateDataLabel).toOption.isSome = true by decide +kernel)
  exact ⟨_, hparse, by decide +kernel, by decide +kernel, by decide +kernel⟩

end Parser

end RiscvSim

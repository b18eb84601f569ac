import Mathlib.Order.Bounds.Defs
import RiscvSim.Assembler.Assembler
import RiscvSim.Assembler.Equiv.Bookkeeping
import RiscvSim.Vm.VmBase

/-!
# Breakpoints at source lines

The map from lines to instructions is filled by a loop over the instructions;
each of them gets the lines behind that of the one before it.

* **`lineBreakpoints_iff`**: a line leads to the first instruction at or behind
  it, unless the number of the line does not fit into 32 bits.
-/

namespace RiscvSim

open Lib

/-! ### The first instruction at a line -/

/-- The first instruction on line `l` or on a later one, given the lines of the
instructions; lines are counted from 1. -/
def firstAtOrAfter (lines : List (BitVec 32)) (l : Nat) : Option Nat :=
  if l = 0 then none else lines.findIdx? fun line => l ≤ line.toNat

variable {lines : List (BitVec 32)} {l i : Nat}

theorem firstAtOrAfter_eq_some_iff : firstAtOrAfter lines l = some i ↔
    0 < l ∧ IsLeast {j | ∃ line, lines[j]? = some line ∧ l ≤ line.toNat} i := by
  unfold firstAtOrAfter
  split
  · simp_all
  · rename_i hl
    rw [List.findIdx?_eq_some_iff_getElem, and_iff_right (Nat.pos_of_ne_zero hl)]
    constructor
    · rintro ⟨hi, hle, hleast⟩
      refine ⟨⟨lines[i], List.getElem?_eq_getElem hi, by simpa using hle⟩, ?_⟩
      rintro j ⟨line, hline, hle'⟩
      by_contra hlt
      obtain ⟨hj, rfl⟩ := List.getElem?_eq_some_iff.mp hline
      exact hleast j (Nat.lt_of_not_le hlt) (by simpa using hle')
    · rintro ⟨⟨line, hline, hle⟩, hleast⟩
      obtain ⟨hi, rfl⟩ := List.getElem?_eq_some_iff.mp hline
      refine ⟨hi, by simpa using hle, fun j hj hle' => ?_⟩
      have hij : i ≤ j := hleast ⟨_, List.getElem?_eq_getElem (by omega), by simpa using hle'⟩
      omega

theorem firstAtOrAfter_append (lines : List (BitVec 32)) (line : BitVec 32) (l : Nat) :
    firstAtOrAfter (lines ++ [line]) l = (firstAtOrAfter lines l).or
      (if 0 < l ∧ l ≤ line.toNat then some lines.length else none) := by
  unfold firstAtOrAfter
  by_cases hl : l = 0
  · simp [hl]
  · have hpos : 0 < l := Nat.pos_of_ne_zero hl
    rw [if_neg hl, if_neg hl, List.findIdx?_append]
    by_cases hle : l ≤ line.toNat
    · simp [hpos, hle]
    · simp [hle]

theorem firstAtOrAfter_eq_none_iff :
    firstAtOrAfter lines l = none ↔ l = 0 ∨ ∀ line ∈ lines, line.toNat < l := by
  unfold firstAtOrAfter
  by_cases hl : l = 0
  · simp [hl]
  · rw [if_neg hl, or_iff_right hl, List.findIdx?_eq_none_iff]
    simp

/-- In lines that ascend, there is one exactly up to the last of them. -/
theorem firstAtOrAfter_isSome_iff (hsorted : lines.Pairwise (· ≤ ·)) :
    (firstAtOrAfter lines l).isSome = true ↔
      0 < l ∧ ∃ last, lines.getLast? = some last ∧ l ≤ last.toNat := by
  induction lines using List.reverseRecOn with
  | nil => simp [firstAtOrAfter]
  | append_singleton lines line ih =>
    obtain ⟨hbefore, -, hline⟩ := List.pairwise_append.mp hsorted
    rw [firstAtOrAfter_append, Option.isSome_or, Bool.or_eq_true, ih hbefore, List.getLast?_concat]
    constructor
    · rintro (⟨hl, last, hlast, hle⟩ | hlast)
      · have hmem : last ∈ lines := List.mem_of_getLast? hlast
        have hlast' : last ≤ line := hline last hmem line List.mem_cons_self
        exact ⟨hl, line, rfl, Nat.le_trans hle hlast'⟩
      · by_cases h : 0 < l ∧ l ≤ line.toNat
        · exact ⟨h.1, line, rfl, h.2⟩
        · rw [if_neg h] at hlast
          cases hlast
    · rintro ⟨hl, last, hlast, hle⟩
      obtain rfl := Option.some.inj hlast
      right
      rw [if_pos ⟨hl, hle⟩]
      rfl

namespace LineMapping

variable {fuel : Nat} {instruction line first : BitVec 32}
  {mapping : BitVec 32 → Option (BitVec 32)} {m m' : LineMapping}

/-! ### The loop over lines -/

/-- What filling the lines from `first` up to `line` gives. -/
def filled (instruction line first : BitVec 32) (mapping : BitVec 32 → Option (BitVec 32)) :
    BitVec 32 → Option (BitVec 32) :=
  fun i => if first ≤ i ∧ i ≤ line then some instruction else mapping i

theorem filled_of_lt (h : line < first) : filled instruction line first mapping = mapping := by
  funext k
  refine if_neg ?_
  rintro ⟨hle, hle'⟩
  bv_omega

theorem filled_assign (h : first ≤ line) (hline : line ≠ -1#32) :
    filled instruction line (first + 1#32) (assign mapping first instruction) =
      filled instruction line first mapping := by
  funext k
  unfold filled assign
  by_cases hk : k = first
  · subst hk
    rw [if_neg (by bv_omega), if_pos rfl, if_pos ⟨BitVec.le_refl _, h⟩]
  · rw [if_neg hk]
    congr 1
    rw [eq_iff_iff]
    constructor <;> rintro ⟨_, _⟩ <;> constructor <;> bv_omega

theorem fill_rounds (instruction : BitVec 32) (hline : line ≠ -1#32) :
    ∀ (n fuel : Nat) (first : BitVec 32) (mapping : BitVec 32 → Option (BitVec 32)),
      line.toNat + 1 - first.toNat = n → n < fuel →
      ∃ i, runUntil (fun s => decide (line < s.1))
        (fun s => .ok (s.1 + 1#32, assign s.2 s.1 instruction)) fuel (first, mapping) =
          some (.ok (i, filled instruction line first mapping) : Except AssemblerError _) := by
  intro n
  induction n with
  | zero =>
    intro fuel first mapping hn hfuel
    obtain ⟨fuel, rfl⟩ : ∃ k, fuel = k + 1 := ⟨fuel - 1, by omega⟩
    have hlt : line < first := by
      rw [BitVec.lt_def]
      omega
    refine ⟨first, ?_⟩
    rw [runUntil, if_pos (decide_eq_true hlt), filled_of_lt hlt]
  | succ n ih =>
    intro fuel first mapping hn hfuel
    obtain ⟨fuel, rfl⟩ : ∃ k, fuel = k + 1 := ⟨fuel - 1, by omega⟩
    have hle : first ≤ line := by
      rw [BitVec.le_def]
      omega
    have hnext : line.toNat + 1 - (first + 1#32).toNat = n := by
      have hlast : line.toNat ≠ 2 ^ 32 - 1 := fun h => hline (BitVec.eq_of_toNat_eq h)
      rw [BitVec.toNat_add, BitVec.toNat_ofNat]
      omega
    obtain ⟨i, hrun⟩ := ih fuel (first + 1#32) (assign mapping first instruction) hnext (by omega)
    refine ⟨i, ?_⟩
    rw [runUntil, if_neg (by simpa using hle)]
    rw [filled_assign hle hline] at hrun
    exact hrun

theorem fill_eq_ok (hline : line ≠ -1#32) (hfuel : 2 ^ 32 < fuel) :
    fill fuel instruction line first mapping = .ok (filled instruction line first mapping) := by
  have hlt := line.isLt
  obtain ⟨i, hrun⟩ := fill_rounds instruction hline _ fuel first mapping rfl
    (by omega)
  unfold fill runWithin
  rw [hrun]
  rfl

/-- No line is behind the last one of 32 bits. -/
theorem fill_last : fill fuel instruction (-1#32) first mapping = .error .unfinished := by
  unfold fill runWithin
  rw [runUntil_eq_none (fun s => ?_) fun s => ⟨_, rfl⟩]
  · rfl
  · refine decide_eq_false ?_
    bv_omega

theorem fill_of_ok {mapping' : BitVec 32 → Option (BitVec 32)}
    (h : fill fuel instruction line first mapping = .ok mapping') :
    line ≠ -1#32 ∧ mapping' = filled instruction line first mapping := by
  have hline : line ≠ -1#32 := by
    rintro rfl
    rw [fill_last] at h
    cases h
  refine ⟨hline, ?_⟩
  obtain ⟨⟨i, _⟩, hrun, rfl⟩ := map_eq_ok.mp h
  have hlt := line.isLt
  obtain ⟨i', hrun'⟩ := fill_rounds instruction hline _ (2 ^ 32 + 1) first mapping
    rfl (by omega)
  have hsame := runUntil_unique (runUntil_of_runWithin hrun) hrun'
  exact congrArg Prod.snd (Except.ok.inj hsame)

/-! ### The loop over instructions -/

/-- The map is right for the instructions on the given lines, and goes on behind them. -/
structure Covers (lines : List (BitVec 32)) (m : LineMapping) : Prop where
  mapping : ∀ k, m.mapping k = (firstAtOrAfter lines k.toNat).map (BitVec.ofNat 32)
  prevInstruction : m.prevInstruction = BitVec.ofNat 32 lines.length
  prevLine : ∀ k, m.prevLine ≤ k ↔ 0#32 < k ∧ ∀ line ∈ lines, line < k

theorem covers_nil : Covers [] {} where
  mapping := by
    intro k
    have hnone : firstAtOrAfter [] k.toNat = none := by
      unfold firstAtOrAfter
      split <;> rfl
    rw [hnone]
    rfl
  prevInstruction := rfl
  prevLine := by
    intro k
    constructor
    · intro h
      exact ⟨by bv_omega, fun line hline => absurd hline List.not_mem_nil⟩
    · rintro ⟨h, -⟩
      bv_omega

/-- The lines up to that of the next instruction. -/
theorem Covers.append (h : Covers lines m) (hsorted : ∀ line' ∈ lines, line' ≤ line)
    (hline : line ≠ -1#32) :
    Covers (lines ++ [line])
      { mapping := filled m.prevInstruction line m.prevLine m.mapping
        prevInstruction := m.prevInstruction + 1#32
        prevLine := line + 1#32 } where
  mapping := by
    intro k
    show (if m.prevLine ≤ k ∧ k ≤ line then some m.prevInstruction else m.mapping k) = _
    rw [firstAtOrAfter_append]
    by_cases hk : m.prevLine ≤ k ∧ k ≤ line
    · obtain ⟨hpos, hbefore⟩ := (h.prevLine k).mp hk.1
      have hnone : firstAtOrAfter lines k.toNat = none :=
        firstAtOrAfter_eq_none_iff.mpr (.inr fun line' hmem => hbefore line' hmem)
      have hhere : 0 < k.toNat ∧ k.toNat ≤ line.toNat := ⟨hpos, hk.2⟩
      rw [if_pos hk, hnone, Option.none_or, if_pos hhere, h.prevInstruction]
      rfl
    · rw [if_neg hk, h.mapping k]
      congr 1
      by_cases hhere : 0 < k.toNat ∧ k.toNat ≤ line.toNat
      · have hsome : firstAtOrAfter lines k.toNat ≠ none := by
          intro hnone
          rcases firstAtOrAfter_eq_none_iff.mp hnone with hzero | hbefore
          · omega
          · exact hk ⟨(h.prevLine k).mpr ⟨hhere.1, hbefore⟩, hhere.2⟩
        obtain ⟨i, hi⟩ := Option.ne_none_iff_exists'.mp hsome
        rw [hi, Option.some_or]
      · rw [if_neg hhere, Option.or_none]
  prevInstruction := by
    rw [h.prevInstruction, List.length_append, List.length_singleton, BitVec.ofNat_add]
  prevLine := by
    intro k
    have hlast : line.toNat ≠ 2 ^ 32 - 1 := fun h => hline (BitVec.eq_of_toNat_eq h)
    have hnext : line + 1#32 ≤ k ↔ line < k := by
      rw [BitVec.le_def, BitVec.lt_def, BitVec.toNat_add, BitVec.toNat_ofNat]
      have := line.isLt
      omega
    rw [hnext]
    constructor
    · intro hlt
      refine ⟨by bv_omega, fun line' hmem => ?_⟩
      rcases List.mem_append.mp hmem with hmem | hmem
      · have hle := hsorted line' hmem
        bv_omega
      · rwa [List.mem_singleton.mp hmem]
    · rintro ⟨-, hbefore⟩
      exact hbefore line (List.mem_append_right lines List.mem_cons_self)

theorem addInstruction_eq_ok (hline : line ≠ -1#32) (hfuel : 2 ^ 32 < fuel) :
    m.addInstruction fuel line = .ok
      { mapping := filled m.prevInstruction line m.prevLine m.mapping
        prevInstruction := m.prevInstruction + 1#32
        prevLine := line + 1#32 } := by
  unfold addInstruction
  rw [fill_eq_ok hline hfuel]
  rfl

theorem addInstruction_of_ok (h : m.addInstruction fuel line = .ok m') :
    line ≠ -1#32 ∧ m' =
      { mapping := filled m.prevInstruction line m.prevLine m.mapping
        prevInstruction := m.prevInstruction + 1#32
        prevLine := line + 1#32 } := by
  obtain ⟨mapping, hfill, rfl⟩ := map_eq_ok.mp h
  obtain ⟨hline, rfl⟩ := fill_of_ok hfill
  exact ⟨hline, rfl⟩

theorem foldlM_eq_ok (hfuel : 2 ^ 32 < fuel) :
    ∀ {lines : List (BitVec 32)} (m : LineMapping), -1#32 ∉ lines →
      ∃ m', lines.foldlM (addInstruction fuel) m = .ok m' := by
  intro lines
  induction lines with
  | nil => exact fun m _ => ⟨m, rfl⟩
  | cons line lines ih =>
    intro m hlines
    have hline : line ≠ -1#32 := fun h => hlines (h ▸ List.mem_cons_self)
    rw [List.foldlM_cons, addInstruction_eq_ok hline hfuel, ok_bind]
    exact ih _ fun hmem => hlines (List.mem_cons_of_mem line hmem)

theorem Covers.foldlM :
    ∀ {rest lines : List (BitVec 32)} {m m' : LineMapping}, Covers lines m →
      (lines ++ rest).Pairwise (· ≤ ·) → rest.foldlM (addInstruction fuel) m = .ok m' →
      Covers (lines ++ rest) m' ∧ -1#32 ∉ rest := by
  intro rest
  induction rest with
  | nil =>
    intro lines m m' h _ hfold
    obtain rfl := Except.ok.inj hfold
    rw [List.append_nil]
    exact ⟨h, List.not_mem_nil⟩
  | cons line rest ih =>
    intro lines m m' h hsorted hfold
    rw [List.foldlM_cons] at hfold
    obtain ⟨m₁, hadd, hfold⟩ := bind_eq_ok.mp hfold
    obtain ⟨hline, rfl⟩ := addInstruction_of_ok hadd
    have hbefore : ∀ line' ∈ lines, line' ≤ line := fun line' hmem =>
      (List.pairwise_append.mp hsorted).2.2 line' hmem line List.mem_cons_self
    rw [List.append_cons] at hsorted ⊢
    obtain ⟨hcovers, hrest⟩ := ih (h.append hbefore hline) hsorted hfold
    refine ⟨hcovers, fun hmem => ?_⟩
    rcases List.mem_cons.mp hmem with heq | hmem
    · exact hline heq.symm
    · exact hrest hmem

end LineMapping

/-! ### The whole map -/

section Assemble

variable {cfg : VmConfig} {reader : FloatReader} {fuel lineFuel : Nat} {tokens : List Token}
  {p : Parser}

/-- The map of lines that ascend. -/
theorem lineNumberInstructionNumberMapping_numbered (lineFuel : Nat)
    (hsorted : lines.Pairwise (· ≤ ·)) :
    (∀ mapping, lineNumberInstructionNumberMapping lineFuel (Parser.numbered lines) = .ok mapping →
      -1#32 ∉ lines ∧ ∀ k, mapping k = (firstAtOrAfter lines k.toNat).map (BitVec.ofNat 32)) ∧
    (-1#32 ∉ lines → 2 ^ 32 < lineFuel →
      ∃ mapping, lineNumberInstructionNumberMapping lineFuel (Parser.numbered lines) =
        .ok mapping) := by
  unfold lineNumberInstructionNumberMapping
  rw [Parser.lines_numbered]
  constructor
  · intro mapping h
    obtain ⟨m, hfold, rfl⟩ := map_eq_ok.mp h
    obtain ⟨hcovers, hlast⟩ := LineMapping.covers_nil.foldlM hsorted hfold
    exact ⟨hlast, hcovers.mapping⟩
  · intro hlast hfuel
    obtain ⟨m, hfold⟩ := LineMapping.foldlM_eq_ok hfuel {} hlast
    rw [hfold]
    exact ⟨_, rfl⟩

/-- A program the parser accepts and the code generator encodes. -/
structure Accepts (cfg : VmConfig) (reader : FloatReader) (fuel : Nat) (tokens : List Token)
    (p : Parser) : Prop where
  parse : Parser.parse cfg reader fuel tokens = .ok p
  count : p.errors.count = 0#32
  encodes : ∃ words, generateMachineCode p.intermediateCode = .ok words

/-- The breakpoint at the first instruction on line `l` or on a later one, at the
address the loader gives it; there may be none. -/
def VmBase.addBreakpointAtOrAfter (lines : List (BitVec 32)) (vm : VmBase) (l : Nat) : VmBase :=
  ((firstAtOrAfter lines l).map fun i =>
    vm.addBreakpointAddress (Parser.instructionAddress (BitVec.ofNat 32 i))).getD vm

/-- The map of the program is right, and line `l` leads to the right breakpoint. -/
structure LineBreakpoint (lines : List (BitVec 32)) (program : AssembledProgram) (l : BitVec 64) :
    Prop where
  least : ∀ line i, program.lineNumberInstructionNumberMapping line = some i ↔
    0#32 < line ∧ IsLeast {j | ∃ line', lines[j]? = some line' ∧ line ≤ line'} i.toNat
  defined : ∀ line, (program.lineNumberInstructionNumberMapping line).isSome = true ↔
    0#32 < line ∧ ∃ last, lines.getLast? = some last ∧ line ≤ last
  breakpoint : ∀ vm : VmBase, vm.program = program →
    vm.addBreakpointLine l = vm.addBreakpointAtOrAfter lines l.toNat

theorem firstAtOrAfter_lt (h : firstAtOrAfter lines l = some i) : i < lines.length := by
  obtain ⟨-, ⟨line, hline, -⟩, -⟩ := firstAtOrAfter_eq_some_iff.mp h
  exact (List.getElem?_eq_some_iff.mp hline).1

theorem instructionAddress_aligned (index : BitVec 32) :
    Parser.instructionAddress index % 4#64 = 0#64 := by
  have hmul : (index * 4#32).toNat = index.toNat * 4 % 2 ^ 32 := BitVec.toNat_mul ..
  apply BitVec.eq_of_toNat_eq
  rw [Parser.instructionAddress, BitVec.toNat_umod, BitVec.toNat_setWidth, hmul]
  show _ % 4 = 0
  omega

theorem VmBase.mem_addBreakpointAddress (vm : VmBase) {address : BitVec 64}
    (haligned : address % 4#64 = 0#64) :
    address ∈ (vm.addBreakpointAddress address).breakpoints := by
  unfold addBreakpointAddress
  rw [if_neg (not_not_intro haligned)]
  split
  · rename_i hcheck
    exact List.contains_iff_mem.mp hcheck
  · exact List.mem_append_right _ List.mem_cons_self

section

variable {program : AssembledProgram}
  (hmapping : ∀ k, program.lineNumberInstructionNumberMapping k =
    (firstAtOrAfter lines k.toNat).map (BitVec.ofNat 32))

include hmapping

/-- The code looks a line up by its lower 32 bits. -/
theorem addBreakpointLine_eq {vm : VmBase} (hvm : vm.program = program) (val : BitVec 64) :
    vm.addBreakpointLine val = vm.addBreakpointAtOrAfter lines (val.toNat % 2 ^ 32) := by
  have hkey : (val.setWidth 32).toNat = val.toNat % 2 ^ 32 := BitVec.toNat_setWidth ..
  subst hvm
  unfold VmBase.addBreakpointLine VmBase.addBreakpointAtOrAfter
  rw [hmapping, hkey]
  cases firstAtOrAfter lines (val.toNat % 2 ^ 32) with
  | none => rfl
  | some i =>
    have haligned := instructionAddress_aligned (BitVec.ofNat 32 i)
    show _ = vm.addBreakpointAddress (Parser.instructionAddress (BitVec.ofNat 32 i))
    unfold VmBase.addBreakpointAddress
    rw [if_neg (not_not_intro haligned)]
    rfl

theorem breakpoint_iff (val : BitVec 64) :
    (∀ vm : VmBase, vm.program = program →
      vm.addBreakpointLine val = vm.addBreakpointAtOrAfter lines val.toNat) ↔
    val.toNat < 2 ^ 32 ∨ firstAtOrAfter lines (val.toNat % 2 ^ 32) = none := by
  have hbeyond : ¬val.toNat < 2 ^ 32 → firstAtOrAfter lines val.toNat = none := by
    intro hge
    refine firstAtOrAfter_eq_none_iff.mpr (.inr fun line _ => ?_)
    have hlt := line.isLt
    omega
  constructor
  · intro hall
    by_contra hnot
    obtain ⟨hge, hsome⟩ := not_or.mp hnot
    obtain ⟨i, hi⟩ := Option.ne_none_iff_exists'.mp hsome
    -- a machine without breakpoints shows the difference
    let vm : VmBase := { program := program, memoryController := .new {} }
    have hline : vm.addBreakpointLine val = vm := by
      rw [hall vm rfl]
      unfold VmBase.addBreakpointAtOrAfter
      rw [hbeyond hge]
      rfl
    have hadded : (vm.addBreakpointLine val).breakpoints ≠ [] := by
      rw [addBreakpointLine_eq hmapping rfl]
      unfold VmBase.addBreakpointAtOrAfter
      rw [hi]
      exact List.ne_nil_of_mem
        (vm.mem_addBreakpointAddress (instructionAddress_aligned (BitVec.ofNat 32 i)))
    rw [hline] at hadded
    exact hadded rfl
  · rintro hok vm hvm
    rw [addBreakpointLine_eq hmapping hvm]
    by_cases hlt : val.toNat < 2 ^ 32
    · rw [Nat.mod_eq_of_lt hlt]
    · unfold VmBase.addBreakpointAtOrAfter
      rw [hok.resolve_left hlt, hbeyond hlt]

theorem least_of_mapping (hlength : lines.length ≤ 2 ^ 32) (line i : BitVec 32) :
    program.lineNumberInstructionNumberMapping line = some i ↔
      0#32 < line ∧ IsLeast {j | ∃ line', lines[j]? = some line' ∧ line ≤ line'} i.toNat := by
  have hspec : firstAtOrAfter lines line.toNat = some i.toNat ↔
      0#32 < line ∧ IsLeast {j | ∃ line', lines[j]? = some line' ∧ line ≤ line'} i.toNat :=
    firstAtOrAfter_eq_some_iff
  rw [← hspec, hmapping, Option.map_eq_some_iff]
  constructor
  · rintro ⟨j, hj, rfl⟩
    have hlt := firstAtOrAfter_lt hj
    rw [hj, BitVec.toNat_ofNat, Nat.mod_eq_of_lt (by omega)]
  · intro h
    exact ⟨i.toNat, h, by rw [BitVec.ofNat_toNat, BitVec.setWidth_eq]⟩

theorem defined_of_mapping (hsorted : lines.Pairwise (· ≤ ·)) (line : BitVec 32) :
    (program.lineNumberInstructionNumberMapping line).isSome = true ↔
      0#32 < line ∧ ∃ last, lines.getLast? = some last ∧ line ≤ last := by
  rw [hmapping, Option.isSome_map]
  exact firstAtOrAfter_isSome_iff hsorted

end

/-- What `assemble` does with an accepted program. -/
theorem Accepts.assemble (haccepts : Accepts cfg reader fuel tokens p) :
    ∃ program : AssembledProgram, ∀ lineFuel, assemble cfg reader fuel lineFuel tokens =
      ((lineNumberInstructionNumberMapping lineFuel p.instructionNumberLineNumberMapping).mapError
        .thrown).map fun mapping =>
          { program with lineNumberInstructionNumberMapping := mapping } := by
  obtain ⟨words, hwords⟩ := haccepts.encodes
  refine ⟨{ symbolTable := p.symbolTable, dataBuffer := p.dataBuffer, textBuffer := words },
    fun lineFuel => ?_⟩
  unfold RiscvSim.assemble
  rw [haccepts.parse]
  show (if p.errors.count = 0#32 then _ else _) = _
  rw [if_pos haccepts.count, hwords]
  cases lineNumberInstructionNumberMapping lineFuel p.instructionNumberLineNumberMapping with
  | error e => rfl
  | ok mapping => rfl

/-- **Where line breakpoints are right**: unless an instruction stands on line
`2 ^ 32 - 1`, the program is assembled with the right map; a breakpoint goes
wrong exactly for the numbers of 64 bits that are taken for another line. -/
theorem lineBreakpoint_iff
    (htokens : tokens.Pairwise fun token token' => token.lineNumber ≤ token'.lineNumber)
    (haccepts : Accepts cfg reader fuel tokens p) (hcount : p.intermediateCode.length < 2 ^ 32)
    (l : BitVec 64) :
    (∃ lineFuel program, assemble cfg reader fuel lineFuel tokens = .ok program ∧
      LineBreakpoint p.unitLines program l) ↔
    -1#32 ∉ p.unitLines ∧
      (l.toNat < 2 ^ 32 ∨ firstAtOrAfter p.unitLines (l.toNat % 2 ^ 32) = none) := by
  obtain ⟨hnumbered, hsorted⟩ := Parser.mapping_eq_numbered htokens haccepts.parse (by omega)
  obtain ⟨program, hassemble⟩ := haccepts.assemble
  rw [hnumbered] at hassemble
  have hlength : p.unitLines.length ≤ 2 ^ 32 := by
    rw [Parser.unitLines, List.length_map]
    omega
  constructor
  · rintro ⟨lineFuel, program', hassemble', hright⟩
    rw [hassemble] at hassemble'
    obtain ⟨mapping, hmap, rfl⟩ := map_eq_ok.mp hassemble'
    have hok := mapError_eq_ok.mp hmap
    obtain ⟨hlast, hmapping⟩ := (lineNumberInstructionNumberMapping_numbered _ hsorted).1 mapping hok
    exact ⟨hlast, (breakpoint_iff hmapping l).mp hright.breakpoint⟩
  · rintro ⟨hlast, hl⟩
    obtain ⟨mapping, hok⟩ := (lineNumberInstructionNumberMapping_numbered
      (2 ^ 32 + 1) hsorted).2 hlast (by omega)
    obtain ⟨-, hmapping⟩ := (lineNumberInstructionNumberMapping_numbered _ hsorted).1 mapping hok
    refine ⟨2 ^ 32 + 1, _, by rw [hassemble, hok]; rfl, ?_⟩
    exact ⟨least_of_mapping hmapping hlength, defined_of_mapping hmapping hsorted,
      (breakpoint_iff hmapping l).mpr hl⟩

/-- A comment and two instructions of which the first one takes two units. -/
def loadProgram : List Token :=
  [⟨.opcode, "li", 2#32⟩, ⟨.gpRegister, "a0", 2#32⟩, ⟨.comma, ",", 2#32⟩, ⟨.num, "5000", 2#32⟩,
    ⟨.opcode, "nop", 4#32⟩, ⟨.eof, "", 4#32⟩]

theorem accepts_loadProgram :
    ∃ p, Accepts {} .zeros 10 loadProgram p ∧ p.unitLines = [2#32, 2#32, 4#32] := by
  have hparse := eq_ok_getD { rest := [] }
    (show (Parser.parse {} .zeros 10 loadProgram).toOption.isSome = true by decide +kernel)
  have hwords := eq_ok_getD []
    (show (generateMachineCode ((Parser.parse {} .zeros 10 loadProgram).toOption.getD
      { rest := [] }).intermediateCode).toOption.isSome = true by decide +kernel)
  exact ⟨_, ⟨hparse, by decide +kernel, _, hwords⟩, by decide +kernel⟩

theorem lineBreakpoint_iff_loadProgram :
    ∃ p lineFuel program, Parser.parse {} .zeros 10 loadProgram = .ok p ∧
      assemble {} .zeros 10 lineFuel loadProgram = .ok program ∧
      LineBreakpoint p.unitLines program 3#64 := by
  obtain ⟨p, haccepts, hlines⟩ := accepts_loadProgram
  have hcount : p.intermediateCode.length < 2 ^ 32 := by
    have hlength : p.unitLines.length = p.intermediateCode.length := List.length_map _
    rw [hlines] at hlength
    rw [← hlength]
    decide
  have hlast : -1#32 ∉ p.unitLines := by
    rw [hlines]
    decide
  obtain ⟨lineFuel, program, hassemble, hright⟩ :=
    (lineBreakpoint_iff (by decide) haccepts hcount 3#64).mpr ⟨hlast, .inl (by decide)⟩
  exact ⟨p, lineFuel, program, haccepts.parse, hassemble, hright⟩

/-- Line `2 ^ 32 + 3` of that program leads to the instruction on line 4. -/
theorem addBreakpointLine_wraps :
    ∃ p lineFuel program, Parser.parse {} .zeros 10 loadProgram = .ok p ∧ p.errors.count = 0#32 ∧
      assemble {} .zeros 10 lineFuel loadProgram = .ok program ∧
      firstAtOrAfter p.unitLines (2 ^ 32 + 3) = none ∧
      (VmBase.addBreakpointLine { program := program, memoryController := .new {} }
        0x100000003#64).breakpoints = [8#64] := by
  have hparse := eq_ok_getD { rest := [] }
    (show (Parser.parse {} .zeros 10 loadProgram).toOption.isSome = true by decide +kernel)
  have hassemble := eq_ok_getD {}
    (show (assemble {} .zeros 10 10 loadProgram).toOption.isSome = true by decide +kernel)
  exact ⟨_, 10, _, hparse, by decide +kernel, hassemble, by decide +kernel, by decide +kernel⟩

end Assemble

end RiscvSim

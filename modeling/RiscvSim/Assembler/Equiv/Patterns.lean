import Mathlib.Data.List.Pairwise
import RiscvSim.Assembler.Equiv.Units
import RiscvSim.Vm.VmBase

/-!
# Patterns of instruction words

The encoding of a mnemonic fixes some fields of its words (`WordPattern`).  The
tables of the assembler give a pattern for each mnemonic; `CodeClass.Decodes`
compares the other fields with the operands of a unit.

* **`opcode_of_matches`**: no word has the patterns of two mnemonics.
-/

namespace RiscvSim

open Lib

/-! ### Patterns -/

/-- The fields of a word that an encoding fixes.  `funct6`, `funct5` and `funct2` are
parts of the places of `funct7` and `rs2`. -/
structure WordPattern where
  opcode : BitVec 7
  funct3 : Option (BitVec 3) := none
  funct7 : Option (BitVec 7) := none
  funct6 : Option (BitVec 6) := none
  funct5 : Option (BitVec 5) := none
  funct2 : Option (BitVec 2) := none
  deriving DecidableEq, Repr

namespace WordPattern

/-- The word has the fields. -/
structure Matches (p : WordPattern) (w : BitVec 32) : Prop where
  opcode : opcodeOf w = p.opcode
  funct3 : ∀ field, p.funct3 = some field → funct3Of w = field
  funct7 : ∀ field, p.funct7 = some field → funct7Of w = field
  funct6 : ∀ field, p.funct6 = some field → w.extractLsb' 26 6 = field
  funct5 : ∀ field, p.funct5 = some field → rs2Of w = field
  funct2 : ∀ field, p.funct2 = some field → w.extractLsb' 25 2 = field

/-- Both encodings fix the field, in different ways. -/
def differ {n : Nat} (field field' : Option (BitVec n)) : Bool :=
  field.isSome && field'.isSome && field != field'

/-- The encodings fix some field in different ways. -/
def apart (p q : WordPattern) : Bool :=
  p.opcode != q.opcode || differ p.funct3 q.funct3 || differ p.funct7 q.funct7 ||
    differ p.funct6 q.funct6 || differ p.funct5 q.funct5 || differ p.funct2 q.funct2

variable {p q : WordPattern} {w : BitVec 32}

theorem differ_comm {n : Nat} (field field' : Option (BitVec n)) :
    differ field field' = differ field' field := by
  unfold differ
  rw [Bool.and_comm field.isSome, bne_comm]

/-- A field of one word is not fixed in different ways. -/
theorem differ_eq_false {n : Nat} {field field' : Option (BitVec n)} {x : BitVec n}
    (h : ∀ y, field = some y → x = y) (h' : ∀ y, field' = some y → x = y) :
    differ field field' = false := by
  cases field with
  | none => rfl
  | some y =>
    cases field' with
    | none => rfl
    | some y' =>
      obtain rfl := h y rfl
      obtain rfl := h' y' rfl
      exact bne_self_eq_false _

theorem apart_comm (p q : WordPattern) : p.apart q = q.apart p := by
  unfold apart
  rw [bne_comm, differ_comm p.funct3, differ_comm p.funct7, differ_comm p.funct6,
    differ_comm p.funct5, differ_comm p.funct2]

theorem Matches.apart_eq_false (h : p.Matches w) (h' : q.Matches w) : p.apart q = false := by
  unfold apart
  rw [← h.opcode, ← h'.opcode, differ_eq_false h.funct3 h'.funct3,
    differ_eq_false h.funct7 h'.funct7, differ_eq_false h.funct6 h'.funct6,
    differ_eq_false h.funct5 h'.funct5, differ_eq_false h.funct2 h'.funct2, bne_self_eq_false]
  rfl

end WordPattern

/-! ### What a word says of its unit -/

/-- The immediate of an I-type word.  The generator has none for the opcode of ADDIW. -/
def iTypeImmediate (w : BitVec 32) : BitVec 32 :=
  if opcodeOf w = 0b0011011#7 then (w.extractLsb' 20 12).signExtend 32 else immGenerator w

/-- A class of units with the patterns of its mnemonics, the immediate a machine
reads in its words, and what is left of an immediate there. -/
structure CodeClass extends UnitClass where
  patterns : List (String × WordPattern)
  read : BitVec 32 → BitVec 32 := fun _ => 0#32
  kept : BitVec 32 → BitVec 32 := fun imm => imm
  csr : Bool := false
  rm : Bool := false

/-- The patterns of a table. -/
def patternsOf {α : Type} (table : List (String × α)) (pattern : α → WordPattern) :
    List (String × WordPattern) :=
  table.map fun (opcode, encoding) => (opcode, pattern encoding)

namespace CodeClass

def rType : CodeClass where
  toUnitClass := .rType
  patterns := patternsOf rTypeInstructionEncodingMap fun e =>
    { opcode := e.opcode, funct3 := some e.funct3, funct7 := some e.funct7 }

def i1Type : CodeClass where
  toUnitClass := .i1Type
  patterns := patternsOf i1TypeInstructionEncodingMap fun e =>
    { opcode := e.opcode, funct3 := some e.funct3 }
  read := iTypeImmediate

/-- The shift amount has six bits in a word. -/
def i2Type : CodeClass where
  toUnitClass := .i2Type
  patterns := patternsOf i2TypeInstructionEncodingMap fun e =>
    { opcode := e.opcode, funct3 := some e.funct3, funct6 := some e.funct6 }
  read w := (w.extractLsb' 20 6).setWidth 32

/-- The generator does not use the `funct7` of the table. -/
def i3Type : CodeClass where
  toUnitClass := .i3Type
  patterns := patternsOf i3TypeInstructionEncodingMap fun e =>
    { opcode := e.opcode, funct3 := some e.funct3 }

def sType : CodeClass where
  toUnitClass := .sType
  patterns := patternsOf sTypeInstructionEncodingMap fun e =>
    { opcode := e.opcode, funct3 := some e.funct3 }
  read := immGenerator

/-- The lowest bit of the distance is lost. -/
def bType : CodeClass where
  toUnitClass := .bType
  patterns := patternsOf bTypeInstructionEncodingMap fun e =>
    { opcode := e.opcode, funct3 := some e.funct3 }
  read := immGenerator
  kept imm := imm &&& ~~~1#32

/-- The bits above the twentieth are lost. -/
def uType : CodeClass where
  toUnitClass := .uType
  patterns := patternsOf uTypeInstructionEncodingMap fun e => { opcode := e.opcode }
  read := immGenerator
  kept imm := imm &&& 0xFFFFF#32

/-- The lowest bit of the distance is lost. -/
def jType : CodeClass where
  toUnitClass := .jType
  patterns := patternsOf jTypeInstructionEncodingMap fun e => { opcode := e.opcode }
  read := immGenerator
  kept imm := imm &&& ~~~1#32

def csrRType : CodeClass where
  toUnitClass := .csrRType
  patterns := patternsOf csrRTypeInstructionEncodingMap fun e =>
    { opcode := e.opcode, funct3 := some e.funct3 }
  csr := true

/-- The immediate is in the place of `rs1`. -/
def csrIType : CodeClass where
  toUnitClass := .csrIType
  patterns := patternsOf csrITypeInstructionEncodingMap fun e =>
    { opcode := e.opcode, funct3 := some e.funct3 }
  read w := (rs1Of w).setWidth 32
  csr := true

def fdRType : CodeClass where
  toUnitClass := .fdRType
  patterns := patternsOf fdRTypeInstructionEncodingMap fun e =>
    { opcode := e.opcode, funct3 := some e.funct3, funct7 := some e.funct7 }

def fdR1Type : CodeClass where
  toUnitClass := .fdR1Type
  patterns := patternsOf fdR1TypeInstructionEncodingMap fun e =>
    { opcode := e.opcode, funct7 := some e.funct7 }
  rm := true

def fdR2Type : CodeClass where
  toUnitClass := .fdR2Type
  patterns := patternsOf fdR2TypeInstructionEncodingMap fun e =>
    { opcode := e.opcode, funct7 := some e.funct7, funct5 := some e.funct5 }
  rm := true

def fdR3Type : CodeClass where
  toUnitClass := .fdR3Type
  patterns := patternsOf fdR3TypeInstructionEncodingMap fun e =>
    { opcode := e.opcode, funct3 := some e.funct3, funct7 := some e.funct7,
      funct5 := some e.funct5 }

def fdR4Type : CodeClass where
  toUnitClass := .fdR4Type
  patterns := patternsOf fdR4TypeInstructionEncodingMap fun e =>
    { opcode := e.opcode, funct2 := some e.funct2 }
  rm := true

def fdIType : CodeClass where
  toUnitClass := .fdIType
  patterns := patternsOf fdITypeInstructionEncodingMap fun e =>
    { opcode := e.opcode, funct3 := some e.funct3 }
  read := immGenerator

def fdSType : CodeClass where
  toUnitClass := .fdSType
  patterns := patternsOf fdSTypeInstructionEncodingMap fun e =>
    { opcode := e.opcode, funct3 := some e.funct3 }
  read := immGenerator

/-- The word says what the unit says, as far as the machines extract it. -/
structure Decodes (c : CodeClass) (block : ICUnit) (w : BitVec 32) : Prop where
  pattern : ∃ p, (block.opcode, p) ∈ c.patterns ∧ p.Matches w
  rd : c.rd = true → extractRegisterIndex block.rd = .ok ((rdOf w).setWidth 32)
  rs1 : c.rs1 = true → extractRegisterIndex block.rs1 = .ok ((rs1Of w).setWidth 32)
  rs2 : c.rs2 = true → extractRegisterIndex block.rs2 = .ok ((rs2Of w).setWidth 32)
  rs3 : c.rs3 = true → extractRegisterIndex block.rs3 = .ok ((w.extractLsb' 27 5).setWidth 32)
  imm : c.range.isSome = true → (immediateOf block.imm).map c.kept = .ok (c.read w)
  csr : c.csr = true → block.csr &&& 0xFFF#32 = (w.extractLsb' 20 12).setWidth 32
  rm : c.rm = true → block.rm &&& 0b111#8 = (funct3Of w).setWidth 8

end CodeClass

/-- The classes in the order in which their mnemonics are tried. -/
def codeClasses : List CodeClass :=
  [.rType, .i1Type, .i2Type, .i3Type, .sType, .bType, .uType, .jType, .csrRType, .csrIType,
   .fdRType, .fdR1Type, .fdR2Type, .fdR3Type, .fdR4Type, .fdIType, .fdSType]

theorem mem_codeClasses_of_getElem? {c : CodeClass} (i : Nat) (h : codeClasses[i]? = some c) :
    c ∈ codeClasses :=
  List.mem_of_getElem? h

theorem toUnitClass_codeClasses : codeClasses.map CodeClass.toUnitClass = unitClasses :=
  rfl

/-- The patterns of all mnemonics. -/
def wordPatterns : List (String × WordPattern) :=
  codeClasses.flatMap CodeClass.patterns

theorem mem_of_lookupAt {α : Type} {table : List (String × α)} {opcode : String} {encoding : α}
    (h : lookupAt table opcode = .ok encoding) : (opcode, encoding) ∈ table := by
  have hlookup : table.lookup opcode = some encoding := by
    unfold lookupAt at h
    cases hlookup : table.lookup opcode with
    | none =>
      rw [hlookup] at h
      cases h
    | some value =>
      rw [hlookup] at h
      exact congrArg some (Except.ok.inj h)
  obtain ⟨before, after, heq, -⟩ := List.lookup_eq_some_iff.mp hlookup
  rw [heq]
  exact List.mem_append_right before List.mem_cons_self

/-- Every mnemonic of a class has a pattern. -/
theorem mnemonics_codeClasses :
    codeClasses.all (fun c => c.mnemonics.all fun opcode =>
      c.patterns.any fun entry => entry.1 == opcode) = true := by
  decide +kernel

/-- A mnemonic of a class is in its table, and has a pattern. -/
theorem exists_pattern {c : CodeClass} (hc : c ∈ codeClasses) {α : Type}
    (table : List (String × α)) (pattern : α → WordPattern)
    (hpatterns : c.patterns = patternsOf table pattern) {opcode : String}
    (h : opcode ∈ c.mnemonics) :
    ∃ encoding, lookupAt table opcode = .ok encoding ∧ (opcode, pattern encoding) ∈ c.patterns := by
  have hany := List.all_eq_true.mp (List.all_eq_true.mp mnemonics_codeClasses c hc) opcode h
  obtain ⟨⟨_, p⟩, hmem, heq⟩ := List.any_eq_true.mp hany
  obtain rfl := eq_of_beq heq
  rw [hpatterns] at hmem
  obtain ⟨⟨key, encoding'⟩, hentry, hpair⟩ := List.mem_map.mp hmem
  obtain ⟨rfl, -⟩ := Prod.mk.inj hpair
  have hsome : (table.lookup key).isSome = true := by
    cases hlookup : table.lookup key with
    | some encoding => rfl
    | none =>
      have hne : (key != key) = true := List.lookup_eq_none_iff.mp hlookup _ hentry
      exact absurd rfl (bne_iff_ne.mp hne)
  obtain ⟨encoding, hlookup⟩ := Option.isSome_iff_exists.mp hsome
  have hok : lookupAt table key = .ok encoding := by
    unfold lookupAt
    rw [hlookup]
  refine ⟨encoding, hok, ?_⟩
  rw [hpatterns]
  exact List.mem_map_of_mem (f := fun (opcode, encoding) => (opcode, pattern encoding))
    (mem_of_lookupAt hok)

/-- The patterns of two mnemonics fix some field in different ways. -/
theorem pairwise_wordPatterns :
    wordPatterns.Pairwise fun entry entry' => entry.2.apart entry'.2 = true := by
  decide +kernel

/-- **No word has the patterns of two mnemonics.** -/
theorem opcode_of_matches {opcode opcode' : String} {p p' : WordPattern} {w : BitVec 32}
    (hmem : (opcode, p) ∈ wordPatterns) (hmem' : (opcode', p') ∈ wordPatterns)
    (h : p.Matches w) (h' : p'.Matches w) : opcode = opcode' := by
  by_contra hne
  have : Std.Symm fun entry entry' : String × WordPattern => entry.2.apart entry'.2 = true :=
    ⟨fun _ _ happart => (WordPattern.apart_comm _ _).trans happart⟩
  have happart : p.apart p' = true := pairwise_wordPatterns.forall hmem hmem' fun heq =>
    hne (congrArg Prod.fst heq)
  rw [h.apart_eq_false h'] at happart
  cases happart

end RiscvSim

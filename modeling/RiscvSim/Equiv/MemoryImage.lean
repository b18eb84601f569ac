import RiscvSim.Equiv.ImageWrites
import RiscvSim.Lib.Journal
import RiscvSim.Vm.Equiv.SameMemory

/-!
# Memory images and the loader

The loader's counter wraps around within a string where the addresses of an
image go on.  Below 4 GiB of data the two do the same writes.

* **`reproduces_iff`**: images reproduce the load of every program of a shape
  exactly when no string of that shape crosses the 4 GiB limit.
-/

namespace RiscvSim

open Lib

variable {cfg : VmConfig} {base : BitVec 64} {m m' : Memory}

/-! ### Where the addresses agree -/

/-- No string of the data elements, laid out from the counter `c` on, crosses
the 4 GiB limit of the counter. -/
def StringsFit : BitVec 32 → List DataElement → Prop
  | _, [] => True
  | c, .string bytes :: es =>
    (alignCounter 1#32 c).toNat + bytes.length ≤ 2 ^ 32 ∧
      StringsFit (counterAfter c (.string bytes)) es
  | c, e :: es => StringsFit (counterAfter c e) es

theorem loaderAddress_eq_imageAddress {c : BitVec 32} {i : Nat} (h : c.toNat + i < 2 ^ 32) :
    loaderAddress base c i = imageAddress base c i := by
  unfold loaderAddress imageAddress
  rw [BitVec.add_assoc]
  congr 1
  apply BitVec.eq_of_toNat_eq
  rw [BitVec.toNat_setWidth, BitVec.toNat_add, BitVec.toNat_ofNat, BitVec.toNat_add,
    BitVec.toNat_setWidth, BitVec.toNat_ofNat]
  omega

theorem dataWrites_eq_of_stringsFit {es : List DataElement} {c : BitVec 32}
    (h : StringsFit c es) :
    dataWrites (loaderAddress base) base c es = dataWrites (imageAddress base) base c es := by
  induction es generalizing c with
  | nil => rfl
  | cons e es ih =>
    cases e with
    | string bytes =>
      obtain ⟨hfit, h⟩ := h
      have hstring : elementWrites (loaderAddress base) base c (.string bytes) =
          elementWrites (imageAddress base) base c (.string bytes) := by
        refine List.map_congr_left ?_
        rintro ⟨byte, i⟩ hmem
        have hi : i < bytes.length :=
          (List.getElem?_eq_some_iff.mp (List.mem_zipIdx_iff_getElem?.mp hmem)).1
        dsimp only
        rw [loaderAddress_eq_imageAddress (by omega)]
      rw [dataWrites, dataWrites, hstring, ih h]
    | _ value => exact congrArg (_ :: ·) (ih h)

/-- A new machine. -/
def VmBase.fresh (cfg : VmConfig) : VmBase where
  memoryController := .new cfg

/-- Where the program can be loaded, its image can be, with the same contents of
the memory and the same program size. -/
def Reproduces (cfg : VmConfig) (program : AssembledProgram) : Prop :=
  ∀ vm, (VmBase.fresh cfg).loadProgram cfg program = .ok vm →
    ∃ vm', (VmBase.fresh cfg).loadMemoryImage cfg (writeMemoryImage cfg program) = .ok vm' ∧
      (∀ a, vm'.memoryController.read a = vm.memoryController.read a) ∧
      vm'.programSize = vm.programSize

theorem reproduces_of_stringsFit {program : AssembledProgram}
    (h : StringsFit 0#32 program.dataBuffer) : Reproduces cfg program := by
  intro vm hload
  obtain ⟨m, hm, rfl⟩ := loadProgram_eq_ok_iff_writes.mp hload
  have hwrites : imageWrites cfg program = loaderWrites cfg program := by
    unfold imageWrites loaderWrites
    rw [dataWrites_eq_of_stringsFit h]
  rw [loadMemoryImage_writeMemoryImage, hwrites, hm]
  exact ⟨_, rfl, fun _ => rfl, rfl⟩

/-! ### Where they do not -/

/-- The element of the same shape with zeros for numbers and ones for the bytes of a string. -/
def DataElement.shape : DataElement → DataElement
  | .byte _ => .byte 0#8
  | .halfWord _ => .halfWord 0#16
  | .word _ => .word 0#32
  | .doubleWord _ => .doubleWord 0#64
  | .float _ => .float 0#32
  | .double _ => .double 0#64
  | .string bytes => .string (List.replicate bytes.length 1#8)

/-- The program of the same shape with these elements and zeros for the instruction words. -/
def AssembledProgram.shape (program : AssembledProgram) : AssembledProgram :=
  { program with
    textBuffer := List.replicate program.textBuffer.length 0#32
    dataBuffer := program.dataBuffer.map DataElement.shape }

/-- The programs have the same numbers of instruction words and of bytes in each element. -/
def AssembledProgram.SameShape (program program' : AssembledProgram) : Prop :=
  program'.textBuffer.length = program.textBuffer.length ∧
    program'.dataBuffer.map DataElement.shape = program.dataBuffer.map DataElement.shape

theorem DataElement.shape_shape (e : DataElement) : e.shape.shape = e.shape := by
  cases e with
  | string bytes =>
    show DataElement.string (List.replicate (List.replicate bytes.length 1#8).length 1#8) = _
    rw [List.length_replicate]
    rfl
  | _ => rfl

theorem AssembledProgram.sameShape_shape (program : AssembledProgram) :
    program.SameShape program.shape := by
  refine ⟨List.length_replicate, ?_⟩
  show (program.dataBuffer.map DataElement.shape).map DataElement.shape = _
  rw [List.map_map]
  exact List.map_congr_left fun e _ => e.shape_shape

theorem counterAfter_shape (c : BitVec 32) (e : DataElement) :
    counterAfter c e.shape = counterAfter c e := by
  cases e with
  | string bytes =>
    show alignCounter 1#32 c + BitVec.ofNat 32 (List.replicate bytes.length 1#8).length = _
    rw [List.length_replicate]
    rfl
  | _ => rfl

namespace MemoryWrite

/-- Where a write goes to. -/
def place (w : MemoryWrite) : Nat × BitVec 64 :=
  (w.bytes, w.address)

/-- Whether a write succeeds depends on its place only. -/
theorem exists_apply_of_place {w w' : MemoryWrite} (hplace : w'.place = w.place)
    (hm : m.Reachable cfg) (hm' : m'.Reachable cfg) (h : ∃ m₁, w.apply cfg m = .ok m₁) :
    ∃ m₁', w'.apply cfg m' = .ok m₁' := by
  obtain ⟨n, address, value⟩ := w
  obtain ⟨n', address', value'⟩ := w'
  obtain ⟨rfl, rfl⟩ := Prod.mk.inj hplace
  obtain ⟨m₁, h⟩ := h
  obtain ⟨u, hcheck, hw⟩ := bind_eq_ok.mp h
  have hcheck' : m'.checkRange n' address' = .ok u := by
    have hsize : m'.memorySize = m.memorySize := by
      rw [(Memory.sizes_of_reachable hm).1, (Memory.sizes_of_reachable hm').1]
    unfold Memory.checkRange at hcheck ⊢
    rw [hsize]
    exact throwAt_eq_ok.mp hcheck
  have hround : ∀ (s : Memory) (i : Nat) (s' t : Memory), i ∈ List.range n' →
      s.Reachable cfg ∧ t.Reachable cfg →
      s.write cfg (address' + BitVec.ofNat 64 i) ((value >>> (8 * i)).setWidth 8) = .ok s' →
      ∃ t', t.write cfg (address' + BitVec.ofNat 64 i) ((value' >>> (8 * i)).setWidth 8) = .ok t' ∧
        s'.Reachable cfg ∧ t'.Reachable cfg := by
    rintro s i s' t - ⟨hs, ht⟩ hw
    obtain ⟨t', ht'⟩ := (Memory.exists_write_iff ht).mpr ((Memory.exists_write_iff hs).mp ⟨s', hw⟩)
    exact ⟨t', ht', hs.write hw, ht.write ht'⟩
  obtain ⟨m₁', hw', -⟩ := foldlM_simulates (fun s t : Memory => s.Reachable cfg ∧ t.Reachable cfg) hround
    ⟨hm, hm'⟩ hw
  exact ⟨m₁', bind_eq_ok.mpr ⟨u, throwAt_eq_ok.mpr hcheck', hw'⟩⟩

/-- Writes to the same places succeed alike. -/
theorem exists_foldlM_of_place {writes writes' : List MemoryWrite}
    (hplace : writes'.map place = writes.map place) (hm : m.Reachable cfg) (hm' : m'.Reachable cfg)
    (h : ∃ m₁, writes.foldlM (apply cfg) m = .ok m₁) :
    ∃ m₁', writes'.foldlM (apply cfg) m' = .ok m₁' := by
  induction writes generalizing writes' m m' with
  | nil =>
    rw [List.map_nil, List.map_eq_nil_iff] at hplace
    rw [hplace]
    exact ⟨m', rfl⟩
  | cons w writes ih =>
    obtain ⟨w', writes', rfl, hw, htail⟩ := List.map_eq_cons_iff.mp hplace
    obtain ⟨m₂, h⟩ := h
    rw [List.foldlM_cons] at h
    obtain ⟨m₁, h₁, h₂⟩ := bind_eq_ok.mp h
    obtain ⟨m₁', h₁'⟩ := exists_apply_of_place hw hm hm' ⟨m₁, h₁⟩
    obtain ⟨m₂', h₂'⟩ := ih htail (Memory.reachable_of_writeSized hm h₁)
      (Memory.reachable_of_writeSized hm' h₁') ⟨m₂, h₂⟩
    exact ⟨m₂', by rw [List.foldlM_cons, h₁', ok_bind]; exact h₂'⟩

end MemoryWrite

theorem place_textWrites (textBuffer textBuffer' : List (BitVec 32)) (counter : BitVec 32)
    (h : textBuffer'.length = textBuffer.length) :
    (textWrites counter textBuffer').map MemoryWrite.place =
      (textWrites counter textBuffer).map MemoryWrite.place := by
  induction textBuffer generalizing textBuffer' counter with
  | nil => rw [List.length_eq_zero_iff.mp h]
  | cons w textBuffer ih =>
    obtain ⟨w', textBuffer', rfl⟩ := List.exists_cons_of_length_eq_add_one h
    exact congrArg (_ :: ·) (ih textBuffer' (counter + 4#32) (Nat.succ.inj h))

theorem place_dataWrites_shape {stringAddress : BitVec 32 → Nat → BitVec 64}
    (es : List DataElement) (c : BitVec 32) :
    (dataWrites stringAddress base c (es.map DataElement.shape)).map MemoryWrite.place =
      (dataWrites stringAddress base c es).map MemoryWrite.place := by
  induction es generalizing c with
  | nil => rfl
  | cons e es ih =>
    have helement : (elementWrites stringAddress base c e.shape).map MemoryWrite.place =
        (elementWrites stringAddress base c e).map MemoryWrite.place := by
      cases e with
      | string bytes =>
        show ((List.replicate bytes.length 1#8).zipIdx.map _).map MemoryWrite.place =
          (bytes.zipIdx.map _).map MemoryWrite.place
        rw [List.map_map, List.map_map]
        refine List.ext_getElem (by simp) fun i h₁ h₂ => ?_
        simp [MemoryWrite.place]
      | _ => rfl
    rw [List.map_cons, dataWrites, dataWrites, List.map_append, List.map_append, helement,
      counterAfter_shape, ih]

/-- The program of the same shape can be loaded where the program can. -/
theorem exists_loadProgram_shape {vm : VmBase} {program : AssembledProgram}
    (hvm : vm.memoryController.Reachable cfg) (h : ∃ vm', vm.loadProgram cfg program = .ok vm') :
    ∃ vm', vm.loadProgram cfg program.shape = .ok vm' := by
  obtain ⟨vm', h⟩ := h
  obtain ⟨m, hm, -⟩ := loadProgram_eq_ok_iff_writes.mp h
  have hplace : (loaderWrites cfg program.shape).map MemoryWrite.place =
      (loaderWrites cfg program).map MemoryWrite.place := by
    unfold loaderWrites
    rw [List.map_append, List.map_append]
    show (textWrites 0#32 (List.replicate program.textBuffer.length 0#32)).map _ ++
      (dataWrites _ _ 0#32 (program.dataBuffer.map DataElement.shape)).map _ = _
    rw [place_dataWrites_shape, place_textWrites program.textBuffer _ 0#32 List.length_replicate]
  obtain ⟨m', hm'⟩ := MemoryWrite.exists_foldlM_of_place hplace hvm hvm ⟨m, hm⟩
  exact ⟨_, loadProgram_eq_ok_iff_writes.mpr ⟨m', hm', rfl⟩⟩

namespace MemoryWrite

variable {a : BitVec 64} {x : BitVec 8}

/-- The write goes to `a`. -/
def Covers (w : MemoryWrite) (a : BitVec 64) : Prop :=
  ∃ i < w.bytes, w.address + BitVec.ofNat 64 i = a

/-- If the write goes to `a`, it stores `x` there. -/
def Stores (w : MemoryWrite) (a : BitVec 64) (x : BitVec 8) : Prop :=
  ∀ i < w.bytes, w.address + BitVec.ofNat 64 i = a → (w.value >>> (8 * i)).setWidth 8 = x

theorem stores_of_not_covers {w : MemoryWrite} (h : ¬w.Covers a) : w.Stores a x :=
  fun i hi ha => absurd ⟨i, hi, ha⟩ h

theorem read_of_not_covers {w : MemoryWrite} (hm : m.Reachable cfg) (h : w.apply cfg m = .ok m')
    (ha : ¬w.Covers a) : m'.read a = m.read a := by
  refine Memory.read_eq_of_readsBackAt hm (Memory.reachable_of_writeSized hm h) ?_
  exact (Memory.framesAt_of_writeSized h fun i hi heq => ha ⟨i, hi, heq.symm⟩).2

theorem read_of_covers {w : MemoryWrite} (hm : m.Reachable cfg) (h : w.apply cfg m = .ok m')
    (hstores : w.Stores a x) (ha : w.Covers a) : m'.read a = .ok x := by
  obtain ⟨_, -, hw⟩ := bind_eq_ok.mp h
  refine settled_of_foldlM_of_invariant (Memory.Reachable cfg)
    (fun i (_ : Unit) => w.address + BitVec.ofNat 64 i = a) (fun s _ => s.read a = .ok x)
    (fun i hi s s' hs hws => ⟨hs.write hws, fun _ hsettled => ?_⟩) hm hw () ?_
  · by_cases hia : w.address + BitVec.ofNat 64 i = a
    · rw [← hia, Memory.read_of_write hws, hstores i (List.mem_range.mp hi) hia]
    · rw [Memory.read_of_write_of_ne hs hws (Ne.symm hia)]
      exact hsettled.resolve_left hia
  · obtain ⟨i, hi, hia⟩ := ha
    exact .inl ⟨i, List.mem_range.mpr hi, hia⟩

/-- A byte that some writes go to, all with the same value. -/
theorem read_of_foldlM {writes : List MemoryWrite} (hm : m.Reachable cfg)
    (h : writes.foldlM (apply cfg) m = .ok m') (hstores : ∀ w ∈ writes, w.Stores a x)
    (ha : (∃ w ∈ writes, w.Covers a) ∨ m.read a = .ok x) : m'.read a = .ok x := by
  refine settled_of_foldlM_of_invariant (Memory.Reachable cfg) (fun w (_ : Unit) => w.Covers a)
    (fun s _ => s.read a = .ok x)
    (fun w hw s s' hs hws => ⟨Memory.reachable_of_writeSized hs hws, fun _ hsettled => ?_⟩) hm h ()
    ha
  by_cases hcov : w.Covers a
  · exact read_of_covers hs hws (hstores w hw) hcov
  · rw [read_of_not_covers hs hws hcov]
    exact hsettled.resolve_left hcov

/-- A byte that never becomes `x`. -/
theorem read_ne_of_foldlM {writes : List MemoryWrite} {y : BitVec 8} (hm : m.Reachable cfg)
    (h : writes.foldlM (apply cfg) m = .ok m') (hstores : ∀ w ∈ writes, w.Stores a y)
    (hxy : y ≠ x) (ha : m.read a ≠ .ok x) : m'.read a ≠ .ok x := by
  refine (foldlM_invariant (fun s : Memory => s.Reachable cfg ∧ s.read a ≠ .ok x) ?_ ⟨hm, ha⟩ h).2
  rintro s w s' hw ⟨hs, hne⟩ hws
  refine ⟨Memory.reachable_of_writeSized hs hws, ?_⟩
  by_cases hcov : w.Covers a
  · rw [read_of_covers hs hws (hstores w hw) hcov]
    exact fun heq => hxy (Except.ok.inj heq)
  · rw [read_of_not_covers hs hws hcov]
    exact hne

end MemoryWrite

theorem stores_zero_of_mem_textWrites {n : Nat} {counter : BitVec 32} {w : MemoryWrite}
    (h : w ∈ textWrites counter (List.replicate n 0#32)) (a : BitVec 64) : w.Stores a 0#8 := by
  induction n generalizing counter with
  | zero => cases h
  | succ n ih =>
    rcases List.mem_cons.mp h with rfl | h
    · intro i _ _
      show ((0#32) >>> (8 * i)).setWidth 8 = 0#8
      rw [BitVec.zero_ushiftRight]
      rfl
    · exact ih h

/-- The address past the last one a data counter can name. -/
def limitAddress (base : BitVec 64) : BitVec 64 :=
  base + BitVec.ofNat 64 (2 ^ 32)

/-- An access that a counter names, with all of its bytes below the limit, does not
reach the limit. -/
theorem not_covers_limitAddress {n : Nat} {c : BitVec 32} (hn : c.toNat + n ≤ 2 ^ 32)
    {value : BitVec (8 * n)} :
    ¬MemoryWrite.Covers ⟨n, base + c.setWidth 64, value⟩ (limitAddress base) := by
  rintro ⟨i, hi, heq⟩
  dsimp only at hi heq
  unfold limitAddress at heq
  rw [BitVec.add_assoc] at heq
  have hoffset := congrArg BitVec.toNat ((BitVec.add_right_inj base).mp heq)
  rw [BitVec.toNat_add, BitVec.toNat_setWidth, BitVec.toNat_ofNat, BitVec.toNat_ofNat] at hoffset
  omega

theorem alignCounter_mod {n : Nat} (hn : n = 1 ∨ n = 2 ∨ n = 4 ∨ n = 8) (c : BitVec 32) :
    (alignCounter (BitVec.ofNat 32 n) c).toNat % n = 0 := by
  have hmod : (c % BitVec.ofNat 32 n).toNat = c.toNat % n := by
    rw [BitVec.toNat_umod, BitVec.toNat_ofNat]
    rcases hn with rfl | rfl | rfl | rfl <;> rfl
  unfold alignCounter
  split
  · rw [BitVec.toNat_add, BitVec.toNat_sub, hmod, BitVec.toNat_ofNat]
    rcases hn with rfl | rfl | rfl | rfl <;> omega
  · rename_i hzero
    have := congrArg BitVec.toNat (not_not.mp hzero)
    rw [hmod] at this
    exact this

/-- The numbers stay below the limit. -/
theorem not_covers_of_alignCounter {n : Nat} (hn : n = 1 ∨ n = 2 ∨ n = 4 ∨ n = 8) (c : BitVec 32)
    {value : BitVec (8 * n)} :
    ¬MemoryWrite.Covers ⟨n, base + (alignCounter (BitVec.ofNat 32 n) c).setWidth 64, value⟩
      (limitAddress base) := by
  refine not_covers_limitAddress ?_
  have hmod := alignCounter_mod hn c
  have hlt := (alignCounter (BitVec.ofNat 32 n) c).isLt
  rcases hn with rfl | rfl | rfl | rfl <;> omega

/-- The loader never writes at the limit. -/
theorem not_covers_of_mem_loader {es : List DataElement} {c : BitVec 32} {w : MemoryWrite}
    (h : w ∈ dataWrites (loaderAddress base) base c es) : ¬w.Covers (limitAddress base) := by
  induction es generalizing c with
  | nil => cases h
  | cons e es ih =>
    rcases List.mem_append.mp h with h | h
    · cases e with
      | string bytes =>
        obtain ⟨⟨byte, i⟩, -, rfl⟩ := List.mem_map.mp h
        exact not_covers_limitAddress (by omega)
      | byte value => exact List.mem_singleton.mp h ▸ not_covers_of_alignCounter (n := 1) (by simp) c
      | halfWord value =>
        exact List.mem_singleton.mp h ▸ not_covers_of_alignCounter (n := 2) (by simp) c
      | word value | float bits =>
        exact List.mem_singleton.mp h ▸ not_covers_of_alignCounter (n := 4) (by simp) c
      | doubleWord value | double bits =>
        exact List.mem_singleton.mp h ▸ not_covers_of_alignCounter (n := 8) (by simp) c
    · exact ih h

/-- An image of a program of ones in its strings writes nothing but ones at the limit. -/
theorem stores_one_of_mem_image {es : List DataElement} {c : BitVec 32} {w : MemoryWrite}
    (h : w ∈ dataWrites (imageAddress base) base c (es.map DataElement.shape)) :
    w.Stores (limitAddress base) 1#8 := by
  induction es generalizing c with
  | nil => cases h
  | cons e es ih =>
    rcases List.mem_append.mp h with h | h
    · cases e with
      | string bytes =>
        obtain ⟨⟨byte, i⟩, hmem, rfl⟩ := List.mem_map.mp h
        have hbyte : byte = 1#8 :=
          (List.mem_replicate.mp (List.fst_mem_of_mem_zipIdx hmem)).2
        intro j hj _
        obtain rfl : j = 0 := Nat.lt_one_iff.mp hj
        rw [hbyte]
        rfl
      | byte value =>
        exact MemoryWrite.stores_of_not_covers
          (List.mem_singleton.mp h ▸ not_covers_of_alignCounter (n := 1) (by simp) c)
      | halfWord value =>
        exact MemoryWrite.stores_of_not_covers
          (List.mem_singleton.mp h ▸ not_covers_of_alignCounter (n := 2) (by simp) c)
      | word value | float bits =>
        exact MemoryWrite.stores_of_not_covers
          (List.mem_singleton.mp h ▸ not_covers_of_alignCounter (n := 4) (by simp) c)
      | doubleWord value | double bits =>
        exact MemoryWrite.stores_of_not_covers
          (List.mem_singleton.mp h ▸ not_covers_of_alignCounter (n := 8) (by simp) c)
    · exact ih h

/-- An image with a string that crosses the limit has a write there. -/
theorem exists_covers_of_not_stringsFit {es : List DataElement} {c : BitVec 32}
    (h : ¬StringsFit c es) :
    ∃ w ∈ dataWrites (imageAddress base) base c (es.map DataElement.shape),
      w.Covers (limitAddress base) := by
  induction es generalizing c with
  | nil => exact absurd trivial h
  | cons e es ih =>
    have htail : ¬StringsFit (counterAfter c e) es → ∃ w ∈ dataWrites (imageAddress base) base c
        ((e :: es).map DataElement.shape), w.Covers (limitAddress base) := by
      intro h
      obtain ⟨w, hw, hcov⟩ := ih h
      refine ⟨w, List.mem_append.mpr (.inr ?_), hcov⟩
      rw [counterAfter_shape]
      exact hw
    cases e with
    | string bytes =>
      by_cases hfit : (alignCounter 1#32 c).toNat + bytes.length ≤ 2 ^ 32
      · exact htail fun hes => h ⟨hfit, hes⟩
      · have hlt := (alignCounter 1#32 c).isLt
        let i : Nat := 2 ^ 32 - (alignCounter 1#32 c).toNat
        have hi : i < (List.replicate bytes.length 1#8).length := by
          rw [List.length_replicate]
          show 2 ^ 32 - (alignCounter 1#32 c).toNat < bytes.length
          omega
        refine ⟨⟨1, imageAddress base (alignCounter 1#32 c) i, 1#8⟩,
          List.mem_append.mpr (.inl (List.mem_map.mpr ⟨(1#8, i), ?_, rfl⟩)), 0, Nat.one_pos, ?_⟩
        · exact List.mem_zipIdx_iff_getElem?.mpr (by rw [List.getElem?_eq_getElem hi]; simp)
        · show base + (alignCounter 1#32 c).setWidth 64 + BitVec.ofNat 64 i + 0#64 = _
          unfold limitAddress
          rw [BitVec.add_zero, BitVec.add_assoc]
          congr 1
          apply BitVec.eq_of_toNat_eq
          show ((alignCounter 1#32 c).setWidth 64 +
            BitVec.ofNat 64 (2 ^ 32 - (alignCounter 1#32 c).toNat)).toNat = _
          rw [BitVec.toNat_add, BitVec.toNat_setWidth, BitVec.toNat_ofNat, BitVec.toNat_ofNat]
          omega
    | _ value => exact htail h

/-- With a string that crosses the limit, the image does not reproduce the load. -/
theorem not_reproduces_shape {program : AssembledProgram}
    (hload : ∃ vm, (VmBase.fresh cfg).loadProgram cfg program = .ok vm)
    (h : ¬StringsFit 0#32 program.dataBuffer) : ¬Reproduces cfg program.shape := by
  intro hreproduces
  let a := limitAddress cfg.dataSectionStart
  have hfresh : (VmBase.fresh cfg).memoryController.Reachable cfg := .new
  obtain ⟨vm, hvm⟩ := exists_loadProgram_shape hfresh hload
  obtain ⟨vm', himage, hread, -⟩ := hreproduces vm hvm
  obtain ⟨m, hm, rfl⟩ := loadProgram_eq_ok_iff_writes.mp hvm
  rw [loadMemoryImage_writeMemoryImage] at himage
  obtain ⟨vm₁, haccess, himage⟩ := bind_eq_ok.mp himage
  obtain rfl := Except.ok.inj himage
  cases hm' : (imageWrites cfg program.shape).foldlM (MemoryWrite.apply cfg)
      (VmBase.fresh cfg).memoryController with
  | error e =>
    rw [hm'] at haccess
    cases haccess
  | ok m' =>
    rw [hm'] at haccess
    obtain rfl := Except.ok.inj haccess
    -- the image leaves a one at the limit, the loader does not
    obtain ⟨m₁, htext, hdata⟩ := bind_eq_ok.mp (List.foldlM_append.symm.trans hm')
    obtain ⟨m₂, htext', hdata'⟩ := bind_eq_ok.mp (List.foldlM_append.symm.trans hm)
    obtain rfl := Except.ok.inj (htext.symm.trans htext')
    have hm₁ : m₁.Reachable cfg :=
      foldlM_invariant (Memory.Reachable cfg)
        (fun _ _ _ _ hs hw => Memory.reachable_of_writeSized hs hw) hfresh htext
    have hone : m'.read a = .ok 1#8 :=
      MemoryWrite.read_of_foldlM hm₁ hdata (fun w hw => stores_one_of_mem_image hw)
        (.inl (exists_covers_of_not_stringsFit h))
    have hne : m₁.read a ≠ .ok 1#8 := by
      refine MemoryWrite.read_ne_of_foldlM (y := 0#8) hfresh htext
        (fun w hw => stores_zero_of_mem_textWrites hw a) (by decide) ?_
      intro hnew
      have hzero : (1#8 : BitVec 8) = 0#8 := (Memory.read_eq_ok.mp hnew).2.2
      exact absurd hzero (by decide)
    have hne' : m.read a ≠ .ok 1#8 :=
      MemoryWrite.read_ne_of_foldlM (y := 0#8) hm₁ hdata'
        (fun w hw => MemoryWrite.stores_of_not_covers (not_covers_of_mem_loader hw)) (by decide) hne
    exact hne' ((hread a).symm.trans hone)

theorem stringsFit_shape (c : BitVec 32) (es : List DataElement) :
    StringsFit c (es.map DataElement.shape) ↔ StringsFit c es := by
  induction es generalizing c with
  | nil => exact Iff.rfl
  | cons e es ih =>
    have htail := ih (counterAfter c e)
    rw [← counterAfter_shape] at htail
    cases e with
    | string bytes =>
      show (alignCounter 1#32 c).toNat + (List.replicate bytes.length 1#8).length ≤ 2 ^ 32 ∧
        StringsFit (counterAfter c (DataElement.string bytes).shape) (es.map DataElement.shape) ↔ _
      rw [List.length_replicate, htail, counterAfter_shape]
      exact Iff.rfl
    | _ value => exact htail

/-- **Images reproduce the load of every program of a shape exactly when no
string of that shape crosses the 4 GiB limit.** -/
theorem reproduces_iff (cfg : VmConfig) (program : AssembledProgram)
    (hload : ∃ vm, (VmBase.fresh cfg).loadProgram cfg program = .ok vm) :
    (∀ program', program.SameShape program' → Reproduces cfg program') ↔
      StringsFit 0#32 program.dataBuffer := by
  constructor
  · intro hall
    by_contra h
    exact not_reproduces_shape hload h (hall _ program.sameShape_shape)
  · rintro hfit program' ⟨-, hshape⟩
    refine reproduces_of_stringsFit ?_
    rw [← stringsFit_shape, hshape, stringsFit_shape]
    exact hfit

/-- `addi x1, x0, 5`, and a byte, a halfword and a string of two characters. -/
def mixedData : AssembledProgram where
  textBuffer := [0x00500093#32]
  dataBuffer := [.byte 7#8, .halfWord 0x1234#16, .string [0x68#8, 0x69#8]]

/-- The image of a program with aligned data. -/
theorem reproduces_iff_mixedData : Reproduces {} mixedData := by
  have hload : ∃ vm, (VmBase.fresh {}).loadProgram {} mixedData = .ok vm :=
    ⟨_, eq_ok_getD (VmBase.fresh {}) (by decide +kernel)⟩
  exact (reproduces_iff {} mixedData hload).mpr ⟨by decide, trivial⟩ mixedData ⟨rfl, rfl⟩

example : writeMemoryImage {} mixedData =
    ("W 0x0 0x00500093\nB 0x10000000 0x07\nH 0x10000002 0x1234\nB 0x10000004 0x68\n" ++
      "B 0x10000005 0x69\nP 0x4 0x0\n").toList := by
  decide +kernel

/-- A program with one string of ones. -/
def longString (length : Nat) : AssembledProgram where
  dataBuffer := [.string (List.replicate length 1#8)]

theorem exists_loadProgram_longString (length : Nat) :
    ∃ vm, (VmBase.fresh {}).loadProgram {} (longString length) = .ok vm := by
  have hwrite : ∀ w ∈ loaderWrites {} (longString length), ∀ s : Memory, s.Reachable {} →
      ∃ s', w.apply {} s = .ok s' ∧ s'.Reachable {} := by
    intro w hw s hs
    obtain ⟨⟨byte, i⟩, -, rfl⟩ : ∃ entry ∈ (List.replicate length 1#8).zipIdx,
        (⟨1, loaderAddress 0x10000000#64 0#32 entry.2, entry.1⟩ : MemoryWrite) = w := by
      rcases List.mem_append.mp hw with hw | hw
      · cases hw
      · rcases List.mem_append.mp hw with hw | hw
        · exact List.mem_map.mp hw
        · cases hw
    have haddress : loaderAddress 0x10000000#64 0#32 i < 0xffffffffffffffff#64 := by
      have hlt := (0#32 + BitVec.ofNat 32 i).isLt
      unfold loaderAddress
      rw [BitVec.lt_def, BitVec.toNat_add, BitVec.toNat_setWidth, BitVec.toNat_ofNat,
        BitVec.toNat_ofNat]
      omega
    obtain ⟨s', hs'⟩ := (Memory.exists_write_iff hs (v := byte)).mpr ⟨haddress, by decide⟩
    refine ⟨s', ?_, hs.write hs'⟩
    show s.writeSized {} 1 _ _ = _
    rw [← Memory.writeByte_eq_writeSized, Memory.writeByte_eq]
    exact hs'
  have hfresh : (VmBase.fresh {}).memoryController.Reachable {} := .new
  obtain ⟨m, hm, -⟩ := foldlM_succeeds (Memory.Reachable {}) hwrite hfresh
  exact ⟨_, loadProgram_eq_ok_iff_writes.mpr ⟨m, hm, rfl⟩⟩

/-- The last byte of a string of 4 GiB and one byte goes to the start of the
data section when the program is loaded, and past the limit in its image. -/
theorem not_reproduces_longString : ¬Reproduces {} (longString (2 ^ 32 + 1)) := by
  have hlong : ∀ length, 2 ^ 32 < length → ¬Reproduces {} (longString length) := by
    intro length hlength
    have hshape : (longString length).shape = longString length := by
      show ({ dataBuffer := [(DataElement.string (List.replicate length 1#8)).shape] } :
        AssembledProgram) = { dataBuffer := [.string (List.replicate length 1#8)] }
      unfold DataElement.shape
      dsimp only
      rw [List.length_replicate]
    rw [← hshape]
    refine not_reproduces_shape (exists_loadProgram_longString length) fun hfit => ?_
    have hle : 0 + (List.replicate length 1#8).length ≤ 2 ^ 32 := hfit.1
    rw [List.length_replicate] at hle
    omega
  exact hlong _ (by decide)

end RiscvSim

import RiscvSim.MemoryImage
import RiscvSim.Vm.Equiv.Loader

/-!
# The writes of a memory image

The loader and the writer of images both go through the data elements with a
counter of 32 bits.  `elementWrites` lists the writes of one element; the two
differ in the addresses of the bytes of a string only, where the writer counts
on with 64 bits.

* **`loadProgram_eq_ok_iff_writes`**: the load of a program does the writes of
  the loader.
* **`loadMemoryImage_writeMemoryImage`**: reading an image back does the writes
  of the image and sets the program size.
-/

namespace RiscvSim

open Lib

variable {cfg : VmConfig} {base : BitVec 64} {m m' : Memory}

/-! ### The writes of a program -/

/-- A checked write to the memory. -/
structure MemoryWrite where
  bytes : Nat
  address : BitVec 64
  value : BitVec (8 * bytes)

namespace MemoryWrite

def apply (cfg : VmConfig) (m : Memory) (w : MemoryWrite) : Except (Fault × Memory) Memory :=
  m.writeSized cfg w.bytes w.address w.value

/-- The letter of an access in an image. -/
def letter : Nat → Char
  | 1 => 'B'
  | 2 => 'H'
  | 4 => 'W'
  | _ => 'D'

/-- The line of the write in an image. -/
def line (w : MemoryWrite) : List Char :=
  imageLine (letter w.bytes) w.address.toNat (2 * w.bytes) w.value.toNat

/-- The access has one of the sizes the memory offers. -/
def Sized (w : MemoryWrite) : Prop :=
  w.bytes = 1 ∨ w.bytes = 2 ∨ w.bytes = 4 ∨ w.bytes = 8

end MemoryWrite

/-- The instruction words, from the counter on. -/
def textWrites : BitVec 32 → List (BitVec 32) → List MemoryWrite
  | _, [] => []
  | counter, instruction :: textBuffer =>
    ⟨4, counter.setWidth 64, instruction⟩ :: textWrites (counter + 4#32) textBuffer

/-- The data counter after an element. -/
def counterAfter (c : BitVec 32) : DataElement → BitVec 32
  | .byte _ => alignCounter 1#32 c + 1#32
  | .halfWord _ => alignCounter 2#32 c + 2#32
  | .word _ | .float _ => alignCounter 4#32 c + 4#32
  | .doubleWord _ | .double _ => alignCounter 8#32 c + 8#32
  | .string bytes => alignCounter 1#32 c + BitVec.ofNat 32 bytes.length

/-- The writes of a data element; `stringAddress c i` is the address of the byte
at position `i` of a string that starts at the counter `c`. -/
def elementWrites (stringAddress : BitVec 32 → Nat → BitVec 64) (base : BitVec 64)
    (c : BitVec 32) : DataElement → List MemoryWrite
  | .byte value => [⟨1, base + (alignCounter 1#32 c).setWidth 64, value⟩]
  | .halfWord value => [⟨2, base + (alignCounter 2#32 c).setWidth 64, value⟩]
  | .word value => [⟨4, base + (alignCounter 4#32 c).setWidth 64, value⟩]
  | .float bits => [⟨4, base + (alignCounter 4#32 c).setWidth 64, bits⟩]
  | .doubleWord value => [⟨8, base + (alignCounter 8#32 c).setWidth 64, value⟩]
  | .double bits => [⟨8, base + (alignCounter 8#32 c).setWidth 64, bits⟩]
  | .string bytes =>
    bytes.zipIdx.map fun (byte, i) => ⟨1, stringAddress (alignCounter 1#32 c) i, byte⟩

/-- The writes of the data elements, from the counter `c` on. -/
def dataWrites (stringAddress : BitVec 32 → Nat → BitVec 64) (base : BitVec 64) :
    BitVec 32 → List DataElement → List MemoryWrite
  | _, [] => []
  | c, e :: es =>
    elementWrites stringAddress base c e ++ dataWrites stringAddress base (counterAfter c e) es

/-- The address the loader computes for a byte of a string. -/
def loaderAddress (base : BitVec 64) (c : BitVec 32) (i : Nat) : BitVec 64 :=
  base + (c + BitVec.ofNat 32 i).setWidth 64

/-- The address the writer of images computes for it. -/
def imageAddress (base : BitVec 64) (c : BitVec 32) (i : Nat) : BitVec 64 :=
  base + c.setWidth 64 + BitVec.ofNat 64 i

/-! ### The loader -/

theorem loadText_eq (m : Memory) (textBuffer : List (BitVec 32)) (counter : BitVec 32) :
    textBuffer.foldlM (fun (s : Memory × BitVec 32) instruction => do
        let memory ← s.1.writeWord cfg (s.2.setWidth 64) instruction
        pure (memory, s.2 + 4#32)) (m, counter) =
      (textWrites counter textBuffer).foldlM (MemoryWrite.apply cfg) m >>= fun m' =>
        pure (m', counter + BitVec.ofNat 32 (4 * textBuffer.length)) := by
  induction textBuffer generalizing m counter with
  | nil =>
    show _ = Except.ok (m, counter + 0#32)
    rw [BitVec.add_zero]
    rfl
  | cons instruction textBuffer ih =>
    have hcounter : counter + 4#32 + BitVec.ofNat 32 (4 * textBuffer.length) =
        counter + BitVec.ofNat 32 (4 * (instruction :: textBuffer).length) := by
      rw [BitVec.add_assoc, List.length_cons, Nat.mul_add, Nat.add_comm, BitVec.ofNat_add]
    rw [← hcounter, List.foldlM_cons, textWrites, List.foldlM_cons]
    unfold MemoryWrite.apply Memory.writeWord
    cases m.writeSized cfg 4 (counter.setWidth 64) instruction with
    | error e => rfl
    | ok m₁ => exact ih m₁ (counter + 4#32)

theorem loadString_eq (m : Memory) (c : BitVec 32) (bytes : List (BitVec 8)) (k : Nat) :
    bytes.foldlM (fun (s : Memory × BitVec 32) byte => do
        let memory ← s.1.writeByte cfg (base + s.2.setWidth 64) byte
        pure (memory, s.2 + 1#32)) (m, c + BitVec.ofNat 32 k) =
      ((bytes.zipIdx k).map fun (byte, i) => (⟨1, loaderAddress base c i, byte⟩ : MemoryWrite)).foldlM
        (MemoryWrite.apply cfg) m >>= fun m' =>
          pure (m', c + BitVec.ofNat 32 (k + bytes.length)) := by
  induction bytes generalizing m k with
  | nil => rfl
  | cons byte bytes ih =>
    have hcounter : c + BitVec.ofNat 32 k + 1#32 = c + BitVec.ofNat 32 (k + 1) := by
      rw [BitVec.add_assoc, BitVec.ofNat_add]
    have hlength : k + (byte :: bytes).length = k + 1 + bytes.length := by
      rw [List.length_cons]
      omega
    rw [List.foldlM_cons, List.zipIdx_cons, List.map_cons, List.foldlM_cons, hlength]
    dsimp only
    rw [Memory.writeByte_eq_writeSized, hcounter]
    unfold MemoryWrite.apply loaderAddress
    cases m.writeSized cfg 1 (base + (c + BitVec.ofNat 32 k).setWidth 64) byte with
    | error e => rfl
    | ok m₁ => exact ih m₁ (k + 1)

theorem loadDataElement_eq (m : Memory) (c : BitVec 32) (e : DataElement) :
    loadDataElement cfg base (m, c) e =
      (elementWrites (loaderAddress base) base c e).foldlM (MemoryWrite.apply cfg) m >>= fun m' =>
        pure (m', counterAfter c e) := by
  have hone : ∀ (n : Nat) (value : BitVec (8 * n)) (c₁ c₂ : BitVec 32),
      (m.writeSized cfg n (base + c₁.setWidth 64) value >>= fun m' => pure (m', c₂)) =
        ([(⟨n, base + c₁.setWidth 64, value⟩ : MemoryWrite)].foldlM (MemoryWrite.apply cfg) m >>=
          fun m' => pure (m', c₂)) := by
    intro n value c₁ c₂
    rw [List.foldlM_cons]
    unfold MemoryWrite.apply
    cases m.writeSized cfg n (base + c₁.setWidth 64) value <;> rfl
  cases e with
  | string bytes =>
    have hstring := @loadString_eq cfg base m (alignCounter 1#32 c) bytes 0
    rw [BitVec.add_zero, Nat.zero_add] at hstring
    exact hstring
  | byte value =>
    refine Eq.trans ?_ (hone 1 value _ _)
    unfold loadDataElement
    dsimp only
    rw [Memory.writeByte_eq_writeSized]
    rfl
  | halfWord value => exact hone 2 value _ _
  | word value => exact hone 4 value _ _
  | doubleWord value => exact hone 8 value _ _
  | float bits => exact hone 4 bits _ _
  | double bits => exact hone 8 bits _ _

theorem loadData_eq (m : Memory) (c : BitVec 32) (es : List DataElement) :
    es.foldlM (loadDataElement cfg base) (m, c) =
      (dataWrites (loaderAddress base) base c es).foldlM (MemoryWrite.apply cfg) m >>= fun m' =>
        pure (m', es.foldl counterAfter c) := by
  induction es generalizing m c with
  | nil => rfl
  | cons e es ih =>
    rw [List.foldlM_cons, loadDataElement_eq, dataWrites, List.foldlM_append]
    cases (elementWrites (loaderAddress base) base c e).foldlM (MemoryWrite.apply cfg) m with
    | error e => rfl
    | ok m₁ => exact ih m₁ (counterAfter c e)

/-! ### The image -/

theorem writeTextImage_eq (textBuffer : List (BitVec 32)) (out : List Char) (counter : BitVec 32) :
    textBuffer.foldl (fun (s : List Char × BitVec 32) instruction =>
        (s.1 ++ imageLine 'W' s.2.toNat 8 instruction.toNat, s.2 + 4#32)) (out, counter) =
      (out ++ (textWrites counter textBuffer).flatMap MemoryWrite.line,
        counter + BitVec.ofNat 32 (4 * textBuffer.length)) := by
  induction textBuffer generalizing out counter with
  | nil =>
    show (out, counter) = (out ++ [], counter + 0#32)
    rw [List.append_nil, BitVec.add_zero]
  | cons instruction textBuffer ih =>
    have hcounter : counter + 4#32 + BitVec.ofNat 32 (4 * textBuffer.length) =
        counter + BitVec.ofNat 32 (4 * (instruction :: textBuffer).length) := by
      rw [BitVec.add_assoc, List.length_cons, Nat.mul_add, Nat.add_comm, BitVec.ofNat_add]
    have hline : imageLine 'W' counter.toNat 8 instruction.toNat =
        MemoryWrite.line ⟨4, counter.setWidth 64, instruction⟩ := by
      show _ = imageLine 'W' (counter.setWidth 64).toNat 8 instruction.toNat
      rw [BitVec.toNat_setWidth, Nat.mod_eq_of_lt (by omega)]
    rw [List.foldl_cons, ih, hcounter, hline, textWrites, List.flatMap_cons, List.append_assoc]

theorem writeString_eq (out : List Char) (c : BitVec 32) (bytes : List (BitVec 8)) (k : Nat) :
    (bytes.zipIdx k).foldl (fun (s : List Char × BitVec 32) (entry : BitVec 8 × Nat) =>
        (s.1 ++ imageLine 'B' (base + c.setWidth 64 + BitVec.ofNat 64 entry.2).toNat 2
          entry.1.toNat, s.2 + 1#32)) (out, c + BitVec.ofNat 32 k) =
      (out ++ ((bytes.zipIdx k).map fun (byte, i) =>
          (⟨1, imageAddress base c i, byte⟩ : MemoryWrite)).flatMap MemoryWrite.line,
        c + BitVec.ofNat 32 (k + bytes.length)) := by
  induction bytes generalizing out k with
  | nil =>
    show (out, c + BitVec.ofNat 32 k) = (out ++ [], c + BitVec.ofNat 32 k)
    rw [List.append_nil]
  | cons byte bytes ih =>
    have hcounter : c + BitVec.ofNat 32 k + 1#32 = c + BitVec.ofNat 32 (k + 1) := by
      rw [BitVec.add_assoc, BitVec.ofNat_add]
    have hlength : k + (byte :: bytes).length = k + 1 + bytes.length := by
      rw [List.length_cons]
      omega
    rw [List.zipIdx_cons, List.foldl_cons, List.map_cons, List.flatMap_cons, hlength]
    dsimp only
    rw [hcounter, ih, List.append_assoc]
    rfl

theorem writeDataElement_eq (out : List Char) (c : BitVec 32) (e : DataElement) :
    writeDataElement base (out, c) e =
      (out ++ (elementWrites (imageAddress base) base c e).flatMap MemoryWrite.line,
        counterAfter c e) := by
  have hone : ∀ (n : Nat) (value : BitVec (8 * n)) (c₁ c₂ : BitVec 32),
      (out ++ imageLine (MemoryWrite.letter n) (base + c₁.setWidth 64).toNat (2 * n) value.toNat,
        c₂) =
      (out ++ [(⟨n, base + c₁.setWidth 64, value⟩ : MemoryWrite)].flatMap MemoryWrite.line, c₂) := by
    intro n value c₁ c₂
    rw [List.flatMap_cons, List.flatMap_nil, List.append_nil]
    rfl
  cases e with
  | string bytes =>
    have hstring := @writeString_eq base out (alignCounter 1#32 c) bytes 0
    rw [BitVec.add_zero, Nat.zero_add] at hstring
    exact hstring
  | byte value => exact hone 1 value _ _
  | halfWord value => exact hone 2 value _ _
  | word value => exact hone 4 value _ _
  | doubleWord value => exact hone 8 value _ _
  | float bits => exact hone 4 bits _ _
  | double bits => exact hone 8 bits _ _

theorem writeData_eq (out : List Char) (c : BitVec 32) (es : List DataElement) :
    es.foldl (writeDataElement base) (out, c) =
      (out ++ (dataWrites (imageAddress base) base c es).flatMap MemoryWrite.line,
        es.foldl counterAfter c) := by
  induction es generalizing out c with
  | nil =>
    show (out, c) = (out ++ [], c)
    rw [List.append_nil]
  | cons e es ih =>
    rw [List.foldl_cons, writeDataElement_eq, ih, dataWrites, List.flatMap_append,
      List.append_assoc]
    rfl

/-- The size of the text as the loader and the writer count it. -/
def textSize (program : AssembledProgram) : BitVec 32 :=
  BitVec.ofNat 32 (4 * program.textBuffer.length)

/-- The writes an image of the program names. -/
def imageWrites (cfg : VmConfig) (program : AssembledProgram) : List MemoryWrite :=
  textWrites 0#32 program.textBuffer ++
    dataWrites (imageAddress cfg.dataSectionStart) cfg.dataSectionStart 0#32 program.dataBuffer

/-- The writes the loader does. -/
def loaderWrites (cfg : VmConfig) (program : AssembledProgram) : List MemoryWrite :=
  textWrites 0#32 program.textBuffer ++
    dataWrites (loaderAddress cfg.dataSectionStart) cfg.dataSectionStart 0#32 program.dataBuffer

theorem writeMemoryImage_eq (program : AssembledProgram) :
    writeMemoryImage cfg program = (imageWrites cfg program).flatMap MemoryWrite.line ++
      imageLine 'P' (textSize program).toNat 0 0 := by
  have htext := writeTextImage_eq program.textBuffer [] 0#32
  rw [List.nil_append, BitVec.zero_add] at htext
  have hwrite : writeTextImage program.textBuffer =
      ((textWrites 0#32 program.textBuffer).flatMap MemoryWrite.line, textSize program) := htext
  unfold writeMemoryImage imageWrites
  rw [hwrite]
  dsimp only
  rw [writeData_eq, List.flatMap_append]

/-! ### Reading an image -/

/-- A line that ends is read off. -/
theorem getLines_append {line : List Char} (h : ∀ c ∈ line, c ≠ '\n') (rest : List Char) :
    getLines (line ++ '\n' :: rest) = line :: getLines rest := by
  induction line with
  | nil =>
    show getLines ('\n' :: rest) = _
    rw [getLines, if_pos rfl]
  | cons c line ih =>
    rw [List.cons_append, getLines, if_neg (h c List.mem_cons_self),
      ih fun d hd => h d (List.mem_cons_of_mem c hd)]

/-- A line of an image without its end. -/
def imageFields (type : Char) (address width value : Nat) : List Char :=
  type :: ' ' :: '0' :: 'x' :: (printHexPadded 0 address ++
    ' ' :: '0' :: 'x' :: (printHexPadded width value ++ []))

theorem imageLine_eq (type : Char) (address width value : Nat) :
    imageLine type address width value = imageFields type address width value ++ ['\n'] := by
  unfold imageLine imageFields
  rw [printHex_eq_printHexPadded]
  simp only [List.cons_append, List.nil_append, List.append_assoc, List.append_nil]

theorem ne_newline_of_mem_imageFields {type : Char} {address width value : Nat}
    (htype : type ≠ '\n') : ∀ c ∈ imageFields type address width value, c ≠ '\n' := by
  have hdigit : ∀ {c : Char}, isHexDigit c = true → c ≠ '\n' := by
    rintro c hc rfl
    cases hc
  intro c hc
  unfold imageFields at hc
  simp only [List.mem_cons, List.mem_append, List.append_nil] at hc
  rcases hc with rfl | rfl | rfl | rfl | hc | rfl | rfl | rfl | hc
  · exact htype
  · decide
  · decide
  · decide
  · exact hdigit (isHexDigit_of_mem_printHexPadded hc)
  · decide
  · decide
  · decide
  · exact hdigit (isHexDigit_of_mem_printHexPadded hc)

theorem getLines_imageLine {type : Char} {address width value : Nat} (htype : type ≠ '\n')
    (rest : List Char) :
    getLines (imageLine type address width value ++ rest) =
      imageFields type address width value :: getLines rest := by
  rw [imageLine_eq, List.append_assoc]
  exact getLines_append (ne_newline_of_mem_imageFields htype) rest

theorem readHex64_printHexPadded {width n : Nat} (hn : n < 2 ^ 64) {rest : List Char}
    (hrest : ∀ c ∈ rest.head?, isHexDigit c = false) :
    readHex64 (' ' :: '0' :: 'x' :: (printHexPadded width n ++ rest)) =
      some (BitVec.ofNat 64 n, rest) := by
  unfold readHex64
  rw [readHex_printHexPadded hn hrest]
  show some (BitVec.ofInt 64 (n : Int), rest) = _
  rw [BitVec.ofInt_natCast]

/-- The fields of a line. -/
theorem fields_imageFields {type : Char} {address width value : Nat}
    (htype : isSpace type = false) (haddress : address < 2 ^ 64) (hvalue : value < 2 ^ 64) :
    (do
      let (type, text) ← readChar (imageFields type address width value)
      let (address, text) ← readHex64 text
      let (value, _) ← readHex64 text
      pure (type, address, value)) =
    some (type, BitVec.ofNat 64 address, BitVec.ofNat 64 value) := by
  have hchar : readChar (imageFields type address width value) =
      some (type, ' ' :: '0' :: 'x' :: (printHexPadded 0 address ++
        ' ' :: '0' :: 'x' :: (printHexPadded width value ++ []))) := by
    unfold readChar imageFields
    rw [List.dropWhile_cons_of_neg (by rw [htype]; decide)]
  rw [hchar]
  show (readHex64 _ >>= _) = _
  rw [readHex64_printHexPadded haddress (by rintro c ⟨⟩; decide)]
  show (readHex64 _ >>= _) = _
  rw [readHex64_printHexPadded hvalue (by rintro c ⟨⟩)]
  rfl

namespace VmBase

variable {vm vm' : VmBase}

/-- The line of a write is read back as the write. -/
theorem loadImageLine_line (vm : VmBase) {w : MemoryWrite} (hw : w.Sized) :
    vm.loadImageLine cfg
        (imageFields (MemoryWrite.letter w.bytes) w.address.toNat (2 * w.bytes) w.value.toNat) =
      vm.afterAccess (w.apply cfg vm.memoryController) := by
  obtain ⟨n, address, value⟩ := w
  have hvalue : value.toNat < 2 ^ 64 := by
    have hle : 2 ^ (8 * n) ≤ 2 ^ 64 := by
      refine Nat.pow_le_pow_right (by decide) ?_
      rcases hw with h | h | h | h <;> dsimp only at h <;> omega
    exact Nat.lt_of_lt_of_le value.isLt hle
  have hfields := @fields_imageFields (MemoryWrite.letter n) address.toNat (2 * n) value.toNat
    (by rcases hw with h | h | h | h <;> dsimp only at h <;> rw [h] <;> decide) address.isLt hvalue
  have hback : (BitVec.ofNat 64 value.toNat).setWidth (8 * n) = value := by
    apply BitVec.eq_of_toNat_eq
    rw [BitVec.toNat_setWidth, BitVec.toNat_ofNat, Nat.mod_eq_of_lt hvalue,
      Nat.mod_eq_of_lt value.isLt]
  unfold loadImageLine
  rw [if_neg (by simp [imageFields])]
  dsimp only at hfields ⊢
  rw [hfields, BitVec.ofNat_toNat, BitVec.setWidth_eq]
  unfold MemoryWrite.apply
  rcases hw with h | h | h | h
  · obtain rfl : n = 1 := h
    show vm.afterAccess (vm.memoryController.writeByte cfg address
      ((BitVec.ofNat 64 value.toNat).setWidth 8)) = _
    rw [Memory.writeByte_eq_writeSized]
    exact congrArg (fun v => vm.afterAccess (vm.memoryController.writeSized cfg 1 address v)) hback
  · obtain rfl : n = 2 := h
    exact congrArg (fun v => vm.afterAccess (vm.memoryController.writeSized cfg 2 address v)) hback
  · obtain rfl : n = 4 := h
    exact congrArg (fun v => vm.afterAccess (vm.memoryController.writeSized cfg 4 address v)) hback
  · obtain rfl : n = 8 := h
    exact congrArg (fun v => vm.afterAccess (vm.memoryController.writeSized cfg 8 address v)) hback

/-- The last line of an image sets the size. -/
theorem loadImageLine_size (vm : VmBase) (size : BitVec 32) :
    vm.loadImageLine cfg (imageFields 'P' size.toNat 0 0) =
      .ok (vm.setProgramSize (size.setWidth 64)) := by
  have hsize : size.toNat < 2 ^ 64 := Nat.lt_trans size.isLt (by decide)
  have hback : BitVec.ofNat 64 size.toNat = size.setWidth 64 := by
    apply BitVec.eq_of_toNat_eq
    rw [BitVec.toNat_ofNat, BitVec.toNat_setWidth]
  unfold loadImageLine
  rw [if_neg (by simp [imageFields])]
  dsimp only
  rw [fields_imageFields (by decide) hsize (by decide), hback]
  rfl

/-- The lines of writes are read back as the writes. -/
theorem foldlM_loadImageLine (vm : VmBase) {writes : List MemoryWrite}
    (h : ∀ w ∈ writes, w.Sized) (rest : List Char) :
    (getLines (writes.flatMap MemoryWrite.line ++ rest)).foldlM (loadImageLine cfg) vm =
      vm.afterAccess (writes.foldlM (MemoryWrite.apply cfg) vm.memoryController) >>= fun vm =>
        (getLines rest).foldlM (loadImageLine cfg) vm := by
  have hletter : ∀ n, MemoryWrite.letter n ≠ '\n' := by
    intro n
    unfold MemoryWrite.letter
    split <;> decide
  induction writes generalizing vm with
  | nil => rfl
  | cons w writes ih =>
    rw [List.flatMap_cons, List.append_assoc, MemoryWrite.line, getLines_imageLine (hletter _),
      List.foldlM_cons, loadImageLine_line vm (h w List.mem_cons_self), List.foldlM_cons]
    cases w.apply cfg vm.memoryController with
    | error e => rfl
    | ok m => exact ih (vm.withMemory m) fun v hv => h v (List.mem_cons_of_mem w hv)

end VmBase

theorem sized_of_mem_textWrites {textBuffer : List (BitVec 32)} {counter : BitVec 32}
    {w : MemoryWrite} (h : w ∈ textWrites counter textBuffer) : w.Sized := by
  induction textBuffer generalizing counter with
  | nil => cases h
  | cons instruction textBuffer ih =>
    rcases List.mem_cons.mp h with rfl | h
    · exact .inr (.inr (.inl rfl))
    · exact ih h

theorem sized_of_mem_dataWrites {stringAddress : BitVec 32 → Nat → BitVec 64}
    {es : List DataElement} {c : BitVec 32} {w : MemoryWrite}
    (h : w ∈ dataWrites stringAddress base c es) : w.Sized := by
  induction es generalizing c with
  | nil => cases h
  | cons e es ih =>
    rcases List.mem_append.mp h with h | h
    · cases e with
      | string bytes =>
        obtain ⟨_, _, rfl⟩ := List.mem_map.mp h
        exact .inl rfl
      | byte value => exact .inl (congrArg MemoryWrite.bytes (List.mem_singleton.mp h))
      | halfWord value => exact .inr (.inl (congrArg MemoryWrite.bytes (List.mem_singleton.mp h)))
      | word value | float bits =>
        exact .inr (.inr (.inl (congrArg MemoryWrite.bytes (List.mem_singleton.mp h))))
      | doubleWord value | double bits =>
        exact .inr (.inr (.inr (congrArg MemoryWrite.bytes (List.mem_singleton.mp h))))
    · exact ih h

/-- **Reading an image back** does the writes of the image and sets the program size. -/
theorem loadMemoryImage_writeMemoryImage (vm : VmBase) (program : AssembledProgram) :
    vm.loadMemoryImage cfg (writeMemoryImage cfg program) =
      vm.afterAccess
          ((imageWrites cfg program).foldlM (MemoryWrite.apply cfg) vm.memoryController) >>=
        fun vm => .ok (vm.setProgramSize ((textSize program).setWidth 64)) := by
  have hsized : ∀ w ∈ imageWrites cfg program, w.Sized := by
    intro w hw
    rcases List.mem_append.mp hw with hw | hw
    · exact sized_of_mem_textWrites hw
    · exact sized_of_mem_dataWrites hw
  unfold VmBase.loadMemoryImage
  rw [writeMemoryImage_eq, VmBase.foldlM_loadImageLine vm hsized]
  refine congrArg (_ >>= ·) (funext fun vm => ?_)
  have hlast := @getLines_imageLine 'P' (textSize program).toNat 0 0 (by decide) []
  rw [List.append_nil] at hlast
  rw [hlast, List.foldlM_cons, VmBase.loadImageLine_size]
  rfl

/-- The load of a program does the writes of the loader. -/
theorem loadProgram_eq_ok_iff_writes {vm vm' : VmBase} {program : AssembledProgram} :
    vm.loadProgram cfg program = .ok vm' ↔
      ∃ m, (loaderWrites cfg program).foldlM (MemoryWrite.apply cfg) vm.memoryController = .ok m ∧
        vm' = vm.loaded program m ((textSize program).setWidth 64) := by
  have htext := @loadText_eq cfg vm.memoryController program.textBuffer 0#32
  rw [BitVec.zero_add] at htext
  have hload : loadText cfg vm.memoryController program.textBuffer = _ := htext
  have hdata : ∀ m, loadData cfg m program.dataBuffer = _ := fun m =>
    loadData_eq m 0#32 program.dataBuffer
  rw [loadProgram_eq_ok]
  unfold loaderWrites
  rw [List.foldlM_append]
  constructor
  · rintro ⟨m₁, c₁, m₂, c₂, ht, hd, rfl⟩
    rw [hload] at ht
    obtain ⟨m, hm, hmc⟩ := bind_pure_eq_ok.mp ht
    obtain ⟨rfl, rfl⟩ := Prod.mk.inj hmc
    rw [hdata] at hd
    obtain ⟨m', hm', hmc'⟩ := bind_pure_eq_ok.mp hd
    obtain ⟨rfl, rfl⟩ := Prod.mk.inj hmc'
    exact ⟨m', bind_eq_ok.mpr ⟨m, hm, hm'⟩, rfl⟩
  · rintro ⟨m', hm', rfl⟩
    obtain ⟨m, hm, hm'⟩ := bind_eq_ok.mp hm'
    refine ⟨m, textSize program, m', program.dataBuffer.foldl counterAfter 0#32, ?_, ?_, rfl⟩
    · rw [hload]
      exact bind_pure_eq_ok.mpr ⟨m, hm, rfl⟩
    · rw [hdata]
      exact bind_pure_eq_ok.mpr ⟨m', hm', rfl⟩

end RiscvSim

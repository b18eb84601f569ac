import RiscvSim.Lib.Hex

/-!
# Conversions between numbers and text

The conversions of the C++ string library: `stoull`, `stoll` and `stoi` skip
white space, take an optional sign and as many digits as follow, and throw when
there is none or the number does not fit; the rest of the text is ignored.
`toDecimal` is `to_string`.

* **`stoll_toDecimal`**, **`stoi_toDecimal`**: a number that fits is read back.
-/

namespace RiscvSim

namespace Lib

/-- The exceptions of a conversion. -/
inductive ConversionError where
  | invalidArgument
  | outOfRange
  deriving DecidableEq, Repr

/-- The value of a character as a digit of the given base. -/
def digitOf (base : Nat) (c : Char) : Option Nat :=
  let value :=
    if '0' ≤ c ∧ c ≤ '9' then c.toNat - '0'.toNat
    else if 'a' ≤ c ∧ c ≤ 'z' then c.toNat - 'a'.toNat + 10
    else if 'A' ≤ c ∧ c ≤ 'Z' then c.toNat - 'A'.toNat + 10
    else base
  if value < base then some value else none

def isDigitOf (base : Nat) (c : Char) : Bool :=
  (digitOf base c).isSome

/-- The number with the given digits, the most significant one first. -/
def ofDigitsOf (base : Nat) (digits : List Char) : Nat :=
  digits.foldl (fun value c => base * value + (digitOf base c).getD 0) 0

/-- Skips the prefix of a hexadecimal number when a digit follows it. -/
def skipBasePrefix (base : Nat) (text : List Char) : List Char :=
  if base = 16 ∧ ((skipHexPrefix text).head?.any (isDigitOf 16)) then skipHexPrefix text else text

/-- The number at the start of a text: whether it has a minus sign, and its magnitude. -/
def readNumeral (base : Nat) (text : List Char) : Option (Bool × Nat) :=
  let (negative, text) := readSign (text.dropWhile isSpace)
  let digits := (skipBasePrefix base text).takeWhile (isDigitOf base)
  if digits.isEmpty then none else some (negative, ofDigitsOf base digits)

/-- `std::stoull`: a minus sign negates the number modulo `2 ^ 64`. -/
def stoull (base : Nat) (text : List Char) : Except ConversionError (BitVec 64) :=
  match readNumeral base text with
  | none => .error .invalidArgument
  | some (negative, magnitude) =>
    if 2 ^ 64 ≤ magnitude then .error .outOfRange
    else .ok (if negative then -BitVec.ofNat 64 magnitude else BitVec.ofNat 64 magnitude)

/-- A signed number of `bits` bits in base 10. -/
def readSigned (bits : Nat) (text : List Char) : Except ConversionError Int :=
  match readNumeral 10 text with
  | none => .error .invalidArgument
  | some (negative, magnitude) =>
    let value : Int := if negative then -(magnitude : Int) else magnitude
    if -2 ^ (bits - 1) ≤ value ∧ value < 2 ^ (bits - 1) then .ok value else .error .outOfRange

/-- `std::stoll`. -/
def stoll (text : List Char) : Except ConversionError Int :=
  readSigned 64 text

/-- `std::stoi`. -/
def stoi (text : List Char) : Except ConversionError Int :=
  readSigned 32 text

/-- `std::stoll` of a number in the given base. -/
def stollIn (base : Nat) (text : List Char) : Except ConversionError Int :=
  match readNumeral base text with
  | none => .error .invalidArgument
  | some (negative, magnitude) =>
    let value : Int := if negative then -(magnitude : Int) else magnitude
    if -2 ^ 63 ≤ value ∧ value < 2 ^ 63 then .ok value else .error .outOfRange

/-- `std::to_string` of an integer. -/
def toDecimal (value : Int) : List Char :=
  if value < 0 then '-' :: Nat.toDigits 10 value.natAbs else Nat.toDigits 10 value.natAbs

/-! ### Decimal numbers -/

theorem digitOf_digitChar {d : Nat} (h : d < 10) : digitOf 10 d.digitChar = some d := by
  interval_cases d <;> rfl

theorem isDigitOf_of_mem_toDigits {n : Nat} {c : Char} (h : c ∈ Nat.toDigits 10 n) :
    isDigitOf 10 c = true := by
  have hdigit : ∀ {d : Nat}, d < 10 → isDigitOf 10 d.digitChar = true := by
    intro d hd
    unfold isDigitOf
    rw [digitOf_digitChar hd]
    rfl
  induction n using Nat.strong_induction_on with
  | _ n ih =>
    by_cases hn : n < 10
    · rw [Nat.toDigits_of_lt_base hn, List.mem_singleton] at h
      rw [h]
      exact hdigit hn
    · rw [Nat.toDigits_of_base_le (by decide) (Nat.le_of_not_lt hn), List.mem_append] at h
      rcases h with h | h
      · exact ih (n / 10) (by omega) h
      · rw [List.mem_singleton.mp h]
        exact hdigit (Nat.mod_lt n (by decide))

theorem ofDigitsOf_append_singleton (digits : List Char) {d : Nat} (h : d < 10) :
    ofDigitsOf 10 (digits ++ [d.digitChar]) = 10 * ofDigitsOf 10 digits + d := by
  unfold ofDigitsOf
  rw [List.foldl_append, List.foldl_cons, List.foldl_nil, digitOf_digitChar h]
  rfl

theorem ofDigitsOf_toDigits (n : Nat) : ofDigitsOf 10 (Nat.toDigits 10 n) = n := by
  induction n using Nat.strong_induction_on with
  | _ n ih =>
    by_cases hn : n < 10
    · rw [Nat.toDigits_of_lt_base hn]
      show 10 * 0 + (digitOf 10 n.digitChar).getD 0 = n
      rw [digitOf_digitChar hn]
      exact Nat.zero_add n
    · rw [Nat.toDigits_of_base_le (by decide) (Nat.le_of_not_lt hn),
        ofDigitsOf_append_singleton _ (Nat.mod_lt n (by decide)), ih (n / 10) (by omega)]
      omega

/-- A decimal digit is neither white space nor a sign. -/
theorem readSign_of_isDigitOf {c : Char} {text : List Char} (h : isDigitOf 10 c = true) :
    readSign ((c :: text).dropWhile isSpace) = (false, c :: text) := by
  have hother : [' ', '\t', '\n', '\r', '\x0b', '\x0c', '-', '+'].all (!isDigitOf 10 ·) = true := by
    decide
  have hne : ∀ d ∈ [' ', '\t', '\n', '\r', '\x0b', '\x0c', '-', '+'], c ≠ d := by
    rintro d hd rfl
    have hd' := List.all_eq_true.mp hother c hd
    rw [h] at hd'
    cases hd'
  simp only [List.mem_cons, List.not_mem_nil, or_false, forall_eq_or_imp, forall_eq] at hne
  obtain ⟨h1, h2, h3, h4, h5, h6, hminus, hplus⟩ := hne
  have hspace : isSpace c = false := by
    unfold isSpace
    simp [h1, h2, h3, h4, h5, h6]
  rw [List.dropWhile_cons_of_neg (by simp [hspace])]
  unfold readSign
  split
  · rename_i heq
    exact absurd (List.cons.inj heq).1 hminus
  · rename_i heq
    exact absurd (List.cons.inj heq).1 hplus
  · rfl

/-- Reading stops behind the digits of a number. -/
theorem takeWhile_toDigits (n : Nat) :
    (Nat.toDigits 10 n).takeWhile (isDigitOf 10) = Nat.toDigits 10 n := by
  have h := @List.takeWhile_append_of_pos _ (isDigitOf 10) (Nat.toDigits 10 n) []
    fun c (hc : c ∈ Nat.toDigits 10 n) => isDigitOf_of_mem_toDigits hc
  rwa [List.takeWhile_nil, List.append_nil] at h

theorem isEmpty_toDigits (n : Nat) : (Nat.toDigits 10 n).isEmpty = false :=
  List.isEmpty_eq_false_iff.mpr Nat.toDigits_ne_nil

theorem skipBasePrefix_ten (text : List Char) : skipBasePrefix 10 text = text :=
  if_neg fun h => absurd h.1 (by decide)

theorem readNumeral_toDigits (n : Nat) : readNumeral 10 (Nat.toDigits 10 n) = some (false, n) := by
  obtain ⟨c, text, htext⟩ := List.exists_cons_of_ne_nil (Nat.toDigits_ne_nil (n := n) (b := 10))
  have hc : isDigitOf 10 c = true :=
    isDigitOf_of_mem_toDigits (n := n) (htext ▸ List.mem_cons_self)
  unfold readNumeral
  rw [htext, readSign_of_isDigitOf hc, ← htext]
  dsimp only
  rw [skipBasePrefix_ten, takeWhile_toDigits, isEmpty_toDigits, ofDigitsOf_toDigits]
  rfl

/-- **A printed number is read back.** -/
theorem readNumeral_toDecimal (value : Int) :
    readNumeral 10 (toDecimal value) = some (decide (value < 0), value.natAbs) := by
  unfold toDecimal
  by_cases h : value < 0
  · rw [if_pos h, decide_eq_true h]
    have hsign : readSign (('-' :: Nat.toDigits 10 value.natAbs).dropWhile isSpace) =
        (true, Nat.toDigits 10 value.natAbs) := rfl
    unfold readNumeral
    rw [hsign]
    dsimp only
    rw [skipBasePrefix_ten, takeWhile_toDigits, isEmpty_toDigits, ofDigitsOf_toDigits]
    rfl
  · rw [if_neg h, readNumeral_toDigits, decide_eq_false h]

/-- A number of `bits` bits is read back. -/
theorem readSigned_toDecimal {bits : Nat} {value : Int} (hlow : -2 ^ (bits - 1) ≤ value)
    (hhigh : value < 2 ^ (bits - 1)) : readSigned bits (toDecimal value) = .ok value := by
  have hvalue : (if decide (value < 0) then -(value.natAbs : Int) else value.natAbs) = value := by
    split
    · rename_i h
      have := of_decide_eq_true h
      omega
    · rename_i h
      have := of_decide_eq_false (Bool.not_eq_true _ ▸ h)
      omega
  unfold readSigned
  rw [readNumeral_toDecimal]
  dsimp only
  rw [hvalue, if_pos ⟨hlow, hhigh⟩]

theorem stoll_toDecimal {value : Int} (hlow : -2 ^ 63 ≤ value) (hhigh : value < 2 ^ 63) :
    stoll (toDecimal value) = .ok value :=
  readSigned_toDecimal hlow hhigh

theorem stoi_toDecimal {value : Int} (hlow : -2 ^ 31 ≤ value) (hhigh : value < 2 ^ 31) :
    stoi (toDecimal value) = .ok value :=
  readSigned_toDecimal hlow hhigh

end Lib

end RiscvSim

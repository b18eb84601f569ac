import Mathlib.Tactic.IntervalCases

/-!
# Hexadecimal text

Numbers in base 16 as a stream in its hexadecimal mode prints and reads them:
`printHex` with the lower-case digits, filled up on the left by
`printHexPadded`; `readHex` takes white space, a sign, the prefix `0x` and the
digits that follow.

* **`readHex_printHexPadded`**: what is printed is read back.
-/

namespace RiscvSim

namespace Lib

/-- The value of a hexadecimal digit. -/
def hexValue (c : Char) : Option Nat :=
  if '0' ≤ c ∧ c ≤ '9' then some (c.toNat - '0'.toNat)
  else if 'a' ≤ c ∧ c ≤ 'f' then some (c.toNat - 'a'.toNat + 10)
  else if 'A' ≤ c ∧ c ≤ 'F' then some (c.toNat - 'A'.toNat + 10)
  else none

def isHexDigit (c : Char) : Bool :=
  (hexValue c).isSome

/-- The number with the given digits, the most significant one first. -/
def ofHexDigits (digits : List Char) : Nat :=
  digits.foldl (fun value c => 16 * value + (hexValue c).getD 0) 0

/-- A number in hexadecimal. -/
def printHex (n : Nat) : List Char :=
  Nat.toDigits 16 n

/-- A number in hexadecimal, filled up with zeros to `width` characters. -/
def printHexPadded (width n : Nat) : List Char :=
  (printHex n).leftpad width '0'

/-- The white space of the C locale. -/
def isSpace (c : Char) : Bool :=
  c = ' ' || c = '\t' || c = '\n' || c = '\r' || c = '\x0b' || c = '\x0c'

/-- An optional sign: whether it is a minus, and the text after it. -/
def readSign : List Char → Bool × List Char
  | '-' :: text => (true, text)
  | '+' :: text => (false, text)
  | text => (false, text)

/-- Skips the prefix of a hexadecimal number. -/
def skipHexPrefix : List Char → List Char
  | '0' :: 'x' :: text => text
  | '0' :: 'X' :: text => text
  | text => text

/-- Reads a hexadecimal number below `bound`, and the text after it. -/
def readHex (bound : Nat) (text : List Char) : Option (Int × List Char) :=
  let (negative, text) := readSign (text.dropWhile isSpace)
  let text := skipHexPrefix text
  let digits := text.takeWhile isHexDigit
  let value := ofHexDigits digits
  if digits.isEmpty || decide (bound ≤ value) then none
  else some (if negative then -(value : Int) else value, text.dropWhile isHexDigit)

/-! ### What is printed -/

theorem hexValue_digitChar {d : Nat} (h : d < 16) : hexValue d.digitChar = some d := by
  interval_cases d <;> rfl

theorem isHexDigit_of_mem_printHex {n : Nat} {c : Char} (h : c ∈ printHex n) :
    isHexDigit c = true := by
  have hdigit : ∀ {d : Nat}, d < 16 → isHexDigit d.digitChar = true := by
    intro d hd
    unfold isHexDigit
    rw [hexValue_digitChar hd]
    rfl
  unfold printHex at h
  induction n using Nat.strong_induction_on with
  | _ n ih =>
    by_cases hn : n < 16
    · rw [Nat.toDigits_of_lt_base hn, List.mem_singleton] at h
      rw [h]
      exact hdigit hn
    · rw [Nat.toDigits_of_base_le (by decide) (Nat.le_of_not_lt hn), List.mem_append] at h
      rcases h with h | h
      · exact ih (n / 16) (by omega) h
      · rw [List.mem_singleton.mp h]
        exact hdigit (Nat.mod_lt n (by decide))

theorem ofHexDigits_append_singleton (digits : List Char) {d : Nat} (h : d < 16) :
    ofHexDigits (digits ++ [d.digitChar]) = 16 * ofHexDigits digits + d := by
  unfold ofHexDigits
  rw [List.foldl_append, List.foldl_cons, List.foldl_nil, hexValue_digitChar h]
  rfl

theorem ofHexDigits_printHex (n : Nat) : ofHexDigits (printHex n) = n := by
  unfold printHex
  induction n using Nat.strong_induction_on with
  | _ n ih =>
    by_cases hn : n < 16
    · rw [Nat.toDigits_of_lt_base hn]
      show 16 * 0 + (hexValue n.digitChar).getD 0 = n
      rw [hexValue_digitChar hn]
      exact Nat.zero_add n
    · rw [Nat.toDigits_of_base_le (by decide) (Nat.le_of_not_lt hn),
        ofHexDigits_append_singleton _ (Nat.mod_lt n (by decide)), ih (n / 16) (by omega)]
      omega

/-- Leading zeros do not count. -/
theorem ofHexDigits_replicate_append (k : Nat) (digits : List Char) :
    ofHexDigits (List.replicate k '0' ++ digits) = ofHexDigits digits := by
  induction k with
  | zero => rfl
  | succ k ih =>
    rw [List.replicate_succ, List.cons_append]
    exact ih

theorem ofHexDigits_printHexPadded (width n : Nat) :
    ofHexDigits (printHexPadded width n) = n := by
  unfold printHexPadded List.leftpad
  rw [ofHexDigits_replicate_append, ofHexDigits_printHex]

theorem isHexDigit_of_mem_printHexPadded {width n : Nat} {c : Char}
    (h : c ∈ printHexPadded width n) : isHexDigit c = true := by
  unfold printHexPadded List.leftpad at h
  rcases List.mem_append.mp h with h | h
  · rw [(List.mem_replicate.mp h).2]
    rfl
  · exact isHexDigit_of_mem_printHex h

theorem printHexPadded_ne_nil (width n : Nat) : printHexPadded width n ≠ [] := by
  unfold printHexPadded List.leftpad
  intro h
  exact Nat.toDigits_ne_nil (List.append_eq_nil_iff.mp h).2

theorem printHex_eq_printHexPadded (n : Nat) : printHex n = printHexPadded 0 n := by
  unfold printHexPadded List.leftpad
  rw [Nat.zero_sub]
  rfl

/-- **A printed number is read back**, up to the character after it. -/
theorem readHex_printHexPadded {bound width n : Nat} (hn : n < bound) {rest : List Char}
    (hrest : ∀ c ∈ rest.head?, isHexDigit c = false) :
    readHex bound (' ' :: '0' :: 'x' :: (printHexPadded width n ++ rest)) =
      some ((n : Int), rest) := by
  have hall : ∀ c ∈ printHexPadded width n, isHexDigit c = true :=
    fun c hc => isHexDigit_of_mem_printHexPadded hc
  have htake : (printHexPadded width n ++ rest).takeWhile isHexDigit = printHexPadded width n := by
    rw [List.takeWhile_append_of_pos hall]
    cases rest with
    | nil => exact List.append_nil _
    | cons c rest => rw [List.takeWhile_cons_of_neg (by simp [hrest c rfl]), List.append_nil]
  have hdrop : (printHexPadded width n ++ rest).dropWhile isHexDigit = rest := by
    rw [List.dropWhile_append_of_pos hall]
    cases rest with
    | nil => rfl
    | cons c rest => exact List.dropWhile_cons_of_neg (by simp [hrest c rfl])
  have hempty : (printHexPadded width n).isEmpty = false :=
    List.isEmpty_eq_false_iff.mpr (printHexPadded_ne_nil width n)
  have hsign : readSign ('0' :: 'x' :: (printHexPadded width n ++ rest)) =
      (false, '0' :: 'x' :: (printHexPadded width n ++ rest)) := rfl
  have hskip : skipHexPrefix ('0' :: 'x' :: (printHexPadded width n ++ rest)) =
      printHexPadded width n ++ rest := rfl
  unfold readHex
  rw [List.dropWhile_cons_of_pos (by decide), List.dropWhile_cons_of_neg (by decide), hsign]
  dsimp only
  rw [hskip, htake, hdrop, ofHexDigits_printHexPadded, hempty, Bool.false_or,
    if_neg (by simpa using hn)]
  rfl

end Lib

end RiscvSim

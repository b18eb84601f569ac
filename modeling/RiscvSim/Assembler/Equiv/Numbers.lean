import Mathlib.Data.List.TakeWhile
import RiscvSim.Assembler.Lexer

/-!
# Integer literals

An `IntegerLiteral` has an optional minus sign, a mark of its base, and digits
of this base.

* **`numberValue_text`**: the lexer reads a literal as its value, and throws when
  that does not fit into 64 bits.
* **`numberValue_eq_num_iff`**: it makes a number token of nothing else.
-/

namespace RiscvSim

open Lib

/-- The bases of the literals with the marks in front of their digits. -/
def literalMarks : List (Nat × List Char) :=
  [(16, ['0', 'x']), (16, ['0', 'X']), (2, ['0', 'b']), (2, ['0', 'B']), (8, ['0', 'o']),
    (8, ['0', 'O']), (10, [])]

/-- The sign in front of a number. -/
def signText (negative : Bool) : List Char :=
  if negative then ['-'] else []

/-- An integer literal. -/
structure IntegerLiteral where
  negative : Bool
  base : Nat
  mark : List Char
  digits : List Char
  mark_mem : (base, mark) ∈ literalMarks
  digits_ne : digits ≠ []
  isDigit : ∀ c ∈ digits, isDigitOf base c = true

namespace IntegerLiteral

def text (literal : IntegerLiteral) : List Char :=
  signText literal.negative ++ literal.mark ++ literal.digits

def value (literal : IntegerLiteral) : Int :=
  if literal.negative then -(ofDigitsOf literal.base literal.digits : Int)
  else ofDigitsOf literal.base literal.digits

/-- The value is one of a `long long`. -/
def Fits (literal : IntegerLiteral) : Prop :=
  -2 ^ 63 ≤ literal.value ∧ literal.value < 2 ^ 63

instance (literal : IntegerLiteral) : Decidable literal.Fits :=
  inferInstanceAs (Decidable (_ ∧ _))

end IntegerLiteral

namespace Lexer

variable {reader : FloatReader} {fixed : BitVec 64 → String}

/-! ### Digits -/

theorem isAlphanum_of_isDigitOf {base : Nat} {c : Char} (h : isDigitOf base c = true) :
    c.isAlphanum = true := by
  unfold isDigitOf digitOf at h
  dsimp only at h
  unfold Char.isAlphanum Char.isAlpha Char.isUpper Char.isLower Char.isDigit
  simp only [Char.le_def, UInt32.le_iff_toNat_le] at h
  simp only [Bool.or_eq_true, Bool.and_eq_true, decide_eq_true_eq, ge_iff_le,
    UInt32.le_iff_toNat_le]
  split at h
  · rename_i hc
    exact .inr hc
  split at h
  · rename_i hc
    exact .inl (.inr hc)
  split at h
  · rename_i hc
    exact .inl (.inl hc)
  · simp at h

/-- A letter or a digit is neither white space nor a sign. -/
theorem readSign_of_isAlphanum {c : Char} {text : List Char} (h : c.isAlphanum = true) :
    readSign ((c :: text).dropWhile isSpace) = (false, c :: text) := by
  have hne : ∀ d : Char, d.isAlphanum = false → c ≠ d := by
    rintro d hd rfl
    exact Bool.noConfusion (hd.symm.trans h)
  have hspace : isSpace c = false := by
    unfold isSpace
    simp only [hne ' ' rfl, hne '\t' rfl, hne '\n' rfl, hne '\r' rfl, hne '\x0b' rfl,
      hne '\x0c' rfl, decide_false, Bool.or_self]
  rw [List.dropWhile_cons_of_neg (by simp [hspace])]
  unfold readSign
  split
  · rename_i heq
    exact absurd (List.cons.inj heq).1 (hne '-' rfl)
  · rename_i heq
    exact absurd (List.cons.inj heq).1 (hne '+' rfl)
  · rfl

theorem skipBasePrefix_of_digits {base : Nat} {digits : List Char}
    (h : ∀ c ∈ digits, isDigitOf base c = true) : skipBasePrefix base digits = digits := by
  unfold skipBasePrefix
  split
  · rename_i hbase
    obtain ⟨rfl, -⟩ := hbase
    unfold skipHexPrefix
    split
    · exact absurd (h 'x' (by simp)) (by decide)
    · exact absurd (h 'X' (by simp)) (by decide)
    · rfl
  · rfl

theorem readNumeral_signText {base : Nat} {digits : List Char} (negative : Bool)
    (hne : digits ≠ []) (h : ∀ c ∈ digits, isDigitOf base c = true) :
    readNumeral base (signText negative ++ digits) = some (negative, ofDigitsOf base digits) := by
  obtain ⟨c, rest, rfl⟩ := List.exists_cons_of_ne_nil hne
  have hc := isAlphanum_of_isDigitOf (h c List.mem_cons_self)
  have hsign : readSign ((signText negative ++ c :: rest).dropWhile isSpace) =
      (negative, c :: rest) := by
    cases negative with
    | false => exact readSign_of_isAlphanum hc
    | true => rfl
  unfold readNumeral
  rw [hsign]
  dsimp only
  rw [skipBasePrefix_of_digits h, List.takeWhile_eq_self_iff.mpr h]
  rfl

/-! ### The formats of numbers -/

theorem withoutMinus_signText {c : Char} {text : List Char} (negative : Bool) (hc : c ≠ '-') :
    withoutMinus (signText negative ++ c :: text) = c :: text := by
  cases negative with
  | true => rfl
  | false =>
    show withoutMinus (c :: text) = _
    unfold withoutMinus
    split
    · rename_i heq
      exact absurd (List.cons.inj heq).1 hc
    · rfl

theorem exists_signText (text : List Char) :
    ∃ negative, text = signText negative ++ withoutMinus text := by
  unfold withoutMinus
  split
  · exact ⟨true, rfl⟩
  · exact ⟨false, rfl⟩

theorem matchesPrefixed_mark {base : Nat} {letters : List Char} {letter : Char}
    {digits : List Char} (negative : Bool) (hne : digits ≠ [])
    (h : ∀ c ∈ digits, isDigitOf base c = true) :
    matchesPrefixed base letters (signText negative ++ '0' :: letter :: digits) =
      letters.contains letter := by
  unfold matchesPrefixed
  rw [withoutMinus_signText negative (by decide)]
  show (letters.contains letter && !digits.isEmpty && digits.all (isDigitOf base)) = _
  rw [List.isEmpty_eq_false_iff.mpr hne, List.all_eq_true.mpr h, Bool.not_false, Bool.and_true,
    Bool.and_true]

/-- Another base has other marks. -/
theorem matchesPrefixed_of_letter {base : Nat} {letters : List Char} {letter : Char}
    {digits : List Char} (negative : Bool) (h : letters.contains letter = false) :
    matchesPrefixed base letters (signText negative ++ '0' :: letter :: digits) = false := by
  unfold matchesPrefixed
  rw [withoutMinus_signText negative (by decide)]
  show (letters.contains letter && !digits.isEmpty && digits.all (isDigitOf base)) = _
  rw [h, Bool.false_and, Bool.false_and]

theorem withoutPrefix_signText (negative : Bool) (letter : Char) (digits : List Char) :
    withoutPrefix (signText negative ++ '0' :: letter :: digits) = signText negative ++ digits := by
  cases negative with
  | true => rfl
  | false => rfl

theorem exists_of_matchesPrefixed {base : Nat} {letters text : List Char}
    (h : matchesPrefixed base letters text = true) :
    ∃ negative letter digits, letter ∈ letters ∧ digits ≠ [] ∧
      (∀ c ∈ digits, isDigitOf base c = true) ∧
      text = signText negative ++ '0' :: letter :: digits := by
  obtain ⟨negative, hsign⟩ := exists_signText text
  unfold matchesPrefixed at h
  split at h
  · rename_i letter digits heq
    rw [Bool.and_eq_true, Bool.and_eq_true, Bool.not_eq_true', List.isEmpty_eq_false_iff,
      List.all_eq_true, List.contains_iff_mem] at h
    exact ⟨negative, letter, digits, h.1.1, h.1.2, h.2, hsign.trans (by rw [heq])⟩
  · cases h

theorem ne_minus_of_isDigitOf {base : Nat} {c : Char} (h : isDigitOf base c = true) : c ≠ '-' := by
  rintro rfl
  exact Bool.noConfusion ((isAlphanum_of_isDigitOf h).symm.trans rfl)

/-- The second character of a decimal number marks no base. -/
theorem matchesPrefixed_of_decimal {base : Nat} {letters digits : List Char} (negative : Bool)
    (hne : digits ≠ []) (h : ∀ c ∈ digits, isDigitOf 10 c = true)
    (hletters : letters.all (fun letter => !isDigitOf 10 letter) = true) :
    matchesPrefixed base letters (signText negative ++ digits) = false := by
  obtain ⟨c, rest, rfl⟩ := List.exists_cons_of_ne_nil hne
  unfold matchesPrefixed
  rw [withoutMinus_signText negative (ne_minus_of_isDigitOf (h c List.mem_cons_self))]
  split
  · rename_i letter digits heq
    have hletter : isDigitOf 10 letter = true := h letter (by simp [heq])
    have hnot : letters.contains letter = false := by
      cases hcontains : letters.contains letter with
      | false => rfl
      | true =>
        have hnot := List.all_eq_true.mp hletters letter (List.contains_iff_mem.mp hcontains)
        rw [hletter] at hnot
        cases hnot
    rw [hnot]
    rfl
  · rfl

theorem matchesDecimal_signText {digits : List Char} (negative : Bool) (hne : digits ≠ [])
    (h : ∀ c ∈ digits, isDigitOf 10 c = true) :
    matchesDecimal (signText negative ++ digits) = true := by
  obtain ⟨c, rest, rfl⟩ := List.exists_cons_of_ne_nil hne
  unfold matchesDecimal
  rw [withoutMinus_signText negative (ne_minus_of_isDigitOf (h c List.mem_cons_self))]
  dsimp only
  rw [List.all_eq_true.mpr h]
  rfl

theorem exists_of_matchesDecimal {text : List Char} (h : matchesDecimal text = true) :
    ∃ negative digits, digits ≠ [] ∧ (∀ c ∈ digits, isDigitOf 10 c = true) ∧
      text = signText negative ++ digits := by
  obtain ⟨negative, hsign⟩ := exists_signText text
  unfold matchesDecimal at h
  rw [Bool.and_eq_true, Bool.not_eq_true', List.isEmpty_eq_false_iff, List.all_eq_true] at h
  exact ⟨negative, withoutMinus text, h.1, h.2, hsign⟩

/-! ### The values of literals -/

/-- What `std::stoll` makes of a value. -/
def fittingValue (value : Int) : Except ConversionError Int :=
  if -2 ^ 63 ≤ value ∧ value < 2 ^ 63 then .ok value else .error .outOfRange

theorem fittingValue_of_fits {literal : IntegerLiteral} (h : literal.Fits) :
    fittingValue literal.value = .ok literal.value :=
  if_pos h

theorem fittingValue_of_not_fits {literal : IntegerLiteral} (h : ¬literal.Fits) :
    fittingValue literal.value = .error .outOfRange :=
  if_neg h

theorem stollIn_digits (literal : IntegerLiteral) :
    stollIn literal.base (signText literal.negative ++ literal.digits) =
      fittingValue literal.value := by
  unfold stollIn
  rw [readNumeral_signText _ literal.digits_ne literal.isDigit]
  rfl

/-- **A literal stands for its value**, or does not fit. -/
theorem numberValue_text (reader : FloatReader) (fixed : BitVec 64 → String)
    (literal : IntegerLiteral) :
    numberValue reader fixed literal.text =
      (fittingValue literal.value).map fun n => (.num, String.ofList (toDecimal n)) := by
  have hstoll := stollIn_digits literal
  obtain ⟨negative, base, mark, digits, hmark, hne, hdigits⟩ := literal
  have hlist : ∀ letter, signText negative ++ ['0', letter] ++ digits =
      signText negative ++ '0' :: letter :: digits := fun letter => by
    rw [List.append_assoc]
    rfl
  unfold numberValue IntegerLiteral.text
  unfold matchesHex matchesBinary matchesOctal
  simp only [literalMarks, List.mem_cons, Prod.mk.injEq, List.not_mem_nil, or_false] at hmark
  rcases hmark with ⟨rfl, rfl⟩ | ⟨rfl, rfl⟩ | ⟨rfl, rfl⟩ | ⟨rfl, rfl⟩ | ⟨rfl, rfl⟩ | ⟨rfl, rfl⟩ |
    ⟨rfl, rfl⟩
  case inr.inr.inr.inr.inr.inr =>
    dsimp only
    rw [List.append_nil, matchesPrefixed_of_decimal negative hne hdigits (by decide),
      matchesPrefixed_of_decimal negative hne hdigits (by decide),
      matchesPrefixed_of_decimal negative hne hdigits (by decide),
      matchesDecimal_signText negative hne hdigits]
    simp only [Bool.false_eq_true, if_false, if_true]
    rw [hstoll]
  case inl | inr.inl =>
    dsimp only
    rw [hlist, matchesPrefixed_mark negative hne hdigits, if_pos (by decide),
      withoutPrefix_signText, hstoll]
  case inr.inr.inl | inr.inr.inr.inl =>
    dsimp only
    rw [hlist, matchesPrefixed_of_letter negative (by decide), if_neg (by decide),
      matchesPrefixed_mark negative hne hdigits, if_pos (by decide), withoutPrefix_signText, hstoll]
  case inr.inr.inr.inr.inl | inr.inr.inr.inr.inr.inl =>
    dsimp only
    rw [hlist, matchesPrefixed_of_letter negative (by decide), if_neg (by decide),
      matchesPrefixed_of_letter negative (by decide), if_neg (by decide),
      matchesPrefixed_mark negative hne hdigits, if_pos (by decide), withoutPrefix_signText, hstoll]

theorem exists_literal_of_matchesPrefixed {base : Nat} {letters text : List Char}
    (hmarks : letters.all (fun letter => decide ((base, ['0', letter]) ∈ literalMarks)) = true)
    (h : matchesPrefixed base letters text = true) :
    ∃ literal : IntegerLiteral, literal.text = text := by
  obtain ⟨negative, letter, digits, hletter, hne, hdigits, rfl⟩ := exists_of_matchesPrefixed h
  have hmark := of_decide_eq_true (List.all_eq_true.mp hmarks letter hletter)
  refine ⟨⟨negative, base, ['0', letter], digits, hmark, hne, hdigits⟩, ?_⟩
  rw [IntegerLiteral.text, List.append_assoc]
  rfl

theorem exists_literal_of_matchesDecimal {text : List Char} (h : matchesDecimal text = true) :
    ∃ literal : IntegerLiteral, literal.text = text := by
  obtain ⟨negative, digits, hne, hdigits, rfl⟩ := exists_of_matchesDecimal h
  refine ⟨⟨negative, 10, [], digits, by decide, hne, hdigits⟩, ?_⟩
  rw [IntegerLiteral.text, List.append_nil]

/-- A number token comes from a literal. -/
theorem exists_literal_of_num {text : List Char} {value : String}
    (h : numberValue reader fixed text = .ok (.num, value)) :
    ∃ literal : IntegerLiteral, literal.text = text := by
  unfold numberValue at h
  dsimp only at h
  split at h
  · rename_i hmatch
    exact exists_literal_of_matchesPrefixed (by decide) hmatch
  split at h
  · rename_i hmatch
    exact exists_literal_of_matchesPrefixed (by decide) hmatch
  split at h
  · rename_i hmatch
    exact exists_literal_of_matchesPrefixed (by decide) hmatch
  split at h
  · rename_i hmatch
    exact exists_literal_of_matchesDecimal hmatch
  split at h
  · obtain ⟨bits, -, heq⟩ := map_eq_ok.mp h
    cases heq
  · cases h

/-- **The number tokens are the literals that fit**, with their values printed in
base 10; a literal that does not fit is thrown out. -/
theorem numberValue_eq_num_iff (reader : FloatReader) (fixed : BitVec 64 → String)
    (text : List Char) :
    (∀ value, numberValue reader fixed text = .ok (.num, value) ↔
      ∃ literal : IntegerLiteral, literal.text = text ∧ literal.Fits ∧
        value = String.ofList (toDecimal literal.value)) ∧
    ((∃ literal : IntegerLiteral, literal.text = text ∧ ¬literal.Fits) →
      numberValue reader fixed text = .error .outOfRange) := by
  refine ⟨fun value => ⟨fun h => ?_, ?_⟩, ?_⟩
  · obtain ⟨literal, rfl⟩ := exists_literal_of_num h
    refine ⟨literal, rfl, ?_⟩
    rw [numberValue_text] at h
    obtain ⟨n, hn, hvalue⟩ := map_eq_ok.mp h
    by_cases hfits : literal.Fits
    · rw [fittingValue_of_fits hfits] at hn
      obtain rfl := Except.ok.inj hn
      exact ⟨hfits, (Prod.mk.inj hvalue).2.symm⟩
    · rw [fittingValue_of_not_fits hfits] at hn
      cases hn
  · rintro ⟨literal, rfl, hfits, rfl⟩
    rw [numberValue_text, fittingValue_of_fits hfits]
    rfl
  · rintro ⟨literal, rfl, hfits⟩
    rw [numberValue_text, fittingValue_of_not_fits hfits]
    rfl

end Lexer

end RiscvSim

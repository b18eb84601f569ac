import RiscvSim.Assembler.Lexer
import RiscvSim.Assembler.Parser

/-!
# Escaped strings

The lexer that looks for the closing quote and `ParseEscapedString` read the
escapes on their own.

* **`parseEscapedString_escaped`**: the escapes of a string are undone.
* **`literal_roundTrips_iff`**: a string comes back from its literal exactly when
  it has no double quote.
-/

namespace RiscvSim

/-- A character in a literal. -/
def escapeChar (c : Char) : List Char :=
  if c = '\\' then ['\\', '\\']
  else if c = '\"' then ['\\', '\"']
  else if c = '\n' then ['\\', 'n']
  else if c = '\t' then ['\\', 't']
  else [c]

/-- The text of a string between the quotes of its literal. -/
def escaped (s : List Char) : List Char :=
  s.flatMap escapeChar

/-- The literal of a string. -/
def stringLiteralOf (s : List Char) : List Char :=
  '\"' :: escaped s ++ ['\"']

theorem escaped_append (s t : List Char) : escaped (s ++ t) = escaped s ++ escaped t :=
  List.flatMap_append

theorem escaped_cons (c : Char) (s : List Char) : escaped (c :: s) = escapeChar c ++ escaped s :=
  List.flatMap_cons

/-! ### Unescaping -/

theorem parseEscapedString_cons {c : Char} (h : c ≠ '\\') (input : List Char) :
    parseEscapedString (c :: input) = c :: parseEscapedString input := by
  rw [parseEscapedString]
  rintro d rest rfl
  exact absurd rfl h

/-- One character is read back, and the rest of the input is left. -/
theorem parseEscapedString_escapeChar (c : Char) (input : List Char) :
    parseEscapedString (escapeChar c ++ input) = c :: parseEscapedString input := by
  unfold escapeChar
  by_cases h₁ : c = '\\'
  · subst h₁
    simp [parseEscapedString]
  by_cases h₂ : c = '\"'
  · subst h₂
    simp [parseEscapedString]
  by_cases h₃ : c = '\n'
  · subst h₃
    simp [parseEscapedString]
  by_cases h₄ : c = '\t'
  · subst h₄
    simp [parseEscapedString]
  · rw [if_neg h₁, if_neg h₂, if_neg h₃, if_neg h₄]
    exact parseEscapedString_cons h₁ input

/-- **The escapes of a string are undone.** -/
theorem parseEscapedString_escaped (s : List Char) : parseEscapedString (escaped s) = s := by
  induction s with
  | nil => rfl
  | cons c s ih => rw [escaped_cons, parseEscapedString_escapeChar, ih]

/-! ### The closing quote -/

theorem quote_notMem_escaped {s : List Char} (h : '\"' ∉ s) : '\"' ∉ escaped s := by
  unfold escaped
  rw [List.mem_flatMap]
  rintro ⟨c, hc, hquote⟩
  have hne : c ≠ '\"' := fun heq => h (heq ▸ hc)
  unfold escapeChar at hquote
  by_cases h₁ : c = '\\'
  · simp [h₁] at hquote
  by_cases h₃ : c = '\n'
  · simp [h₃] at hquote
  by_cases h₄ : c = '\t'
  · simp [h₄] at hquote
  · simp [h₁, hne, h₃, h₄, Ne.symm hne] at hquote

/-- The part of a text before its first quote. -/
theorem takeWhile_quote {s : List Char} (h : '\"' ∉ s) (rest : List Char) :
    (s ++ '\"' :: rest).takeWhile (· ≠ '\"') = s := by
  have hall : ∀ c ∈ s, decide (c ≠ '\"') = true := by
    intro c hc
    refine decide_eq_true ?_
    rintro rfl
    exact h hc
  rw [List.takeWhile_append_of_pos hall, List.takeWhile_cons_of_neg (by simp), List.append_nil]

/-- The lexer takes what stands before the next quote. -/
theorem Lexer.stringLiteral_eq {lexer : Lexer} {front value rest : List Char}
    (hline : lexer.currentLine = front ++ '\"' :: (value ++ '\"' :: rest))
    (hpos : lexer.pos = front.length) (hquote : '\"' ∉ value) :
    lexer.stringLiteral =
      ((⟨.string, String.ofList value, lexer.lineNumber⟩, lexer.columnNumber + 1#32),
        (lexer.advance 1).advance value.length |>.advance 1) := by
  have hdrop : lexer.currentLine.drop (lexer.pos + 1) = value ++ '\"' :: rest := by
    rw [hline, hpos, ← List.drop_drop, List.drop_left, List.drop_succ_cons, List.drop_zero]
  have hclose : lexer.currentLine[lexer.pos + 1 + value.length]? = some '\"' := by
    rw [← List.getElem?_drop, hdrop, List.getElem?_append_right (Nat.le_refl _), Nat.sub_self]
    rfl
  unfold stringLiteral
  simp only [advance, hdrop, takeWhile_quote hquote, hclose, if_true]

/-- The literal of `s` is one STRING token, wherever it stands on a line, and
its value unescapes to `s`. -/
def RoundTrips (s : List Char) : Prop :=
  ∀ (lexer : Lexer) (front rest : List Char),
    lexer.currentLine = front ++ (stringLiteralOf s ++ rest) → lexer.pos = front.length →
    ∃ token column lexer', lexer.stringLiteral = ((token, column), lexer') ∧
      token.type = .string ∧ lexer'.pos = front.length + (stringLiteralOf s).length ∧
      parseEscapedString token.value.toList = s

/-- A quote in the string: the literal, on a line of its own, ends for the lexer
at the escape of the first one. -/
theorem not_roundTrips_of_mem {s : List Char} (hmem : '\"' ∈ s) : ¬RoundTrips s := by
  intro h
  obtain ⟨front, rest, rfl, hfront⟩ := List.eq_append_cons_of_mem hmem
  have hline : stringLiteralOf (front ++ '\"' :: rest) =
      [] ++ '\"' :: ((escaped front ++ ['\\']) ++ '\"' :: (escaped rest ++ ['\"'])) := by
    unfold stringLiteralOf
    rw [escaped_append, escaped_cons]
    simp [escapeChar]
  have hquote : '\"' ∉ escaped front ++ ['\\'] := by
    rw [List.mem_append, not_or]
    exact ⟨quote_notMem_escaped hfront, by decide⟩
  obtain ⟨token, column, lexer', heq, -, hpos, -⟩ :=
    h ⟨stringLiteralOf (front ++ '\"' :: rest), 1#32, 1#32, 0⟩ [] [] (by simp) rfl
  rw [Lexer.stringLiteral_eq hline rfl hquote] at heq
  obtain rfl := (Prod.mk.inj heq).2
  rw [hline] at hpos
  simp [Lexer.advance] at hpos
  omega

/-- **A string comes back from its literal exactly when it has no double quote**:
the lexer takes an escaped quote for the closing one. -/
theorem literal_roundTrips_iff (s : List Char) : RoundTrips s ↔ '\"' ∉ s := by
  constructor
  · exact fun h hmem => not_roundTrips_of_mem hmem h
  · intro hquote lexer front rest hline hpos
    have hline' : lexer.currentLine = front ++ '\"' :: (escaped s ++ '\"' :: rest) := by
      rw [hline]
      simp [stringLiteralOf]
    refine ⟨_, _, _, Lexer.stringLiteral_eq hline' hpos (quote_notMem_escaped hquote), rfl, ?_, ?_⟩
    · simp [Lexer.advance, hpos, stringLiteralOf]
      omega
    · rw [String.toList_ofList, parseEscapedString_escaped]

/-- The string of one double quote. -/
theorem not_roundTrips_quote : ¬∀ s, RoundTrips s :=
  fun h => not_roundTrips_of_mem (s := ['\"']) (by decide) (h _)

end RiscvSim

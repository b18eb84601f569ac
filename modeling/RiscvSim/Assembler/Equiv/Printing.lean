import Mathlib.Data.List.Flatten
import RiscvSim.Assembler.Equiv.Lexer
import RiscvSim.Assembler.Equiv.Numbers
import RiscvSim.Equiv.ImageWrites

/-!
# Printing tokens

The tokens of a line are printed with a space in front of each, and the lexer
reads them back.  Printing what the lexer has read from a file gives a file
without comments, with the numbers in base 10 and the same lines, that stands for
the same tokens.

* **`getTokenList_printLines`**: tokens as the lexer makes them are read back.
* **`exists_printed`**: what is read from a file is read from a printed file too.
-/

namespace RiscvSim

open Lib

/-- The text of a token. -/
def Token.text (token : Token) : List Char :=
  match token.type with
  | .label => token.value.toList ++ [':']
  | .string => '"' :: (token.value.toList ++ ['"'])
  | .directive => '.' :: token.value.toList
  | _ => token.value.toList

/-- The token has a text that is read as a token of its type: an invalid one has
none, and a float has one if the printed double is read as the same double. -/
def Token.Printable (reader : FloatReader) (fixed : BitVec 64 → String) (token : Token) : Prop :=
  match token.type with
  | .invalid => False
  | .float =>
    token.value.toList.head?.any (fun c => c.isDigit || c = '-') = true ∧
      (∀ c ∈ token.value.toList, Lexer.isNumberChar c = true) ∧
      Lexer.numberValue reader fixed token.value.toList = .ok (.float, token.value)
  | _ => True

def printLine (tokens : List Token) : List Char :=
  tokens.flatMap fun token => ' ' :: token.text

def printLines (groups : List (List Token)) : List Char :=
  groups.flatMap fun group => printLine group ++ ['\n']

namespace Lexer

variable {reader : FloatReader} {fixed : BitVec 64 → String} {lexer : Lexer}
  {tokens : List Token} {token : Token} {text tail : List Char}

/-! ### Where a token ends -/

/-- Behind a printed token comes a space, if anything. -/
def EndsToken (tail : List Char) : Prop :=
  ∀ c ∈ tail.head?, c = ' '

theorem takeWhile_append {p : Char → Bool} (h : ∀ c ∈ text, p c = true)
    (htail : ∀ c ∈ tail.head?, p c = false) : (text ++ tail).takeWhile p = text := by
  rw [List.takeWhile_append_of_pos h]
  cases tail with
  | nil => rw [List.takeWhile_nil, List.append_nil]
  | cons c tail =>
    rw [List.takeWhile_cons_of_neg (by simp [htail c rfl]), List.append_nil]

theorem EndsToken.stops {p : Char → Bool} (h : EndsToken tail) (hspace : p ' ' = false) :
    ∀ c ∈ tail.head?, p c = false := by
  intro c hc
  rw [h c hc]
  exact hspace

theorem isNumberChar_of_isAlphanum {c : Char} (h : c.isAlphanum = true) :
    isNumberChar c = true := by
  unfold isNumberChar
  rw [h]
  rfl

/-! ### Identifiers -/

theorem readToken_of_isIdentifier (hid : IsIdentifier text) (hrest : lexer.rest = text ++ tail) :
    lexer.readToken reader fixed tokens = .ok (lexer.identifier tokens) := by
  cases text with
  | nil => exact absurd hid.1 (by simp)
  | cons c text =>
    have hc : (c.isAlpha || c = '_') = true := hid.1
    unfold readToken
    rw [hrest, List.cons_append]
    dsimp only
    rw [if_pos hc]

theorem rest_advance_append (hrest : lexer.rest = text ++ tail) :
    (lexer.advance text.length).rest = tail := by
  rw [rest_advance, hrest, List.drop_left]

theorem identifier_append (hid : IsIdentifier text) (htail : EndsToken tail)
    (hrest : lexer.rest = text ++ tail) :
    lexer.identifier tokens =
      ((⟨identifierType tokens (String.ofList text), String.ofList text, lexer.lineNumber⟩,
        lexer.columnNumber), lexer.advance text.length) := by
  have htake : lexer.rest.takeWhile isIdentifierChar = text := by
    rw [hrest]
    exact takeWhile_append hid.2 (htail.stops rfl)
  unfold identifier
  rw [htake]
  dsimp only
  rw [rest_advance_append hrest, if_neg]
  intro hcolon
  exact absurd (htail ':' hcolon) (by decide)

theorem identifier_append_colon (hid : IsIdentifier text) (hdot : '.' ∉ text)
    (hrest : lexer.rest = text ++ ':' :: tail) :
    lexer.identifier tokens =
      ((⟨.label, String.ofList text, lexer.lineNumber⟩, lexer.columnNumber),
        (lexer.advance text.length).advance 1) := by
  have htake : lexer.rest.takeWhile isIdentifierChar = text := by
    rw [hrest]
    refine takeWhile_append hid.2 fun c hc => ?_
    obtain rfl := Option.some.inj hc
    rfl
  unfold identifier
  rw [htake]
  dsimp only
  rw [rest_advance_append hrest, List.head?_cons, if_pos rfl, if_neg hdot]

/-! ### Numbers -/

/-- A printed number, as a literal. -/
def decimalLiteral (n : Int) : IntegerLiteral where
  negative := decide (n < 0)
  base := 10
  mark := []
  digits := Nat.toDigits 10 n.natAbs
  mark_mem := by decide
  digits_ne := Nat.toDigits_ne_nil
  isDigit := fun _ h => isDigitOf_of_mem_toDigits h

theorem decimalLiteral_text (n : Int) : (decimalLiteral n).text = toDecimal n := by
  unfold IntegerLiteral.text toDecimal decimalLiteral signText
  by_cases h : n < 0
  · simp [h]
  · simp [h]

theorem decimalLiteral_value (n : Int) : (decimalLiteral n).value = n := by
  unfold IntegerLiteral.value decimalLiteral
  dsimp only
  rw [ofDigitsOf_toDigits]
  by_cases h : n < 0
  · rw [decide_eq_true h, if_pos rfl]
    omega
  · rw [decide_eq_false h, if_neg (by decide)]
    omega

theorem numberValue_toDecimal {n : Int} (hlow : -2 ^ 63 ≤ n) (hhigh : n < 2 ^ 63) :
    numberValue reader fixed (toDecimal n) = .ok (.num, String.ofList (toDecimal n)) := by
  have hfits : (decimalLiteral n).Fits := by
    unfold IntegerLiteral.Fits
    rw [decimalLiteral_value]
    exact ⟨hlow, hhigh⟩
  rw [← decimalLiteral_text, numberValue_text, fittingValue_of_fits hfits, decimalLiteral_value,
    decimalLiteral_text]
  rfl

theorem isNumberChar_of_mem_toDecimal {n : Int} {c : Char} (h : c ∈ toDecimal n) :
    isNumberChar c = true := by
  have hdigit : ∀ {m : Nat}, c ∈ Nat.toDigits 10 m → isNumberChar c = true := fun h =>
    isNumberChar_of_isAlphanum (isAlphanum_of_isDigitOf (isDigitOf_of_mem_toDigits h))
  unfold toDecimal at h
  split at h
  · rcases List.mem_cons.mp h with rfl | h
    · rfl
    · exact hdigit h
  · exact hdigit h

theorem isDigit_of_isDigitOf {c : Char} (h : isDigitOf 10 c = true) : c.isDigit = true := by
  unfold isDigitOf digitOf at h
  dsimp only at h
  unfold Char.isDigit
  simp only [Bool.and_eq_true, decide_eq_true_eq, ge_iff_le]
  split at h
  · assumption
  split at h
  · simp at h
  split at h
  · simp at h
  · simp at h

theorem head?_toDecimal (n : Int) :
    (toDecimal n).head?.any (fun c => c.isDigit || c = '-') = true := by
  have hdigits : ∀ m, (Nat.toDigits 10 m).head?.any (fun c => c.isDigit || c = '-') = true := by
    intro m
    obtain ⟨c, text, htext⟩ := List.exists_cons_of_ne_nil (Nat.toDigits_ne_nil (n := m) (b := 10))
    have hc : isDigitOf 10 c = true := isDigitOf_of_mem_toDigits (n := m) (htext ▸ List.mem_cons_self)
    rw [htext, List.head?_cons, Option.any_some, isDigit_of_isDigitOf hc]
    rfl
  unfold toDecimal
  split
  · rfl
  · exact hdigits _

/-- In the first 2^32 columns of its line, a number is read from where it stands. -/
theorem number_eq (h : lexer.pos < 2 ^ 32) :
    lexer.number reader fixed =
      (numberValue reader fixed (lexer.rest.takeWhile isNumberChar)).map fun (type, value) =>
        ((⟨type, value, lexer.lineNumber⟩, lexer.columnNumber),
          lexer.advance (lexer.rest.takeWhile isNumberChar).length) := by
  have hstart : (BitVec.ofNat 32 lexer.pos).toNat = lexer.pos := by
    rw [BitVec.toNat_ofNat, Nat.mod_eq_of_lt h]
  have htext : lexer.rest.take (lexer.rest.takeWhile isNumberChar).length =
      lexer.rest.takeWhile isNumberChar :=
    (List.prefix_iff_eq_take.mp (List.takeWhile_prefix _)).symm
  unfold number
  dsimp only
  -- what stands between the start and the end is what has been passed over
  rw [hstart, advance_pos, Nat.add_sub_cancel_left]
  rw [rest] at htext ⊢
  rw [htext]

theorem readToken_number {type : TokenType} {value : String} (hpos : lexer.pos < 2 ^ 32)
    (hhead : text.head?.any (fun c => c.isDigit || c = '-') = true)
    (hchars : ∀ c ∈ text, isNumberChar c = true) (htail : EndsToken tail)
    (hrest : lexer.rest = text ++ tail)
    (hvalue : numberValue reader fixed text = .ok (type, value)) :
    lexer.readToken reader fixed tokens =
      .ok ((⟨type, value, lexer.lineNumber⟩, lexer.columnNumber), lexer.advance text.length) := by
  have hread : lexer.readToken reader fixed tokens = lexer.number reader fixed := by
    cases text with
    | nil => exact absurd hhead (by simp)
    | cons c text =>
      have hc : (c.isDigit || c = '-') = true := hhead
      have halpha : ¬(c.isAlpha || c = '_') = true := by
        rw [Bool.or_eq_true, decide_eq_true_eq] at hc ⊢
        rintro (h | rfl)
        · rcases hc with hc | rfl
          · unfold Char.isAlpha Char.isUpper Char.isLower at h
            unfold Char.isDigit at hc
            simp only [Bool.or_eq_true, Bool.and_eq_true, decide_eq_true_eq,
              UInt32.le_iff_toNat_le, ge_iff_le] at h hc
            have h9 : '9'.val.toNat = 57 := rfl
            have hA : 'A'.val.toNat = 65 := rfl
            have ha : 'a'.val.toNat = 97 := rfl
            omega
          · exact absurd h (by decide)
        · exact absurd hc (by decide)
      unfold readToken
      rw [hrest, List.cons_append]
      dsimp only
      rw [if_neg halpha, if_pos hc]
  rw [hread, number_eq hpos, hrest, takeWhile_append hchars (htail.stops rfl), hvalue]
  rfl

/-! ### The other tokens -/

theorem stringLiteral_append (hquote : '"' ∉ text) (hrest : lexer.rest = '"' :: (text ++ '"' :: tail)) :
    lexer.stringLiteral =
      ((⟨.string, String.ofList text, lexer.lineNumber⟩, (lexer.advance 1).columnNumber),
        ((lexer.advance 1).advance text.length).advance 1) := by
  have hstart : (lexer.advance 1).rest = text ++ '"' :: tail := by
    rw [rest_advance, hrest]
    rfl
  have htake : (lexer.advance 1).rest.takeWhile (· ≠ '"') = text := by
    rw [hstart]
    refine takeWhile_append ?_ ?_
    · intro c hc
      rw [decide_eq_true_eq]
      rintro rfl
      exact hquote hc
    · intro c hc
      obtain rfl := Option.some.inj hc
      rfl
  have hlast : ((lexer.advance 1).advance text.length).rest = '"' :: tail :=
    rest_advance_append hstart
  unfold stringLiteral
  dsimp only
  rw [rest] at htake
  rw [htake]
  rw [rest] at hlast
  rw [if_pos]
  rw [← List.head?_drop, hlast]
  rfl

theorem directive_append (hletters : ∀ c ∈ text, c.isAlpha = true) (htail : EndsToken tail)
    (hrest : lexer.rest = '.' :: (text ++ tail)) :
    lexer.directive =
      ((⟨.directive, String.ofList text, lexer.lineNumber⟩, lexer.columnNumber),
        { lexer with pos := lexer.pos + 1 }.advance text.length) := by
  have hstart : { lexer with pos := lexer.pos + 1 }.rest = text ++ tail := by
    have hdrop := rest_advance lexer 1
    rw [hrest] at hdrop
    exact hdrop
  unfold directive
  dsimp only
  rw [hstart, takeWhile_append hletters (htail.stops rfl)]

/-! ### Reading a printed token -/

/-- The token that starts a text, and how far it goes. -/
def ReadsText (reader : FloatReader) (fixed : BitVec 64 → String) (before : List Token)
    (lexer : Lexer) (token : Token) : Prop :=
  ∃ column lexer', lexer.readToken reader fixed before =
      .ok ((⟨token.type, token.value, lexer.lineNumber⟩, column), lexer') ∧
    Moves lexer lexer' ∧ lexer'.pos = lexer.pos + token.text.length

theorem readsText_identifier (hid : IsIdentifier token.value.toList)
    (htype : identifierType tokens token.value = token.type) (htail : EndsToken tail)
    (htext : token.text = token.value.toList) (hrest : lexer.rest = token.text ++ tail) :
    ReadsText reader fixed tokens lexer token := by
  rw [htext] at hrest
  refine ⟨lexer.columnNumber, lexer.advance token.value.toList.length, ?_, moves_advance _ _, ?_⟩
  · rw [readToken_of_isIdentifier hid hrest, identifier_append hid htail hrest, String.ofList_toList,
      htype]
  · rw [htext]
    rfl

theorem readsText_label (hid : IsIdentifier token.value.toList) (hdot : '.' ∉ token.value.toList)
    (htype : token.type = .label) (hrest : lexer.rest = token.text ++ tail) :
    ReadsText reader fixed tokens lexer token := by
  have htext : token.text = token.value.toList ++ [':'] := by
    unfold Token.text
    rw [htype]
  rw [htext, List.append_assoc] at hrest
  refine ⟨lexer.columnNumber, (lexer.advance token.value.toList.length).advance 1, ?_,
    (moves_advance _ _).trans (moves_advance _ _), ?_⟩
  · rw [readToken_of_isIdentifier hid hrest, identifier_append_colon hid hdot hrest,
      String.ofList_toList, htype]
  · rw [htext, List.length_append, List.length_singleton]
    exact Nat.add_assoc _ _ _

theorem readsText_number (hpos : lexer.pos < 2 ^ 32)
    (hhead : token.value.toList.head?.any (fun c => c.isDigit || c = '-') = true)
    (hchars : ∀ c ∈ token.value.toList, isNumberChar c = true) (htail : EndsToken tail)
    (htext : token.text = token.value.toList) (hrest : lexer.rest = token.text ++ tail)
    (hvalue : numberValue reader fixed token.value.toList = .ok (token.type, token.value)) :
    ReadsText reader fixed tokens lexer token := by
  rw [htext] at hrest
  refine ⟨lexer.columnNumber, lexer.advance token.value.toList.length,
    readToken_number hpos hhead hchars htail hrest hvalue, moves_advance _ _, ?_⟩
  rw [htext]
  rfl

theorem readsText_string (hquote : '"' ∉ token.value.toList) (htype : token.type = .string)
    (hrest : lexer.rest = token.text ++ tail) : ReadsText reader fixed tokens lexer token := by
  have htext : token.text = '"' :: (token.value.toList ++ ['"']) := by
    unfold Token.text
    rw [htype]
  have hquoted : lexer.rest = '"' :: (token.value.toList ++ '"' :: tail) := by
    rw [hrest, htext, List.cons_append, List.append_assoc]
    rfl
  have hread : lexer.readToken reader fixed tokens = .ok lexer.stringLiteral := by
    unfold readToken
    rw [hquoted]
    rfl
  refine ⟨(lexer.advance 1).columnNumber,
    ((lexer.advance 1).advance token.value.toList.length).advance 1, ?_,
    ((moves_advance _ _).trans (moves_advance _ _)).trans (moves_advance _ _), ?_⟩
  · rw [hread, stringLiteral_append hquote hquoted, String.ofList_toList, htype]
  · rw [htext, List.length_cons, List.length_append, List.length_singleton]
    simp only [advance_pos]
    omega

theorem readsText_directive (hletters : ∀ c ∈ token.value.toList, c.isAlpha = true)
    (htype : token.type = .directive) (htail : EndsToken tail)
    (hrest : lexer.rest = token.text ++ tail) : ReadsText reader fixed tokens lexer token := by
  have htext : token.text = '.' :: token.value.toList := by
    unfold Token.text
    rw [htype]
  rw [htext, List.cons_append] at hrest
  have hread : lexer.readToken reader fixed tokens = .ok lexer.directive := by
    unfold readToken
    rw [hrest]
    rfl
  refine ⟨lexer.columnNumber, { lexer with pos := lexer.pos + 1 }.advance token.value.toList.length,
    ?_, ⟨rfl, rfl, ?_⟩, ?_⟩
  · rw [hread, directive_append hletters htail hrest, String.ofList_toList, htype]
  · exact Nat.le_trans (Nat.le_succ _) (Nat.le_add_right _ _)
  · rw [htext, List.length_cons, Nat.add_comm token.value.toList.length]
    exact Nat.add_assoc _ _ _

theorem readsText_single {value : String} (hlength : value.toList.length = 1)
    (hvalue : token.value = value) (htext : token.text = token.value.toList)
    (hread : lexer.readToken reader fixed tokens = .ok (lexer.single token.type value)) :
    ReadsText reader fixed tokens lexer token := by
  refine ⟨lexer.columnNumber, lexer.advance 1, ?_, moves_advance _ _, ?_⟩
  · rw [hread, hvalue]
    rfl
  · rw [htext, hvalue, hlength]
    rfl

/-- A printed token is read back, whatever its type. -/
theorem readsText_of_wellFormed (hpos : lexer.pos < 2 ^ 32) (hwf : token.WellFormed fixed tokens)
    (hp : token.Printable reader fixed) (htail : EndsToken tail)
    (hrest : lexer.rest = token.text ++ tail) : ReadsText reader fixed tokens lexer token := by
  cases htype : token.type
  all_goals
    unfold Token.WellFormed Token.Printable at *
    rw [htype] at hwf hp
    dsimp only at hwf hp
  case label => exact readsText_label hwf.1 hwf.2 htype hrest
  case string => exact readsText_string hwf.1 htype hrest
  case directive => exact readsText_directive hwf htype htail hrest
  all_goals
    have htext : token.text = token.value.toList := by
      unfold Token.text
      rw [htype]
  case num =>
    obtain ⟨n, hlow, hhigh, hvalue⟩ := hwf
    refine readsText_number hpos ?_ ?_ htail htext hrest ?_
    · rw [hvalue]
      exact head?_toDecimal n
    · rw [hvalue]
      exact fun c hc => isNumberChar_of_mem_toDecimal hc
    · rw [hvalue, numberValue_toDecimal hlow hhigh, htype, ← hvalue, String.ofList_toList]
  case float => exact readsText_number hpos hp.1 hp.2.1 htail htext hrest (htype ▸ hp.2.2)
  case comma | lparen | rparen =>
    refine readsText_single (by decide) hwf htext ?_
    unfold readToken
    rw [hrest, htext, hwf, htype]
    rfl
  all_goals exact readsText_identifier hwf.1 (hwf.2.trans htype.symm) htail htext hrest

/-! ### Reading a printed line -/

theorem startsToken_of {p : Char → Bool} {c : Char} (hc : p c = true)
    (hp : [' ', '\t', '\n', '\r', '\x0b', '\x0c', '#', ';'].all (fun c => !p c) = true) :
    isSpace c = false ∧ startsComment c = false := by
  have hne : ∀ d ∈ [' ', '\t', '\n', '\r', '\x0b', '\x0c', '#', ';'], c ≠ d := by
    rintro d hd rfl
    have hd' := List.all_eq_true.mp hp c hd
    rw [hc] at hd'
    cases hd'
  unfold isSpace startsComment
  simp only [Bool.or_eq_false_iff, decide_eq_false_iff_not]
  exact ⟨⟨⟨⟨⟨⟨hne _ (by decide), hne _ (by decide)⟩, hne _ (by decide)⟩, hne _ (by decide)⟩,
    hne _ (by decide)⟩, hne _ (by decide)⟩, hne _ (by decide), hne _ (by decide)⟩

/-- The text of a token starts with neither white space nor a comment, and has no newline. -/
theorem text_of_wellFormed (hwf : token.WellFormed fixed tokens)
    (hp : token.Printable reader fixed) :
    (∃ c rest, token.text = c :: rest ∧ isSpace c = false ∧ startsComment c = false) ∧
      '\n' ∉ token.text := by
  have hstarts : ∀ {text : List Char} {p : Char → Bool}, text.head?.any p = true →
      [' ', '\t', '\n', '\r', '\x0b', '\x0c', '#', ';'].all (fun c => !p c) = true →
      ∃ c rest, text = c :: rest ∧ isSpace c = false ∧ startsComment c = false := by
    intro text p hhead hall
    cases text with
    | nil => exact absurd hhead (by simp)
    | cons c rest => exact ⟨c, rest, rfl, startsToken_of hhead hall⟩
  have hchars : ∀ {text : List Char} {p : Char → Bool}, (∀ c ∈ text, p c = true) →
      p '\n' = false → '\n' ∉ text := by
    intro text p hall hp hmem
    exact Bool.noConfusion (hp.symm.trans (hall _ hmem))
  have hidentifier : IsIdentifier token.value.toList →
      (∃ c rest, token.value.toList = c :: rest ∧ isSpace c = false ∧ startsComment c = false) ∧
        '\n' ∉ token.value.toList :=
    fun hid => ⟨hstarts hid.1 (by decide), hchars hid.2 (by decide)⟩
  cases htype : token.type
  all_goals
    unfold Token.WellFormed Token.Printable at *
    rw [htype] at hwf hp
    dsimp only at hwf hp
  all_goals
    unfold Token.text
    rw [htype]
    dsimp only
  case label =>
    obtain ⟨⟨c, rest, htext, hc⟩, hnewline⟩ := hidentifier hwf.1
    refine ⟨⟨c, rest ++ [':'], by rw [htext]; rfl, hc⟩, ?_⟩
    simpa using hnewline
  case string =>
    refine ⟨⟨'"', _, rfl, by decide, by decide⟩, ?_⟩
    simpa using hwf.2
  case directive =>
    refine ⟨⟨'.', _, rfl, by decide, by decide⟩, ?_⟩
    simpa using hchars hwf (by decide)
  case num =>
    obtain ⟨n, -, -, hvalue⟩ := hwf
    rw [hvalue]
    exact ⟨hstarts (head?_toDecimal n) (by decide),
      hchars (fun c hc => isNumberChar_of_mem_toDecimal hc) (by decide)⟩
  case float => exact ⟨hstarts hp.1 (by decide), hchars hp.2.1 (by decide)⟩
  case comma | lparen | rparen =>
    rw [hwf]
    exact ⟨⟨_, _, rfl, by decide, by decide⟩, by decide⟩
  all_goals exact hidentifier hwf.1

theorem endsToken_printLine (tokens : List Token) : EndsToken (printLine tokens) := by
  intro c hc
  cases tokens with
  | nil => cases hc
  | cons token tokens => exact (Option.some.inj hc).symm

theorem printLine_cons (token : Token) (tokens : List Token) :
    printLine (token :: tokens) = ' ' :: (token.text ++ printLine tokens) :=
  List.flatMap_cons

/-- Only the space is skipped before a printed token. -/
theorem blanks_text (hwf : token.WellFormed fixed tokens) (hp : token.Printable reader fixed)
    (tail : List Char) : blanks (' ' :: (token.text ++ tail)) = 1 := by
  obtain ⟨⟨c, rest, htext, hspace, hcomment⟩, -⟩ := text_of_wellFormed hwf hp
  unfold blanks
  rw [htext, List.cons_append, List.dropWhile_cons_of_pos (by decide),
    List.dropWhile_cons_of_neg (by simp [hspace]), List.takeWhile_cons_of_pos (by decide),
    List.takeWhile_cons_of_neg (by simp [hspace])]
  rw [List.head?_cons, Option.any_some, if_neg (by simp [hcomment])]
  rfl

/-- A round of the loop reads the next printed token. -/
theorem addToken_printLine {s : Progress} {remaining : List Token}
    (hsize : s.lexer.currentLine.length ≤ 2 ^ 32)
    (hrest : s.lexer.rest = printLine (token :: remaining)) (hnewline : '\n' ∉ s.lexer.rest)
    (hwf : token.WellFormed fixed s.list) (hp : token.Printable reader fixed)
    (hnumber : token.lineNumber = s.lexer.lineNumber) :
    ∃ s', addToken reader fixed s = .ok s' ∧ s'.list = s.list ++ [token] ∧
      s'.lexer.rest = printLine remaining ∧ s'.lexer.lineNumber = s.lexer.lineNumber ∧
      s'.lexer.currentLine = s.lexer.currentLine := by
  rw [printLine_cons] at hrest
  have hblanks : blanks s.lexer.rest = 1 := by
    rw [hrest]
    exact blanks_text hwf hp _
  have hnext : (s.lexer.advance 1).rest = token.text ++ printLine remaining := by
    rw [rest_advance, hrest]
    rfl
  -- the token starts on the line, so its position fits in 32 bits
  have hstart : (s.lexer.advance 1).pos < 2 ^ 32 := by
    obtain ⟨⟨c, text, htext, -, -⟩, -⟩ := text_of_wellFormed hwf hp
    have hlength := congrArg List.length hnext
    rw [rest, htext, List.length_drop, List.cons_append, List.length_cons] at hlength
    exact Nat.lt_of_lt_of_le (Nat.lt_of_sub_pos (hlength ▸ Nat.succ_pos _)) hsize
  obtain ⟨column, lexer', hread, hmoves, hpos⟩ :=
    readsText_of_wellFormed hstart hwf hp (endsToken_printLine remaining) hnext
  have hnext' : lexer'.rest = printLine remaining := by
    rw [hmoves.rest_eq, hpos, Nat.add_sub_cancel_left, hnext, List.drop_left]
  have htoken : (⟨token.type, token.value, (s.lexer.advance 1).lineNumber⟩ : Token) = token := by
    rw [show (s.lexer.advance 1).lineNumber = token.lineNumber from hnumber.symm]
  unfold addToken
  rw [getNextToken_eq hnewline, hblanks]
  rw [show (s.tokens.map (·.1)) = s.list from rfl, hread]
  refine ⟨⟨lexer', s.tokens ++ [(token, column)]⟩, ?_, ?_, hnext', hmoves.lineNumber,
    hmoves.currentLine⟩
  · rw [htoken]
    show Except.ok (Progress.mk lexer' (if token.type = .eof then s.tokens
      else s.tokens ++ [(token, column)])) = _
    rw [if_neg (ne_eof_of_wellFormed hwf)]
  · simp [Progress.list]

/-- The loop reads all tokens of a printed line. -/
theorem runWithin_printLine {remaining : List Token} :
    ∀ {fuel : Nat} {s : Progress}, s.lexer.currentLine.length ≤ 2 ^ 32 →
      s.lexer.rest = printLine remaining → '\n' ∉ s.lexer.rest →
      WellFormedTokens fixed (s.list ++ remaining) →
      (∀ token ∈ remaining, token.Printable reader fixed ∧
        token.lineNumber = s.lexer.lineNumber) → remaining.length < fuel →
      ∃ s', runWithin AssemblerError.unfinished (fun s : Progress => s.lexer.rest.isEmpty)
          (addToken reader fixed) fuel s = .ok s' ∧
        s'.list = s.list ++ remaining ∧ s'.lexer.lineNumber = s.lexer.lineNumber := by
  induction remaining with
  | nil =>
    intro fuel s _ hrest _ _ _ hfuel
    obtain ⟨fuel, rfl⟩ := Nat.exists_eq_add_one_of_ne_zero (Nat.ne_zero_of_lt hfuel)
    refine ⟨s, ?_, (List.append_nil _).symm, rfl⟩
    unfold runWithin
    rw [runUntil, hrest]
    rfl
  | cons token remaining ih =>
    intro fuel s hsize hrest hnewline hwf hall hfuel
    obtain ⟨fuel, rfl⟩ := Nat.exists_eq_add_one_of_ne_zero (Nat.ne_zero_of_lt hfuel)
    obtain ⟨hp, hnumber⟩ := hall token List.mem_cons_self
    obtain ⟨s₁, hs₁, hlist, hrest₁, hline₁, hcurrent₁⟩ :=
      addToken_printLine hsize hrest hnewline (hwf s.list token remaining rfl) hp hnumber
    have hnewline₁ : '\n' ∉ s₁.lexer.rest := by
      rw [hrest₁]
      intro hmem
      rw [hrest, printLine_cons] at hnewline
      exact hnewline (List.mem_cons_of_mem _ (List.mem_append_right _ hmem))
    have hfuel' : remaining.length < fuel := by simpa using hfuel
    obtain ⟨s', hs', hlist', hline'⟩ := ih (hcurrent₁ ▸ hsize) hrest₁ hnewline₁
      (by rwa [hlist, List.append_assoc])
      (fun token hmem => by
        rw [hline₁]
        exact hall token (List.mem_cons_of_mem _ hmem))
      hfuel'
    refine ⟨s', ?_, by rw [hlist', hlist, List.append_assoc]; rfl, hline'.trans hline₁⟩
    have hgo : s.lexer.rest.isEmpty = false := by
      rw [hrest, printLine_cons]
      rfl
    unfold runWithin at hs' ⊢
    rw [runUntil, hgo, hs₁]
    exact hs'

/-! ### Reading a printed file -/

theorem length_le_length_printLine (tokens : List Token) :
    tokens.length ≤ (printLine tokens).length := by
  induction tokens with
  | nil => exact Nat.le_refl _
  | cons token tokens ih =>
    rw [printLine_cons, List.length_cons, List.length_cons, List.length_append]
    omega

theorem newline_notMem_printLine (h : ∀ token ∈ tokens, '\n' ∉ token.text) :
    '\n' ∉ printLine tokens := by
  induction tokens with
  | nil => exact List.not_mem_nil
  | cons token tokens ih =>
    rw [printLine_cons]
    simp only [List.mem_cons, List.mem_append, not_or]
    exact ⟨by decide, h token List.mem_cons_self,
      ih fun token hmem => h token (List.mem_cons_of_mem _ hmem)⟩

theorem WellFormedTokens.left {tokens' : List Token}
    (h : WellFormedTokens fixed (tokens ++ tokens')) : WellFormedTokens fixed tokens := by
  intro before token after heq
  refine h before token (after ++ tokens') ?_
  rw [heq, List.append_assoc]
  rfl

/-- The texts of well-formed tokens have no newlines. -/
theorem newline_notMem_text_of_mem (hwf : WellFormedTokens fixed tokens)
    (hp : ∀ token ∈ tokens, token.Printable reader fixed) (hmem : token ∈ tokens) :
    '\n' ∉ token.text := by
  obtain ⟨before, after, heq⟩ := List.append_of_mem hmem
  exact (text_of_wellFormed (hwf before token after heq) (hp token hmem)).2

theorem addLine_printLine {s : Progress} {group : List Token}
    (hsize : (printLine group).length ≤ 2 ^ 32) (hwf : WellFormedTokens fixed (s.list ++ group))
    (hp : ∀ token ∈ group, token.Printable reader fixed) (hnewline : '\n' ∉ printLine group)
    (hnumber : ∀ token ∈ group, token.lineNumber = s.lexer.lineNumber + 1#32) :
    ∃ s', addLine reader fixed s (printLine group) = .ok s' ∧ s'.list = s.list ++ group ∧
      s'.lexer.lineNumber = s.lexer.lineNumber + 1#32 :=
  runWithin_printLine
    (s := { s with lexer := { currentLine := printLine group
                              lineNumber := s.lexer.lineNumber + 1#32 } })
    hsize rfl hnewline hwf (fun token hmem => ⟨hp token hmem, hnumber token hmem⟩)
    (Nat.lt_succ_of_le (length_le_length_printLine group))

theorem foldlM_printLine {groups : List (List Token)} :
    ∀ {s : Progress} {k : Nat}, s.lexer.lineNumber = BitVec.ofNat 32 k →
      (∀ i group, groups[i]? = some group →
        ∀ token ∈ group, token.lineNumber = BitVec.ofNat 32 (k + i + 1)) →
      WellFormedTokens fixed (s.list ++ groups.flatten) →
      (∀ group ∈ groups, ∀ token ∈ group, token.Printable reader fixed) →
      (∀ group ∈ groups, '\n' ∉ printLine group) →
      (∀ group ∈ groups, (printLine group).length ≤ 2 ^ 32) →
      ∃ s', (groups.map printLine).foldlM (addLine reader fixed) s = .ok s' ∧
        s'.list = s.list ++ groups.flatten ∧
        s'.lexer.lineNumber = BitVec.ofNat 32 (k + groups.length) := by
  induction groups with
  | nil =>
    intro s k hk _ _ _ _ _
    exact ⟨s, rfl, (List.append_nil _).symm, hk⟩
  | cons group groups ih =>
    intro s k hk hnumbered hwf hp hnewline hsize
    rw [List.flatten_cons, ← List.append_assoc] at hwf
    have hnumber : ∀ token ∈ group, token.lineNumber = s.lexer.lineNumber + 1#32 := by
      intro token hmem
      rw [hnumbered 0 group rfl token hmem, hk, Nat.add_zero, BitVec.ofNat_add]
    obtain ⟨s₁, hs₁, hlist₁, hline₁⟩ := addLine_printLine
      (hsize group List.mem_cons_self) hwf.left (hp group List.mem_cons_self)
      (hnewline group List.mem_cons_self) hnumber
    have hk₁ : s₁.lexer.lineNumber = BitVec.ofNat 32 (k + 1) := by
      rw [hline₁, hk, BitVec.ofNat_add]
    obtain ⟨s', hs', hlist', hline'⟩ := ih hk₁
      (fun i group' hi token hmem => by
        rw [hnumbered (i + 1) group' hi token hmem, Nat.add_right_comm k 1 i, Nat.add_assoc k i 1])
      (by rwa [hlist₁]) (fun group' hmem => hp group' (List.mem_cons_of_mem _ hmem))
      (fun group' hmem => hnewline group' (List.mem_cons_of_mem _ hmem))
      (fun group' hmem => hsize group' (List.mem_cons_of_mem _ hmem))
    refine ⟨s', ?_, ?_, ?_⟩
    · rw [List.map_cons, List.foldlM_cons, hs₁]
      exact hs'
    · rw [hlist', hlist₁, List.flatten_cons, List.append_assoc]
    · rw [hline', List.length_cons, Nat.add_right_comm, Nat.add_assoc]

theorem getLines_printLines {groups : List (List Token)}
    (h : ∀ group ∈ groups, '\n' ∉ printLine group) :
    getLines (printLines groups) = groups.map printLine := by
  induction groups with
  | nil => rfl
  | cons group groups ih =>
    have hne : ∀ c ∈ printLine group, c ≠ '\n' := by
      rintro c hc rfl
      exact h group List.mem_cons_self hc
    show getLines ((printLine group ++ ['\n']) ++ printLines groups) = _
    rw [List.append_assoc, List.singleton_append, getLines_append hne,
      ih fun group' hmem => h group' (List.mem_cons_of_mem _ hmem), List.map_cons]

/-- Tokens as the lexer makes them are read back from their texts, on lines whose
positions fit in 32 bits. -/
theorem getTokenList_printLines {groups : List (List Token)} (hnumbered : Numbered groups)
    (hsize : ∀ group ∈ groups, (printLine group).length ≤ 2 ^ 32)
    (hwf : WellFormedTokens fixed groups.flatten)
    (hp : ∀ token ∈ groups.flatten, token.Printable reader fixed) :
    (getTokenList reader fixed (printLines groups)).map (List.map Prod.fst) =
      .ok (groups.flatten ++ [endOfFile groups.length]) := by
  have hmem : ∀ group ∈ groups, ∀ token ∈ group, token ∈ groups.flatten :=
    fun group hgroup token htoken => List.mem_flatten.mpr ⟨group, hgroup, htoken⟩
  have hnewline : ∀ group ∈ groups, '\n' ∉ printLine group := fun group hgroup =>
    newline_notMem_printLine fun token htoken =>
      newline_notMem_text_of_mem hwf hp (hmem group hgroup token htoken)
  let start : Progress :=
    { lexer := { currentLine := [], lineNumber := 0#32, columnNumber := 0#32 }, tokens := [] }
  have hstart : start.lexer.lineNumber = BitVec.ofNat 32 0 := rfl
  obtain ⟨s', hs', hlist, hline⟩ := foldlM_printLine hstart (fun i group hi token htoken => by
      rw [hnumbered i group hi token htoken, Nat.zero_add])
    hwf (fun group hgroup token htoken => hp token (hmem group hgroup token htoken)) hnewline
    hsize
  rw [Nat.zero_add] at hline
  unfold getTokenList
  rw [getLines_printLines hnewline, hs', ok_bind, pure_eq_ok]
  show Except.ok (List.map Prod.fst (s'.tokens ++ _)) = _
  rw [List.map_append, endOfFile, ← hline]
  congr 1
  rw [show s'.tokens.map Prod.fst = s'.list from rfl, hlist]
  rfl

theorem length_printLine_le_of_sublist {tokens' : List Token} (h : tokens'.Sublist tokens) :
    (printLine tokens').length ≤ (printLine tokens).length :=
  (h.flatMap _).length_le

/-- The tokens of a line, as a part of those of the file. -/
theorem sublist_filter_of_numbered {groups : List (List Token)} {group : List Token}
    (hnumbered : Numbered groups) (hmem : group ∈ groups) (after : List Token) :
    ∃ line, group.Sublist ((groups.flatten ++ after).filter (·.lineNumber = line)) := by
  obtain ⟨i, hi⟩ := List.mem_iff_getElem?.mp hmem
  refine ⟨BitVec.ofNat 32 (i + 1), ?_⟩
  -- all its tokens have the number of the line, whatever other line has it too
  have hself : group.filter (·.lineNumber = BitVec.ofNat 32 (i + 1)) = group :=
    List.filter_eq_self.mpr fun token htoken =>
      decide_eq_true (hnumbered i group hi token htoken)
  rw [← hself]
  exact ((List.sublist_flatten_of_mem hmem).trans (List.sublist_append_left _ _)).filter _

/-- **Printing what has been read**: the tokens of a file in which every token is
printable, and those of a line take at most 2^32 characters, are those of a file
that consists of their texts, on the same lines. -/
theorem exists_printed {input : List Char}
    (h : (getTokenList reader fixed input).map (List.map Prod.fst) = .ok tokens)
    (hp : ∀ token ∈ tokens, token.type ≠ .eof → token.Printable reader fixed)
    (hsize : ∀ line, (printLine (tokens.filter (·.lineNumber = line))).length ≤ 2 ^ 32) :
    ∃ groups, groups.length = (getLines input).length ∧
      tokens = groups.flatten ++ [endOfFile groups.length] ∧
      (getTokenList reader fixed (printLines groups)).map (List.map Prod.fst) = .ok tokens := by
  rcases getTokenList_cases reader fixed input with
    ⟨groups, hread, hlength, hnumbered, hwf, -⟩ | ⟨e, he⟩
  · rw [h, ← hlength] at hread
    obtain rfl := Except.ok.inj hread
    have hlines : ∀ group ∈ groups, (printLine group).length ≤ 2 ^ 32 := by
      intro group hmem
      obtain ⟨line, hsub⟩ := sublist_filter_of_numbered hnumbered hmem [endOfFile groups.length]
      exact Nat.le_trans (length_printLine_le_of_sublist hsub) (hsize line)
    refine ⟨groups, hlength, rfl, getTokenList_printLines hnumbered hlines hwf fun token hmem => ?_⟩
    obtain ⟨before, after, heq⟩ := List.append_of_mem hmem
    exact hp token (List.mem_append_left _ hmem) (ne_eof_of_wellFormed (hwf before token after heq))
  · rw [he] at h
    cases h

/-- A label and an instruction, with a number in base 16 and a comment. -/
def addiSource : List Char :=
  "x:\n addi a0, a1, -0x10 # c\n".toList

theorem exists_printed_addiSource :
    ∃ tokens groups, tokens.length = 8 ∧
      (getTokenList .zeros (fun _ => "") addiSource).map (List.map Prod.fst) = .ok tokens ∧
      (getTokenList .zeros (fun _ => "") (printLines groups)).map (List.map Prod.fst) =
        .ok tokens := by
  have hread := eq_ok_getD [] (show ((getTokenList .zeros (fun _ => "") addiSource).map
    (List.map Prod.fst)).toOption.isSome = true by decide +kernel)
  have htokens : ((getTokenList .zeros (fun _ => "") addiSource).map
      (List.map Prod.fst)).toOption.getD [] =
      [⟨.label, "x", 1#32⟩, ⟨.opcode, "addi", 2#32⟩, ⟨.gpRegister, "a0", 2#32⟩,
        ⟨.comma, ",", 2#32⟩, ⟨.gpRegister, "a1", 2#32⟩, ⟨.comma, ",", 2#32⟩,
        ⟨.num, "-16", 2#32⟩, ⟨.eof, "", 2#32⟩] := by
    decide +kernel
  rw [htokens] at hread
  obtain ⟨groups, -, -, hprinted⟩ := exists_printed hread (by simp [Token.Printable]) fun line =>
    Nat.le_trans (length_printLine_le_of_sublist List.filter_sublist) (by decide +kernel)
  exact ⟨_, groups, rfl, hread, hprinted⟩

end Lexer

end RiscvSim

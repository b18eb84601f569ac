import RiscvSim.Assembler.ParserState
import RiscvSim.Lib.Run
import RiscvSim.MemoryImage

/-!
# The lexer

`getTokenList` walks over a file one line at a time.  `getNextToken` skips white
space and comments and chooses by the next character what it reads: an
identifier, a number, a directive, a string literal that ends at the next double
quote, or a single character.
-/

namespace RiscvSim

open Lib

/-- The members of the lexer for the current line. -/
structure Lexer where
  currentLine : List Char
  lineNumber : BitVec 32
  columnNumber : BitVec 32 := 1#32
  pos : Nat := 0

namespace Lexer

/-- Moves on by `n` characters. -/
def advance (lexer : Lexer) (n : Nat) : Lexer :=
  { lexer with
    pos := lexer.pos + n
    columnNumber := lexer.columnNumber + BitVec.ofNat 32 n }

/-- `stringLiteral`, from the opening quote on: the token, its column, and the
lexer behind it.  A literal that does not end on its line is invalid. -/
def stringLiteral (lexer : Lexer) : (Token × BitVec 32) × Lexer :=
  let start := lexer.advance 1
  let value := (start.currentLine.drop start.pos).takeWhile (· ≠ '"')
  let last := start.advance value.length
  if last.currentLine[last.pos]? = some '"' then
    ((⟨.string, String.ofList value, lexer.lineNumber⟩, start.columnNumber), last.advance 1)
  else ((⟨.invalid, "", lexer.lineNumber⟩, start.columnNumber), last)

/-- The characters from the current position on. -/
def rest (lexer : Lexer) : List Char :=
  lexer.currentLine.drop lexer.pos

/-- Moves on behind a character of white space. -/
def skipSpace (lexer : Lexer) (c : Char) : Lexer :=
  if c = '\n' then { lexer with
    lineNumber := lexer.lineNumber + 1#32
    columnNumber := 1#32
    pos := lexer.pos + 1 }
  else lexer.advance 1

def skipWhitespace (lexer : Lexer) : Lexer :=
  (lexer.rest.takeWhile isSpace).foldl skipSpace lexer

def skipLine (lexer : Lexer) : Lexer :=
  let last := lexer.advance (lexer.rest.takeWhile (· ≠ '\n')).length
  if last.rest.head? = some '\n' then { last with
    lineNumber := last.lineNumber + 1#32
    columnNumber := 1#32 }
  else last

def skipComment (lexer : Lexer) : Lexer :=
  lexer.skipLine

def startsComment (c : Char) : Bool :=
  c = '#' || c = ';'

/-- The white space and the comments before the next token: `getNextToken` calls
itself behind a comment, which has at least one character. -/
def skipBlanks : Nat → Lexer → Lexer
  | 0, lexer => lexer
  | fuel + 1, lexer =>
    let lexer := lexer.skipWhitespace
    if lexer.rest.head?.any startsComment then skipBlanks fuel lexer.skipComment else lexer

/-! ### Identifiers -/

def isIdentifierChar (c : Char) : Bool :=
  c.isAlphanum || c = '_' || c = '.'

/-- The type of an identifier without a colon behind it; `tokens` are the tokens
before it. -/
def identifierType (tokens : List Token) (value : String) : TokenType :=
  if isValidInstruction value then .opcode
  else if isValidGeneralPurposeRegister value then .gpRegister
  else if isValidFloatingPointRegister value then .fpRegister
  else if isValidCsr value then .csrRegister
  else if isValidRoundingMode value then .rm
  else if tokens.getLast?.any (·.type = .comma) then .labelRef
  else .invalid

def identifier (tokens : List Token) (lexer : Lexer) : (Token × BitVec 32) × Lexer :=
  let value := lexer.rest.takeWhile isIdentifierChar
  let last := lexer.advance value.length
  if last.rest.head? = some ':' then
    ((⟨if '.' ∈ value then .invalid else .label, String.ofList value, lexer.lineNumber⟩,
      lexer.columnNumber), last.advance 1)
  else
    ((⟨identifierType tokens (String.ofList value), String.ofList value, lexer.lineNumber⟩,
      lexer.columnNumber), last)

/-! ### Numbers -/

/-- The letters that the source lists apart are letters like the others. -/
def isNumberChar (c : Char) : Bool :=
  c.isAlphanum || c = '-' || c = '.' || c = '+'

/-- A text without the minus sign at its start. -/
def withoutMinus : List Char → List Char
  | '-' :: text => text
  | text => text

/-- A zero, one of the letters, and digits of the base. -/
def matchesPrefixed (base : Nat) (letters : List Char) (value : List Char) : Bool :=
  match withoutMinus value with
  | '0' :: letter :: digits =>
    letters.contains letter && !digits.isEmpty && digits.all (isDigitOf base)
  | _ => false

def matchesHex (value : List Char) : Bool :=
  matchesPrefixed 16 ['x', 'X'] value

def matchesBinary (value : List Char) : Bool :=
  matchesPrefixed 2 ['b', 'B'] value

def matchesOctal (value : List Char) : Bool :=
  matchesPrefixed 8 ['o', 'O'] value

def matchesDecimal (value : List Char) : Bool :=
  let digits := withoutMinus value
  !digits.isEmpty && digits.all (isDigitOf 10)

/-- An exponent: a letter, an optional sign, and digits. -/
def matchesExponent : List Char → Bool
  | letter :: text =>
    let digits := match text with
      | '-' :: digits => digits
      | '+' :: digits => digits
      | digits => digits
    (letter = 'e' || letter = 'E') && !digits.isEmpty && digits.all (isDigitOf 10)
  | [] => false

/-- Digits with a point and an optional exponent, or with an exponent. -/
def matchesFloat (value : List Char) : Bool :=
  let text := withoutMinus value
  match text.dropWhile (isDigitOf 10) with
  | '.' :: text =>
    let exponent := text.dropWhile (isDigitOf 10)
    (text.head?.any (isDigitOf 10)) && (exponent.isEmpty || matchesExponent exponent)
  | exponent => (text.head?.any (isDigitOf 10)) && matchesExponent exponent

/-- The text that `stoll` reads: the letter and the zero before it are taken out. -/
def withoutPrefix (value : List Char) : List Char :=
  if value.head? = some '-' then '-' :: value.drop 3 else value.drop 2

/-- The type and the value of a number; `fixed` is `std::to_string` of a double. -/
def numberValue (reader : FloatReader) (fixed : BitVec 64 → String) (value : List Char) :
    Except ConversionError (TokenType × String) :=
  let num (n : Int) := (TokenType.num, String.ofList (toDecimal n))
  if matchesHex value then (stollIn 16 (withoutPrefix value)).map num
  else if matchesBinary value then (stollIn 2 (withoutPrefix value)).map num
  else if matchesOctal value then (stollIn 8 (withoutPrefix value)).map num
  else if matchesDecimal value then (stollIn 10 value).map num
  else if matchesFloat value then (reader.stod value).map fun bits => (.float, fixed bits)
  else .ok (.invalid, "Invalid")

/-- The start of a number is kept in 32 bits, unlike the position at which it ends. -/
def number (reader : FloatReader) (fixed : BitVec 64 → String) (lexer : Lexer) :
    Except ConversionError ((Token × BitVec 32) × Lexer) :=
  let startPos := (BitVec.ofNat 32 lexer.pos).toNat
  let last := lexer.advance (lexer.rest.takeWhile isNumberChar).length
  let text := (lexer.currentLine.drop startPos).take (last.pos - startPos)
  (numberValue reader fixed text).map fun (type, value) =>
    ((⟨type, value, lexer.lineNumber⟩, lexer.columnNumber), last)

/-! ### The tokens of a file -/

/-- The column does not count the point. -/
def directive (lexer : Lexer) : (Token × BitVec 32) × Lexer :=
  let start := { lexer with pos := lexer.pos + 1 }
  let value := start.rest.takeWhile Char.isAlpha
  ((⟨.directive, String.ofList value, lexer.lineNumber⟩, lexer.columnNumber),
    start.advance value.length)

/-- A token that is one character. -/
def single (type : TokenType) (value : String) (lexer : Lexer) : (Token × BitVec 32) × Lexer :=
  ((⟨type, value, lexer.lineNumber⟩, lexer.columnNumber), lexer.advance 1)

/-- The token at the current position, which is behind white space and comments. -/
def readToken (reader : FloatReader) (fixed : BitVec 64 → String) (tokens : List Token)
    (lexer : Lexer) : Except ConversionError ((Token × BitVec 32) × Lexer) :=
  match lexer.rest with
  | [] => .ok ((⟨.eof, "", lexer.lineNumber⟩, BitVec.ofNat 32 lexer.pos), lexer)
  | c :: _ =>
    if c.isAlpha || c = '_' then .ok (lexer.identifier tokens)
    else if c.isDigit || c = '-' then lexer.number reader fixed
    else if c = ',' then .ok (lexer.single .comma ",")
    else if c = '"' then .ok lexer.stringLiteral
    else if c = '(' then .ok (lexer.single .lparen "(")
    else if c = ')' then .ok (lexer.single .rparen ")")
    else if c = '.' then .ok lexer.directive
    else
      let last := lexer.skipLine
      .ok ((⟨.invalid, "", last.lineNumber⟩, last.columnNumber - 1#32), last)

def getNextToken (reader : FloatReader) (fixed : BitVec 64 → String) (tokens : List Token)
    (lexer : Lexer) : Except ConversionError ((Token × BitVec 32) × Lexer) :=
  (skipBlanks (lexer.rest.length + 1) lexer).readToken reader fixed tokens

/-- The lexer with the tokens it has collected, each with its column. -/
structure Progress where
  lexer : Lexer
  tokens : List (Token × BitVec 32)

/-- A round of the loop over a line; the end of a line is no token. -/
def addToken (reader : FloatReader) (fixed : BitVec 64 → String) (s : Progress) :
    Except AssemblerError Progress :=
  ((s.lexer.getNextToken reader fixed (s.tokens.map (·.1))).mapError .conversion).map
    fun (token, lexer) =>
      { lexer := lexer
        tokens := if token.1.type = .eof then s.tokens else s.tokens ++ [token] }

/-- The tokens of a line.  Every round reads a character. -/
def addLine (reader : FloatReader) (fixed : BitVec 64 → String) (s : Progress)
    (line : List Char) : Except AssemblerError Progress :=
  runWithin .unfinished (·.lexer.rest.isEmpty) (addToken reader fixed) (line.length + 1)
    { s with lexer := { currentLine := line, lineNumber := s.lexer.lineNumber + 1#32 } }

/-- The tokens of a file, given its contents. -/
def getTokenList (reader : FloatReader) (fixed : BitVec 64 → String) (input : List Char) :
    Except AssemblerError (List (Token × BitVec 32)) := do
  let s ← (getLines input).foldlM (addLine reader fixed)
    { lexer := { currentLine := [], lineNumber := 0#32, columnNumber := 0#32 }, tokens := [] }
  pure (s.tokens ++ [(⟨.eof, "", s.lexer.lineNumber⟩, s.lexer.columnNumber)])

end Lexer

end RiscvSim

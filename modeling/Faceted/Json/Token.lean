import Faceted.Json.Basic

/-!
# Tokens of JSON text

Text is read byte by byte into brackets, commas, colons, words, numbers and strings. A string whose
bytes are not UTF-8, or that holds half of a surrogate pair, and a number beyond the doubles are
still tokens: they only carry no value, and are refused once somebody asks for it.

## Main definitions

* `Token` — one token
* `Lexer` — the tokens so far and the token being read
* `Token.read` — all tokens of a text
-/

namespace Faceted.Json

/-- A token of JSON text. -/
inductive Token where
  | openBrace
  | closeBrace
  | openBracket
  | closeBracket
  | comma
  | colon
  | null
  | bool (value : Bool)
  /-- A number; it has no value if it lies beyond the doubles. -/
  | number (value : Option Number)
  /-- A string; it has no value if its content is not text. -/
  | text (value : Option String)
deriving DecidableEq

/-! ### Numbers -/

/-- Takes the digits at the front. -/
def spanDigits : List Char → List Nat × List Char
  | [] => ([], [])
  | c :: rest =>
    if c.isDigit then
      let (digits, others) := spanDigits rest
      ((c.toNat - 48) :: digits, others)
    else ([], c :: rest)

/-- The number that digits form. -/
def digitsValue (digits : List Nat) : Nat :=
  digits.foldl (fun n digit => 10 * n + digit) 0

/-- The digits after a point, of which there must be one; none if there is no point. -/
def fractionPart : List Char → Option (List Nat × List Char)
  | '.' :: rest =>
    match spanDigits rest with
    | ([], _) => none
    | (digits, others) => some (digits, others)
  | others => some ([], others)

/-- The exponent after a letter `e`, which must end the text; none stands for no exponent. -/
def exponentPart : List Char → Option (Option Int)
  | [] => some none
  | letter :: rest =>
    if letter = 'e' || letter = 'E' then
      let (negative, rest) :=
        match rest with
        | '+' :: others => (false, others)
        | '-' :: others => (true, others)
        | others => (false, others)
      match spanDigits rest with
      | ([], _) => none
      | (digits, []) =>
        let magnitude : Int := digitsValue digits
        some (some (if negative then -magnitude else magnitude))
      | (_, _ :: _) => none
    else none

/-- The number that a text spells, in two layers: nothing if the text spells no number, and no value
if the number lies beyond the doubles. Without fraction and exponent it is an integer if it fits 64
bits, signed or not; minus zero and all other numbers are doubles. -/
def readNumber (chars : List Char) : Option (Option Number) :=
  let (negative, chars) :=
    match chars with
    | '-' :: rest => (true, rest)
    | rest => (false, rest)
  let (whole, rest) := spanDigits chars
  match whole with
  | [] => none
  | 0 :: _ :: _ => none
  | _ =>
    match fractionPart rest with
    | none => none
    | some (fraction, rest) =>
      match exponentPart rest with
      | none => none
      | some exponent =>
        let magnitude := digitsValue whole
        if fraction.isEmpty && exponent.isNone && negative && magnitude != 0 &&
            decide (magnitude ≤ 1 <<< 63) then
          some (some (.integer (-(magnitude : Int))))
        else if fraction.isEmpty && exponent.isNone && !negative &&
            decide (magnitude < 1 <<< 64) then
          some (some (.integer magnitude))
        else
          let literal : Decimal.Literal := ⟨negative, whole, fraction, exponent.getD 0⟩
          some (literal.toDouble.bind Number.ofDouble?)

/-! ### Strings -/

/-- A piece of a string: a byte as it stands, or a sixteen-bit unit that an escape spells. -/
inductive Piece where
  | byte (value : UInt8)
  | unit (value : Nat)
deriving DecidableEq

/-- The bytes of a string, if its surrogates come in pairs. -/
def pieceBytes : List Piece → Option (List UInt8)
  | [] => some []
  | .byte b :: rest => (pieceBytes rest).map (b :: ·)
  | .unit high :: .unit low :: rest =>
    if 0xD800 ≤ high ∧ high < 0xDC00 then
      if 0xDC00 ≤ low ∧ low < 0xE000 then
        let code := 0x10000 + (high - 0xD800) * 0x400 + (low - 0xDC00)
        (pieceBytes rest).map ((String.singleton (Char.ofNat code)).toUTF8.toList ++ ·)
      else none
    else if 0xDC00 ≤ high ∧ high < 0xE000 then none
    else (pieceBytes (.unit low :: rest)).map
      ((String.singleton (Char.ofNat high)).toUTF8.toList ++ ·)
  | .unit code :: rest =>
    if 0xD800 ≤ code ∧ code < 0xE000 then none
    else (pieceBytes rest).map ((String.singleton (Char.ofNat code)).toUTF8.toList ++ ·)

/-- The text of a string, if its pieces are text. -/
def piecesText? (pieces : List Piece) : Option String :=
  (pieceBytes pieces).bind fun bytes => String.fromUTF8? ⟨bytes.toArray⟩

/-- The byte that a letter after a backslash stands for. -/
def simpleEscape? (b : UInt8) : Option UInt8 :=
  if b == 0x22 || b == 0x5C || b == 0x2F then some b
  else if b == 0x62 then some 0x08
  else if b == 0x66 then some 0x0C
  else if b == 0x6E then some 0x0A
  else if b == 0x72 then some 0x0D
  else if b == 0x74 then some 0x09
  else none

/-- The value of a hexadecimal digit. -/
def hexValue? (b : UInt8) : Option Nat :=
  let n := b.toNat
  if 48 ≤ n ∧ n ≤ 57 then some (n - 48)
  else if 97 ≤ n ∧ n ≤ 102 then some (n - 87)
  else if 65 ≤ n ∧ n ≤ 70 then some (n - 55)
  else none

/-! ### The lexer -/

/-- The token being read. Pieces and characters are held last first. -/
inductive Mode where
  | between
  | word (letters : List Char)
  | number (chars : List Char)
  | string (pieces : List Piece)
  /-- After a backslash. -/
  | escape (pieces : List Piece)
  /-- Inside a code of four hexadecimal digits, `owed` of which are still to come. -/
  | code (pieces : List Piece) (value owed : Nat)

/-- The tokens read so far, last first, and the token being read. -/
structure Lexer where
  tokens : List Token
  mode : Mode

namespace Lexer

/-- The token that a word stands for. -/
def wordToken (letters : List Char) : Option Token :=
  if letters = ['n', 'u', 'l', 'l'] then some .null
  else if letters = ['t', 'r', 'u', 'e'] then some (.bool true)
  else if letters = ['f', 'a', 'l', 's', 'e'] then some (.bool false)
  else none

/-- Whether a byte may be part of a number. -/
def isNumeral (b : UInt8) : Bool :=
  (48 ≤ b && b ≤ 57) || b == 0x2B || b == 0x2D || b == 0x2E || b == 0x45 || b == 0x65

/-- Whether a byte is a small letter. -/
def isLetter (b : UInt8) : Bool :=
  97 ≤ b && b ≤ 122

/-- A byte as the character of the same code. -/
def asChar (b : UInt8) : Char :=
  Char.ofNat b.toNat

/-- Reads a byte that begins a token or is blank. -/
def begin (tokens : List Token) (b : UInt8) : Option Lexer :=
  if b == 0x20 || b == 0x09 || b == 0x0A || b == 0x0D then some ⟨tokens, .between⟩
  else if b == 0x7B then some ⟨.openBrace :: tokens, .between⟩
  else if b == 0x7D then some ⟨.closeBrace :: tokens, .between⟩
  else if b == 0x5B then some ⟨.openBracket :: tokens, .between⟩
  else if b == 0x5D then some ⟨.closeBracket :: tokens, .between⟩
  else if b == 0x2C then some ⟨.comma :: tokens, .between⟩
  else if b == 0x3A then some ⟨.colon :: tokens, .between⟩
  else if b == 0x22 then some ⟨tokens, .string []⟩
  else if isLetter b then some ⟨tokens, .word [asChar b]⟩
  else if isNumeral b then some ⟨tokens, .number [asChar b]⟩
  else none

/-- Reads one byte. -/
def feed (lexer : Lexer) (b : UInt8) : Option Lexer :=
  match lexer.mode with
  | .between => begin lexer.tokens b
  | .word letters =>
    if isLetter b then some ⟨lexer.tokens, .word (asChar b :: letters)⟩
    else do
      let token ← wordToken letters.reverse
      begin (token :: lexer.tokens) b
  | .number chars =>
    if isNumeral b then some ⟨lexer.tokens, .number (asChar b :: chars)⟩
    else do
      let value ← readNumber chars.reverse
      begin (.number value :: lexer.tokens) b
  | .string pieces =>
    if b == 0x22 then some ⟨.text (piecesText? pieces.reverse) :: lexer.tokens, .between⟩
    else if b == 0x5C then some ⟨lexer.tokens, .escape pieces⟩
    else if b < 0x20 then none
    else some ⟨lexer.tokens, .string (.byte b :: pieces)⟩
  | .escape pieces =>
    if b == 0x75 then some ⟨lexer.tokens, .code pieces 0 4⟩
    else do
      let byte ← simpleEscape? b
      some ⟨lexer.tokens, .string (.byte byte :: pieces)⟩
  | .code pieces value owed => do
    let digit ← hexValue? b
    let value := 16 * value + digit
    if owed ≤ 1 then some ⟨lexer.tokens, .string (.unit value :: pieces)⟩
    else some ⟨lexer.tokens, .code pieces value (owed - 1)⟩

/-- The tokens at the end of the text, in order. A string must have been closed. -/
def finish (lexer : Lexer) : Option (List Token) :=
  match lexer.mode with
  | .between => some lexer.tokens.reverse
  | .word letters => do
    let token ← wordToken letters.reverse
    some (token :: lexer.tokens).reverse
  | .number chars => do
    let value ← readNumber chars.reverse
    some (.number value :: lexer.tokens).reverse
  | _ => none

end Lexer

/-- All tokens of a text given by its bytes. -/
def Token.read (bytes : List UInt8) : Option (List Token) :=
  (bytes.foldlM Lexer.feed ⟨[], .between⟩).bind Lexer.finish

end Faceted.Json

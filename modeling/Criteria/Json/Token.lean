import Criteria.Text.Caseless

/-!
The tokens of a JSON text.

`Token.ofText?` reads a text in one pass. Numbers and strings are kept as they are
written: whether a number can be held, and whether the escapes of a string make up
characters, is asked only of those that are used.
-/

namespace Criteria.Json

/-- One unit of a written string: a character, or a code unit of UTF-16 given by
its number. -/
inductive Glyph where
  | character (value : Char)
  | codeUnit (value : Nat)
  deriving DecidableEq, Repr

namespace Glyph

/-- The characters of a written string. None if a surrogate has no partner. -/
def decode? : List Glyph → Option (List Char)
  | [] => some []
  | .character value :: rest => (decode? rest).map (value :: ·)
  | .codeUnit high :: .codeUnit low :: rest =>
      if 0xD800 ≤ high ∧ high < 0xDC00 then
        if 0xDC00 ≤ low ∧ low < 0xE000 then
          (decode? rest).map
            (Char.ofNat (0x10000 + (high - 0xD800) * 0x400 + (low - 0xDC00)) :: ·)
        else none
      else if 0xDC00 ≤ high ∧ high < 0xE000 then none
      else (decode? (.codeUnit low :: rest)).map (Char.ofNat high :: ·)
  | .codeUnit value :: rest =>
      if 0xD800 ≤ value ∧ value < 0xE000 then none
      else (decode? rest).map (Char.ofNat value :: ·)

end Glyph

structure NumberText where
  negative : Bool
  whole : List Char
  fraction : Option (List Char)
  exponent : Option Int
  deriving DecidableEq, Repr

namespace NumberText

def whole? : List Char → Option (List Char × List Char)
  | '0' :: rest => some (['0'], rest)
  | text =>
      let (digits, rest) := text.span Char.isDigit
      if digits.isEmpty then none else some (digits, rest)

def fraction? : List Char → Option (Option (List Char) × List Char)
  | '.' :: rest =>
      let (digits, after) := rest.span Char.isDigit
      if digits.isEmpty then none else some (some digits, after)
  | rest => some (none, rest)

def digits? (digits : List Char) : Option Int :=
  if !digits.isEmpty && digits.all Char.isDigit then some (Nat.ofDigitChars 10 digits 0)
  else none

def exponent? : List Char → Option (Option Int)
  | [] => some none
  | mark :: text =>
      if mark = 'e' ∨ mark = 'E' then
        match text with
        | '-' :: digits => (digits? digits).map fun value => some (-value)
        | '+' :: digits => (digits? digits).map some
        | digits => (digits? digits).map some
      else none

def read? (text : List Char) : Option NumberText := do
  let (negative, text) := match text with
    | '-' :: rest => (true, rest)
    | text => (false, text)
  let (whole, text) ← whole? text
  let (fraction, text) ← fraction? text
  let exponent ← exponent? text
  return { negative, whole, fraction, exponent }

end NumberText

inductive Token where
  | openArray
  | closeArray
  | openObject
  | closeObject
  | comma
  | colon
  | null
  | bool (value : Bool)
  | number (text : NumberText)
  | string (glyphs : List Glyph)
  deriving DecidableEq, Repr

namespace Token

/-! ## Scanning -/

/-- What the scanner is inside of, with the characters of it so far, the last one first.
-/
inductive Part where
  | nothing
  | word (characters : List Char)
  | number (characters : List Char)
  | string (glyphs : List Glyph)
  | escape (glyphs : List Glyph)
  | codeUnit (glyphs : List Glyph) (digits value : Nat)

structure Scanner where
  tokens : List Token
  part : Part

namespace Scanner

def push (scanner : Scanner) (token : Token) : Scanner :=
  ⟨token :: scanner.tokens, .nothing⟩

/-- Ends a word or a number that may end anywhere. -/
def settle? (scanner : Scanner) : Option Scanner :=
  match scanner.part with
  | .nothing => some scanner
  | .word characters =>
      let word := characters.reverse
      if word = "null".toList then some (scanner.push .null)
      else if word = "true".toList then some (scanner.push (.bool true))
      else if word = "false".toList then some (scanner.push (.bool false))
      else none
  | .number characters => (NumberText.read? characters.reverse).map fun text =>
      scanner.push (.number text)
  | _ => none

def start? (scanner : Scanner) (character : Char) : Option Scanner :=
  match character with
  | ' ' | '\n' | '\t' | '\r' => some scanner
  | '[' => some (scanner.push .openArray)
  | ']' => some (scanner.push .closeArray)
  | '{' => some (scanner.push .openObject)
  | '}' => some (scanner.push .closeObject)
  | ',' => some (scanner.push .comma)
  | ':' => some (scanner.push .colon)
  | '"' => some { scanner with part := .string [] }
  | _ =>
      if character = '-' ∨ character.isDigit then
        some { scanner with part := .number [character] }
      else if character.isLower then some { scanner with part := .word [character] }
      else none

def escaped? : Char → Option Char
  | '"' => some '"'
  | '\\' => some '\\'
  | '/' => some '/'
  | 'b' => some '\x08'
  | 'f' => some '\x0C'
  | 'n' => some '\n'
  | 'r' => some '\r'
  | 't' => some '\t'
  | _ => none

def inNumber (character : Char) : Bool :=
  character.isDigit || character == '+' || character == '-' || character == '.' ||
    character == 'e' || character == 'E'

def step? (scanner : Scanner) (character : Char) : Option Scanner :=
  match scanner.part with
  | .nothing => scanner.start? character
  | .word characters =>
      if character.isLower then
        some { scanner with part := .word (character :: characters) }
      else scanner.settle?.bind (·.start? character)
  | .number characters =>
      if inNumber character then
        some { scanner with part := .number (character :: characters) }
      else scanner.settle?.bind (·.start? character)
  | .string glyphs =>
      if character = '"' then some (scanner.push (.string glyphs.reverse))
      else if character = '\\' then some { scanner with part := .escape glyphs }
      else if character.toNat < 0x20 then none
      else some { scanner with part := .string (.character character :: glyphs) }
  | .escape glyphs =>
      if character = 'u' then some { scanner with part := .codeUnit glyphs 0 0 }
      else (escaped? character).map fun value =>
        { scanner with part := .string (.character value :: glyphs) }
  | .codeUnit glyphs digits value =>
      (Text.hexDigit? character).map fun digit =>
        let value := 16 * value + digit
        if digits = 3 then { scanner with part := .string (.codeUnit value :: glyphs) }
        else { scanner with part := .codeUnit glyphs (digits + 1) value }

end Scanner

def ofText? (text : List Char) : Option (List Token) :=
  ((text.foldlM Scanner.step? ⟨[], .nothing⟩).bind Scanner.settle?).map (·.tokens.reverse)

end Token

end Criteria.Json

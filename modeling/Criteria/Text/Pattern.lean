import Criteria.Text.Blank
import Criteria.Text.Caseless
import Criteria.Text.Numeric

/-!
Regular expressions, and whether a text is one. Nothing is matched here.

`isPattern` reads a text from the left. It keeps the options in force and those around
each open group, the names of the groups, and whether there is something that a
repetition can repeat.

Some parts need a table of characters: digits, blanks, the characters of words and their
boundaries, and letters whose case does not count. They exist for bytes only, where the
table is that of ASCII. A part that matches a byte beyond ASCII is refused, because such
a byte is no character.
-/

namespace Criteria.Text.Pattern

/-! ## Options -/

structure Options where
  /-- Blanks between the parts do not count, and neither does a line after `#`. -/
  spaced : Bool := false
  caseless : Bool := false
  bytes : Bool := false

namespace Options

def dropWhere (options : Options) (also : Char → Bool) (inComment : Bool) :
    List Char → List Char
  | [] => []
  | character :: rest =>
      if inComment then options.dropWhere also (character != '\n') rest
      else if also character || (options.spaced && isBlank character) then
        options.dropWhere also false rest
      else if options.spaced && character == '#' then options.dropWhere also true rest
      else character :: rest

def skip (options : Options) (text : List Char) : List Char :=
  options.dropWhere (fun _ => false) false text

def switch? (options : Options) (letters : List Char) : Option Options :=
  if letters.all
    (fun letter => "imsUuRx-".toList.contains letter && letters.count letter == 1) &&
      letters.getLast? != some '-' then
    let (on, off) := letters.span (· != '-')
    some {
      spaced := on.contains 'x' || (options.spaced && !off.contains 'x')
      caseless := on.contains 'i' || (options.caseless && !off.contains 'i')
      bytes := off.contains 'u' || (options.bytes && !on.contains 'u') }
  else none

end Options

/-! ## Escapes -/

inductive Escape where
  | literal (character : Char)
  | table (others : Bool)
  | wordBoundary
  | textBoundary

namespace Escape

def numbered? (options : Options) (count : Nat) (text : List Char) :
    Option (Escape × List Char) :=
  (digits? count 0 text).bind fun (value, rest) =>
    if value.isValidChar && !(options.bytes && count == 2 && 0x80 ≤ value) then
      some (.literal (Char.ofNat value), rest)
    else none
where
  digits? : Nat → Nat → List Char → Option (Nat × List Char)
    | 0, value, text => some (value, text)
    | count + 1, value, text =>
        match options.skip text with
        | [] => none
        | digit :: rest =>
            (hexDigit? digit).bind fun digit => digits? count (16 * value + digit) rest

def read? (options : Options) : List Char → Option (Escape × List Char)
  | [] => none
  | letter :: rest =>
      match letter with
      | 'a' => some (.literal '\x07', rest)
      | 'f' => some (.literal '\x0C', rest)
      | 'n' => some (.literal '\n', rest)
      | 'r' => some (.literal '\r', rest)
      | 't' => some (.literal '\t', rest)
      | 'v' => some (.literal '\x0B', rest)
      | 'x' => numbered? options 2 rest
      | 'u' => numbered? options 4 rest
      | 'U' => numbered? options 8 rest
      | 'd' | 's' | 'w' => some (.table false, rest)
      | 'D' | 'S' | 'W' => some (.table true, rest)
      | 'b' | 'B' | '<' | '>' => some (.wordBoundary, rest)
      | 'A' | 'z' => some (.textBoundary, rest)
      | _ => if letter.val < 0x80 && !letter.isAlphanum then
          some (.literal letter, rest) else none

def fits (options : Options) : Escape → Bool
  | .literal _ => options.bytes || !options.caseless
  | .table others => options.bytes && !others
  | .wordBoundary => options.bytes
  | .textBoundary => true

def fitsClass (options : Options) : Escape → Bool
  | .literal character => !options.bytes || character.val < 0x80
  | .table others => options.bytes && !others
  | .wordBoundary | .textBoundary => false

end Escape

/-! ## Classes in brackets -/

namespace Class

def names : List String :=
  ["alnum", "alpha", "ascii", "blank", "cntrl", "digit", "graph", "lower", "print",
    "punct", "space", "upper", "word", "xdigit"]

/-- A named class after its bracket, such as `:alpha:]`, and whether it is negated. -/
def named? : List Char → Option (Bool × List Char)
  | ':' :: '^' :: text => (named text).map fun rest => (true, rest)
  | ':' :: text => (named text).map fun rest => (false, rest)
  | _ => none
where
  named (text : List Char) : Option (List Char) :=
    match text.span (· != ':') with
    | (name, ':' :: ']' :: rest) =>
        if names.contains (String.ofList name) then some rest else none
    | _ => none

/-- The items of a class whose bracket has been read. A bracket that closes the class is
an item if it comes first. -/
def opened? (options : Options) (text : List Char) : Option (List Char) :=
  match options.skip text with
  | '^' :: rest => if options.bytes then none else some (items rest)
  | text => some (items text)
where
  items (text : List Char) : List Char :=
    match options.skip text with
    | ']' :: rest => rest
    | text => options.dropWhere (· == '-') false text

def item? (options : Options) (text : List Char) : Option (Escape × List Char) :=
  (match text with
    | [] => none
    | '\\' :: rest => Escape.read? options rest
    | character :: rest => some (.literal character, rest)).filter fun (item, _) =>
        item.fitsClass options

def range? (options : Options) (text : List Char) : Option (List Char) := do
  let (first, rest) ← item? options text
  match options.skip rest with
  | '-' :: after =>
      match options.skip after with
      | ']' :: _ | '-' :: _ => some ('-' :: after)
      | after =>
          match first, ← item? options after with
          | .literal first, (.literal last, rest) =>
              if first ≤ last then some rest else none
          | _, _ => none
  | rest => some rest

/-- The text after the bracket that closes a class with `inner` more classes open inside
it. Each step takes at least one character. -/
def closed? (options : Options) : (steps inner : Nat) → List Char → Option (List Char)
  | 0, _, _ => none
  | steps + 1, inner, text =>
      match options.skip text with
      | [] => none
      | ']' :: rest =>
          match inner with
          | 0 => some rest
          | inner + 1 => closed? options steps inner rest
      | '[' :: rest =>
          match named? rest with
          | some (negated, rest) =>
              if negated && options.bytes then none else closed? options steps inner rest
          | none => (opened? options rest).bind (closed? options steps (inner + 1))
      | '&' :: '&' :: rest | '-' :: '-' :: rest | '~' :: '~' :: rest =>
          closed? options steps inner rest
      | text => (range? options text).bind (closed? options steps inner)

def read? (options : Options) (text : List Char) : Option (List Char) :=
  if options.caseless && !options.bytes then none
  else (opened? options text).bind (closed? options (text.length + 1) 0)

end Class

/-! ## The whole -/

structure Reader where
  options : Options := {}
  outer : List Options := []
  names : List (List Char) := []
  repeatable : Bool := false

namespace Reader

def isName (name : List Char) : Bool :=
  match name with
  | [] => false
  | first :: rest =>
      (first == '_' || isAlphabetic first) &&
        rest.all fun character => "_.[]".toList.contains character ||
          isAlphanumeric character

def openGroup (reader : Reader) (options : Options) : Reader :=
  { reader with options, outer := reader.options :: reader.outer, repeatable := false }

def named? (reader : Reader) (text : List Char) : Option (Reader × List Char) :=
  match text.span (· != '>') with
  | (name, '>' :: rest) =>
      if isName name && !reader.names.contains name then
        some ({ reader.openGroup reader.options with names := name :: reader.names },
          rest)
      else none
  | _ => none

def group? (reader : Reader) (text : List Char) : Option (Reader × List Char) :=
  match reader.options.skip text with
  | '?' :: 'P' :: '<' :: rest | '?' :: '<' :: rest => reader.named? rest
  | '?' :: rest =>
      let (letters, rest) :=
        rest.span fun character => character != ':' && character != ')'
      (reader.options.switch? letters).bind fun options =>
        match rest with
        | ':' :: rest => some (reader.openGroup options, rest)
        | ')' :: rest =>
            if letters.isEmpty then none
              else some ({ reader with options, repeatable := false }, rest)
        | _ => none
  | rest => some (reader.openGroup reader.options, rest)

/-- One part of a pattern, which starts the text. A repetition after it is a part
of its own. -/
def part? (reader : Reader) (first : Char) (rest : List Char) :
    Option (Reader × List Char) :=
  let part := { reader with repeatable := true }
  match first with
  | '(' => reader.group? rest
  | ')' =>
      match reader.outer with
      | [] => none
      | options :: outer => some ({ part with options, outer }, rest)
  | '|' => some ({ reader with repeatable := false }, rest)
  | '[' => (Class.read? reader.options rest).map fun rest => (part, rest)
  | '?' | '*' | '+' =>
      if reader.repeatable then
        some (reader, if rest.head? = some '?' then rest.tail else rest)
      else none
  | '{' => none
  | '.' => if reader.options.bytes then none else some (part, rest)
  | '^' | '$' => some (part, rest)
  | '\\' =>
      (Escape.read? reader.options rest).bind fun (escape, rest) =>
        if escape.fits reader.options then some (part, rest) else none
  | character =>
      if (Escape.literal character).fits reader.options then some (part, rest) else none

def finishes : (steps : Nat) → Reader → List Char → Bool
  | 0, _, _ => false
  | steps + 1, reader, text =>
      match reader.options.skip text with
      | [] => reader.outer.isEmpty
      | first :: rest =>
          (reader.part? first rest).any fun (reader, rest) => finishes steps reader rest

end Reader

end Pattern

/-- A count in braces is no part of a pattern. -/
def isPattern (text : List Char) : Bool :=
  Pattern.Reader.finishes (text.length + 1) {} text

end Criteria.Text

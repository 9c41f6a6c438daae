import Criteria.Text.Nesting

/-!
Quoted texts. `quote` writes a text between double quotes, a backslash before each quote
and each backslash in it. `unquote?` reads such a text back, and it also reads texts in
which a backslash stands before some other character: there the backslash is kept.
-/

namespace Criteria.Text

/-! ## Writing -/

def escape : List Char → List Char
  | [] => []
  | character :: rest =>
      if character = '"' ∨ character = '\\' then '\\' :: character :: escape rest
      else character :: escape rest

def quote (text : List Char) : List Char :=
  '"' :: escape text ++ ['"']

/-! ## Reading -/

def unescape? : List Char → Option (List Char)
  | [] => none
  | '"' :: rest => if rest.isEmpty then some [] else none
  | ['\\'] => none
  | '\\' :: character :: rest =>
      if character = '"' ∨ character = '\\' then (unescape? rest).map (character :: ·)
      else (unescape? rest).map ('\\' :: character :: ·)
  | character :: rest => (unescape? rest).map (character :: ·)

/-- The text that a quoted text stands for. None unless the text starts with a double
quote and its last character is the quote that closes it. -/
def unquote? : List Char → Option (List Char)
  | '"' :: rest => unescape? rest
  | _ => none

def quotedPart? : List Char → Option (List Char × List Char)
  | '"' :: rest => (Quoting.quoted.closing? rest).map fun (run, after) =>
      ('"' :: run, after)
  | _ => none

/-! ## Reading what was written -/

theorem unescape?_escape (text : List Char) :
    unescape? (escape text ++ ['"']) = some text := by
  induction text with
  | nil => rfl
  | cons character rest induction =>
      by_cases special : character = '"' ∨ character = '\\'
      · simp [escape, unescape?, special, induction]
      · rcases not_or.mp special with ⟨notQuote, notBackslash⟩
        simp [escape, unescape?, notQuote, notBackslash, induction]

theorem unquote?_quote (text : List Char) : unquote? (quote text) = some text :=
  unescape?_escape text

example : unquote? "\"a\\\"b\"".toList = some "a\"b".toList := by decide +kernel

end Criteria.Text

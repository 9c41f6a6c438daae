import Criteria.Text.Extending
import Criteria.Text.Unseen

/-!
Texts for people to read: between double quotes, with escapes for quotes, for
backslashes and for the characters that would not be seen by themselves.
-/

namespace Criteria.Text

/-- The two halfwidth sound marks of katakana. They extend the character before them,
but they take a place of their own on the line. -/
def isSoundMark (character : Char) : Bool :=
  character == '\uFF9E' || character == '\uFF9F'

def isHidden (character : Char) : Bool :=
  isUnseen character || isIgnorable character ||
    (isExtending character && !isSoundMark character)

def shownCharacter (character : Char) : List Char :=
  match character with
  | '\x00' => "\\0".toList
  | '\t' => "\\t".toList
  | '\r' => "\\r".toList
  | '\n' => "\\n".toList
  | '"' => "\\\"".toList
  | '\\' => "\\\\".toList
  | _ =>
      if isHidden character then
        "\\u\x7b".toList ++ Nat.toDigits 16 character.toNat ++ "\x7d".toList
      else [character]

def shown (text : String) : String :=
  String.ofList ('"' :: text.toList.flatMap shownCharacter ++ ['"'])

def shownList (texts : List String) : String :=
  "[" ++ ", ".intercalate (texts.map shown) ++ "]"

end Criteria.Text

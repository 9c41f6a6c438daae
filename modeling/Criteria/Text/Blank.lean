/-!
Blank characters, and texts cut at blanks or other characters.

A text being read is a `List Char`. `trim` removes the blanks at both ends,
`splitWhere` cuts a text at every character of a class, and `words` are the pieces
between runs of blanks.
-/

namespace Criteria

/-- The characters with the Unicode property White_Space, all twenty-five of them. -/
def isBlank (character : Char) : Bool :=
  let point := character.val
  (0x09 ≤ point && point ≤ 0x0D) || point == 0x20 || point == 0x85 || point == 0xA0 ||
    point == 0x1680 || (0x2000 ≤ point && point ≤ 0x200A) || point == 0x2028 ||
    point == 0x2029 || point == 0x202F || point == 0x205F || point == 0x3000

namespace Text

/-! ## Trimming -/

def trimStart (text : List Char) : List Char :=
  text.dropWhile isBlank

def trimEnd (text : List Char) : List Char :=
  (text.reverse.dropWhile isBlank).reverse

def trim (text : List Char) : List Char :=
  trimEnd (trimStart text)

def allBlank (text : List Char) : Bool :=
  text.all isBlank

/-! ## Cutting -/

/-- The pieces between the characters of the class `cut`. There is always at least one
piece, and pieces may be empty. -/
def splitWhere (cut : Char → Bool) : List Char → List (List Char)
  | [] => [[]]
  | character :: rest =>
      if cut character then [] :: splitWhere cut rest
      else (splitWhere cut rest).modifyHead (character :: ·)

theorem splitWhere_ne_nil (cut : Char → Bool) (text : List Char) :
    splitWhere cut text ≠ [] := by
  induction text with
  | nil => simp [splitWhere]
  | cons character rest induction =>
      by_cases isCut : cut character
      · simp [splitWhere, isCut]
      · cases pieces : splitWhere cut rest with
        | nil => exact absurd pieces induction
        | cons piece pieces' => simp [splitWhere, isCut, pieces]

theorem not_cut_of_mem_splitWhere {cut : Char → Bool} {text piece : List Char}
    {character : Char} (pieceMember : piece ∈ splitWhere cut text)
    (member : character ∈ piece) :
    cut character = false := by
  induction text generalizing piece with
  | nil => simp_all [splitWhere]
  | cons head rest induction =>
      by_cases isCut : cut head
      · simp only [splitWhere, isCut, if_true, List.mem_cons] at pieceMember
        rcases pieceMember with rfl | pieceMember
        · simp at member
        · exact induction pieceMember member
      · cases pieces : splitWhere cut rest with
        | nil => exact absurd pieces (splitWhere_ne_nil cut rest)
        | cons first others =>
            simp only [splitWhere, isCut, pieces] at pieceMember induction
            simp only [Bool.false_eq_true, if_false, List.modifyHead_cons,
              List.mem_cons] at pieceMember
            rcases pieceMember with rfl | pieceMember
            · rcases List.mem_cons.mp member with rfl | member
              · simpa using isCut
              · exact induction (List.mem_cons_self) member
            · exact induction (List.mem_cons_of_mem _ pieceMember) member

def words (text : List Char) : List (List Char) :=
  (splitWhere isBlank text).filter (!·.isEmpty)

def joinWords (words : List (List Char)) : List Char :=
  [' '].intercalate words

end Text

end Criteria

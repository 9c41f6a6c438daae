/-!
Classes of characters that are given by a table: the ranges of their numbers, in
ascending order and apart from each other.
-/

namespace Criteria.Text

abbrev Ranges : Type :=
  List (Nat × Nat)

namespace Ranges

def contains (ranges : Ranges) (character : Char) : Bool :=
  ranges.any fun (first, last) => first ≤ character.toNat && character.toNat ≤ last

def wellFormed : Ranges → Bool
  | [] => true
  | [(first, last)] => first ≤ last
  | (first, last) :: (next, nextLast) :: rest =>
      first ≤ last && last + 1 < next && wellFormed ((next, nextLast) :: rest)

def count (ranges : Ranges) : Nat :=
  ranges.foldl (fun total (first, last) => total + (last + 1 - first)) 0

end Ranges

/-! ## Ignorable characters -/

/-- The Unicode property Default_Ignorable_Code_Point, version 17: fillers, joiners,
selectors of variants and the like, for which nothing is drawn even where a font lacks
them. Some of the fillers are letters. -/
def ignorable : Ranges :=
  [(0xAD, 0xAD), (0x34F, 0x34F), (0x61C, 0x61C), (0x115F, 0x1160), (0x17B4, 0x17B5),
    (0x180B, 0x180F), (0x200B, 0x200F), (0x202A, 0x202E), (0x2060, 0x206F),
    (0x3164, 0x3164), (0xFE00, 0xFE0F), (0xFEFF, 0xFEFF), (0xFFA0, 0xFFA0),
    (0xFFF0, 0xFFF8), (0x1BCA0, 0x1BCA3), (0x1D173, 0x1D17A), (0xE0000, 0xE0FFF)]

def isIgnorable (character : Char) : Bool :=
  ignorable.contains character

example : ignorable.wellFormed = true ∧ ignorable.count = 4174 := by decide +kernel

end Criteria.Text

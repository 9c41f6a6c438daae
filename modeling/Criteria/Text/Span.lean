/-!
Offsets into a text, counted in bytes of UTF-8, and the slice between two offsets.

A slice exists only when its offsets are in order, inside the text and between characters;
`slice?_append` says that the slice at the offsets of a part is that part.
-/

namespace Criteria

structure Span where
  start : Nat
  stop : Nat
  deriving DecidableEq, Repr

namespace Text

def byteSize : List Char → Nat
  | [] => 0
  | character :: rest => character.utf8Size + byteSize rest

def dropBytes? : Nat → List Char → Option (List Char)
  | 0, text => some text
  | _ + 1, [] => none
  | bytes + 1, character :: rest =>
      if character.utf8Size ≤ bytes + 1 then
        dropBytes? (bytes + 1 - character.utf8Size) rest
      else none

def takeBytes? : Nat → List Char → Option (List Char)
  | 0, _ => some []
  | _ + 1, [] => none
  | bytes + 1, character :: rest =>
      if character.utf8Size ≤ bytes + 1 then
        (takeBytes? (bytes + 1 - character.utf8Size) rest).map (character :: ·)
      else none

@[simp] theorem byteSize_append (left right : List Char) :
    byteSize (left ++ right) = byteSize left + byteSize right := by
  induction left with
  | nil => simp [byteSize]
  | cons character rest induction => simp [byteSize, induction, Nat.add_assoc]

theorem exists_byteSize_cons (character : Char) (rest : List Char) :
    ∃ size, byteSize (character :: rest) = size + 1 ∧ character.utf8Size ≤ size + 1 ∧
      size + 1 - character.utf8Size = byteSize rest := by
  have positive := character.utf8Size_pos
  refine ⟨character.utf8Size + byteSize rest - 1, ?_, ?_, ?_⟩
  · rw [byteSize]
    omega
  · omega
  · omega

theorem dropBytes?_append (left right : List Char) :
    dropBytes? (byteSize left) (left ++ right) = some right := by
  induction left with
  | nil => simp [byteSize, dropBytes?]
  | cons character rest induction =>
      rcases exists_byteSize_cons character rest with ⟨size, sizeEq, fits, remains⟩
      rw [sizeEq, List.cons_append, dropBytes?, if_pos fits, remains]
      exact induction

theorem takeBytes?_append (left right : List Char) :
    takeBytes? (byteSize left) (left ++ right) = some left := by
  induction left with
  | nil => simp [byteSize, takeBytes?]
  | cons character rest induction =>
      rcases exists_byteSize_cons character rest with ⟨size, sizeEq, fits, remains⟩
      rw [sizeEq, List.cons_append, takeBytes?, if_pos fits, remains, induction]
      rfl

end Text

namespace Span

/-- The characters of `text` that the span covers. None if the span is reversed, reaches
outside the text, or cuts a character. -/
def slice? (span : Span) (text : List Char) : Option (List Char) :=
  if span.start ≤ span.stop then
    (Text.dropBytes? span.start text).bind (Text.takeBytes? (span.stop - span.start))
  else none

theorem slice?_append (before part after : List Char) :
    slice? ⟨Text.byteSize before, Text.byteSize before + Text.byteSize part⟩
      (before ++ part ++ after) = some part := by
  simp only [slice?, Nat.le_add_right, if_true, List.append_assoc, Text.dropBytes?_append,
    Option.bind_some, Nat.add_sub_cancel_left, Text.takeBytes?_append]

example : slice? ⟨1, 3⟩ "aéb".toList = some "é".toList := by decide +kernel

end Span

end Criteria

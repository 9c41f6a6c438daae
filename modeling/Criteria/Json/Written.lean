import Criteria.Json.Token

/-!
JSON texts as they are written: numbers and strings are not interpreted yet, and the
members of an object keep their order and their repeats.

`Written.ofTokens?` keeps the arrays and objects that are open on a stack, so nesting
has no limit here.
-/

namespace Criteria.Json

inductive Written where
  | null
  | bool (value : Bool)
  | number (text : NumberText)
  | string (glyphs : List Glyph)
  | array (items : List Written)
  | object (members : List (List Glyph × Written))

namespace Written

inductive Open where
  | array (items : List Written)
  | object (members : List (List Glyph × Written)) (key : List Glyph)

inductive State where
  | wantValue (stack : List Open)
  | wantItem (stack : List Open)
  | wantFirstKey (stack : List Open)
  | wantKey (members : List (List Glyph × Written)) (stack : List Open)
  | wantColon (members : List (List Glyph × Written)) (key : List Glyph)
      (stack : List Open)
  | after (value : Written) (stack : List Open)

namespace State

def begin? (stack : List Open) : Token → Option State
  | .null => some (.after .null stack)
  | .bool value => some (.after (.bool value) stack)
  | .number text => some (.after (.number text) stack)
  | .string glyphs => some (.after (.string glyphs) stack)
  | .openArray => some (.wantItem stack)
  | .openObject => some (.wantFirstKey stack)
  | _ => none

def step? : State → Token → Option State
  | .wantValue stack, token => begin? stack token
  | .wantItem stack, .closeArray => some (.after (.array []) stack)
  | .wantItem stack, token => begin? (.array [] :: stack) token
  | .wantFirstKey stack, .closeObject => some (.after (.object []) stack)
  | .wantFirstKey stack, .string key => some (.wantColon [] key stack)
  | .wantKey members stack, .string key => some (.wantColon members key stack)
  | .wantColon members key stack, .colon =>
      some (.wantValue (.object members key :: stack))
  | .after value (.array items :: stack), .comma =>
      some (.wantValue (.array (value :: items) :: stack))
  | .after value (.array items :: stack), .closeArray =>
      some (.after (.array (value :: items).reverse) stack)
  | .after value (.object members key :: stack), .comma =>
      some (.wantKey ((key, value) :: members) stack)
  | .after value (.object members key :: stack), .closeObject =>
      some (.after (.object ((key, value) :: members).reverse) stack)
  | _, _ => none

end State

def ofTokens? (tokens : List Token) : Option Written :=
  match tokens.foldlM State.step? (.wantValue []) with
  | some (.after value []) => some value
  | _ => none

def read? (text : List Char) : Option Written :=
  (Token.ofText? text).bind ofTokens?

end Written

end Criteria.Json

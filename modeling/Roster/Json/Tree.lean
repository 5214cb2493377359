import Roster.Json.Token

namespace Roster.Json

/-! The shape of JSON text: nested arrays and objects over tokens. Any depth is read, since the
containers that are still open stand in a list. -/

inductive Tree where
  | null
  | bool (value : Bool)
  | number (numeral : Numeral)
  | string (pieces : List Piece)
  | array (items : List Tree)
  | object (fields : List (List Piece × Tree))

namespace Tree

/-- A container that is still open, with what it holds so far, latest first. A frame of an object
waits for the value of a key. -/
inductive Frame where
  | array (items : List Tree)
  | object (fields : List (List Piece × Tree)) (key : List Piece)

/-- What the text read so far calls for. -/
inductive Expect where
  | value (stack : List Frame)
  | itemOrClose (stack : List Frame)
  | keyOrClose (stack : List Frame)
  | key (fields : List (List Piece × Tree)) (stack : List Frame)
  | colon (fields : List (List Piece × Tree)) (key : List Piece) (stack : List Frame)
  | more (tree : Tree) (stack : List Frame)

namespace Expect

def onValue (stack : List Frame) : Token → Option Expect
  | .null => some (more .null stack)
  | .true => some (more (.bool true) stack)
  | .false => some (more (.bool false) stack)
  | .number numeral => some (more (.number numeral) stack)
  | .string pieces => some (more (.string pieces) stack)
  | .openBracket => some (itemOrClose stack)
  | .openBrace => some (keyOrClose stack)
  | _ => none

/-- A token after a complete value. -/
def onMore (tree : Tree) : List Frame → Token → Option Expect
  | .array items :: stack, .comma => some (value (.array (tree :: items) :: stack))
  | .array items :: stack, .closeBracket => some (more (.array (tree :: items).reverse) stack)
  | .object fields name :: stack, .comma => some (key ((name, tree) :: fields) stack)
  | .object fields name :: stack, .closeBrace =>
    some (more (.object ((name, tree) :: fields).reverse) stack)
  | _, _ => none

def step : Expect → Token → Option Expect
  | value stack, token => onValue stack token
  | itemOrClose stack, .closeBracket => some (more (.array []) stack)
  | itemOrClose stack, token => onValue (.array [] :: stack) token
  | keyOrClose stack, .closeBrace => some (more (.object []) stack)
  | keyOrClose stack, .string name => some (colon [] name stack)
  | keyOrClose _, _ => none
  | key fields stack, .string name => some (colon fields name stack)
  | key _ _, _ => none
  | colon fields name stack, .colon => some (value (.object fields name :: stack))
  | colon _ _ _, _ => none
  | more tree stack, token => onMore tree stack token

def run (expect : Expect) : List Token → Option Expect
  | [] => some expect
  | token :: rest => (expect.step token).bind fun expect => expect.run rest

end Expect

def ofTokens (tokens : List Token) : Option Tree :=
  match (Expect.value []).run tokens with
  | some (.more tree []) => some tree
  | _ => none

/-- The tree of a text that holds one value and nothing else but blanks. -/
def ofBytes (bytes : List UInt8) : Option Tree :=
  (Token.scan bytes).bind ofTokens

end Tree

end Roster.Json

import ClientWiring.Tree.Basic
import ClientWiring.Decimal.Layout
import ClientWiring.Text.Hex

/-!
# Trees as compact JSON text

No blanks, fields in their order, and in strings only the escapes that the format demands: the
double quote, the backslash and the control characters below the blank, five of which have a letter.
A number that is not finite is written as `null`.
-/

namespace ClientWiring.Json

/-- The written form of one character of a string. -/
def escape (c : Char) : List Char :=
  if c = '"' then ['\\', '"']
  else if c = '\\' then ['\\', '\\']
  else if c = '\x08' then ['\\', 'b']
  else if c = '\t' then ['\\', 't']
  else if c = '\n' then ['\\', 'n']
  else if c = '\x0c' then ['\\', 'f']
  else if c = '\r' then ['\\', 'r']
  else if c.toNat < 0x20 then ['\\', 'u'] ++ Text.Hex.padded 4 c.toNat
  else [c]

/-- The written form of a string. -/
def string (s : String) : List Char := '"' :: s.toList.flatMap escape ++ ['"']

/-- The written form of a double. -/
def float (x : Double) : List Char :=
  if x.isFinite then (Decimal.text .message x).toList else ['n', 'u', 'l', 'l']

mutual

/-- The written form of a tree. -/
def render : Tree → List Char
  | .null => ['n', 'u', 'l', 'l']
  | .bool true => ['t', 'r', 'u', 'e']
  | .bool false => ['f', 'a', 'l', 's', 'e']
  | .int n => (toString n).toList
  | .float x => float x
  | .text s => string s
  | .list [] => ['[', ']']
  | .list (x :: xs) => '[' :: render x ++ renderItems xs ++ [']']
  | .table [] => ['\x7b', '\x7d']
  | .table ((k, v) :: fs) => '\x7b' :: string k ++ ':' :: render v ++ renderFields fs ++ ['\x7d']

/-- The items after the first, each behind a comma. -/
def renderItems : List Tree → List Char
  | [] => []
  | x :: xs => ',' :: render x ++ renderItems xs

/-- The fields after the first, each behind a comma. -/
def renderFields : List (String × Tree) → List Char
  | [] => []
  | (k, v) :: fs => ',' :: string k ++ ':' :: render v ++ renderFields fs

end

/-- The JSON text of a tree. -/
def print (t : Tree) : String := String.ofList (render t)

end ClientWiring.Json

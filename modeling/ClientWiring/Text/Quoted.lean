import ClientWiring.Text.Hex
import ClientWiring.Text.Hidden

/-!
# Quoted text

A text between double quotes.  A tab, a line end, a carriage return, a NUL, a double quote and a
backslash have escapes of one letter; any other character that cannot be shown is written by its
number in braces.  A single quote stands for itself.
-/

namespace ClientWiring.Text.Quoted

/-- The written form of one character. -/
def escape (c : Char) : List Char :=
  if c = '\x00' then ['\\', '0']
  else if c = '\t' then ['\\', 't']
  else if c = '\r' then ['\\', 'r']
  else if c = '\n' then ['\\', 'n']
  else if c = '"' then ['\\', '"']
  else if c = '\\' then ['\\', '\\']
  else if isShown c then [c]
  else ['\\', 'u', '\x7b'] ++ Hex.lowerDigits c.toNat ++ ['\x7d']

/-- The text between quotes. -/
def quote (s : String) : String :=
  String.ofList ('"' :: s.toList.flatMap escape ++ ['"'])

end ClientWiring.Text.Quoted

import ClientWiring.Json.Printer

/-!
# JSON text in ASCII

Outside of strings JSON text is ASCII as it is, so every other character stands in a string and may
be replaced there by its escape: one UTF-16 unit, or two for a code point beyond the first plane.
-/

namespace ClientWiring.Json

/-- The escape of one UTF-16 unit. -/
def unitEscape (unit : Nat) : List Char := '\\' :: 'u' :: Text.Hex.padded 4 unit

/-- A character of JSON text in ASCII. -/
def asciiForm (c : Char) : List Char :=
  let n := c.toNat
  if n < 0x7F then [c]
  else if n < 0x10000 then unitEscape n
  else
    unitEscape (0xD800 + (n - 0x10000) / 0x400) ++ unitEscape (0xDC00 + (n - 0x10000) % 0x400)

/-- The JSON text of a tree in ASCII. -/
def printAscii (t : Tree) : String := String.ofList ((render t).flatMap asciiForm)

end ClientWiring.Json

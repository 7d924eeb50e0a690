import ClientWiring.Text.Hex
import ClientWiring.Text.Utf8

/-!
# Percent escapes

`encode` leaves ASCII letters, digits and the four marks `-`, `_`, `.`, `~` as they are and writes
every other byte of the UTF-8 form as `%` and two upper-case digits.  `decode` undoes escapes and
leaves anything that only looks like one; it fails when the bytes are not UTF-8, where
`decodeRepaired` goes on.
-/

namespace ClientWiring.Text.Percent

/-- Whether a character stands for itself. -/
def isPlain (c : Char) : Bool :=
  c.isAlphanum || c == '-' || c == '_' || c == '.' || c == '~'

/-- The escape of one byte. -/
def escape (b : UInt8) : List Char :=
  ['%', Hex.upperDigit (b.toNat / 16), Hex.upperDigit (b.toNat % 16)]

/-- The written form of one character. -/
def encodeChar (c : Char) : List Char :=
  if isPlain c then [c] else (String.utf8EncodeChar c).flatMap escape

/-- The written form of a row of characters. -/
def encodeChars (cs : List Char) : List Char := cs.flatMap encodeChar

/-- The written form of a text. -/
def encode (s : String) : String := String.ofList (encodeChars s.toList)

/-- The bytes that a row of characters stands for. -/
def decodeBytes : List Char → List UInt8
  | [] => []
  | '%' :: a :: b :: rest =>
    match Hex.digit? a, Hex.digit? b with
    | some high, some low => UInt8.ofNat (high * 16 + low) :: decodeBytes rest
    | _, _ => 0x25 :: decodeBytes (a :: b :: rest)
  | c :: rest => String.utf8EncodeChar c ++ decodeBytes rest

/-- The text that a row of characters stands for. -/
def decode (cs : List Char) : Except Utf8.Fault String := Utf8.decode (decodeBytes cs)

/-- The text that a row of characters stands for, with replacements where the bytes are not
UTF-8. -/
def decodeRepaired (cs : List Char) : String := String.ofList (Utf8.repair (decodeBytes cs))

end ClientWiring.Text.Percent

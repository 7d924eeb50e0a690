/-!
# Where a row of bytes stops being UTF-8

`fault?` walks over the well-formed characters at the start of the bytes and describes the first
place that is none: either the bytes end inside a character, or some bytes there can start no
character.  `repair` reads on after each such place.  The well-formed ranges are those of the
Unicode standard, table 3-7.
-/

namespace ClientWiring.Text.Utf8

/-- Why bytes are not UTF-8, and the number of good bytes before that place. -/
inductive Fault where
  /-- The bytes end inside a character. -/
  | incomplete (index : Nat)
  /-- So many bytes belong to no character. -/
  | invalid (length index : Nat)
deriving DecidableEq, Repr

/-- The wording of a fault. -/
def Fault.message : Fault → String
  | .incomplete index => s!"incomplete utf-8 byte sequence from index {index}"
  | .invalid length index => s!"invalid utf-8 sequence of {length} bytes from index {index}"

/-- Whether a byte can stand after the first one of a character. -/
def isContinuation (b : UInt8) : Bool := 0x80 ≤ b && b ≤ 0xBF

/-- The number of bytes of a character that starts with this byte. -/
def width? (b : UInt8) : Option Nat :=
  if b < 0x80 then some 1
  else if 0xC2 ≤ b ∧ b ≤ 0xDF then some 2
  else if 0xE0 ≤ b ∧ b ≤ 0xEF then some 3
  else if 0xF0 ≤ b ∧ b ≤ 0xF4 then some 4
  else none

/-- Whether the second byte fits the first: no overlong forms, no surrogates, nothing above
U+10FFFF. -/
def secondFits (first second : UInt8) : Bool :=
  if first = 0xE0 then 0xA0 ≤ second && second ≤ 0xBF
  else if first = 0xED then 0x80 ≤ second && second ≤ 0x9F
  else if first = 0xF0 then 0x90 ≤ second && second ≤ 0xBF
  else if first = 0xF4 then 0x80 ≤ second && second ≤ 0x8F
  else isContinuation second

/-- The number of bytes at the start that are good so far, and whether the bytes end there:
the checks after the second byte of a character. -/
def continuationFault (index checked : Nat) : Nat → List UInt8 → Option Fault
  | 0, _ => none
  | _ + 1, [] => some (.incomplete index)
  | n + 1, b :: rest =>
    if isContinuation b then continuationFault index (checked + 1) n rest
    else some (.invalid checked index)

/-- What is wrong with the character that starts here, if anything. -/
def characterFault? (index width : Nat) (first : UInt8) (rest : List UInt8) : Option Fault :=
  if width ≤ 1 then none
  else match rest with
    | [] => some (.incomplete index)
    | second :: more =>
      if secondFits first second then continuationFault index 2 (width - 2) more
      else some (.invalid 1 index)

/-- The first fault at or after the given index. -/
def faultFrom? (index : Nat) : List UInt8 → Option Fault
  | [] => none
  | first :: rest =>
    match width? first with
    | none => some (.invalid 1 index)
    | some width =>
      match characterFault? index width first rest with
      | some fault => some fault
      | none => faultFrom? (index + width) (rest.drop (width - 1))
termination_by bytes => bytes.length
decreasing_by simp only [List.length_cons, List.length_drop]; omega

/-- The first place where the bytes stop being UTF-8. -/
def fault? (bytes : List UInt8) : Option Fault := faultFrom? 0 bytes

/-- The text of well-formed bytes. -/
def decode (bytes : List UInt8) : Except Fault String :=
  match String.fromUTF8? (ByteArray.mk bytes.toArray) with
  | some s => .ok s
  | none => .error ((fault? bytes).getD (.invalid 1 0))

/-- What stands for bytes that belong to no character. -/
def replacement : Char := '\uFFFD'

/-- The characters of a row of bytes, with one replacement for each fault. -/
def repair : List UInt8 → List Char
  | [] => []
  | first :: rest =>
    match width? first with
    | none => replacement :: repair rest
    | some width =>
      match characterFault? 0 width first rest with
      | some (.incomplete _) => [replacement]
      | some (.invalid length _) => replacement :: repair (rest.drop (length - 1))
      | none =>
        match decode (first :: rest.take (width - 1)) with
        | .ok s => s.toList ++ repair (rest.drop (width - 1))
        | .error _ => replacement :: repair (rest.drop (width - 1))
termination_by bytes => bytes.length
decreasing_by all_goals simp only [List.length_cons, List.length_drop]; omega

end ClientWiring.Text.Utf8

/-!
# Byte strings

Everything that is stored, encrypted or sent to an element is a list of bytes. This module
fixes the type, the hexadecimal spelling used by dumps and state files, and the little-endian
spelling of 64-bit words.

- `Hex.encode`: two lower-case digits per byte.
- `Hex.decode`: accepts both cases, and names the first byte that is no digit.
- `wordBytes`: the eight bytes of a word, least significant first.
-/

namespace SealedLog

/-- A finite string of bytes. -/
abbrev Bytes := List UInt8

/-- The bytes of a text in UTF-8. -/
def utf8 (text : String) : Bytes := text.toUTF8.toList

/-- The text that a byte string spells in UTF-8, if it spells one. -/
def ofUtf8? (bytes : Bytes) : Option String := String.fromUTF8? ⟨bytes.toArray⟩

namespace Hex

/-- The lower-case digit of a value below sixteen. -/
def digit (value : Nat) : Char :=
  if value < 10 then Char.ofNat (48 + value) else Char.ofNat (87 + value)

/-- The two digits of a byte, high half first. -/
def pair (byte : UInt8) : List Char := [digit (byte.toNat / 16), digit (byte.toNat % 16)]

/-- The hexadecimal spelling of a byte string, as characters. -/
def chars (bytes : Bytes) : List Char := bytes.flatMap pair

/-- The hexadecimal spelling of a byte string. -/
def encode (bytes : Bytes) : String := String.ofList (chars bytes)

/-- The value of a digit written as an ASCII byte, in either case. -/
def value? (byte : UInt8) : Option Nat :=
  let n := byte.toNat
  if 48 ≤ n ∧ n ≤ 57 then some (n - 48)
  else if 65 ≤ n ∧ n ≤ 70 then some (n - 55)
  else if 97 ≤ n ∧ n ≤ 102 then some (n - 87)
  else none

/-- Why a spelling stands for no bytes. -/
inductive Error
  | oddLength
  | badDigit (byte : UInt8) (position : Nat)
deriving Repr, DecidableEq

/-- Reads digit pairs; `position` counts the digits already read. -/
def decodePairs (position : Nat) : Bytes → Except Error Bytes
  | high :: low :: rest =>
    match value? high with
    | none => .error (.badDigit high position)
    | some h =>
      match value? low with
      | none => .error (.badDigit low (position + 1))
      | some l => (decodePairs (position + 2) rest).map (UInt8.ofNat (16 * h + l) :: ·)
  | [_] => .error .oddLength
  | [] => .ok []

/-- The bytes that a spelling stands for. An odd number of digits is noticed first. -/
def decode (spelling : Bytes) : Except Error Bytes :=
  if spelling.length % 2 = 1 then .error .oddLength else decodePairs 0 spelling

/-- At least `width` hexadecimal digits of a number, padded with zeros. -/
def padded (width n : Nat) : String :=
  let digits := Nat.toDigits 16 n
  String.ofList (List.replicate (width - digits.length) '0' ++ digits)

/-- The four capital digits of a 16-bit number behind `0x`. -/
def tag (n : UInt16) : String := "0x" ++ (padded 4 n.toNat).map Char.toUpper

end Hex

/-- The eight bytes of a word, least significant first. -/
def wordBytes (word : UInt64) : Bytes :=
  (List.range 8).map fun i => (word >>> (8 * i).toUInt64).toUInt8

end SealedLog

import SealedLog.Bytes

/-!
# Characters that need a spelling of their own

A byte outside the printable range is named by an escape. Bytes stand for the first 256 code
points. Two spellings are in use:

- `Escape.ascii`: anything but printable ASCII is escaped.
- `Escape.quoted`: printable characters of the first 256 code points stand for themselves,
  between single quotes.

A text that is shown on a terminal must not steer it:

- `Escape.harmless`: the characters that would are escaped.
-/

namespace SealedLog.Escape

/-- The escape by code point, such as `\u{e1}`. -/
def codePoint (n : Nat) : String :=
  "\\u\x7b" ++ String.ofList (Nat.toDigits 16 n) ++ "\x7d"

/-- A byte in printable ASCII: quotes and the backslash are escaped too. -/
def ascii (byte : UInt8) : String :=
  let n := byte.toNat
  if n = 9 then "\\t"
  else if n = 10 then "\\n"
  else if n = 13 then "\\r"
  else if n = 34 ∨ n = 39 ∨ n = 92 then "\\" ++ String.singleton (Char.ofNat n)
  else if 32 ≤ n ∧ n ≤ 126 then String.singleton (Char.ofNat n)
  else codePoint n

/-- Control characters, the no-break space and the soft hyphen leave no mark. -/
def printable (n : Nat) : Bool :=
  (32 ≤ n && n ≤ 126) || (161 ≤ n && n ≠ 173)

/-- A byte between single quotes. -/
def quoted (byte : UInt8) : String :=
  let n := byte.toNat
  let body :=
    if n = 0 then "\\0"
    else if n = 9 then "\\t"
    else if n = 10 then "\\n"
    else if n = 13 then "\\r"
    else if n = 39 ∨ n = 92 then "\\" ++ String.singleton (Char.ofNat n)
    else if printable n then String.singleton (Char.ofNat n)
    else codePoint n
  "'" ++ body ++ "'"

/-- A character that cannot steer a terminal. The controls that start a sequence, ring, go back,
feed a page or delete are named by two digits, those beyond ASCII by their code point. -/
def harmlessChar (c : Char) : String :=
  let n := c.toNat
  if [0x07, 0x08, 0x0C, 0x1B, 0x7F].contains n then "\\x" ++ Hex.padded 2 n
  else if 0x80 ≤ n ∧ n ≤ 0x9F then codePoint n
  else String.singleton c

/-- A text that cannot steer a terminal. -/
def harmless (text : String) : String := String.join (text.toList.map harmlessChar)

end SealedLog.Escape

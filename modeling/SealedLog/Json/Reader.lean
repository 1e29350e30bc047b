import SealedLog.Json

/-!
# Reading JSON

A byte string is read as one document with nothing but blanks around it. The grammar is the
strict one: no comments, no trailing commas, no control characters in strings, and no numbers
with superfluous zeros. Numbers may be of any size and values nested to any depth.

Strings are read as bytes. An escape for half a surrogate pair gives bytes that are not text, so
such a string can be skipped, but not used.

- `Json.read`: the document in a byte string.
-/

namespace SealedLog.Json

/-- The blanks between the parts of a document. -/
def isBlank (byte : UInt8) : Bool :=
  byte == 32 || byte == 9 || byte == 10 || byte == 13

/-- The input after the blanks it starts with. -/
def skipBlanks (input : Bytes) : Bytes := input.dropWhile isBlank

/-- Whether a byte is a decimal digit. -/
def isDigit (byte : UInt8) : Bool := 48 ≤ byte && byte ≤ 57

/-- Some digits, at least one, and the rest. -/
def readDigits (input : Bytes) : Option (Bytes × Bytes) :=
  match input.takeWhile isDigit with
  | [] => none
  | digits => some (digits, input.dropWhile isDigit)

/-- The integer part of a number: no zero in front of other digits. -/
def readWhole (input : Bytes) : Option (Bytes × Bytes) :=
  match input with
  | 48 :: rest => some ([48], rest)
  | _ => readDigits input

/-- The fraction of a number, if there is one. -/
def readFraction (input : Bytes) : Option (Bytes × Bytes) :=
  match input with
  | 46 :: rest => (readDigits rest).map fun (digits, rest) => (46 :: digits, rest)
  | _ => some ([], input)

/-- The exponent of a number, if there is one. -/
def readExponent (input : Bytes) : Option (Bytes × Bytes) :=
  match input with
  | mark :: rest =>
    if mark = 101 ∨ mark = 69 then
      match rest with
      | sign :: digits =>
        if sign = 43 ∨ sign = 45 then
          (readDigits digits).map fun (digits, rest) => (mark :: sign :: digits, rest)
        else (readDigits rest).map fun (digits, rest) => (mark :: digits, rest)
      | [] => none
    else some ([], input)
  | [] => some ([], input)

/-- A number as it is written, and the rest. -/
def readNumber (input : Bytes) : Option (Bytes × Bytes) := do
  let (sign, input) :=
    match input with
    | 45 :: rest => (([45] : Bytes), rest)
    | _ => ([], input)
  let (whole, input) ← readWhole input
  let (fraction, input) ← readFraction input
  let (exponent, input) ← readExponent input
  return (sign ++ whole ++ fraction ++ exponent, input)

/-- The number written by four hexadecimal digits. -/
def readUnit : Bytes → Option (Nat × Bytes)
  | a :: b :: c :: d :: rest => do
    let a ← Hex.value? a
    let b ← Hex.value? b
    let c ← Hex.value? c
    let d ← Hex.value? d
    return (((16 * a + b) * 16 + c) * 16 + d, rest)
  | _ => none

/-- The bytes of a code point by the rules of UTF-8, which also give half a surrogate pair bytes
of its own. -/
def codePointBytes (n : Nat) : Bytes :=
  if n < 0x80 then [UInt8.ofNat n]
  else if n < 0x800 then [UInt8.ofNat (0xC0 + n / 64), UInt8.ofNat (0x80 + n % 64)]
  else if n < 0x10000 then
    [UInt8.ofNat (0xE0 + n / 4096), UInt8.ofNat (0x80 + n / 64 % 64),
      UInt8.ofNat (0x80 + n % 64)]
  else
    [UInt8.ofNat (0xF0 + n / 262144), UInt8.ofNat (0x80 + n / 4096 % 64),
      UInt8.ofNat (0x80 + n / 64 % 64), UInt8.ofNat (0x80 + n % 64)]

/-- The bytes for an escape by code units, whose first unit has been read. -/
def readPair (unit : Nat) (input : Bytes) : Option (Bytes × Bytes) :=
  if 0xD800 ≤ unit ∧ unit < 0xDC00 then
    match input with
    | 92 :: 117 :: rest =>
      match readUnit rest with
      | none => none
      | some (second, after) =>
        if 0xDC00 ≤ second ∧ second < 0xE000 then
          some (codePointBytes (0x10000 + (unit - 0xD800) * 1024 + (second - 0xDC00)), after)
        -- Half a pair: what follows is read on its own.
        else some (codePointBytes unit, input)
    | _ => some (codePointBytes unit, input)
  else some (codePointBytes unit, input)

/-- What an escape stands for; the backslash has been read. -/
def readEscape : Bytes → Option (Bytes × Bytes)
  | 34 :: rest => some ([34], rest)
  | 92 :: rest => some ([92], rest)
  | 47 :: rest => some ([47], rest)
  | 98 :: rest => some ([8], rest)
  | 102 :: rest => some ([12], rest)
  | 110 :: rest => some ([10], rest)
  | 114 :: rest => some ([13], rest)
  | 116 :: rest => some ([9], rest)
  | 117 :: rest => (readUnit rest).bind fun (unit, rest) => readPair unit rest
  | _ => none

/-- The content of a string up to its closing quote, and the rest. -/
def readString : Nat → Bytes → Option (Bytes × Bytes)
  | 0, _ => none
  | fuel + 1, input =>
    match input with
    | [] => none
    | byte :: rest =>
      if byte = 34 then some ([], rest)
      else if byte = 92 then do
        let (resolved, rest) ← readEscape rest
        let (more, rest) ← readString fuel rest
        return (resolved ++ more, rest)
      else if byte < 32 then none
      else do
        let (more, rest) ← readString fuel rest
        return (byte :: more, rest)

/-- The rest of the input after a word that it must start with. -/
def expect (word : Bytes) (input : Bytes) : Option Bytes :=
  if word.isPrefixOf input then some (input.drop word.length) else none

mutual

/-- A value, and the rest. Each step takes a byte or goes down one level, so twice the length of
the input is fuel enough. -/
def readValue : Nat → Bytes → Option (Json × Bytes)
  | 0, _ => none
  | fuel + 1, input =>
    match skipBlanks input with
    | [] => none
    | byte :: rest =>
      if byte = 110 then (expect (utf8 "ull") rest).map fun rest => (.null, rest)
      else if byte = 116 then (expect (utf8 "rue") rest).map fun rest => (.bool true, rest)
      else if byte = 102 then (expect (utf8 "alse") rest).map fun rest => (.bool false, rest)
      else if byte = 34 then
        (readString (rest.length + 1) rest).map fun (bytes, rest) => (.string bytes, rest)
      else if byte = 91 then
        match skipBlanks rest with
        | 93 :: rest => some (.array [], rest)
        | rest => (readItems fuel rest).map fun (items, rest) => (.array items, rest)
      else if byte = 123 then
        match skipBlanks rest with
        | 125 :: rest => some (.object [], rest)
        | rest => (readMembers fuel rest).map fun (members, rest) => (.object members, rest)
      else (readNumber (byte :: rest)).map fun (literal, rest) => (.number literal, rest)

/-- The items of an array up to its closing bracket. -/
def readItems : Nat → Bytes → Option (List Json × Bytes)
  | 0, _ => none
  | fuel + 1, input => do
    let (item, rest) ← readValue fuel input
    match skipBlanks rest with
    | 44 :: rest =>
      let (more, rest) ← readItems fuel rest
      return (item :: more, rest)
    | 93 :: rest => return ([item], rest)
    | _ => none

/-- The members of an object up to its closing brace. -/
def readMembers : Nat → Bytes → Option (List (Bytes × Json) × Bytes)
  | 0, _ => none
  | fuel + 1, input =>
    match skipBlanks input with
    | 34 :: rest => do
      let (name, rest) ← readString (rest.length + 1) rest
      match skipBlanks rest with
      | 58 :: rest =>
        let (value, rest) ← readValue fuel rest
        match skipBlanks rest with
        | 44 :: rest =>
          let (more, rest) ← readMembers fuel rest
          return ((name, value) :: more, rest)
        | 125 :: rest => return ([(name, value)], rest)
        | _ => none
      | _ => none
    | _ => none

end

/-- The document in a byte string. -/
def read (input : Bytes) : Option Json :=
  match readValue (2 * input.length + 2) input with
  | some (document, rest) => if skipBlanks rest = [] then some document else none
  | none => none

end SealedLog.Json

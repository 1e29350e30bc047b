import SealedLog.Bytes
import SealedLog.Pattern
import SealedLog.Text.CharacterClass

/-!
# Characters and classes in patterns

A character stands for itself or is spelled by a backslash. A class in brackets holds characters,
ranges and other classes; operators in it join what stands before them with what stands behind.

- `Pattern.Reader.escape?`: what a backslash introduces.
- `Pattern.Reader.readClass`: a class from behind its opening bracket.
-/

namespace SealedLog.Pattern.Reader

/-- What remains without the white space and the comments in front of it, if they stand for
nothing. A comment goes from `#` to the end of the line. -/
def skip (spaced : Bool) (chars : List Char) : List Char :=
  if spaced then go false chars else chars
where
  /-- What remains, from inside a comment or from outside. -/
  go (inComment : Bool) : List Char → List Char
    | [] => []
    | c :: rest =>
      if inComment then go (c ≠ '\n') rest
      else if CharacterClass.isWhite c then go false rest
      else if c = '#' then go true rest
      else c :: rest

/-! ## Escapes -/

/-- The value of a hexadecimal digit. -/
def hexValue? (c : Char) : Option Nat :=
  if c.toNat < 0x80 then Hex.value? c.toNat.toUInt8 else none

/-- The number that so many hexadecimal digits spell. -/
def hexDigits? (spaced : Bool) : Nat → Nat → List Char → Option (Nat × List Char)
  | 0, value, chars => some (value, chars)
  | count + 1, value, chars =>
    match skip spaced chars with
    | [] => none
    | c :: rest => do hexDigits? spaced count (16 * value + (← hexValue? c)) rest

/-- A character by the digits of its code point. -/
def codePoint? (spaced : Bool) (digits : Nat) (chars : List Char) :
    Option (Pattern × List Char) := do
  let (value, rest) ← hexDigits? spaced digits 0 chars
  if value.isValidChar then return (.char ⟨Char.ofNat value, digits = 2⟩, rest) else none

/-- What a backslash and the characters behind it stand for. References to groups and properties of
characters are refused. -/
def escape? (spaced : Bool) : List Char → Option (Pattern × List Char)
  | [] => none
  | c :: rest =>
    let char (n : Nat) : Option (Pattern × List Char) := some (.char ⟨Char.ofNat n, false⟩, rest)
    match c with
    | 'x' => codePoint? spaced 2 rest
    | 'u' => codePoint? spaced 4 rest
    | 'U' => codePoint? spaced 8 rest
    | 'd' | 's' | 'w' => some (.set (.letter false), rest)
    | 'D' | 'S' | 'W' => some (.set (.letter true), rest)
    | 'a' => char 0x07
    | 't' => char 0x09
    | 'n' => char 0x0A
    | 'v' => char 0x0B
    | 'f' => char 0x0C
    | 'r' => char 0x0D
    | 'A' | 'z' => some (.assertion false, rest)
    | 'b' | 'B' | '<' | '>' => some (.assertion true, rest)
    | c => if c.toNat < 0x80 ∧ !c.isAlphanum then char c.toNat else none

/-! ## Classes in brackets -/

/-- A class whose closing bracket has not come. -/
structure OpenClass where
  complement : Bool
  /-- Only dashes have come, or nothing at all: a dash or a bracket may stand for itself. -/
  fresh : Bool := true
  /-- What stands in front of an operator. -/
  left : Option CharSet := none
  /-- What stands behind it, latest first. -/
  parts : List CharSet := []

namespace OpenClass

/-- The class with one more part. -/
def add (cls : OpenClass) (part : CharSet) : OpenClass := { cls with parts := part :: cls.parts }

/-- All that stands in the class. -/
def inner (cls : OpenClass) : CharSet :=
  let right := match cls.parts with
    | [part] => part
    | parts => .union parts.reverse
  match cls.left with
  | none => right
  | some left => .operation left right

/-- The class when an operator has come. -/
def operated (cls : OpenClass) : OpenClass := { cls with left := some cls.inner, parts := [] }

end OpenClass

/-- A class that begins behind an opening bracket. -/
def openClass (spaced : Bool) (chars : List Char) : OpenClass × List Char :=
  match skip spaced chars with
  | '^' :: rest => ({ complement := true }, rest)
  | rest => ({ complement := false }, rest)

/-- The names of the classes of ASCII. -/
def asciiNames : List String :=
  ["alnum", "alpha", "ascii", "blank", "cntrl", "digit", "graph", "lower", "print", "punct",
    "space", "upper", "word", "xdigit"]

/-- A class of ASCII by its name, from behind its bracket. -/
def asciiClass? : List Char → Option (CharSet × List Char)
  | ':' :: rest =>
    let (complement, rest) := match rest with
      | '^' :: rest => (true, rest)
      | rest => (false, rest)
    let name := rest.takeWhile (· ≠ ':')
    match rest.drop name.length with
    | ':' :: ']' :: rest =>
      if asciiNames.contains (String.ofList name) then some (.ascii complement, rest) else none
    | _ => none
  | _ => none

/-- The character behind the one at hand. White space in front of it is passed over if it stands
for nothing, and so is one mark of a comment. -/
def following (spaced : Bool) (chars : List Char) : Option Char :=
  if spaced then
    match chars.dropWhile CharacterClass.isWhite with
    | '#' :: rest => (rest.dropWhile CharacterClass.isWhite).head?.or chars.head?
    | rest => rest.head?.or chars.head?
  else chars.head?

/-- One character, escaped or not. -/
def member? (spaced : Bool) : List Char → Option (Pattern × List Char)
  | [] => none
  | '\\' :: rest => escape? spaced rest
  | c :: rest => some (.char ⟨c, false⟩, rest)

/-- A character, a range or a class by its letter. The ends of a range are characters, and they
are in order. -/
def classPart? (spaced : Bool) (chars : List Char) : Option (CharSet × List Char) := do
  let (first, rest) ← member? spaced chars
  let rest := skip spaced rest
  let isRange : Bool := match rest with
    | '-' :: more => following spaced more ≠ some ']' && following spaced more ≠ some '-'
    | _ => false
  if isRange then
    match first, ← member? spaced (skip spaced (rest.drop 1)) with
    | .char first, (.char last, rest) =>
      if first.char.toNat ≤ last.char.toNat then return (.range first last, rest) else none
    | _, _ => none
  else
    match first with
    | .char c => return (.char c, rest)
    | .set s => return (s, rest)
    | _ => none

/-- A class, from anywhere inside it. The classes around it are listed innermost first; `fuel`
bounds the number of pieces. -/
def readClass (spaced : Bool) : Nat → OpenClass → List OpenClass → List Char →
    Option (CharSet × List Char)
  | 0, _, _, _ => none
  | fuel + 1, cls, outer, chars =>
    match cls.fresh, skip spaced chars with
    | _, [] => none
    | true, '-' :: rest => readClass spaced fuel (cls.add (.char ⟨'-', false⟩)) outer rest
    | true, chars =>
      let cls := { cls with fresh := false }
      match cls.parts, chars with
      | [], ']' :: rest => readClass spaced fuel (cls.add (.char ⟨']', false⟩)) outer rest
      | _, chars => readClass spaced fuel cls outer chars
    | false, '[' :: rest =>
      match asciiClass? rest with
      | some (named, rest) => readClass spaced fuel (cls.add named) outer rest
      | none =>
        let (inner, rest) := openClass spaced rest
        readClass spaced fuel inner (cls :: outer) rest
    | false, ']' :: rest =>
      let closed : CharSet := .brackets cls.complement cls.inner
      match outer with
      | [] => some (closed, rest)
      | around :: outer => readClass spaced fuel (around.add closed) outer rest
    | false, '&' :: '&' :: rest => readClass spaced fuel cls.operated outer rest
    | false, '-' :: '-' :: rest => readClass spaced fuel cls.operated outer rest
    | false, '~' :: '~' :: rest => readClass spaced fuel cls.operated outer rest
    | false, chars => do
      let (part, rest) ← classPart? spaced chars
      readClass spaced fuel (cls.add part) outer rest

end SealedLog.Pattern.Reader

import SealedLog.Bytes

/-!
# Random generators

A generator is an endless row of 64-bit words together with how many of them are used up. Bytes
are taken a word at a time, least significant byte first; what is left of the last word is lost.

- `Generator.fill`: the next bytes.
- `Generator.stepping`: the words of an arithmetic progression.
-/

namespace SealedLog

/-- A row of words and the position of the next one. -/
structure Generator where
  word : Nat → UInt64
  used : Nat := 0

namespace Generator

/-- The words needed for so many bytes. -/
def wordsFor (len : Nat) : Nat := (len + 7) / 8

/-- The next `count` words as bytes. -/
def bytes (generator : Generator) : Nat → Bytes
  | 0 => []
  | count + 1 =>
    wordBytes (generator.word generator.used) ++
      bytes { generator with used := generator.used + 1 } count

/-- The next bytes, and the generator after them. -/
def fill (generator : Generator) (len : Nat) : Bytes × Generator :=
  ((generator.bytes (wordsFor len)).take len,
    { generator with used := generator.used + wordsFor len })

/-- The generator whose words start at `first` and grow by `step`. -/
def stepping (first step : UInt64) : Generator where
  word n := first + step * n.toUInt64

end Generator

end SealedLog

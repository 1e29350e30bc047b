/-!
# Patterns

A pattern is a regular expression for the values of fields. Here a pattern is only judged: it can
be used if what matches it is text and if it needs no more tables of characters than those for
ASCII.

- `Pattern`, `CharSet`: patterns, and the sets of characters in them.
- `Pattern.height`: how deeply a pattern is nested.
- `Pattern.isUsable`: whether a pattern can be used.
-/

namespace SealedLog

/-- A character as a pattern names it. -/
structure PatternChar where
  char : Char
  /-- Written as a byte, with two digits. -/
  asByte : Bool := false
deriving Repr, DecidableEq

/-- A set of characters in a pattern. -/
inductive CharSet
  | char (c : PatternChar)
  | range (first last : PatternChar)
  /-- A class of ASCII by its name, such as `[:alpha:]`. -/
  | ascii (complement : Bool)
  /-- Digits, white space or the characters of words by one letter, such as `\d`. -/
  | letter (complement : Bool)
  /-- What stands between brackets. -/
  | brackets (complement : Bool) (inner : CharSet)
  | union (parts : List CharSet)
  /-- An intersection or a difference. -/
  | operation (left right : CharSet)

/-- A change of modes: those that are named are switched on or off. -/
structure ModeChange where
  ignoreCase : Option Bool := none
  unicode : Option Bool := none
  /-- White space and comments stand for nothing. -/
  spaced : Option Bool := none
deriving Repr, DecidableEq

/-- A regular expression. -/
inductive Pattern
  | char (c : PatternChar)
  /-- Any character, a dot. -/
  | any
  /-- A place in the text: an end of a line or of the text, or an end of a word. -/
  | assertion (ofWord : Bool)
  | set (s : CharSet)
  | repeated (inner : Pattern)
  | group (change : ModeChange) (inner : Pattern)
  /-- The modes of what follows in the same group. -/
  | modes (change : ModeChange)
  | sequence (parts : List Pattern)
  | alternatives (parts : List Pattern)

/-! ## Height -/

mutual

/-- How deeply a set is nested. Characters and classes by name are flat, as is nothing at all. -/
def CharSet.height : CharSet → Nat
  | .brackets _ inner => inner.height + 1
  | .union [] => 0
  | .union (part :: parts) => max part.height (CharSet.heightOfAll parts) + 1
  | .operation left right => max left.height right.height + 1
  | _ => 0

/-- The greatest height among some sets. -/
def CharSet.heightOfAll : List CharSet → Nat
  | [] => 0
  | part :: parts => max part.height (CharSet.heightOfAll parts)

end

mutual

/-- How deeply a pattern is nested. -/
def Pattern.height : Pattern → Nat
  | .set s => s.height
  | .repeated inner => inner.height + 1
  | .group _ inner => inner.height + 1
  | .sequence [] => 0
  | .sequence (part :: parts) => max part.height (Pattern.heightOfAll parts) + 1
  | .alternatives parts => Pattern.heightOfAll parts + 1
  | _ => 0

/-- The greatest height among some patterns. -/
def Pattern.heightOfAll : List Pattern → Nat
  | [] => 0
  | part :: parts => max part.height (Pattern.heightOfAll parts)

end

/-! ## Use -/

/-- How characters are taken. -/
structure Modes where
  ignoreCase : Bool := false
  /-- Text is taken as characters, not as bytes. -/
  unicode : Bool := true
deriving Repr, DecidableEq

/-- The modes after a change. -/
def Modes.changed (modes : Modes) (change : ModeChange) : Modes where
  ignoreCase := change.ignoreCase.getD modes.ignoreCase
  unicode := change.unicode.getD modes.unicode

/-- Whether a character is one of ASCII. -/
def PatternChar.isAscii (c : PatternChar) : Bool := c.char.toNat < 0x80

/-- Whether a character can be used by itself. There is no table for the case of characters, and a
byte beyond ASCII is no text. -/
def PatternChar.isUsable (modes : Modes) (c : PatternChar) : Bool :=
  if modes.unicode then !modes.ignoreCase else c.isAscii || !c.asByte

mutual

/-- Whether a set can be used. A set of bytes must not reach beyond ASCII. -/
def CharSet.isUsable (modes : Modes) : CharSet → Bool
  | .char c => if modes.unicode then !modes.ignoreCase else c.isAscii
  | .range first last =>
    if modes.unicode then !modes.ignoreCase else first.isAscii && last.isAscii
  | .ascii complement => if modes.unicode then !modes.ignoreCase else !complement
  | .letter complement => !modes.unicode && !complement
  | .brackets complement inner => inner.isUsable modes && (modes.unicode || !complement)
  | .union parts => CharSet.areUsable modes parts
  | .operation left right => left.isUsable modes && right.isUsable modes

/-- Whether all of some sets can be used. -/
def CharSet.areUsable (modes : Modes) : List CharSet → Bool
  | [] => true
  | part :: parts => part.isUsable modes && CharSet.areUsable modes parts

end

mutual

/-- The modes behind a pattern that can be used. -/
def Pattern.modesBehind? (modes : Modes) : Pattern → Option Modes
  | .char c => if c.isUsable modes then some modes else none
  | .any => if modes.unicode then some modes else none
  -- Words are told apart by a table of characters.
  | .assertion ofWord => if ofWord && modes.unicode then none else some modes
  | .set s => if s.isUsable modes then some modes else none
  | .repeated inner => inner.modesBehind? modes
  | .group change inner => (inner.modesBehind? (modes.changed change)).map fun _ => modes
  | .modes change => some (modes.changed change)
  | .sequence parts | .alternatives parts => Pattern.modesBehindAll? modes parts

/-- The modes behind some patterns in a row. -/
def Pattern.modesBehindAll? (modes : Modes) : List Pattern → Option Modes
  | [] => some modes
  | part :: parts => do Pattern.modesBehindAll? (← part.modesBehind? modes) parts

end

/-- The greatest height of a pattern that can be used. -/
def Pattern.heightMax : Nat := 250

/-- Whether a pattern can be used. -/
def Pattern.isUsable (pattern : Pattern) : Bool :=
  pattern.height ≤ heightMax && (pattern.modesBehind? {}).isSome

end SealedLog

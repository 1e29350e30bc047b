/-!
# Reading positions

A cursor stands somewhere in a text and knows how far it has come: the bytes, the lines and the
columns behind it. A column is one character, whatever its bytes. A line ends with a line feed, a
carriage return, both, or one of the separators of Unicode.
-/

namespace SealedLog.Yaml

/-- A position in a text, with what is left of it. -/
structure Cursor where
  rest : List Char
  /-- How many bytes of UTF-8 come before it. -/
  index : Nat := 0
  line : Nat := 0
  column : Nat := 0
deriving Repr

/-- Characters a text may hold. -/
def isAllowed (c : Char) : Bool :=
  let n := c.toNat
  n == 0x09 || n == 0x0A || n == 0x0D || (0x20 ≤ n && n ≤ 0x7E) || n == 0x85
    || (0xA0 ≤ n && n ≤ 0xD7FF) || (0xE000 ≤ n && n ≤ 0xFFFD)
    || (0x10000 ≤ n && n ≤ 0x10FFFF)

/-- Characters that end a line. -/
def isBreak (c : Char) : Bool :=
  c == '\n' || c == '\r' || c.toNat == 0x85 || c.toNat == 0x2028 || c.toNat == 0x2029

/-- Characters that stand between words. -/
def isBlank (c : Char) : Bool := c == ' ' || c == '\t'

/-- Characters of names. -/
def isWord (c : Char) : Bool := c.isAlphanum || c == '_' || c == '-'

/-- The mark that may stand at the start of a line. -/
def isByteOrderMark (c : Char) : Bool := c.toNat == 0xFEFF

namespace Cursor

/-- The bytes of some characters in UTF-8. -/
def width (chars : List Char) : Nat := chars.foldr (fun c width => c.utf8Size + width) 0

/-- The cursor before a text. -/
def start (text : List Char) : Cursor := { rest := text }

/-- The character so far ahead. -/
def peek (cursor : Cursor) (ahead : Nat) : Option Char := cursor.rest[ahead]?

/-- Whether the character so far ahead is the one given. -/
def sees (cursor : Cursor) (ahead : Nat) (c : Char) : Bool := cursor.peek ahead == some c

/-- Whether the text is over. -/
def atEnd (cursor : Cursor) : Bool := cursor.rest.isEmpty

/-- Whether a condition holds of the next character. -/
def meets (cursor : Cursor) (test : Char → Bool) : Bool :=
  match cursor.rest with
  | [] => false
  | c :: _ => test c

/-- Whether there is no word character so far ahead: a blank, a line end or the end. -/
def gapAt (cursor : Cursor) (ahead : Nat) : Bool :=
  match cursor.peek ahead with
  | none => true
  | some c => isBlank c || isBreak c

/-- Whether the line is over. -/
def atLineEnd (cursor : Cursor) : Bool :=
  match cursor.rest with
  | [] => true
  | c :: _ => isBreak c

/-- The cursor some characters further on the same line. -/
def skip (cursor : Cursor) (count : Nat) : Cursor :=
  { cursor with
    rest := cursor.rest.drop count
    index := cursor.index + width (cursor.rest.take count)
    column := cursor.column + count }

/-- The cursor after the characters that meet a condition. -/
def skipWhile (cursor : Cursor) (test : Char → Bool) : Cursor :=
  cursor.skip (cursor.rest.takeWhile test).length

/-- The cursor at the end of its line. -/
def skipToLineEnd (cursor : Cursor) : Cursor := cursor.skipWhile fun c => !isBreak c

/-- The cursor at the start of the next line, after a line end of so many characters. -/
def nextLine (cursor : Cursor) (count : Nat) : Cursor :=
  { rest := cursor.rest.drop count
    index := cursor.index + width (cursor.rest.take count)
    line := cursor.line + 1
    column := 0 }

/-- Reads a line end: its text, in which all but the Unicode separators is a line feed, and the
cursor after it. Elsewhere nothing is read. -/
def readBreak (cursor : Cursor) : String × Cursor :=
  match cursor.rest with
  | '\r' :: '\n' :: _ => ("\n", cursor.nextLine 2)
  | c :: _ =>
    if c.toNat == 0x2028 || c.toNat == 0x2029 then (String.singleton c, cursor.nextLine 1)
    else if isBreak c then ("\n", cursor.nextLine 1)
    else ("", cursor)
  | [] => ("", cursor)

/-- The cursor after a line end, if it stands at one. -/
def skipBreak (cursor : Cursor) : Cursor := cursor.readBreak.2

/-- Whether three equal characters stand alone at the start of a line, as the marks around
documents do. -/
def atDocumentMark (cursor : Cursor) (c : Char) : Bool :=
  cursor.column == 0 && cursor.sees 0 c && cursor.sees 1 c && cursor.sees 2 c && cursor.gapAt 3

/-- Whether a mark before or after a document stands here. -/
def atAnyDocumentMark (cursor : Cursor) : Bool :=
  cursor.atDocumentMark '-' || cursor.atDocumentMark '.'

end Cursor

end SealedLog.Yaml

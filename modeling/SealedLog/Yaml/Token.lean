import SealedLog.Bytes
import SealedLog.Yaml.Scalar

/-!
# YAML tokens

A text is first cut into tokens. Indentation becomes tokens of its own: a block collection has a
start and an end. A key needs no mark of its own; that a scalar or a collection was a key shows
only at the colon after it, so a key token is put in front of it then. Such a key must stand on
one line and be short. Tags are byte strings: escapes in them need not spell any text.

- `Token.scan`: the tokens of a text, or nothing if it cannot be cut.
-/

namespace SealedLog.Yaml

/-- One token of a text. -/
inductive Token
  | versionDirective (major minor : Nat)
  | tagDirective (handle : String) (start : Bytes)
  | documentStart
  | documentEnd
  | blockSequenceStart
  | blockMappingStart
  | blockEnd
  | flowSequenceStart
  | flowSequenceEnd
  | flowMappingStart
  | flowMappingEnd
  | blockEntry
  | flowEntry
  | key
  | value
  | anchor (name : String)
  | alias (name : String)
  | tag (handle : String) (suffix : Bytes)
  | scalar (style : Style) (text : String)
deriving Repr, DecidableEq

namespace Token

/-! ## Directives, names and tags -/

/-- A number of at most nine digits. -/
def versionNumber (cursor : Cursor) : Option (Nat × Cursor) :=
  let digits := cursor.rest.takeWhile Char.isDigit
  if digits = [] ∨ 9 < digits.length then none
  else
    some (digits.foldl (fun n c => 10 * n + (c.toNat - 48)) 0, cursor.skip digits.length)

/-- A tag handle. A directive needs a whole one; a tag may go on after its mark. -/
def tagHandle (directive : Bool) (cursor : Cursor) : Option (String × Cursor) :=
  if !cursor.sees 0 '!' then none
  else
    let word := (cursor.rest.drop 1).takeWhile isWord
    let after := cursor.skip (1 + word.length)
    if after.sees 0 '!' then some (String.ofList ('!' :: word ++ ['!']), after.skip 1)
    else if directive && word != [] then none
    else some (String.ofList ('!' :: word), after)

/-- Characters of a tag; three more stand in a tag between angle brackets. -/
def isTagChar (bracketed : Bool) (c : Char) : Bool :=
  isWord c || ";/?:@&=+$.!~*'()".toList.contains c
    || (bracketed && (c == ',' || c == '[' || c == ']'))

/-- The byte written by two hexadecimal digits behind a percent sign. -/
def octet : List Char → Option UInt8
  | '%' :: a :: b :: _ => do
    return UInt8.ofNat (16 * (← Scalar.hexValue? a) + (← Scalar.hexValue? b))
  | _ => none

/-- How many bytes a character goes on for after its first byte. -/
def followers? (first : UInt8) : Option Nat :=
  if first < 0x80 then some 0
  else if first / 32 = 6 then some 1
  else if first / 16 = 14 then some 2
  else if first / 8 = 30 then some 3
  else none

/-- Escaped bytes that go on with a character. -/
def followers : Nat → List Char → Option Bytes
  | 0, _ => some []
  | count + 1, rest => do
    let byte ← octet rest
    if byte / 64 = 2 then return byte :: (← followers count (rest.drop 3)) else none

/-- The bytes of an escaped character. Only their number and their upper bits are checked. -/
def escapedBytes (rest : List Char) : Option Bytes := do
  let first ← octet rest
  return first :: (← followers (← followers? first) (rest.drop 3))

/-- The bytes of a tag with escapes resolved, behind those already `found`, latest first. -/
def tagBytes (bracketed : Bool) : Nat → Bytes → Cursor → Option (Bytes × Cursor)
  | 0, found, cursor => some (found.reverse, cursor)
  | fuel + 1, found, cursor =>
    match cursor.rest with
    | [] => some (found.reverse, cursor)
    | c :: _ =>
      if c == '%' then do
        let escaped ← escapedBytes cursor.rest
        tagBytes bracketed fuel (escaped.reverse ++ found) (cursor.skip (3 * escaped.length))
      else if isTagChar bracketed c then
        tagBytes bracketed fuel (UInt8.ofNat c.toNat :: found) (cursor.skip 1)
      else some (found.reverse, cursor)

/-- A tag's own bytes, after those of the `head` already read without its mark. A zero byte ends
them early. -/
def tagText (bracketed : Bool) (head : String) (cursor : Cursor) : Option (Bytes × Cursor) := do
  let (written, after) ←
    tagBytes bracketed (cursor.rest.length + 1) ((utf8 head).drop 1).reverse cursor
  if head == "" && after.index == cursor.index then none
  else return (written.takeWhile (· ≠ 0), after)

/-- A tag between angle brackets. -/
def bracketedTag (cursor : Cursor) : Option (Token × Cursor) := do
  let (suffix, cursor) ← tagText true "" (cursor.skip 2)
  if cursor.sees 0 '>' then return (.tag "" suffix, cursor.skip 1) else none

/-- A tag that starts with a handle, or with a lone mark. -/
def handledTag (cursor : Cursor) : Option (Token × Cursor) := do
  let (handle, cursor) ← tagHandle false cursor
  if 1 < handle.length && handle.toList.getLast? == some '!' then
    let (suffix, cursor) ← tagText false "" cursor
    return (.tag handle suffix, cursor)
  else
    let (suffix, cursor) ← tagText false handle cursor
    return (if suffix == [] then .tag "" (utf8 "!") else .tag "!" suffix, cursor)

/-- A tag, whose mark is next. -/
def readTag (inFlow : Bool) (cursor : Cursor) : Option (Token × Cursor) := do
  let (token, cursor) ← if cursor.sees 1 '<' then bracketedTag cursor else handledTag cursor
  if cursor.gapAt 0 || (inFlow && cursor.sees 0 ',') then return (token, cursor) else none

/-- The name of an anchor or alias, whose mark is next. -/
def readName (cursor : Cursor) : Option (String × Cursor) :=
  let name := (cursor.rest.drop 1).takeWhile isWord
  let after := cursor.skip (1 + name.length)
  if name = [] then none
  else if after.gapAt 0 || (after.peek 0).any fun c => "?:,]\x7d%@\x60".toList.contains c then
    some (String.ofList name, after)
  else none

/-- The version in a directive. -/
def readVersion (cursor : Cursor) : Option (Token × Cursor) := do
  let (major, cursor) ← versionNumber cursor
  if !cursor.sees 0 '.' then none
  else
    let (minor, cursor) ← versionNumber (cursor.skip 1)
    return (.versionDirective major minor, cursor)

/-- The handle and what it stands for in a directive. -/
def readTagDirective (cursor : Cursor) : Option (Token × Cursor) := do
  let (handle, cursor) ← tagHandle true cursor
  if !cursor.meets isBlank then none
  else
    let (start, cursor) ← tagText true "" (cursor.skipWhile isBlank)
    if cursor.gapAt 0 then return (.tagDirective handle start, cursor) else none

/-- A directive, whose mark is next, up to the end of its line. -/
def readDirective (cursor : Cursor) : Option (Token × Cursor) := do
  let name := (cursor.rest.drop 1).takeWhile isWord
  let cursor := cursor.skip (1 + name.length)
  if name = [] ∨ !cursor.gapAt 0 then none
  else
    let cursor := cursor.skipWhile isBlank
    let (token, cursor) ←
      if String.ofList name == "YAML" then readVersion cursor
      else if String.ofList name == "TAG" then readTagDirective cursor
      else none
    let cursor := cursor.skipWhile isBlank
    let cursor := if cursor.sees 0 '#' then cursor.skipToLineEnd else cursor
    if cursor.atLineEnd then return (token, cursor.skipBreak) else none

end Token

/-! ## Cutting a text -/

/-- Where a key without a mark may have started. -/
structure PossibleKey where
  /-- The block mapping goes on only if it is a key. -/
  required : Bool
  /-- How many tokens come before it. -/
  position : Nat
  cursor : Cursor

/-- A text that is being cut. -/
structure Scanner where
  cursor : Cursor
  /-- For every flow collection around the cursor, and for the block outside, a possible key;
  innermost first. -/
  keys : List (Option PossibleKey) := [none]
  /-- Columns of the block collections around the cursor, innermost first. -/
  columns : List Nat := []
  /-- A key without a mark may start here. -/
  keyAllowed : Bool := true
  /-- The tokens so far, latest first. -/
  found : List Token := []

namespace Scanner

/-- Whether the cursor is inside a flow collection. -/
def inFlow (scanner : Scanner) : Bool := 1 < scanner.keys.length

/-- The column of the innermost block collection; there is none to the left of the text. -/
def indent (scanner : Scanner) : Int :=
  match scanner.columns with
  | [] => -1
  | column :: _ => column

/-- The first column in which the content of the innermost block collection may stand. -/
def contentColumn (scanner : Scanner) : Nat := (scanner.indent + 1).toNat

/-- Adds a token. -/
def emit (scanner : Scanner) (token : Token) : Scanner :=
  { scanner with found := token :: scanner.found }

/-- Puts a token in front of the one at a position. -/
def emitAt (scanner : Scanner) (position : Nat) (token : Token) : Scanner :=
  let later := scanner.found.length - position
  { scanner with found := scanner.found.take later ++ token :: scanner.found.drop later }

/-- Goes on from another cursor, saying whether a key may start there. -/
def goOn (scanner : Scanner) (cursor : Cursor) (keyAllowed : Bool) : Scanner :=
  { scanner with cursor, keyAllowed }

/-- The possible key of the innermost level. -/
def possibleKey (scanner : Scanner) : Option PossibleKey := scanner.keys.head?.join

/-- Forgets the possible key of the innermost level, which must not be a required one. -/
def dropKey (scanner : Scanner) : Option Scanner :=
  if scanner.possibleKey.any (·.required) then none
  else some { scanner with keys := none :: scanner.keys.drop 1 }

/-- Remembers that a key may start here. -/
def saveKey (scanner : Scanner) : Option Scanner :=
  if scanner.keyAllowed then do
    let required := !scanner.inFlow && scanner.indent == Int.ofNat scanner.cursor.column
    let scanner ← scanner.dropKey
    return { scanner with
      keys := some ⟨required, scanner.found.length, scanner.cursor⟩ :: scanner.keys.drop 1 }
  else some scanner

/-- The longest way from the start of a key without a mark to its colon, in bytes. -/
def keyReach : Nat := 1024

/-- Whether a possible key cannot be one any more. -/
def isStale (cursor : Cursor) (key : PossibleKey) : Bool :=
  key.cursor.line < cursor.line || key.cursor.index + keyReach < cursor.index

/-- Forgets possible keys that cannot be keys any more; none of them may be a required one. -/
def dropStale (scanner : Scanner) : Option Scanner := do
  let keys ← scanner.keys.mapM fun
    | none => some none
    | some key =>
      if isStale scanner.cursor key then (if key.required then none else some none)
      else some (some key)
  return { scanner with keys }

/-- Starts a block collection at a column, unless one is there. Its start comes at a position
among the tokens. -/
def roll (scanner : Scanner) (column position : Nat) (start : Token) : Scanner :=
  if scanner.inFlow || Int.ofNat column ≤ scanner.indent then scanner
  else { scanner.emitAt position start with columns := column :: scanner.columns }

/-- Starts a block collection here, unless one is there. -/
def rollHere (scanner : Scanner) (start : Token) : Scanner :=
  scanner.roll scanner.cursor.column scanner.found.length start

/-- Ends the block collections to the right of a column. -/
def unroll (column : Int) (scanner : Scanner) : Scanner :=
  if scanner.inFlow then scanner
  else
    let ended := scanner.columns.takeWhile fun outer => column < Int.ofNat outer
    { scanner with
      columns := scanner.columns.drop ended.length
      found := ended.map (fun _ => Token.blockEnd) ++ scanner.found }

/-- Skips blanks, comments and line ends. A tab is a blank only where no key may start. A byte
order mark in front of a line takes a column of it. -/
def skipGap : Nat → Scanner → Scanner
  | 0, scanner => scanner
  | fuel + 1, scanner =>
    let cursor := scanner.cursor
    let cursor :=
      if cursor.column == 0 && cursor.meets isByteOrderMark then cursor.skip 1 else cursor
    -- Where a key may start, a tab could be taken for indentation.
    let tabs := scanner.inFlow || !scanner.keyAllowed
    let cursor := cursor.skipWhile fun c => c == ' ' || (tabs && c == '\t')
    let cursor := if cursor.sees 0 '#' then cursor.skipToLineEnd else cursor
    if cursor.meets isBreak then
      skipGap fuel
        { scanner with
          cursor := cursor.skipBreak
          keyAllowed := scanner.keyAllowed || !scanner.inFlow }
    else { scanner with cursor }

/-- A directive or a mark around a document, before which all collections end. -/
def outside (scanner : Scanner) (token : Token) (cursor : Cursor) : Option Scanner := do
  let scanner ← (scanner.unroll (-1)).dropKey
  return (scanner.emit token).goOn cursor false

/-- The start of a flow collection, which may be a key. -/
def openFlow (scanner : Scanner) (token : Token) : Option Scanner := do
  let scanner ← scanner.saveKey
  let inner := { scanner with keys := none :: scanner.keys }
  return (inner.emit token).goOn (scanner.cursor.skip 1) true

/-- The end of a flow collection. -/
def closeFlow (scanner : Scanner) (token : Token) : Option Scanner := do
  let scanner ← scanner.dropKey
  let keys := if scanner.inFlow then scanner.keys.drop 1 else scanner.keys
  return ({ scanner with keys }.emit token).goOn (scanner.cursor.skip 1) false

/-- The comma in a flow collection. -/
def flowEntry (scanner : Scanner) : Option Scanner := do
  let scanner ← scanner.dropKey
  return (scanner.emit .flowEntry).goOn (scanner.cursor.skip 1) true

/-- The dash in front of an item. -/
def blockEntry (scanner : Scanner) : Option Scanner := do
  if !scanner.inFlow && !scanner.keyAllowed then none
  else
    let scanner ← (scanner.rollHere .blockSequenceStart).dropKey
    return (scanner.emit .blockEntry).goOn (scanner.cursor.skip 1) true

/-- The mark in front of a key. -/
def markedKey (scanner : Scanner) : Option Scanner := do
  if !scanner.inFlow && !scanner.keyAllowed then none
  else
    let scanner ← (scanner.rollHere .blockMappingStart).dropKey
    return (scanner.emit .key).goOn (scanner.cursor.skip 1) (!scanner.inFlow)

/-- The colon behind a key. -/
def colon (scanner : Scanner) : Option Scanner :=
  match scanner.possibleKey with
  | some key =>
    -- What was cut since the key began turns out to be the key.
    let scanner := scanner.emitAt key.position .key
    let scanner := scanner.roll key.cursor.column key.position .blockMappingStart
    let scanner := { scanner with keys := none :: scanner.keys.drop 1 }
    some ((scanner.emit .value).goOn (scanner.cursor.skip 1) false)
  | none =>
    if !scanner.inFlow && !scanner.keyAllowed then none
    else
      let scanner := scanner.rollHere .blockMappingStart
      some ((scanner.emit .value).goOn (scanner.cursor.skip 1) (!scanner.inFlow))

/-- A token that may be a key or belong to one. -/
def inKey (scanner : Scanner) (read : Scanner → Option (Token × Cursor)) : Option Scanner := do
  let scanner ← scanner.saveKey
  let (token, cursor) ← read scanner
  return (scanner.emit token).goOn cursor false

/-- A block scalar, which is never a key. -/
def blockScalar (scanner : Scanner) (style : Style) : Option Scanner := do
  let scanner ← scanner.dropKey
  let (text, cursor) ← Scalar.block (style == .literal) scanner.indent scanner.cursor
  return (scanner.emit (.scalar style text)).goOn cursor true

/-- A quoted scalar. -/
def quotedScalar (scanner : Scanner) (style : Style) : Option Scanner :=
  scanner.inKey fun scanner =>
    (Scalar.quoted (style == .singleQuoted) scanner.cursor).map fun (text, cursor) =>
      (.scalar style text, cursor)

/-- A plain scalar. After one that went to the end of its line, a key may start. -/
def plainScalar (scanner : Scanner) : Option Scanner := do
  let scanner ← scanner.saveKey
  let (text, broken, cursor) ← Scalar.plain scanner.inFlow scanner.contentColumn scanner.cursor
  return (scanner.emit (.scalar .plain text)).goOn cursor broken

/-- Characters that no plain scalar starts with, unless the next character makes up for it. -/
def indicators : List Char := "-?:,[]\x7b\x7d#&*!|>'\"%@\x60".toList

/-- Whether a plain scalar starts here. -/
def startsPlain (scanner : Scanner) (c : Char) : Bool :=
  let cursor := scanner.cursor
  !(isBlank c || isBreak c || indicators.contains c)
    || (c == '-' && !(cursor.peek 1).any isBlank)
    || (!scanner.inFlow && (c == '?' || c == ':') && !cursor.gapAt 1)

/-- Cuts the token that starts with the character given, which is next. -/
def cut (scanner : Scanner) (c : Char) : Option Scanner :=
  let cursor := scanner.cursor
  let alone := cursor.gapAt 1
  if cursor.column == 0 && c == '%' then do
    let (token, after) ← Token.readDirective cursor
    scanner.outside token after
  else if cursor.atDocumentMark '-' then scanner.outside .documentStart (cursor.skip 3)
  else if cursor.atDocumentMark '.' then scanner.outside .documentEnd (cursor.skip 3)
  else if c == '[' then scanner.openFlow .flowSequenceStart
  else if c == '\x7b' then scanner.openFlow .flowMappingStart
  else if c == ']' then scanner.closeFlow .flowSequenceEnd
  else if c == '\x7d' then scanner.closeFlow .flowMappingEnd
  else if c == ',' then scanner.flowEntry
  else if c == '-' && alone then scanner.blockEntry
  else if c == '?' && (scanner.inFlow || alone) then scanner.markedKey
  else if c == ':' && (scanner.inFlow || alone) then scanner.colon
  else if c == '*' then
    scanner.inKey fun scanner =>
      (Token.readName scanner.cursor).map fun (name, cursor) => (.alias name, cursor)
  else if c == '&' then
    scanner.inKey fun scanner =>
      (Token.readName scanner.cursor).map fun (name, cursor) => (.anchor name, cursor)
  else if c == '!' then scanner.inKey fun scanner => Token.readTag scanner.inFlow scanner.cursor
  else if c == '|' && !scanner.inFlow then scanner.blockScalar .literal
  else if c == '>' && !scanner.inFlow then scanner.blockScalar .folded
  else if c == '\'' then scanner.quotedScalar .singleQuoted
  else if c == '"' then scanner.quotedScalar .doubleQuoted
  else if scanner.startsPlain c then scanner.plainScalar
  else none

/-- Cuts what is left of a text. -/
def cutAll : Nat → Scanner → Option Scanner
  | 0, _ => none
  | fuel + 1, scanner => do
    let scanner := scanner.skipGap (scanner.cursor.rest.length + 1)
    let scanner ← scanner.dropStale
    let scanner := scanner.unroll scanner.cursor.column
    match scanner.cursor.rest with
    | [] => (scanner.unroll (-1)).dropKey
    | c :: _ => cutAll fuel (← scanner.cut c)

end Scanner

/-- The tokens of a text. -/
def Token.scan (text : String) : Option (List Token) :=
  let chars := text.toList
  if chars.all isAllowed then
    (Scanner.cutAll (chars.length + 1) { cursor := .start chars }).map fun scanner =>
      scanner.found.reverse
  else none

end SealedLog.Yaml

import SealedLog.Yaml.Cursor

/-!
# YAML scalars

The text of a scalar depends on how it is written. Plain and quoted scalars fold the line ends
inside them; block scalars fold or keep theirs and treat the last ones as they are told. A text
that cannot be read gives `none`.

- `Scalar.plain`, `Scalar.quoted`, `Scalar.block`: one scalar from the cursor on.
-/

namespace SealedLog.Yaml

/-- How a scalar is written. -/
inductive Style
  | plain
  | singleQuoted
  | doubleQuoted
  | literal
  | folded
deriving Repr, DecidableEq

namespace Scalar

/-- A scalar in the making: its text so far, and the blanks or line ends after it, which count
only if more text follows. -/
structure Folding where
  text : String := ""
  blanks : String := ""
  firstBreak : String := ""
  moreBreaks : String := ""
  /-- A line end was met after the text. -/
  broken : Bool := false

namespace Folding

/-- The text with the blanks or line ends after it: one line end becomes a blank, of several the
first is left out. -/
def join (folding : Folding) : Folding :=
  let text :=
    if folding.broken then
      if folding.firstBreak == "\n" then
        if folding.moreBreaks == "" then folding.text ++ " " else folding.text ++ folding.moreBreaks
      else folding.text ++ folding.firstBreak ++ folding.moreBreaks
    else folding.text ++ folding.blanks
  { text }

/-- Takes up blanks and line ends. On later lines a tab left of column `limit` is an error. -/
def takeBlanks (limit : Nat) : Nat → Folding → Cursor → Option (Folding × Cursor)
  | 0, folding, cursor => some (folding, cursor)
  | fuel + 1, folding, cursor =>
    match cursor.rest with
    | [] => some (folding, cursor)
    | c :: _ =>
      if isBlank c then
        if folding.broken then
          if c == '\t' && cursor.column < limit then none
          else takeBlanks limit fuel folding (cursor.skip 1)
        else takeBlanks limit fuel { folding with blanks := folding.blanks.push c } (cursor.skip 1)
      else if isBreak c then
        let (lineEnd, cursor) := cursor.readBreak
        if folding.broken then
          takeBlanks limit fuel { folding with moreBreaks := folding.moreBreaks ++ lineEnd } cursor
        else
          takeBlanks limit fuel
            { folding with blanks := "", firstBreak := lineEnd, broken := true } cursor
      else some (folding, cursor)

end Folding

/-! ## Plain scalars -/

/-- Characters that structure flow collections. -/
def isFlowIndicator (c : Char) : Bool :=
  c == ',' || c == '[' || c == ']' || c == '\x7b' || c == '\x7d'

/-- Reads one word of a plain scalar. -/
def plainWord (inFlow : Bool) : Nat → Folding → Cursor → Option (Folding × Cursor)
  | 0, folding, cursor => some (folding, cursor)
  | fuel + 1, folding, cursor =>
    match cursor.rest with
    | [] => some (folding, cursor)
    | c :: rest =>
      if isBlank c || isBreak c then some (folding, cursor)
      else if inFlow && c == ':' && rest.head?.any (fun d => isFlowIndicator d || d == '?') then
        none
      else if (c == ':' && cursor.gapAt 1) || (inFlow && isFlowIndicator c) then
        some (folding, cursor)
      else
        let joined := if folding.broken || folding.blanks != "" then folding.join else folding
        plainWord inFlow fuel { joined with text := joined.text.push c } (cursor.skip 1)

/-- Reads the words of a plain scalar; lines after the first must reach column `limit` outside
of flow collections. -/
def plainWords (inFlow : Bool) (limit : Nat) :
    Nat → Folding → Cursor → Option (Folding × Cursor)
  | 0, folding, cursor => some (folding, cursor)
  | fuel + 1, folding, cursor =>
    if cursor.atAnyDocumentMark || cursor.sees 0 '#' then some (folding, cursor)
    else do
      let (folding, cursor) ← plainWord inFlow (cursor.rest.length + 1) folding cursor
      if !(cursor.meets isBlank || cursor.meets isBreak) then return (folding, cursor)
      let (folding, cursor) ← folding.takeBlanks limit (cursor.rest.length + 1) cursor
      if !inFlow && cursor.column < limit then return (folding, cursor)
      plainWords inFlow limit fuel folding cursor

/-- A plain scalar: its text, whether a line ended after it, and the cursor after it. -/
def plain (inFlow : Bool) (limit : Nat) (cursor : Cursor) : Option (String × Bool × Cursor) :=
  (plainWords inFlow limit (cursor.rest.length + 1) {} cursor).map fun (folding, cursor) =>
    (folding.text, folding.broken, cursor)

/-! ## Quoted scalars -/

/-- The value of a hexadecimal digit. -/
def hexValue? (c : Char) : Option Nat :=
  if '0' ≤ c ∧ c ≤ '9' then some (c.toNat - 48)
  else if 'a' ≤ c ∧ c ≤ 'f' then some (c.toNat - 87)
  else if 'A' ≤ c ∧ c ≤ 'F' then some (c.toNat - 55)
  else none

/-- The number written by the next `count` hexadecimal digits. -/
def hexNumber : Nat → Nat → List Char → Option Nat
  | 0, value, _ => some value
  | _ + 1, _, [] => none
  | count + 1, value, c :: rest =>
    (hexValue? c).bind fun d => hexNumber count (16 * value + d) rest

/-- The character an escape stands for, and the length of the escape. -/
def escape (cursor : Cursor) : Option (Char × Nat) :=
  let numbered (count : Nat) : Option (Char × Nat) := do
    let n ← hexNumber count 0 (cursor.rest.drop 2)
    if (0xD800 ≤ n && n ≤ 0xDFFF) || 0x10FFFF < n then none
    else some (Char.ofNat n, count + 2)
  match cursor.peek 1 with
  | some '0' => some ('\x00', 2)
  | some 'a' => some ('\x07', 2)
  | some 'b' => some ('\x08', 2)
  | some 't' | some '\t' => some ('\t', 2)
  | some 'n' => some ('\n', 2)
  | some 'v' => some ('\x0b', 2)
  | some 'f' => some ('\x0c', 2)
  | some 'r' => some ('\r', 2)
  | some 'e' => some ('\x1b', 2)
  | some ' ' => some (' ', 2)
  | some '"' => some ('"', 2)
  | some '/' => some ('/', 2)
  | some '\\' => some ('\\', 2)
  | some 'N' => some (Char.ofNat 0x85, 2)
  | some '_' => some (Char.ofNat 0xA0, 2)
  | some 'L' => some (Char.ofNat 0x2028, 2)
  | some 'P' => some (Char.ofNat 0x2029, 2)
  | some 'x' => numbered 2
  | some 'u' => numbered 4
  | some 'U' => numbered 8
  | _ => none

/-- Reads one word of a quoted scalar, up to a blank, a line end or the closing quote. An escaped
line end also ends it. -/
def quotedWord (single : Bool) : Nat → Folding → Cursor → Option (Folding × Cursor)
  | 0, folding, cursor => some (folding, cursor)
  | fuel + 1, folding, cursor =>
    match cursor.rest with
    | [] => some (folding, cursor)
    | c :: _ =>
      if isBlank c || isBreak c then some (folding, cursor)
      else if single && c == '\'' && cursor.sees 1 '\'' then
        quotedWord single fuel { folding with text := folding.text.push '\'' } (cursor.skip 2)
      else if c == (if single then '\'' else '"') then some (folding, cursor)
      else if !single && c == '\\' then
        -- An escaped line end leaves no blank behind.
        if (cursor.peek 1).any isBreak then
          some ({ folding with broken := true }, (cursor.skip 1).skipBreak)
        else do
          let (resolved, length) ← escape cursor
          quotedWord single fuel { folding with text := folding.text.push resolved }
            (cursor.skip length)
      else quotedWord single fuel { folding with text := folding.text.push c } (cursor.skip 1)

/-- Reads the words of a quoted scalar up to its closing quote. -/
def quotedWords (single : Bool) : Nat → Folding → Cursor → Option (String × Cursor)
  | 0, _, _ => none
  | fuel + 1, folding, cursor =>
    if cursor.atAnyDocumentMark || cursor.atEnd then none
    else do
      let (folding, cursor) ← quotedWord single (cursor.rest.length + 1) folding cursor
      if cursor.sees 0 (if single then '\'' else '"') then
        return (folding.text, cursor.skip 1)
      let (folding, cursor) ← folding.takeBlanks 0 (cursor.rest.length + 1) cursor
      quotedWords single fuel folding.join cursor

/-- A quoted scalar, whose opening quote is next. -/
def quoted (single : Bool) (cursor : Cursor) : Option (String × Cursor) :=
  quotedWords single (cursor.rest.length + 2) {} (cursor.skip 1)

/-! ## Block scalars -/

/-- What becomes of the line ends after a block scalar. -/
inductive Chomping
  | strip
  | clip
  | keep
deriving Repr, DecidableEq

/-- The chomping an indicator asks for. -/
def Chomping.ofChar? : Char → Option Chomping
  | '+' => some .keep
  | '-' => some .strip
  | _ => none

/-- An indentation indicator; zero is none. -/
def indentDigit? (c : Char) : Option Nat := if c.isDigit then some (c.toNat - 48) else none

/-- Reads the indicators of a block scalar, in either order. -/
def blockHeader (cursor : Cursor) : Option (Chomping × Option Nat × Cursor) :=
  match (cursor.peek 0).bind Chomping.ofChar? with
  | some chomping =>
    let cursor := cursor.skip 1
    match (cursor.peek 0).bind indentDigit? with
    | some 0 => none
    | some increment => some (chomping, some increment, cursor.skip 1)
    | none => some (chomping, none, cursor)
  | none =>
    match (cursor.peek 0).bind indentDigit? with
    | some 0 => none
    | some increment =>
      let cursor := cursor.skip 1
      match (cursor.peek 0).bind Chomping.ofChar? with
      | some chomping => some (chomping, some increment, cursor.skip 1)
      | none => some (.clip, some increment, cursor)
    | none => some (.clip, none, cursor)

/-- Reads indentation and empty lines. With an indentation of zero any number of blanks is one;
the widest is remembered. -/
def blockBreaks (indent : Nat) :
    Nat → Nat → String → Cursor → Option (Nat × String × Cursor)
  | 0, widest, breaks, cursor => some (widest, breaks, cursor)
  | fuel + 1, widest, breaks, cursor =>
    let blanks := (cursor.rest.takeWhile (· == ' ')).length
    let cursor := cursor.skip (if indent = 0 then blanks else min blanks (indent - cursor.column))
    let widest := max widest cursor.column
    if (indent = 0 || cursor.column < indent) && cursor.sees 0 '\t' then none
    else if cursor.meets isBreak then
      let (lineEnd, cursor) := cursor.readBreak
      blockBreaks indent fuel widest (breaks ++ lineEnd) cursor
    else some (widest, breaks, cursor)

/-- A block scalar in the making. -/
structure BlockText where
  text : String := ""
  lastBreak : String := ""
  moreBreaks : String := ""
  /-- The line before started with a blank, and so is not folded. -/
  indented : Bool := false

/-- Reads the lines of a block scalar. -/
def blockLines (literal : Bool) (indent : Nat) :
    Nat → BlockText → Cursor → Option (BlockText × Cursor)
  | 0, block, cursor => some (block, cursor)
  | fuel + 1, block, cursor =>
    if cursor.column != indent || cursor.atEnd then some (block, cursor)
    else do
      let startsBlank := cursor.meets isBlank
      -- Lines that start with a blank keep the line ends around them.
      let folds := !literal && block.lastBreak == "\n" && !block.indented && !startsBlank
      let joint :=
        if folds then (if block.moreBreaks == "" then " " else "") else block.lastBreak
      let line := cursor.rest.takeWhile fun c => !isBreak c
      let text := block.text ++ joint ++ block.moreBreaks ++ String.ofList line
      let (lineEnd, cursor) := (cursor.skip line.length).readBreak
      let (_, breaks, cursor) ← blockBreaks indent (cursor.rest.length + 1) 0 "" cursor
      blockLines literal indent fuel ⟨text, lineEnd, breaks, startsBlank⟩ cursor

/-- A block scalar, whose indicator is next. `parent` is the indentation of the collection it
stands in, less than zero at the top. -/
def block (literal : Bool) (parent : Int) (cursor : Cursor) : Option (String × Cursor) := do
  let (chomping, increment, cursor) ← blockHeader (cursor.skip 1)
  let cursor := cursor.skipWhile isBlank
  let cursor := if cursor.sees 0 '#' then cursor.skipToLineEnd else cursor
  if !cursor.atLineEnd then none
  else
    let cursor := cursor.skipBreak
    let asked := increment.map fun increment => (max parent 0).toNat + increment
    let (widest, breaks, cursor) ←
      blockBreaks (asked.getD 0) (cursor.rest.length + 1) 0 "" cursor
    let indent := asked.getD (max (max widest (parent + 1).toNat) 1)
    let (block, cursor) ←
      blockLines literal indent (cursor.rest.length + 1) { moreBreaks := breaks } cursor
    let ending :=
      match chomping with
      | .strip => ""
      | .clip => block.lastBreak
      | .keep => block.lastBreak ++ block.moreBreaks
    return (block.text ++ ending, cursor)

end Scalar

end SealedLog.Yaml

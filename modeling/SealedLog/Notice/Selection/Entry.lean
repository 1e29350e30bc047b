import SealedLog.Notice
import SealedLog.Pattern.Reader
import SealedLog.Text.CharacterClass
import SealedLog.Text.Decimal

/-!
# Entries that ask for notices

An entry is a level, or the start of the names of some reporters, or both with an equals sign
between them, as in `enclog_core=info`. Behind the start may stand, in brackets, the name of a span
of work and, in braces, a field that a notice must have.

Places in an entry are counted in bytes from the first character that is not white, but texts are
cut out of the whole entry with the white space around it. Such a cut can fall inside a character;
then the entry is torn.

- `Entry.ofPart`: the entry that a text spells.
- `Entry.concerns`: the notices that an entry is about.
- `Entry.yieldsTo`: which of two entries is more specific.
-/

namespace SealedLog

namespace Selection

/-- A field that is asked for by its name, and perhaps by a pattern for its value. -/
structure FieldDemand where
  name : String
  value : Option (List Char) := none
deriving Repr, DecidableEq

/-- One entry: the notices it is about are shown up to a rank. -/
structure Entry where
  /-- How the names of the reporters start. -/
  start : Option (List Char) := none
  /-- The span of work that is asked for. -/
  span : Option (List Char) := none
  field : Option FieldDemand := none
  rank : Nat
deriving Repr, DecidableEq

/-- Why an entry cannot be read. -/
inductive Flaw
  | malformed
  /-- A cut falls inside a character. -/
  | torn
deriving Repr, DecidableEq

/-! ## Ranks -/

/-- The words for ranks, from none at all to everything. -/
def rankWords : List String := ["off", "error", "warn", "info", "debug", "trace"]

/-- The rank of everything. -/
def everything : Nat := rankWords.length - 1

/-- The rank that a word stands for, as a name in any case or as a number. -/
def rank? (word : List Char) : Option Nat :=
  let digits := match word with | '+' :: rest => rest | chars => chars
  match Decimal.value digits with
  | some n => if n ≤ everything then some n else none
  | none => rankWords.idxOf? (String.ofList (word.map Char.toLower))

/-! ## Cuts -/

/-- How many bytes some characters take. -/
def width (chars : List Char) : Nat := chars.foldr (fun c width => c.utf8Size + width) 0

/-- What is behind so many bytes. -/
def dropBytes : Nat → List Char → Except Flaw (List Char)
  | 0, chars => .ok chars
  | _, [] => .ok []
  | n, c :: rest => if c.utf8Size ≤ n then dropBytes (n - c.utf8Size) rest else .error .torn

/-- The first so many bytes. -/
def takeBytes : Nat → List Char → Except Flaw (List Char)
  | 0, _ | _, [] => .ok []
  | n, c :: rest =>
    if c.utf8Size ≤ n then (takeBytes (n - c.utf8Size) rest).map (c :: ·) else .error .torn

/-- The characters between two places. -/
def cut (part : List Char) (first last : Nat) : Except Flaw (List Char) := do
  takeBytes (last - first) (← dropBytes first part)

/-- A text without the white space around it. -/
def trimmed (chars : List Char) : List Char :=
  let isWhite := CharacterClass.isWhite
  ((chars.dropWhile isWhite).reverse.dropWhile isWhite).reverse

/-! ## Fields -/

/-- Whether some characters are a number, with a point or an exponent or without, or a word for
something that is none. -/
def isNumber (chars : List Char) : Bool :=
  let whole := chars.takeWhile Char.isDigit
  let (fraction, rest) := match chars.drop whole.length with
    | '.' :: rest => (rest.takeWhile Char.isDigit, rest.dropWhile Char.isDigit)
    | rest => ([], rest)
  let isExponent : Bool := match rest with
    | [] => true
    | e :: rest =>
      let digits := match rest with | '+' :: rest | '-' :: rest => rest | rest => rest
      e.toLower = 'e' && digits ≠ [] && digits.all Char.isDigit
  ["inf", "infinity", "nan"].contains (String.ofList (chars.map Char.toLower))
    || (whole ++ fraction ≠ [] && isExponent)

/-- Whether a value can be asked for: by a pattern, or by a number with a plus in front. All other
values are patterns anyway. -/
def isDemandable (value : List Char) : Bool :=
  match value with
  | '+' :: rest => isNumber rest
  | chars => (Pattern.read? chars).any Pattern.isUsable

/-- Reads the demand for a field. What follows a second equals sign is not looked at. -/
def FieldDemand.ofText (text : List Char) : Except Flaw FieldDemand :=
  let isName (c : Char) : Bool := c ≠ '='
  let name := String.ofList (text.takeWhile isName)
  match text.dropWhile isName with
  | [] => if text = [] then .error .malformed else .ok { name }
  | _ :: rest =>
    let value := rest.takeWhile isName
    if isDemandable value then .ok { name, value := some value } else .error .malformed

/-! ## Entries -/

/-- Whether an entry may start so: with a letter, a digit, or one of four other characters. -/
def startsEntry : List Char → Bool
  | [] => false
  | c :: _ => CharacterClass.isAlphanumeric c || ['-', ':', '_', '['].contains c

/-- The rank behind an equals sign at a place. Where none is given, everything is shown. -/
def rankFrom (part : List Char) (place : Nat) : Except Flaw Nat := do
  let word ← dropBytes place part
  if word = [] then return everything
  match rank? word with
  | some rank => return rank
  | none => throw .malformed

/-- Reads what is behind an opening bracket, which is in front of a place. -/
def Entry.ofBrackets (part : List Char) (start : Option (List Char)) (place : Nat)
    (chars : List Char) : Except Flaw Entry := do
  let named := chars.takeWhile fun c => c ≠ ']' ∧ c ≠ '\x7b'
  let afterName := place + width named
  let (entry, rest, place) ← match chars.drop named.length with
    | ']' :: rest =>
      let span ← cut part place afterName
      pure (({ start, span := some span, rank := everything } : Entry), rest, afterName + 1)
    | _ :: rest =>
      let span ← cut part place afterName
      let demanded := rest.takeWhile (· ≠ '\x7d')
      let afterDemand := afterName + 1 + width demanded
      match rest.drop demanded.length with
      | [] => throw .malformed
      | _ :: rest =>
        let field ← FieldDemand.ofText (← cut part (afterName + 1) afterDemand)
        match rest with
        | ']' :: rest =>
          pure ({ start, span := if span = [] then none else some span, field := some field
                  rank := everything }, rest, afterDemand + 2)
        | _ => throw .malformed
    | [] => throw .malformed
  match rest with
  | [] => return entry
  | '=' :: _ => return { entry with rank := ← rankFrom part (place + 1) }
  | _ => throw .malformed

/-- Reads an entry. -/
def Entry.ofPart (part : List Char) : Except Flaw Entry := do
  let inner := trimmed part
  if !startsEntry inner then throw .malformed
  let name := inner.takeWhile fun c => c ≠ '=' ∧ c ≠ '['
  let place := width name
  match inner.drop name.length with
  | [] =>
    -- White space around a word belongs to it, so that the word is no level.
    match rank? part with
    | some rank => return { rank }
    | none => return { start := some part, rank := everything }
  | '=' :: _ =>
    let start ← cut part 0 place
    return { start := some start, rank := ← rankFrom part (place + 1) }
  | _ :: rest =>
    let start ← if name = [] then pure none else (cut part 0 place).map some
    Entry.ofBrackets part start (place + 1) rest

/-- Whether an entry is about a notice. Spans of work do not occur and values are looked at for
spans only, so entries with one of them are about none. -/
def Entry.concerns (entry : Entry) (notice : Notice) : Bool :=
  entry.span.isNone
    && entry.start.all (fun start => start.isPrefixOf notice.reporter.name.toList)
    && entry.field.all fun field => field.value.isNone && notice.hasField field.name

/-- Whether the second entry is at least as specific as the first: by a longer start, else by a
field, else by the later name of the field. -/
def Entry.yieldsTo (entry other : Entry) : Bool :=
  let length (entry : Entry) : Nat := entry.start.elim 0 fun start => start.length + 1
  length entry < length other
    || (length entry = length other
      && match entry.field, other.field with
        | none, _ => true
        | some _, none => false
        | some field, some otherField => field.name ≤ otherField.name)

end Selection

end SealedLog

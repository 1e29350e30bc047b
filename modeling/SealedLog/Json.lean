import SealedLog.Bytes
import SealedLog.Text.Decimal

/-!
# JSON documents

A document is a tree. Strings are kept as the bytes between their quotes with the escapes
resolved, which need not be text; numbers are kept as they were written.

- `Json.compact`: a document in one line without blanks.
- `Json.pretty`: a document over several lines, two blanks for each level.
- `Json.fields`: the parts of a record, written as an object or as an array.
-/

namespace SealedLog

/-- A JSON document. -/
inductive Json
  | null
  | bool (value : Bool)
  | number (literal : Bytes)
  | string (bytes : Bytes)
  | array (items : List Json)
  | object (members : List (Bytes × Json))
deriving Repr

namespace Json

/-- A natural number as a document. -/
def ofNat (n : Nat) : Json := .number (utf8 (Decimal.write n))

/-- A text as a document. -/
def ofText (text : String) : Json := .string (utf8 text)

/-! ## Writing -/

/-- A byte of a string as it stands between the quotes. -/
def escaped (byte : UInt8) : Bytes :=
  let n := byte.toNat
  if n = 34 then utf8 "\\\""
  else if n = 92 then utf8 "\\\\"
  else if n = 8 then utf8 "\\b"
  else if n = 9 then utf8 "\\t"
  else if n = 10 then utf8 "\\n"
  else if n = 12 then utf8 "\\f"
  else if n = 13 then utf8 "\\r"
  else if n < 32 then utf8 ("\\u00" ++ Hex.encode [byte])
  else [byte]

/-- A string between quotes. -/
def quoted (bytes : Bytes) : Bytes := 34 :: (bytes.flatMap escaped ++ [34])

mutual

/-- A document in one line. -/
def compact : Json → Bytes
  | null => utf8 "null"
  | bool true => utf8 "true"
  | bool false => utf8 "false"
  | number literal => literal
  | string bytes => quoted bytes
  | array items => 91 :: (compactItems items ++ [93])
  | object members => 123 :: (compactMembers members ++ [125])

/-- The items of an array, with commas between them. -/
def compactItems : List Json → Bytes
  | [] => []
  | [item] => compact item
  | item :: more => compact item ++ 44 :: compactItems more

/-- The members of an object, with commas between them. -/
def compactMembers : List (Bytes × Json) → Bytes
  | [] => []
  | [(name, value)] => quoted name ++ 58 :: compact value
  | (name, value) :: more => quoted name ++ 58 :: (compact value ++ 44 :: compactMembers more)

end

/-- The start of a line at a level. -/
def newLine (level : Nat) : Bytes := 10 :: List.replicate (2 * level) 32

mutual

/-- A document over several lines, whose inner lines are at the level given. -/
def prettyAt (level : Nat) : Json → Bytes
  | array [] => utf8 "[]"
  | array items => 91 :: (prettyItems level items ++ newLine level ++ [93])
  | object [] => [123, 125]
  | object members => 123 :: (prettyMembers level members ++ newLine level ++ [125])
  | null => utf8 "null"
  | bool true => utf8 "true"
  | bool false => utf8 "false"
  | number literal => literal
  | string bytes => quoted bytes

/-- The items of an array, each on lines of its own. -/
def prettyItems (level : Nat) : List Json → Bytes
  | [] => []
  | [item] => newLine (level + 1) ++ prettyAt (level + 1) item
  | item :: more =>
    newLine (level + 1) ++ prettyAt (level + 1) item ++ 44 :: prettyItems level more

/-- The members of an object, each on lines of its own. -/
def prettyMembers (level : Nat) : List (Bytes × Json) → Bytes
  | [] => []
  | [(name, value)] =>
    newLine (level + 1) ++ quoted name ++ 58 :: 32 :: prettyAt (level + 1) value
  | (name, value) :: more =>
    newLine (level + 1) ++ quoted name ++ 58 :: 32 ::
      (prettyAt (level + 1) value ++ 44 :: prettyMembers level more)

end

/-- A document over several lines. -/
def pretty (document : Json) : Bytes := prettyAt 0 document

/-! ## Taking a document apart -/

/-- The number a document stands for, if it is written with digits only and is below `limit`. -/
def natural? (limit : Nat) : Json → Option Nat
  | number literal =>
    match Decimal.value (literal.map fun byte => Char.ofNat byte.toNat) with
    | some n => if n < limit then some n else none
    | none => none
  | _ => none

/-- The text a document stands for. -/
def text? : Json → Option String
  | string bytes => ofUtf8? bytes
  | _ => none

/-- The truth value a document stands for. -/
def bool? : Json → Option Bool
  | bool value => some value
  | _ => none

/-- The parts of a record: one entry per name, empty where the record says nothing. -/
structure Fields where
  /-- The record was written as an array of its parts in order. -/
  positional : Bool
  values : List (Option Json)
deriving Repr

/-- The value of the only member with a name; `none` if there is none, and no result if there
are several. -/
def single? (members : List (Bytes × Json)) (name : String) : Option (Option Json) :=
  match members.filter fun member => member.1 == utf8 name with
  | [] => some none
  | [member] => some (some member.2)
  | _ => none

/-- The parts of a record with the names given. An object may have other members, which say
nothing; every member's name must be text. An array may be short, but not too long. -/
def fields (names : List String) : Json → Option Fields
  | object members =>
    if members.all fun member => (ofUtf8? member.1).isSome then
      (names.mapM (single? members)).map fun values => ⟨false, values⟩
    else none
  | array items =>
    if items.length ≤ names.length then
      some ⟨true, items.map some ++ List.replicate (names.length - items.length) none⟩
    else none
  | _ => none

end Json

end SealedLog

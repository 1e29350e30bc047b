import SealedLog.Config
import SealedLog.Text.Decimal
import SealedLog.Yaml.Node

/-!
# Configurations in YAML

A configuration is a mapping with the same parts as in JSON. What a scalar means depends on how
it is written: numbers and truth values are plain, and so is the word for "none"; any scalar can
be text. An empty document or section has the usual values.

- `Config.ofYaml?`: the configuration in a text.
-/

namespace SealedLog

namespace Yaml

/-- A document while it is taken apart: its named nodes. -/
abbrev Names := List (Nat × Node)

/-- The tag of scalars of a kind. -/
def kindTag (kind : String) : Bytes := utf8 ("tag:yaml.org,2002:" ++ kind)

/-- The words for "none". -/
def isNullWord (text : String) : Bool := ["null", "Null", "NULL", "~"].contains text

/-- The text of a scalar that can be a value of a kind: a plain one, or a literal one with the
tag of the kind. -/
def valueText? (names : Names) (kind : String) (node : Node) : Option String :=
  match node.resolve names with
  | some (.scalar _ _ .plain text) => some text
  | some (.scalar _ (some tag) .literal text) => if tag == kindTag kind then some text else none
  | _ => none

/-- A truth value. -/
def bool? (names : Names) (node : Node) : Option Bool := do
  let text ← valueText? names "bool" node
  if ["true", "True", "TRUE"].contains text then return true
  else if ["false", "False", "FALSE"].contains text then return false
  else none

/-- The value of a digit in a base up to sixteen. -/
def digitValue? (base : Nat) (c : Char) : Option Nat :=
  (Scalar.hexValue? c).bind fun d => if d < base then some d else none

/-- A number written with digits of a base only, at least one. -/
def numberIn? (base : Nat) (digits : List Char) : Option Nat :=
  if digits = [] then none else Decimal.readWith base (digitValue? base) 0 digits

/-- The number that a text stands for, if it is below `limit`. A plus may stand in front. A
decimal number does not start with a superfluous zero. -/
def numberText? (limit : Nat) (text : String) : Option Nat :=
  let unsigned := match text.toList with | '+' :: rest => rest | chars => chars
  let padded := 1 < unsigned.length && unsigned.head? == some '0' && unsigned.all Char.isDigit
  let found :=
    match unsigned with
    | '0' :: 'x' :: digits => numberIn? 16 digits
    | '0' :: 'o' :: digits => numberIn? 8 digits
    | '0' :: 'b' :: digits => numberIn? 2 digits
    | digits => if padded then none else numberIn? 10 digits
  found.bind fun n => if n < limit then some n else none

/-- A number below `limit`. -/
def natural? (limit : Nat) (names : Names) (node : Node) : Option Nat :=
  (valueText? names "int" node).bind (numberText? limit)

/-- A number of 64 bits. -/
def word? (names : Names) (node : Node) : Option UInt64 :=
  (natural? UInt64.size names node).map Nat.toUInt64

/-- The text of any scalar. -/
def text? (names : Names) (node : Node) : Option String :=
  match node.resolve names with
  | some (.scalar _ _ _ text) => some text
  | _ => none

/-- A path. -/
def path? (names : Names) (node : Node) : Option Path := (text? names node).map Path.mk

/-- A value, or a plain scalar that says that there is none. With a tag only the word for "none"
under its own tag says so. -/
def orNull {α : Type} (read : Names → Node → Option α) (names : Names) (node : Node) :
    Option (Option α) :=
  match node.resolve names with
  | some (.scalar _ tag .plain text) =>
    match tag with
    | none =>
      if text == "" || isNullWord text then some none else (read names node).map some
    | some tag =>
      if tag == kindTag "null" then (if isNullWord text then some none else none)
      else (read names node).map some
  | _ => (read names node).map some

/-- The only value of a key among the members of a mapping; keys are compared as text. -/
def single? (members : List (String × Node)) (name : String) : Option (Option Node) :=
  match members.filter fun member => member.1 == name with
  | [] => some none
  | [member] => some (some member.2)
  | _ => none

/-- The members of a mapping under their keys as text. -/
def textMembers (names : Names) : List (Node × Node) → Option (List (String × Node))
  | [] => some []
  | (key, member) :: more => do
    let key ← text? names key
    let more ← textMembers names more
    return (key, member) :: more

/-- The parts of a record. Other members say nothing, but every key must be a scalar. A scalar
that says nothing is a record without any part. -/
def fields (keys : List String) (names : Names) (node : Node) : Option (List (Option Node)) :=
  match node.resolve names with
  | some (.mapping _ members) => (textMembers names members).bind fun members =>
    keys.mapM (single? members)
  | some (.scalar _ _ .plain "") => some (keys.map fun _ => none)
  | _ => none

/-- The name in a tag of the document's own, behind its exclamation mark. Other tags name nothing,
and neither do bytes that spell no text. -/
def nameInTag? : Bytes → Option String
  | 0x21 :: name => ofUtf8? name
  | _ => none

/-- A part that may be left out. -/
def orDefault {α : Type} (names : Names) (part : Option Node) (usual : α)
    (read : Names → Node → Option α) : Option α :=
  match part with
  | none => some usual
  | some node => read names node

end Yaml

/-- The medium a node names: by a tag on a scalar that says nothing, or, where no tag names
anything, by its text. -/
def BackendKind.ofYaml? (names : Yaml.Names) (node : Yaml.Node) : Option BackendKind :=
  match node.resolve names with
  | some (.scalar _ tag style text) =>
    match tag.bind Yaml.nameInTag? with
    | none => ofName? text
    | some name =>
      if style == .plain && (text == "" || Yaml.isNullWord text) then ofName? name else none
  | _ => none

/-- The storage in a node. -/
def StorageConfig.ofYaml? (names : Yaml.Names) (node : Yaml.Node) : Option StorageConfig := do
  let usual : StorageConfig := {}
  match ← Yaml.fields ["backend", "mount_point", "file_name"] names node with
  | [backend, mountPoint, fileName] =>
    return {
      backend := ← Yaml.orDefault names backend usual.backend BackendKind.ofYaml?
      mountPoint := ← Yaml.orDefault names mountPoint usual.mountPoint (Yaml.orNull Yaml.path?)
      fileName := ← Yaml.orDefault names fileName usual.fileName Yaml.text? }
  | _ => none

/-- The element in a node. -/
def ElementConfig.ofYaml? (names : Yaml.Names) (node : Yaml.Node) : Option ElementConfig := do
  let usual : ElementConfig := {}
  match ← Yaml.fields ["completion_timeout_ms", "state_file", "latency_ms"] names node with
  | [timeout, stateFile, latency] =>
    return {
      completionTimeoutMs :=
        ← Yaml.orDefault names timeout usual.completionTimeoutMs (Yaml.orNull Yaml.word?)
      stateFile := ← Yaml.orDefault names stateFile usual.stateFile (Yaml.orNull Yaml.path?)
      latencyMs := ← Yaml.orDefault names latency usual.latencyMs Yaml.word? }
  | _ => none

/-- The configuration in a node. -/
def Config.ofNode? (names : Yaml.Names) (node : Yaml.Node) : Option Config := do
  let usual : Config := {}
  let parts ← Yaml.fields
    ["key_slot", "force_regenerate", "plaintext_max_len", "record_size", "storage", "hsm"]
    names node
  match parts with
  | [keySlot, force, plaintextMaxLen, recordSize, storage, element] =>
    return {
      keySlot := ← Yaml.orDefault names keySlot usual.keySlot fun names node =>
        (Yaml.natural? UInt16.size names node).map Nat.toUInt16
      forceRegenerate := ← Yaml.orDefault names force usual.forceRegenerate Yaml.bool?
      plaintextMaxLen := ← Yaml.orDefault names plaintextMaxLen usual.plaintextMaxLen Yaml.word?
      recordSize := ← Yaml.orDefault names recordSize usual.recordSize Yaml.word?
      storage := ← Yaml.orDefault names storage usual.storage StorageConfig.ofYaml?
      element := ← Yaml.orDefault names element usual.element ElementConfig.ofYaml? }
  | _ => none

/-- The configuration in a text. -/
def Config.ofYaml? (text : String) : Option Config :=
  match Yaml.Node.ofText? text with
  | none => none
  | some none => some {}
  | some (some node) => Config.ofNode? node.named node

end SealedLog

import Mathlib.Tactic.IntervalCases
import SealedLog.Config.File
import SealedLog.Proofs.Json.Fields
import SealedLog.Proofs.Json.Printing

/-!
# Configurations that are written down

A configuration can be written down with all its parts. Whoever reads it finds the same
configuration again, whether it stands in a JSON file, in whatever layout, or in a YAML mapping.

- `Config.document`, `Config.node`: a configuration as a document, and as a node.
- `Config.ofJson?_document`, `Config.ofNode?_node`: it is found again in them.
- `Config.ofText?_of_spells`, `Config.ofText?_of_node`: it is read from a file.
-/

namespace SealedLog

/-! ## In JSON -/

namespace Json

/-- A part for which `null` says that there is none. -/
def ofOption {α : Type} (write : α → Json) : Option α → Json
  | none => .null
  | some a => write a

/-- A number of 64 bits as a document. -/
def ofWord (word : UInt64) : Json := .ofNat word.toNat

/-- A path as a document. -/
def ofPath (path : Path) : Json := .ofText path.text

theorem text?_ofText (text : String) : (ofText text).text? = some text := by
  rw [ofText, text?, ofUtf8?_utf8]

theorem path?_ofPath (path : Path) : (ofPath path).path? = some path := by
  rw [ofPath, path?, text?_ofText]
  rfl

theorem word?_ofWord (word : UInt64) : (ofWord word).word? = some word := by
  rw [ofWord, word?, natural?_ofNat word.toNat_lt_size, Option.map_some]
  exact congrArg some UInt64.ofNat_toNat

/-- A part that is written down is found, and so is that there is none. -/
theorem orNull_ofOption {α : Type} {read : Json → Option α} {write : α → Json}
    (hread : ∀ a, read (write a) = some a) (hwrite : ∀ a, write a ≠ .null) (part : Option α) :
    orNull read (ofOption write part) = some part := by
  cases part with
  | none => rfl
  | some a =>
    have hsome := congrArg (Option.map some) (hread a)
    rw [ofOption]
    cases hwritten : write a with
    | null => exact absurd hwritten (hwrite a)
    | bool | number | string | array | object =>
      rw [hwritten] at hsome
      exact hsome

end Json

theorem BackendKind.ofJson?_name (kind : BackendKind) :
    BackendKind.ofJson? (.ofText kind.name) = some kind := by
  have hname : BackendKind.ofName? kind.name = some kind := by
    cases kind <;> decide
  show (Json.text? (.ofText kind.name)).bind BackendKind.ofName? = some kind
  rw [Json.text?_ofText, Option.bind_some, hname]

/-- The storage of a configuration as a document. -/
def StorageConfig.document (config : StorageConfig) : Json :=
  .object (Json.record ["backend", "mount_point", "file_name"]
    [.ofText config.backend.name, .ofOption .ofPath config.mountPoint, .ofText config.fileName])

theorem StorageConfig.ofJson?_document (config : StorageConfig) :
    StorageConfig.ofJson? config.document = some config := by
  have hmountPoint := Json.orNull_ofOption Json.path?_ofPath (fun _ => nofun) config.mountPoint
  rw [ofJson?, document, Json.fields_record _ _ rfl (by decide)]
  simp only [Option.bind_eq_bind, Option.bind_some, List.map, Json.orDefault,
    BackendKind.ofJson?_name, hmountPoint, Json.text?_ofText]
  rfl

/-- How the element of a configuration is reached, as a document. -/
def ElementConfig.document (config : ElementConfig) : Json :=
  .object (Json.record ["completion_timeout_ms", "state_file", "latency_ms"]
    [.ofOption .ofWord config.completionTimeoutMs, .ofOption .ofPath config.stateFile,
      .ofWord config.latencyMs])

theorem ElementConfig.ofJson?_document (config : ElementConfig) :
    ElementConfig.ofJson? config.document = some config := by
  have htimeout :=
    Json.orNull_ofOption Json.word?_ofWord (fun _ => nofun) config.completionTimeoutMs
  have hstateFile := Json.orNull_ofOption Json.path?_ofPath (fun _ => nofun) config.stateFile
  rw [ofJson?, document, Json.fields_record _ _ rfl (by decide)]
  simp only [Option.bind_eq_bind, Option.bind_some, List.map, Json.orDefault, htimeout, hstateFile,
    Json.word?_ofWord]
  rfl

namespace Config

/-- A configuration as a document, with all its parts. -/
def document (config : Config) : Json :=
  .object (Json.record
    ["key_slot", "force_regenerate", "plaintext_max_len", "record_size", "storage", "hsm"]
    [.ofNat config.keySlot.toNat, .bool config.forceRegenerate, .ofWord config.plaintextMaxLen,
      .ofWord config.recordSize, config.storage.document, config.element.document])

/-- A configuration is found in its document. -/
theorem ofJson?_document (config : Config) : ofJson? config.document = some config := by
  have hkeySlot : (Json.natural? UInt16.size (.ofNat config.keySlot.toNat)).map Nat.toUInt16
      = some config.keySlot := by
    rw [Json.natural?_ofNat config.keySlot.toNat_lt_size, Option.map_some]
    exact congrArg some UInt16.ofNat_toNat
  have hforce : (Json.bool config.forceRegenerate).bool? = some config.forceRegenerate := rfl
  rw [ofJson?, document, Json.fields_record _ _ rfl (by decide)]
  simp only [Option.bind_eq_bind, Option.bind_some, List.map, Json.orDefault, hkeySlot, hforce,
    Json.word?_ofWord, StorageConfig.ofJson?_document, ElementConfig.ofJson?_document]
  rfl

theorem plain_document (config : Config) : Json.Plain config.document := by
  have hword : ∀ word, Json.Plain (.ofWord word) := fun _ => .natural _
  have hoption : ∀ {α : Type} {write : α → Json} (part : Option α), (∀ a, Json.Plain (write a)) →
      Json.Plain (.ofOption write part) := by
    rintro α write (_ | a) hwrite
    · exact .null
    · exact hwrite a
  have hstorage : Json.Plain config.storage.document := by
    refine .object fun member hmember => ?_
    simp only [Json.record, List.zipWith, List.mem_cons, List.not_mem_nil, or_false] at hmember
    rcases hmember with rfl | rfl | rfl
    · exact .string _
    · exact hoption _ fun _ => .string _
    · exact .string _
  have helement : Json.Plain config.element.document := by
    refine .object fun member hmember => ?_
    simp only [Json.record, List.zipWith, List.mem_cons, List.not_mem_nil, or_false] at hmember
    rcases hmember with rfl | rfl | rfl
    · exact hoption _ hword
    · exact hoption _ fun _ => .string _
    · exact hword _
  refine .object fun member hmember => ?_
  simp only [Json.record, List.zipWith, List.mem_cons, List.not_mem_nil, or_false] at hmember
  rcases hmember with rfl | rfl | rfl | rfl | rfl | rfl
  · exact .natural _
  · exact .bool _
  · exact hword _
  · exact hword _
  · exact hstorage
  · exact helement

/-- A configuration is read from a JSON file that spells its document. -/
theorem ofText?_of_spells {path : Path} {text : String} {config : Config}
    (hjson : isJson path = true) (hspells : Json.Spells (utf8 text) config.document) :
    ofText? path text = some config := by
  have hread := Json.read_of_spells Json.blanks_nil hspells Json.blanks_nil
  rw [List.nil_append, List.append_nil] at hread
  rw [ofText?, if_pos hjson, hread, Option.bind_some, ofJson?_document]

/-- So it is from a file that it was written to, in one line or over several. -/
theorem ofText?_of_written {path : Path} {text : String} {config : Config}
    (hjson : isJson path = true)
    (hwritten : utf8 text = config.document.compact ∨ utf8 text = config.document.pretty) :
    ofText? path text = some config := by
  refine ofText?_of_spells hjson ?_
  rcases hwritten with hcompact | hpretty
  · exact hcompact ▸ config.plain_document.spells_compact
  · exact hpretty ▸ config.plain_document.spells_prettyAt 0

end Config

/-! ## In YAML -/

/-- The spelling of a number is none of the words that are not made of digits. -/
theorem Decimal.write_ne {text : String} {c : Char} (hmem : c ∈ text.toList)
    (hother : ∀ value < 10, c ≠ digit value) (n : Nat) : write n ≠ text := by
  rintro rfl
  rw [write, String.toList_ofList] at hmem
  obtain ⟨value, hlt, rfl⟩ := mem_digits hmem
  exact hother value hlt rfl

namespace Yaml

/-- A key of a mapping. -/
def key (name : String) : Node := .scalar none none .plain name

/-- A text as a node. -/
def ofText (text : String) : Node := .scalar none none .doubleQuoted text

/-- A natural number as a node. -/
def ofNat (n : Nat) : Node := .scalar none none .plain (Decimal.write n)

/-- A truth value as a node. -/
def ofBool (value : Bool) : Node := .scalar none none .plain (if value then "true" else "false")

/-- A part for which a word says that there is none. -/
def ofOption {α : Type} (write : α → Node) : Option α → Node
  | none => .scalar none none .plain "null"
  | some a => write a

variable (names : Names)

theorem bool?_ofBool (value : Bool) : bool? names (ofBool value) = some value := by
  cases value with
  | false => rfl
  | true => rfl

/-- A number that was written is found. -/
theorem numberText?_write {limit n : Nat} (h : n < limit) :
    numberText? limit (Decimal.write n) = some n := by
  have hdigit : ∀ value < 10, digitValue? 10 (Decimal.digit value) = some value := by decide
  have hread : numberIn? 10 (Decimal.digits n) = some n := by
    rw [numberIn?, if_neg (Decimal.digits_ne_nil n), Decimal.readWith_digits hdigit]
  have hfound : numberText? limit (Decimal.write n)
      = (numberIn? 10 (Decimal.digits n)).bind fun n => if n < limit then some n else none := by
    rw [numberText?, Decimal.write, String.toList_ofList]
    rcases Decimal.digits_shape n with ⟨-, hdigits⟩ | ⟨value, rest, hpos, hlt, hdigits⟩
    · rw [hdigits]
      rfl
    · -- The first digit is neither a plus nor a superfluous zero.
      have hunpadded : ∀ (long signs : Bool) (found : Option Nat),
          (if (long && false && signs) = true then none else found) = found := by
        intro long signs found
        rw [Bool.and_false, Bool.false_and, if_neg Bool.false_ne_true]
      rw [hdigits, ← hunpadded (decide (1 < (Decimal.digit value :: rest).length))
        ((Decimal.digit value :: rest).all Char.isDigit)
        (numberIn? 10 (Decimal.digit value :: rest))]
      interval_cases value <;> rfl
  rw [hfound, hread, Option.bind_some, if_pos h]

theorem natural?_ofNat {limit n : Nat} (h : n < limit) :
    natural? limit names (ofNat n) = some n :=
  numberText?_write h

theorem word?_ofNat (word : UInt64) : word? names (ofNat word.toNat) = some word := by
  rw [word?, natural?_ofNat names word.toNat_lt_size, Option.map_some]
  exact congrArg some UInt64.ofNat_toNat

/-- A path that is written down is found, and so is that there is none. -/
theorem path_ofOption (part : Option Path) :
    orNull path? names (ofOption (fun path => ofText path.text) part) = some part := by
  cases part with
  | none => rfl
  | some path => rfl

/-- So it is with numbers: none of them is spelled like a word for "none". -/
theorem word_ofOption (part : Option UInt64) :
    orNull word? names (ofOption (fun word => ofNat word.toNat) part) = some part := by
  cases part with
  | none => rfl
  | some word =>
    have hempty : (Decimal.write word.toNat == "") = false := by
      rw [beq_eq_false_iff_ne, Decimal.write]
      exact fun h => Decimal.digits_ne_nil _ (String.ofList_eq_empty_iff.mp h)
    have hword : isNullWord (Decimal.write word.toNat) = false := by
      rw [isNullWord, List.contains_eq_mem, decide_eq_false_iff_not]
      intro hmem
      simp only [List.mem_cons, List.not_mem_nil, or_false] at hmem
      rcases hmem with h | h | h | h
      · exact Decimal.write_ne (c := 'n') (by decide) (by decide) _ h
      · exact Decimal.write_ne (c := 'N') (by decide) (by decide) _ h
      · exact Decimal.write_ne (c := 'N') (by decide) (by decide) _ h
      · exact Decimal.write_ne (c := '~') (by decide) (by decide) _ h
    have hread : orNull word? names (ofNat word.toNat)
        = if Decimal.write word.toNat == "" || isNullWord (Decimal.write word.toNat) then some none
          else (word? names (ofNat word.toNat)).map some := rfl
    rw [ofOption, hread, hempty, hword, Bool.or_false, if_neg Bool.false_ne_true, word?_ofNat]
    rfl

end Yaml

/-- The storage of a configuration as a node. -/
def StorageConfig.node (config : StorageConfig) : Yaml.Node :=
  .mapping none
    [(Yaml.key "backend", .scalar none none .plain config.backend.name),
      (Yaml.key "mount_point", Yaml.ofOption (fun path => Yaml.ofText path.text) config.mountPoint),
      (Yaml.key "file_name", Yaml.ofText config.fileName)]

theorem StorageConfig.ofYaml?_node (names : Yaml.Names) (config : StorageConfig) :
    StorageConfig.ofYaml? names config.node = some config := by
  have hbackend : BackendKind.ofYaml? names (.scalar none none .plain config.backend.name)
      = some config.backend := by
    cases config.backend <;> rfl
  have hfields : Yaml.fields ["backend", "mount_point", "file_name"] names config.node
      = some [some (.scalar none none .plain config.backend.name),
          some (Yaml.ofOption (fun path => Yaml.ofText path.text) config.mountPoint),
          some (Yaml.ofText config.fileName)] := rfl
  have hfileName : Yaml.text? names (Yaml.ofText config.fileName) = some config.fileName := rfl
  rw [ofYaml?, hfields]
  simp only [Option.bind_eq_bind, Option.bind_some, Yaml.orDefault, hbackend,
    Yaml.path_ofOption names config.mountPoint, hfileName]
  rfl

/-- How the element of a configuration is reached, as a node. -/
def ElementConfig.node (config : ElementConfig) : Yaml.Node :=
  .mapping none
    [(Yaml.key "completion_timeout_ms",
        Yaml.ofOption (fun word => Yaml.ofNat word.toNat) config.completionTimeoutMs),
      (Yaml.key "state_file", Yaml.ofOption (fun path => Yaml.ofText path.text) config.stateFile),
      (Yaml.key "latency_ms", Yaml.ofNat config.latencyMs.toNat)]

theorem ElementConfig.ofYaml?_node (names : Yaml.Names) (config : ElementConfig) :
    ElementConfig.ofYaml? names config.node = some config := by
  have hfields : Yaml.fields ["completion_timeout_ms", "state_file", "latency_ms"] names config.node
      = some [some (Yaml.ofOption (fun word => Yaml.ofNat word.toNat) config.completionTimeoutMs),
          some (Yaml.ofOption (fun path => Yaml.ofText path.text) config.stateFile),
          some (Yaml.ofNat config.latencyMs.toNat)] := rfl
  rw [ofYaml?, hfields]
  simp only [Option.bind_eq_bind, Option.bind_some, Yaml.orDefault,
    Yaml.word_ofOption names config.completionTimeoutMs,
    Yaml.path_ofOption names config.stateFile, Yaml.word?_ofNat]
  rfl

namespace Config

/-- A configuration as a node, with all its parts. -/
def node (config : Config) : Yaml.Node :=
  .mapping none
    [(Yaml.key "key_slot", Yaml.ofNat config.keySlot.toNat),
      (Yaml.key "force_regenerate", Yaml.ofBool config.forceRegenerate),
      (Yaml.key "plaintext_max_len", Yaml.ofNat config.plaintextMaxLen.toNat),
      (Yaml.key "record_size", Yaml.ofNat config.recordSize.toNat),
      (Yaml.key "storage", config.storage.node), (Yaml.key "hsm", config.element.node)]

/-- A configuration is found in its node, whatever has names in the text around it. -/
theorem ofNode?_node (names : Yaml.Names) (config : Config) :
    ofNode? names config.node = some config := by
  have hkeySlot : (Yaml.natural? UInt16.size names (Yaml.ofNat config.keySlot.toNat)).map
      Nat.toUInt16 = some config.keySlot := by
    rw [Yaml.natural?_ofNat names config.keySlot.toNat_lt_size, Option.map_some]
    exact congrArg some UInt16.ofNat_toNat
  have hfields : Yaml.fields
      ["key_slot", "force_regenerate", "plaintext_max_len", "record_size", "storage", "hsm"]
      names config.node
        = some [some (Yaml.ofNat config.keySlot.toNat), some (Yaml.ofBool config.forceRegenerate),
            some (Yaml.ofNat config.plaintextMaxLen.toNat),
            some (Yaml.ofNat config.recordSize.toNat), some config.storage.node,
            some config.element.node] := rfl
  rw [ofNode?, hfields]
  simp only [Option.bind_eq_bind, Option.bind_some, Yaml.orDefault, hkeySlot, Yaml.bool?_ofBool,
    Yaml.word?_ofNat, StorageConfig.ofYaml?_node, ElementConfig.ofYaml?_node]
  rfl

/-- A configuration is read from a file whose only document is its node. -/
theorem ofText?_of_node {path : Path} {text : String} {config : Config}
    (hyaml : isJson path = false) (hnode : Yaml.Node.ofText? text = some (some config.node)) :
    ofText? path text = some config := by
  rw [ofText?, hyaml, if_neg Bool.false_ne_true, ofYaml?, hnode]
  exact ofNode?_node _ config

example : ofText? ⟨"log.yaml"⟩ ("key_slot: 57856\nforce_regenerate: true\n"
    ++ "plaintext_max_len: 32\nrecord_size: 48\nstorage:\n  backend: sdcard\n"
    ++ "  mount_point: null\n  file_name: \"log.bin\"\nhsm:\n  completion_timeout_ms: null\n"
    ++ "  state_file: \"slots.json\"\n  latency_ms: 5\n")
      = some
        { forceRegenerate := true
          plaintextMaxLen := 32
          recordSize := 48
          storage := { backend := .sdCard, fileName := "log.bin" }
          element :=
            { completionTimeoutMs := none
              stateFile := some ⟨"slots.json"⟩
              latencyMs := 5 } } := by
  decide +kernel

end Config

end SealedLog

import SealedLog.Proofs.Json.Fields
import SealedLog.Proofs.Json.Printing
import SealedLog.Proofs.SoftElement.Slots
import SealedLog.SoftElement.StateFile

/-!
# The bytes of a state file

What is written into a state file depends on what is in the slots, and reading it gives the same
slots again. The digest function can be any function: the digest is taken of the same bytes both
times.

- `encode_eq_of_same`: slots with the same entries have the same bytes.
- `decode_of_read`, `decode_encode`: the bytes of some slots are accepted, and hold the same slots.
-/

namespace SealedLog.StateFile

variable {slots slots' : Slots}

/-! ## One slot -/

namespace Entry

/-- A byte string in hexadecimal is text. -/
theorem textBytes?_hex (bytes : Bytes) :
    textBytes? (.string (utf8 (Hex.encode bytes))) = some (utf8 (Hex.encode bytes)) := by
  rw [textBytes?, Json.text?, ofUtf8?_utf8]
  rfl

/-- The names of a written slot's parts are different. -/
theorem nodup_names : ["id", "metadata", "key"].Nodup := by decide

/-- The written form of a slot is found in its document. -/
theorem ofDocument?_ofSlot (slot : ObjectId × SlotEntry) :
    ofDocument? (ofSlot slot).document = some (ofSlot slot) := by
  obtain ⟨id, metadata, key⟩ := slot
  have hfields : ∀ parts : Json, Json.fields ["id", "metadata", "key"]
      (.object [(utf8 "id", .ofNat id.toNat),
        (utf8 "metadata", .string (utf8 (Hex.encode metadata))), (utf8 "key", parts)])
      = some ⟨false, [some (.ofNat id.toNat), some (.string (utf8 (Hex.encode metadata))),
        some parts]⟩ := fun parts =>
    Json.fields_record ["id", "metadata", "key"]
      [.ofNat id.toNat, .string (utf8 (Hex.encode metadata)), parts] rfl nodup_names
  have hid : Json.natural? UInt16.size (.ofNat id.toNat) = some id.toNat :=
    Json.natural?_ofNat id.toNat_lt_size
  cases key with
  | none =>
    simp only [ofSlot, document, Option.map_none, ofDocument?, hfields, hid, textBytes?_hex,
      Option.bind_eq_bind, Option.bind_some, UInt16.ofNat_toNat]
    rfl
  | some key =>
    simp only [ofSlot, document, Option.map_some, ofDocument?, hfields, hid, textBytes?_hex,
      Option.bind_eq_bind, Option.bind_some, UInt16.ofNat_toNat]
    rfl

/-- The written form of a slot stands for that slot. -/
theorem toSlot_ofSlot (slot : ObjectId × SlotEntry) : toSlot (ofSlot slot) = .ok slot := by
  obtain ⟨id, metadata, key⟩ := slot
  cases key with
  | none =>
    simp only [toSlot, ofSlot, Hex.decode_encode, Option.map_none]
    rfl
  | some key =>
    simp only [toSlot, ofSlot, Hex.decode_encode, Option.map_some]
    rfl

theorem plain_document (entry : Entry) : Json.Plain entry.document := by
  refine .object fun member hmember => ?_
  simp only [List.mem_cons, List.not_mem_nil, or_false] at hmember
  rcases hmember with rfl | rfl | rfl
  · exact .natural _
  · exact .string _
  · cases entry.key with
    | none => exact .null
    | some key => exact .string key

end Entry

/-! ## All slots -/

/-- What a state file holds. -/
def document (entries : List Entry) (digest : Bytes) : Json :=
  .object (Json.record ["slots", "digest"]
    [.array (entries.map Entry.document), .string digest])

theorem plain_document (entries : List Entry) (digest : Bytes) :
    Json.Plain (document entries digest) := by
  refine .object fun member hmember => ?_
  simp only [Json.record, List.zipWith_cons_cons, List.zipWith_nil_left, List.mem_cons,
    List.not_mem_nil, or_false] at hmember
  rcases hmember with rfl | rfl
  · refine .array fun item hitem => ?_
    obtain ⟨entry, -, rfl⟩ := List.mem_map.mp hitem
    exact entry.plain_document
  · exact .string digest

/-- The written slots and their digest are found in the document. -/
theorem ofDocument?_document (hash : Bytes → Bytes) (slots : Slots) :
    ofDocument? (document (entriesOf slots) (digestOf hash (entriesOf slots)))
      = some (entriesOf slots, digestOf hash (entriesOf slots)) := by
  have hitems : ((entriesOf slots).map Entry.document).mapM Entry.ofDocument?
      = some (entriesOf slots) := by
    have hslot : (Entry.ofDocument? ∘ Entry.document) ∘ Entry.ofSlot
        = fun slot => pure (Entry.ofSlot slot) := by
      funext slot
      exact Entry.ofDocument?_ofSlot slot
    rw [entriesOf, List.mapM_map, List.mapM_map, hslot, List.mapM_pure]
    rfl
  have hdigest : Entry.textBytes? (.string (digestOf hash (entriesOf slots)))
      = some (digestOf hash (entriesOf slots)) := Entry.textBytes?_hex _
  have hfields := Json.fields_record ["slots", "digest"]
    [.array ((entriesOf slots).map Entry.document), .string (digestOf hash (entriesOf slots))]
    rfl (by decide)
  simp only [ofDocument?, document, hfields, List.map_cons, List.map_nil, hitems, hdigest,
    Option.bind_eq_bind, Option.bind_some]
  rfl

theorem mapM_toSlot_entriesOf (slots : Slots) :
    (entriesOf slots).mapM Entry.toSlot = .ok slots.sorted := by
  have hslot : Entry.toSlot ∘ Entry.ofSlot = fun slot => pure slot := by
    funext slot
    exact Entry.toSlot_ofSlot slot
  rw [entriesOf, List.mapM_map, hslot, List.mapM_pure, List.map_id']
  rfl

/-- The bytes of a state file depend on what is in the slots only. -/
theorem encode_eq_of_same (hash : Bytes → Bytes) (h : slots.Same slots') :
    encode hash slots = encode hash slots' := by
  rw [encode, encode, entriesOf, entriesOf, h.sorted_eq]

/-- Some slots with their digest are accepted in any spelling, and are the slots found. -/
theorem decode_of_read {hash : Bytes → Bytes} {slots : Slots} {content : Bytes} (path : Path)
    (hread : Json.read content
      = some (document (entriesOf slots) (digestOf hash (entriesOf slots)))) :
    ∃ found, decode hash path content = .ok found ∧ found.Same slots := by
  refine ⟨Slots.ofList slots.sorted, ?_, fun id => ?_⟩
  · rw [decode, hread, Option.bind_some, ofDocument?_document]
    simp only [ne_eq, not_true_eq_false, if_false, mapM_toSlot_entriesOf]
  · rw [Slots.get?_ofList (Slots.nodup_sorted slots), Slots.lookup_sorted]

/-- The bytes of a state file are accepted, and hold the slots they were made of. -/
theorem decode_encode (hash : Bytes → Bytes) (path : Path) (slots : Slots) :
    ∃ found, decode hash path (encode hash slots) = .ok found ∧ found.Same slots :=
  decode_of_read path (plain_document _ _).read_pretty

end SealedLog.StateFile

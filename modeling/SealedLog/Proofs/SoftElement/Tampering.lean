import SealedLog.Proofs.SoftElement.Saving
import SealedLog.Sha256

/-!
# State files that were tampered with

The digest in a state file is taken over the slots in one line. No two lists of slots are the same
in one line, whatever strings are in them: the line can be read back. So whoever alters the slots
of a state file and keeps its digest has found two inputs with one digest, or the file is refused.

- `payload_injective`: the slots are determined by the bytes the digest is taken over.
- `Collision hash left right`: two inputs with one digest.
- `written_of_load`: what stands in a file whose slots are loaded.
- `same_slots_of_same_digest`: two files with the same digest hold the same slots, or their slots
  are a collision.
- `refused_of_altered`: slots that were altered are refused under the digest of the old ones, or
  the two are a collision.
-/

namespace SealedLog.StateFile

open Files

variable {hash : Bytes → Bytes} {path : Path} {files after : Files} {slots : Slots}
  {content : Bytes}

/-! ## What the digest is taken over -/

/-- A written slot is determined by its document. A key that is absent is unlike every string. -/
theorem Entry.document_injective : Function.Injective Entry.document := by
  rintro ⟨id, metadata, key⟩ ⟨id', metadata', key'⟩ h
  simp only [document, Json.object.injEq, List.cons.injEq, Prod.mk.injEq, true_and, and_true,
    Json.string.injEq] at h
  obtain ⟨hid, rfl, hkey⟩ := h
  have hnumber : some id.toNat = some id'.toNat := by
    rw [← Json.natural?_ofNat id.toNat_lt_size, hid, Json.natural?_ofNat id'.toNat_lt_size]
  obtain rfl := UInt16.toNat_inj.mp (Option.some.inj hnumber)
  cases key with
  | none =>
    cases key' with
    | none => rfl
    | some key' => cases hkey
  | some key =>
    cases key' with
    | none => cases hkey
    | some key' => rw [Json.string.inj hkey]

/-- Written slots are determined by the line they make, because it reads back. -/
theorem payload_injective : Function.Injective payload := by
  intro entries entries' h
  have hplain : ∀ entries : List Entry, Json.Plain (.array (entries.map Entry.document)) :=
    fun entries => .array fun item hitem => by
      obtain ⟨entry, -, rfl⟩ := List.mem_map.mp hitem
      exact entry.plain_document
  have hread : some (Json.array (entries.map Entry.document))
      = some (Json.array (entries'.map Entry.document)) := by
    rw [← (hplain entries).read_compact, ← (hplain entries').read_compact]
    exact congrArg Json.read h
  exact Entry.document_injective.list_map (Json.array.inj (Option.some.inj hread))

/-- Two inputs of a digest function that are different and have the same digest. -/
def Collision (hash : Bytes → Bytes) (left right : Bytes) : Prop :=
  left ≠ right ∧ hash left = hash right

/-- Two lists of slots with the same digest are the same list, or their lines are a collision. -/
theorem eq_or_collision {entries entries' : List Entry}
    (h : digestOf hash entries = digestOf hash entries') :
    entries = entries' ∨ Collision hash (payload entries) (payload entries') := by
  rcases eq_or_ne entries entries' with rfl | hne
  · exact .inl rfl
  · refine .inr ⟨payload_injective.ne hne, ?_⟩
    have hdecode := congrArg Hex.decode h
    rwa [digestOf, digestOf, Hex.decode_encode, Hex.decode_encode, Except.ok.injEq] at hdecode

/-! ## What stands in a file -/

/-- The written slots and the digest that stand in the bytes of a state file. -/
def written? (content : Bytes) : Option (List Entry × Bytes) :=
  (Json.read content).bind ofDocument?

/-- In bytes that are accepted stand slots under their digest, and they are the slots found. -/
theorem written_of_decode (h : decode hash path content = .ok slots) :
    ∃ entries found, written? content = some (entries, digestOf hash entries) ∧
      entries.mapM Entry.toSlot = .ok found ∧ slots = Slots.ofList found := by
  cases hwritten : written? content with
  | none =>
    rw [written?] at hwritten
    rw [decode, hwritten] at h
    cases h
  | some written =>
    obtain ⟨entries, digest⟩ := written
    rw [written?] at hwritten
    rw [decode, hwritten] at h
    simp only at h
    split_ifs at h with hdigest
    obtain rfl : digestOf hash entries = digest := not_not.mp hdigest
    cases hslots : entries.mapM Entry.toSlot with
    | error error =>
      rw [hslots] at h
      cases h
    | ok found =>
      rw [hslots] at h
      cases h
      exact ⟨entries, found, rfl, hslots, rfl⟩

/-- In a file whose slots are loaded stand slots under their digest, and they are those loaded. -/
theorem written_of_load (h : load hash path files = (.ok slots, after)) :
    ∃ content entries found, files.read? path = some content ∧
      written? content = some (entries, digestOf hash entries) ∧
      entries.mapM Entry.toSlot = .ok found ∧ slots = Slots.ofList found := by
  obtain ⟨content, hread, hdecode, -⟩ := read?_of_load h
  obtain ⟨entries, found, hwritten⟩ := written_of_decode hdecode
  exact ⟨content, entries, found, hread, hwritten⟩

/-- A file system with a state file below the root. -/
def withStateFile (content : Bytes) : Files :=
  ({} : Files).put ["slots.json".toList] (.file content fileMode)

theorem read?_withStateFile (content : Bytes) :
    (withStateFile content).read? ⟨"/slots.json"⟩ = some content := by
  have hroot : Leads {} ⟨"/slots.json"⟩ [] :=
    ⟨by decide +kernel, by decide +kernel, by decide, by decide +kernel, by decide +kernel,
      by decide +kernel⟩
  have hplace : [] ++ [(⟨"/slots.json"⟩ : Path).lastPiece] = ["slots.json".toList] := by
    decide +kernel
  have hnode : (withStateFile content).node? ([] ++ [(⟨"/slots.json"⟩ : Path).lastPiece])
      = some (.file content fileMode) := by
    rw [hplace]
    exact node?_put_self _ _ _
  have hfree : ¬ ({} : Files).IsDirectory ["slots.json".toList] := nofun
  exact (hroot.put_file hfree content fileMode).read?_eq hnode

/-! ## Tampering -/

/-- Slots that stand under the digest of others are refused, or the two are a collision. -/
theorem refused_of_altered {entries entries' : List Entry}
    (hwritten : written? content = some (entries', digestOf hash entries))
    (hne : entries' ≠ entries)
    (hcollision : ¬ Collision hash (payload entries') (payload entries)) :
    decode hash path content = .error (.integrity path) := by
  have hdigest : digestOf hash entries' ≠ digestOf hash entries := fun hdigest =>
    (eq_or_collision hdigest).elim hne hcollision
  rw [written?] at hwritten
  rw [decode, hwritten]
  exact if_pos hdigest

/-- No two lists of written slots are the same in one line. Hence, when two state files are
accepted and the same digest stands in both, the same slots stand in both and the same are loaded,
or what the digests were taken over is a collision. -/
theorem same_slots_of_same_digest :
    Function.Injective payload ∧
    ∀ (hash : Bytes → Bytes) (path path' : Path) (files files' after after' : Files)
      (slots slots' : Slots),
      load hash path files = (.ok slots, after) →
      load hash path' files' = (.ok slots', after') →
      ∃ content content' entries entries' digest digest',
        files.read? path = some content ∧ written? content = some (entries, digest) ∧
        files'.read? path' = some content' ∧ written? content' = some (entries', digest') ∧
        (digest = digest' →
          (entries = entries' ∧ slots = slots') ∨
            Collision hash (payload entries) (payload entries')) := by
  refine ⟨payload_injective, fun hash path path' files files' after after' slots slots' h h' => ?_⟩
  obtain ⟨content, entries, found, hread, hwritten, hslots, rfl⟩ := written_of_load h
  obtain ⟨content', entries', found', hread', hwritten', hslots', rfl⟩ := written_of_load h'
  refine ⟨content, content', entries, entries', _, _, hread, hwritten, hread', hwritten',
    fun hdigest => ?_⟩
  rcases eq_or_collision hdigest with rfl | hcollision
  · rw [hslots, Except.ok.injEq] at hslots'
    exact .inl ⟨rfl, congrArg Slots.ofList hslots'⟩
  · exact .inr hcollision

/-- The slots of an element over several lines, as it writes them, and the same document in one
line: one digest stands in both, and the same slots are loaded. -/
theorem same_slots_of_two_layouts :
    ∃ (content content' : Bytes) (slots : Slots),
      content[1]? = some 10 ∧ content'[1]? = some 34 ∧
      load Sha256.digest ⟨"/slots.json"⟩ (withStateFile content)
        = (.ok slots, withStateFile content) ∧
      load Sha256.digest ⟨"/slots.json"⟩ (withStateFile content')
        = (.ok slots, withStateFile content') := by
  let saved : Slots := (Slots.empty.insert 7 ⟨[1, 255], some [0, 128]⟩).insert 3 ⟨[9], none⟩
  let whole := document (entriesOf saved) (digestOf Sha256.digest (entriesOf saved))
  have hplain : Json.Plain whole := plain_document _ _
  obtain ⟨slots, hdecode, -⟩ := decode_of_read ⟨"/slots.json"⟩ hplain.read_pretty
  obtain ⟨slots', hdecode', -⟩ := decode_of_read ⟨"/slots.json"⟩ hplain.read_compact
  have hload : load Sha256.digest ⟨"/slots.json"⟩ (withStateFile whole.pretty)
      = (.ok slots, withStateFile whole.pretty) := by
    rw [load_of_read? (read?_withStateFile _) rfl, hdecode]
    rfl
  have hload' : load Sha256.digest ⟨"/slots.json"⟩ (withStateFile whole.compact)
      = (.ok slots', withStateFile whole.compact) := by
    rw [load_of_read? (read?_withStateFile _) rfl, hdecode']
    rfl
  obtain ⟨_, _, entries, entries', digest, digest', hread, hslots, hread', hslots', hsame⟩ :=
    same_slots_of_same_digest.2 Sha256.digest _ _ _ _ _ _ slots slots' hload hload'
  obtain rfl := Option.some.inj ((read?_withStateFile _).symm.trans hread)
  obtain rfl := Option.some.inj ((read?_withStateFile _).symm.trans hread')
  have hwritten : written? whole.pretty = written? whole.compact := by
    rw [written?, written?, hplain.read_pretty, hplain.read_compact]
  rw [hslots, hslots', Option.some.injEq, Prod.mk.injEq] at hwritten
  obtain ⟨rfl, rfl⟩ := hwritten
  rcases hsame rfl with ⟨-, rfl⟩ | hcollision
  · exact ⟨whole.pretty, whole.compact, slots, rfl, rfl, hload, hload'⟩
  · exact absurd rfl hcollision.1

end SealedLog.StateFile

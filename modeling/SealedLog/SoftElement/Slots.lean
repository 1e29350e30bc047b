import SealedLog.Command

/-!
# Key slots

What a software element keeps: for every slot that was ever written its metadata and, once it
has been made, its key. Slots are a finite map, kept without an order.

- `Slots.get?`, `Slots.insert`: the map.
- `Slots.sorted`: its entries in the order of their numbers.
-/

namespace SealedLog

/-- The content of one slot. -/
structure SlotEntry where
  metadata : Bytes := []
  key : Option Bytes := none
deriving Repr, DecidableEq

/-- A finite map from slot numbers to entries. -/
structure Slots where
  entries : List (ObjectId × SlotEntry) := []
  nodup : (entries.map (·.1)).Nodup := by decide

namespace Slots

/-- No slot written. -/
def empty : Slots := {}

/-- The entry of a slot. -/
def get? (slots : Slots) (id : ObjectId) : Option SlotEntry := slots.entries.lookup id

/-- The entries other than that of a slot. -/
def others (id : ObjectId) (entries : List (ObjectId × SlotEntry)) :
    List (ObjectId × SlotEntry) :=
  entries.filter fun entry => entry.1 ≠ id

theorem nodup_others {entries : List (ObjectId × SlotEntry)} (id : ObjectId)
    (h : (entries.map (·.1)).Nodup) : (((id, entry) :: others id entries).map (·.1)).Nodup := by
  simp only [List.map_cons, List.nodup_cons]
  constructor
  · simp [others]
  · exact h.sublist (List.filter_sublist.map _)

/-- The map with an entry for a slot, in place of the one it had. -/
def insert (slots : Slots) (id : ObjectId) (entry : SlotEntry) : Slots :=
  ⟨(id, entry) :: others id slots.entries, nodup_others id slots.nodup⟩

/-- The map that a list of entries describes; of several entries for a slot the last counts. -/
def ofList (entries : List (ObjectId × SlotEntry)) : Slots :=
  entries.foldl (fun slots entry => slots.insert entry.1 entry.2) empty

/-- How many slots were written. -/
def size (slots : Slots) : Nat := slots.entries.length

/-- The entries in the order of their numbers. -/
def sorted (slots : Slots) : List (ObjectId × SlotEntry) :=
  slots.entries.mergeSort fun a b => a.1 ≤ b.1

/-- The metadata of a slot; none was written if it is empty. -/
def metadata (slots : Slots) (id : ObjectId) : Bytes :=
  match slots.get? id with
  | some entry => entry.metadata
  | none => []

/-- The key of a slot. -/
def key? (slots : Slots) (id : ObjectId) : Option Bytes :=
  (slots.get? id).bind (·.key)

/-- Whether a slot has a key. -/
def hasKey (slots : Slots) (id : ObjectId) : Bool := (slots.key? id).isSome

end Slots

end SealedLog

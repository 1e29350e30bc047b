import SealedLog.Proofs.Lookup
import SealedLog.SoftElement.Slots

/-!
# Slots as a map

The list behind a map of slots is not part of what the map says.

- `Slots.Same`: two maps with the same entry in every slot.
- `Slots.get?_insert`: what is in the slots after one of them was given an entry.
- `Slots.Same.sorted_eq`: the entries in the order of their numbers depend on the map alone.
- `Slots.get?_ofList`: a list of entries without repeated numbers describes the map it lists.
-/

namespace SealedLog.Slots

variable {slots slots' : Slots}

/-- Two maps with the same entry in every slot. -/
def Same (slots slots' : Slots) : Prop := ∀ id, slots.get? id = slots'.get? id

@[refl] theorem Same.refl (slots : Slots) : slots.Same slots := fun _ => rfl

theorem Same.symm (h : slots.Same slots') : slots'.Same slots := fun id => (h id).symm

@[simp] theorem get?_empty (id : ObjectId) : empty.get? id = none := rfl

/-- A slot that was given an entry has it; the others are as they were. -/
theorem get?_insert (slots : Slots) (id other : ObjectId) (entry : SlotEntry) :
    (slots.insert id entry).get? other = if other = id then some entry else slots.get? other := by
  have hothers : (others id slots.entries).lookup other
      = if decide (other ≠ id) then slots.get? other else none :=
    lookup_filter (fun key => decide (key ≠ id)) other slots.entries
  show ((id, entry) :: others id slots.entries).lookup other = _
  rw [List.lookup_cons, hothers]
  by_cases h : other = id
  · simp [h]
  · simp [h, beq_eq_false_iff_ne.mpr h]

@[simp] theorem get?_insert_self (slots : Slots) (id : ObjectId) (entry : SlotEntry) :
    (slots.insert id entry).get? id = some entry := by
  rw [get?_insert, if_pos rfl]

theorem key?_insert (slots : Slots) (id other : ObjectId) (entry : SlotEntry) :
    (slots.insert id entry).key? other = if other = id then entry.key else slots.key? other := by
  rw [key?, get?_insert]
  split <;> rfl

theorem Same.metadata_eq (h : slots.Same slots') (id : ObjectId) :
    slots.metadata id = slots'.metadata id := by
  rw [metadata, metadata, h id]

theorem Same.key?_eq (h : slots.Same slots') (id : ObjectId) :
    slots.key? id = slots'.key? id := by
  rw [key?, key?, h id]

/-! ## Order -/

theorem perm_sorted (slots : Slots) : slots.sorted.Perm slots.entries :=
  List.mergeSort_perm _ _

theorem nodup_sorted (slots : Slots) : (slots.sorted.map (·.1)).Nodup :=
  ((perm_sorted slots).map _).nodup_iff.mpr slots.nodup

theorem pairwise_sorted (slots : Slots) :
    slots.sorted.Pairwise fun a b => decide (a.1 ≤ b.1) = true := by
  refine List.pairwise_mergeSort ?_ ?_ _
  · intro a b c hab hbc
    simp only [decide_eq_true_eq] at hab hbc ⊢
    exact UInt16.le_trans hab hbc
  · intro a b
    simp only [Bool.or_eq_true, decide_eq_true_eq]
    exact UInt16.le_total a.1 b.1

/-- The entries in order depend on what is in the slots, and not on how they got there. -/
theorem Same.sorted_eq (h : slots.Same slots') : slots.sorted = slots'.sorted := by
  have hperm : slots.sorted.Perm slots'.sorted :=
    (perm_sorted slots).trans
      ((perm_of_lookup_eq slots.nodup slots'.nodup h).trans (perm_sorted slots').symm)
  refine hperm.eq_of_pairwise ?_ (pairwise_sorted slots) (pairwise_sorted slots')
  intro a b ha hb hab hba
  simp only [decide_eq_true_eq] at hab hba
  have hkey : a.1 = b.1 := UInt16.le_antisymm hab hba
  -- No number is there twice, so it tells the entry.
  have ha' := (mem_iff_lookup (nodup_sorted slots') a.1 a.2).mp (hperm.subset ha)
  have hb' := (mem_iff_lookup (nodup_sorted slots') b.1 b.2).mp hb
  rw [hkey, hb'] at ha'
  exact Prod.ext hkey (Option.some.inj ha').symm

/-- The entries in order are still the same map. -/
theorem lookup_sorted (slots : Slots) (id : ObjectId) :
    slots.sorted.lookup id = slots.get? id := by
  refine Option.ext fun entry => ?_
  rw [← mem_iff_lookup (nodup_sorted slots), (perm_sorted slots).mem_iff,
    mem_iff_lookup slots.nodup]
  rfl

/-- After several entries were put in, a slot has the one meant for it, or else what it had. -/
theorem get?_foldl_insert {entries : List (ObjectId × SlotEntry)}
    (hnodup : (entries.map (·.1)).Nodup) (slots : Slots) (id : ObjectId) :
    (entries.foldl (fun slots entry => slots.insert entry.1 entry.2) slots).get? id
      = (entries.lookup id).or (slots.get? id) := by
  induction entries generalizing slots with
  | nil => rfl
  | cons entry rest ih =>
    rw [List.map_cons, List.nodup_cons] at hnodup
    rw [List.foldl_cons, ih hnodup.2, get?_insert, List.lookup_cons]
    by_cases heq : id = entry.1
    · have hmiss : rest.lookup id = none := by
        rw [List.lookup_eq_none_iff]
        intro later hlater
        rw [bne_iff_ne, heq]
        intro h
        rw [h] at hnodup
        exact hnodup.1 (List.mem_map_of_mem hlater)
      simp [heq, heq ▸ hmiss]
    · have hne : (id == entry.1) = false := beq_eq_false_iff_ne.mpr heq
      rw [if_neg heq, hne]

/-- A list of entries without repeated numbers describes the map it lists. -/
theorem get?_ofList {entries : List (ObjectId × SlotEntry)}
    (hnodup : (entries.map (·.1)).Nodup) (id : ObjectId) :
    (ofList entries).get? id = entries.lookup id := by
  rw [ofList, get?_foldl_insert hnodup, get?_empty, Option.or_none]

end SealedLog.Slots

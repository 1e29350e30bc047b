import Mathlib.Data.List.Nodup
import Mathlib.Data.List.Perm.Basic

/-!
# Looking keys up in lists

Slots and files are kept as lists of keys with values. This module says what such a list is
worth as a map.

- `lookup_filter`: what is left of a map when some keys are dropped.
- `mem_iff_lookup`: without repeated keys, the map and the list say the same.
-/

namespace SealedLog

variable {α β : Type} [BEq α] [LawfulBEq α]

/-- Dropping some keys changes nothing at the others. -/
theorem lookup_filter (keep : α → Bool) (key : α) (entries : List (α × β)) :
    (entries.filter fun entry => keep entry.1).lookup key
      = if keep key then entries.lookup key else none := by
  induction entries with
  | nil => cases keep key <;> rfl
  | cons entry rest ih =>
    obtain ⟨other, value⟩ := entry
    rw [List.filter_cons]
    by_cases heq : key = other
    · subst heq
      rw [List.lookup_cons_self]
      cases hkeep : keep key with
      | true =>
        rw [if_pos rfl, List.lookup_cons_self]
        rfl
      | false =>
        rw [if_neg Bool.false_ne_true, ih, hkeep]
        rfl
    · have hne : (key == other) = false := beq_eq_false_iff_ne.mpr heq
      have hskip : ((other, value) :: rest).lookup key = rest.lookup key := by
        rw [List.lookup_cons, hne]
      rw [hskip, ← ih]
      cases keep other with
      | true =>
        rw [if_pos rfl, List.lookup_cons, hne]
      | false => rw [if_neg Bool.false_ne_true]

/-- Without repeated keys, an entry is in the list exactly if it is found under its key. -/
theorem mem_iff_lookup {entries : List (α × β)} (hnodup : (entries.map (·.1)).Nodup) (key : α)
    (value : β) : (key, value) ∈ entries ↔ entries.lookup key = some value := by
  induction entries with
  | nil => simp
  | cons entry rest ih =>
    obtain ⟨other, found⟩ := entry
    rw [List.map_cons, List.nodup_cons] at hnodup
    obtain ⟨hnew, hrest⟩ := hnodup
    rw [List.mem_cons, ih hrest, List.lookup_cons]
    by_cases heq : key = other
    · subst heq
      have hmiss : rest.lookup key = none := by
        rw [List.lookup_eq_none_iff]
        intro entry hentry
        rw [bne_iff_ne]
        rintro rfl
        exact hnew (List.mem_map.mpr ⟨entry, hentry, rfl⟩)
      simp only [beq_self_eq_true, hmiss, Prod.mk.injEq, true_and, Option.some.injEq,
        reduceCtorEq, or_false]
      exact eq_comm
    · have hne : (key == other) = false := beq_eq_false_iff_ne.mpr heq
      simp only [hne, Prod.mk.injEq, heq, false_and, false_or]

/-- Two lists without repeated keys that are the same map have the same entries. -/
theorem perm_of_lookup_eq {entries entries' : List (α × β)}
    (hnodup : (entries.map (·.1)).Nodup) (hnodup' : (entries'.map (·.1)).Nodup)
    (h : ∀ key, entries.lookup key = entries'.lookup key) : entries.Perm entries' := by
  rw [List.perm_ext_iff_of_nodup hnodup.of_map hnodup'.of_map]
  rintro ⟨key, value⟩
  rw [mem_iff_lookup hnodup, mem_iff_lookup hnodup', h]

end SealedLog

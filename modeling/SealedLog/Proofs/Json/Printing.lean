import SealedLog.Proofs.Json.Spelling

/-!
# Written documents read back

What is written, in one line or over several, spells the document that was written, so reading
it gives the document again.

- `Plain document`: the numbers in the document are naturals in plain decimal.
- `Plain.spells_compact`, `Plain.spells_prettyAt`: both layouts are spellings.
- `Plain.read_compact`, `Plain.read_pretty`: both layouts read back.
-/

namespace SealedLog.Json

/-- A document without numbers other than naturals in plain decimal. -/
inductive Plain : Json → Prop
  | null : Plain .null
  | bool (value : Bool) : Plain (.bool value)
  | natural (n : Nat) : Plain (.ofNat n)
  | string (bytes : Bytes) : Plain (.string bytes)
  | array {items : List Json} : (∀ item ∈ items, Plain item) → Plain (.array items)
  | object {members : List (Bytes × Json)} :
      (∀ member ∈ members, Plain member.2) → Plain (.object members)

/-! ## In one line -/

theorem spells_compactItems {items : List Json} (hne : items ≠ [])
    (h : ∀ item ∈ items, Spells (compact item) item) :
    SpellsItems (compactItems items ++ [93]) items := by
  induction items with
  | nil => exact absurd rfl hne
  | cons item more ih =>
    have hitem := h item List.mem_cons_self
    cases more with
    | nil => exact .last blanks_nil hitem blanks_nil
    | cons next more =>
      have hmore := ih (List.cons_ne_nil _ _) fun later hlater =>
        h later (List.mem_cons_of_mem item hlater)
      rw [compactItems, List.append_assoc]
      · exact .more blanks_nil hitem blanks_nil hmore
      · exact List.cons_ne_nil _ _

theorem spells_compactMembers {members : List (Bytes × Json)} (hne : members ≠ [])
    (h : ∀ member ∈ members, Spells (compact member.2) member.2) :
    SpellsMembers (compactMembers members ++ [125]) members := by
  induction members with
  | nil => exact absurd rfl hne
  | cons member more ih =>
    obtain ⟨name, value⟩ := member
    have hvalue : Spells (compact value) value := h (name, value) List.mem_cons_self
    cases more with
    | nil =>
      rw [compactMembers, List.append_assoc]
      exact .last blanks_nil blanks_nil hvalue blanks_nil
    | cons next more =>
      have hmore := ih (List.cons_ne_nil _ _) fun later hlater =>
        h later (List.mem_cons_of_mem _ hlater)
      rw [compactMembers, List.append_assoc, List.cons_append, List.append_assoc]
      · exact .more blanks_nil blanks_nil hvalue blanks_nil hmore
      · exact List.cons_ne_nil _ _

/-- A document written in one line is a spelling of it. -/
theorem Plain.spells_compact {document : Json} (h : Plain document) :
    Spells (compact document) document := by
  induction h with
  | null => exact .null
  | bool value => cases value with
    | false => exact .no
    | true => exact .yes
  | natural n => exact .natural n
  | string bytes => exact .string bytes
  | @array items _ ih =>
    rw [compact]
    rcases eq_or_ne items [] with rfl | hne
    · exact .noItems
    · exact .array (spells_compactItems hne ih)
  | @object members _ ih =>
    rw [compact]
    rcases eq_or_ne members [] with rfl | hne
    · exact .noMembers
    · exact .object (spells_compactMembers hne ih)

/-! ## Over several lines -/

theorem blanks_newLine (level : Nat) : Blanks (newLine level) := by
  intro byte hbyte
  rcases List.mem_cons.mp hbyte with rfl | hbyte
  · decide
  · rw [List.eq_of_mem_replicate hbyte]
    decide

theorem blanks_space : Blanks [32] := by
  intro byte hbyte
  rw [List.mem_singleton.mp hbyte]
  decide

theorem spells_prettyItems {level : Nat} {items : List Json} (hne : items ≠ [])
    (h : ∀ item ∈ items, Spells (prettyAt (level + 1) item) item) :
    SpellsItems (prettyItems level items ++ newLine level ++ [93]) items := by
  induction items with
  | nil => exact absurd rfl hne
  | cons item more ih =>
    have hitem := h item List.mem_cons_self
    cases more with
    | nil =>
      rw [prettyItems, List.append_assoc, List.append_assoc]
      exact .last (blanks_newLine _) hitem (blanks_newLine _)
    | cons next more =>
      have hmore := ih (List.cons_ne_nil _ _) fun later hlater =>
        h later (List.mem_cons_of_mem item hlater)
      rw [prettyItems, List.append_assoc, List.append_assoc, List.append_assoc, List.cons_append,
        ← List.append_assoc (prettyItems level (next :: more))]
      · exact .more (blanks_newLine _) hitem blanks_nil hmore
      · exact List.cons_ne_nil _ _

theorem spells_prettyMembers {level : Nat} {members : List (Bytes × Json)} (hne : members ≠ [])
    (h : ∀ member ∈ members, Spells (prettyAt (level + 1) member.2) member.2) :
    SpellsMembers (prettyMembers level members ++ newLine level ++ [125]) members := by
  induction members with
  | nil => exact absurd rfl hne
  | cons member more ih =>
    obtain ⟨name, value⟩ := member
    have hvalue : Spells (prettyAt (level + 1) value) value := h (name, value) List.mem_cons_self
    cases more with
    | nil =>
      simp only [prettyMembers, List.append_assoc, List.cons_append]
      exact .last (blanks_newLine _) blanks_space hvalue (blanks_newLine _)
    | cons next more =>
      have hmore := ih (List.cons_ne_nil _ _) fun later hlater =>
        h later (List.mem_cons_of_mem _ hlater)
      simp only [List.append_assoc] at hmore
      rw [prettyMembers]
      · simp only [List.append_assoc, List.cons_append]
        exact .more (blanks_newLine _) blanks_space hvalue blanks_nil hmore
      · exact List.cons_ne_nil _ _

/-- A document written over several lines is a spelling of it, whatever level it starts at. -/
theorem Plain.spells_prettyAt {document : Json} (h : Plain document) (level : Nat) :
    Spells (prettyAt level document) document := by
  induction h generalizing level with
  | null => exact .null
  | bool value => cases value with
    | false => exact .no
    | true => exact .yes
  | natural n => exact .natural n
  | string bytes => exact .string bytes
  | @array items _ ih =>
    rcases eq_or_ne items [] with rfl | hne
    · have hempty : utf8 "[]" = [91, 93] := by decide +kernel
      rw [prettyAt, hempty]
      exact .noItems
    · rw [prettyAt]
      · exact .array (spells_prettyItems hne fun item hitem => ih item hitem _)
      · exact hne
  | @object members _ ih =>
    rcases eq_or_ne members [] with rfl | hne
    · exact .noMembers
    · rw [prettyAt]
      · exact .object (spells_prettyMembers hne fun member hmember => ih member hmember _)
      · exact hne

/-! ## Reading back -/

theorem Plain.read_compact {document : Json} (h : Plain document) :
    read (compact document) = some document := by
  have := read_of_spells blanks_nil h.spells_compact blanks_nil
  rwa [List.nil_append, List.append_nil] at this

theorem Plain.read_pretty {document : Json} (h : Plain document) :
    read (pretty document) = some document := by
  have := read_of_spells blanks_nil (h.spells_prettyAt 0) blanks_nil
  rwa [List.nil_append, List.append_nil] at this

end SealedLog.Json

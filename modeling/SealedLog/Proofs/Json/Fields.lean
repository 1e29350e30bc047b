import SealedLog.Json
import SealedLog.Proofs.Text

/-!
# Records taken apart

A record that was written as an object gives its parts back by their names.

- `natural?_ofNat`: a number that was written is found.
- `fields_record`: an object with the names of a record has the parts of that record.
-/

namespace SealedLog.Json

/-- The characters of a numeral are those that its bytes stand for. -/
theorem chars_write (n : Nat) :
    (utf8 (Decimal.write n)).map (fun byte => Char.ofNat byte.toNat) = Decimal.digits n := by
  rw [Decimal.utf8_write, List.map_map]
  refine (List.map_congr_left fun c hc => ?_).trans (List.map_id _)
  obtain ⟨value, hlt, rfl⟩ := Decimal.mem_digits hc
  show Char.ofNat (asciiByte (Decimal.digit value)).toNat = _
  rw [Decimal.asciiByte_digit hlt]
  rfl

@[simp] theorem natural?_ofNat {limit n : Nat} (h : n < limit) :
    natural? limit (ofNat n) = some n := by
  rw [ofNat, natural?, chars_write, Decimal.value_digits]
  exact if_pos h

/-- The members of an object that is a record. -/
def record (names : List String) (values : List Json) : List (Bytes × Json) :=
  List.zipWith (fun name value => (utf8 name, value)) names values

/-- A name that is not among the names of a record has no member in it. -/
theorem filter_record {name : String} {names : List String} (h : name ∉ names)
    (values : List Json) :
    (record names values).filter (fun member => member.1 == utf8 name) = [] := by
  rw [List.filter_eq_nil_iff]
  intro member hmember
  rw [record, ← List.map_uncurry_zip_eq_zipWith] at hmember
  obtain ⟨⟨other, value⟩, hother, rfl⟩ := List.mem_map.mp hmember
  rw [beq_iff_eq]
  intro heq
  obtain rfl := utf8_injective heq
  exact h (List.of_mem_zip hother).1

/-- Each name finds its value, whatever other members stand in front. -/
theorem mapM_single?_record {names : List String} {values : List Json}
    (hlength : names.length = values.length) (hnodup : names.Nodup)
    (front : List (Bytes × Json))
    (hfront : ∀ name ∈ names, front.filter (fun member => member.1 == utf8 name) = []) :
    names.mapM (single? (front ++ record names values)) = some (values.map some) := by
  induction names generalizing values front with
  | nil =>
    cases values with
    | nil => rfl
    | cons value values => cases hlength
  | cons name names ih =>
    cases values with
    | nil => cases hlength
    | cons value values =>
      rw [List.nodup_cons] at hnodup
      have hrecord : front ++ record (name :: names) (value :: values)
          = (front ++ [(utf8 name, value)]) ++ record names values := by
        rw [List.append_assoc]
        rfl
      have hfound : single? ((front ++ [(utf8 name, value)]) ++ record names values) name
          = some (some value) := by
        rw [single?, List.filter_append, List.filter_append, filter_record hnodup.1,
          hfront name List.mem_cons_self, List.filter_singleton, beq_self_eq_true]
        rfl
      -- The member that was found stands in front for the names behind it.
      have hrest := ih (Nat.succ.inj hlength) hnodup.2
        (front ++ [(utf8 name, value)]) fun other hother => by
          have hne : (utf8 name == utf8 other) = false := by
            rw [beq_eq_false_iff_ne]
            intro heq
            rw [utf8_injective heq] at hnodup
            exact hnodup.1 hother
          rw [List.filter_append, hfront other (List.mem_cons_of_mem name hother),
            List.filter_singleton, hne]
          rfl
      rw [hrecord, List.mapM_cons, hfound, hrest]
      rfl

/-- An object with the names of a record, each once, has the parts of that record. -/
theorem fields_record (names : List String) (values : List Json)
    (hlength : names.length = values.length) (hnodup : names.Nodup) :
    fields names (.object (record names values)) = some ⟨false, values.map some⟩ := by
  have hnames : (record names values).all (fun member => (ofUtf8? member.1).isSome) = true := by
    rw [List.all_eq_true]
    intro member hmember
    rw [record, ← List.map_uncurry_zip_eq_zipWith] at hmember
    obtain ⟨⟨name, value⟩, -, rfl⟩ := List.mem_map.mp hmember
    rw [Function.uncurry_apply_pair, ofUtf8?_utf8]
    rfl
  have hvalues := mapM_single?_record hlength hnodup [] fun _ _ => rfl
  rw [List.nil_append] at hvalues
  rw [fields, if_pos hnames, hvalues]
  rfl

end SealedLog.Json

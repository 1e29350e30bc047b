import SealedLog.Proofs.Files

/-!
# The place that a path means

A path means one place, whether or not anything is there: its pieces are taken one after the other,
names lead down and double dots lead up. There are no links, so a path that leads anywhere leads to
the place that it means.

- `placeOf files path`: the place that a path means.
- `locate_place`: a path that is found leads there.
- `placeOf_join`: the place of a path below another one.
- `Below place other`: the second place is somewhere below the first.
- `inward`: pieces that stay below the place where they start; `below_of_inward` says so.
-/

namespace SealedLog.Files

variable {files files' : Files} {path : Path}

/-! ## Places -/

/-- Where pieces lead from a place, if everything on the way is there. -/
def resolve (place : Place) (pieces : List (List Char)) : Place := pieces.foldl next place

theorem resolve_append (place : Place) (pieces more : List (List Char)) :
    resolve place (pieces ++ more) = resolve (resolve place pieces) more :=
  List.foldl_append

theorem follow_resolve {start found : Place} {pieces : List (List Char)}
    (h : files.follow start pieces = .ok found) : found = resolve start pieces := by
  induction pieces generalizing start with
  | nil => exact (Except.ok.inj h).symm
  | cons piece rest ih =>
    obtain ⟨-, -, hrest⟩ := follow_cons_iff.mp h
    exact ih hrest

/-- The place that a path means. -/
def placeOf (files : Files) (path : Path) : Place :=
  resolve (files.start path) (Path.filled path.text.toList)

theorem placeOf_of_home (h : files.home = files'.home) (path : Path) :
    files'.placeOf path = files.placeOf path := by
  rw [placeOf, placeOf, start, start, h]

/-- A path that is found leads to the place it means. -/
theorem locate_place {target : Target} (h : files.locate path = .ok target) :
    target.place = files.placeOf path := by
  rcases locate_cases h with ⟨-, init, name, directory, hfilled, hproper, hfollow, hplace⟩ |
    ⟨-, -, hfollow⟩
  · obtain ⟨-, hdot, hup⟩ := Path.proper_iff.mp hproper
    have hdirectory : directory = resolve (files.start path) init :=
      follow_resolve (follow_dot_iff.mp hfollow).1
    have hlast : resolve directory [name] = directory ++ [name] := by
      show next directory name = _
      rw [next, if_neg hdot, if_neg hup]
    rw [hplace, placeOf, hfilled, resolve_append, ← hdirectory, hlast]
  · exact follow_resolve hfollow

theorem existing_place {place : Place} {node : Node}
    (h : files.existing path = .ok (place, node)) : place = files.placeOf path := by
  obtain ⟨target, hlocate, rfl, -, -⟩ := existing_ok_iff.mp h
  exact locate_place hlocate

theorem Leads.place {directory : Place} (h : Leads files path directory) :
    directory ++ [path.lastPiece] = files.placeOf path :=
  locate_place (locate_named_iff.mpr ⟨directory, h, rfl⟩)

/-! ## Paths below others -/

theorem join_of_empty {outer : Path} {below : String} (h : outer.text.toList = [])
    (hrelative : below.toList.head? ≠ some '/') : outer.join below = ⟨below⟩ := by
  have hempty : outer.text = "" := String.toList_eq_nil_iff.mp h
  rw [Path.join, if_neg hrelative, hempty]
  exact congrArg Path.mk (String.empty_append)

/-- A relative path is added behind the pieces of another one. -/
theorem filled_join {outer : Path} {below : String}
    (hrelative : below.toList.head? ≠ some '/') :
    Path.filled (outer.join below).text.toList
      = Path.filled outer.text.toList ++ Path.filled below.toList := by
  by_cases hnil : outer.text.toList = []
  · rw [join_of_empty hnil hrelative, hnil]
    rfl
  · have hempty : outer.text.isEmpty = false := by
      rw [← Bool.not_eq_true, String.isEmpty_iff, ← String.toList_eq_nil_iff]
      exact hnil
    rw [Path.join, if_neg hrelative, hempty, Bool.false_or]
    split
    · rename_i hslash
      obtain ⟨front, hfront⟩ := List.getLast?_eq_some_iff.mp (of_decide_eq_true hslash)
      have hfilled : Path.filled (front ++ ['/']) = Path.filled front := by
        rw [Path.filled_slash, Path.filled_nil, List.append_nil]
      rw [String.toList_append, hfront, List.append_assoc, List.singleton_append,
        Path.filled_slash, hfilled]
    · rw [String.toList_append, String.toList_append, List.append_assoc]
      exact Path.filled_slash _ _

theorem isAbsolute_join {outer : Path} {below : String}
    (hrelative : below.toList.head? ≠ some '/') :
    (outer.join below).isAbsolute = outer.isAbsolute := by
  by_cases hnil : outer.text.toList = []
  · rw [join_of_empty hnil hrelative, Path.isAbsolute, Path.isAbsolute, hnil,
      decide_eq_false hrelative]
    rfl
  · rw [Path.isAbsolute, Path.isAbsolute, Path.join, if_neg hrelative]
    split
    · rw [String.toList_append, List.head?_append_of_ne_nil _ hnil]
    · rw [String.toList_append, String.toList_append, List.append_assoc,
        List.head?_append_of_ne_nil _ hnil]

/-- A path below another one means the place that its pieces lead to from there. An absolute one
starts at the root. -/
theorem placeOf_join (files : Files) (outer : Path) (below : String) :
    files.placeOf (outer.join below)
      = resolve (if below.toList.head? = some '/' then [] else files.placeOf outer)
          (Path.filled below.toList) := by
  by_cases habsolute : below.toList.head? = some '/'
  · have hjoin : outer.join below = ⟨below⟩ := by rw [Path.join, if_pos habsolute]
    have hstart : files.start ⟨below⟩ = [] := by
      rw [start, Path.isAbsolute, decide_eq_true habsolute, if_pos rfl]
    rw [hjoin, if_pos habsolute, placeOf, hstart]
  · have hstart : files.start (outer.join below) = files.start outer := by
      rw [start, start, isAbsolute_join habsolute]
    rw [placeOf, hstart, filled_join habsolute, resolve_append, if_neg habsolute, placeOf]

/-- The second place is the first one with at least one name behind it. -/
def Below (place other : Place) : Prop := place <+: other ∧ other ≠ place

instance (place other : Place) : Decidable (Below place other) :=
  inferInstanceAs (Decidable (_ ∧ _))

/-- From so far below where they start, the pieces never lead up past it, and they end below it. -/
def inward : Nat → List (List Char) → Bool
  | depth, [] => 0 < depth
  | depth, piece :: rest =>
    if piece = ['.'] then inward depth rest
    else if piece = ['.', '.'] then 0 < depth && inward (depth - 1) rest
    else inward (depth + 1) rest

theorem resolve_inward (place inside : Place) {pieces : List (List Char)}
    (h : inward inside.length pieces = true) :
    ∃ inside', inside' ≠ [] ∧ resolve (place ++ inside) pieces = place ++ inside' := by
  induction pieces generalizing inside with
  | nil =>
    refine ⟨inside, List.length_pos_iff.mp ?_, rfl⟩
    simpa [inward] using h
  | cons piece rest ih =>
    show ∃ inside', inside' ≠ [] ∧ resolve (next (place ++ inside) piece) rest = place ++ inside'
    rw [inward] at h
    rw [next]
    split at h
    · rename_i hdot
      rw [if_pos hdot]
      exact ih _ h
    · rename_i hdot
      rw [if_neg hdot]
      split at h
      · -- The pieces are still below where they started, so one name of theirs is taken back.
        rename_i hup
        obtain ⟨hdeep, hrest⟩ := Bool.and_eq_true_iff.mp h
        have hinside : inside ≠ [] := List.length_pos_iff.mp (of_decide_eq_true hdeep)
        rw [if_pos hup, List.dropLast_append_of_ne_nil hinside]
        exact ih _ (by rwa [List.length_dropLast])
      · rename_i hup
        rw [if_neg hup, List.append_assoc]
        exact ih _ (by rwa [List.length_append, List.length_singleton])

/-- Pieces that stay below their start lead below it. -/
theorem below_of_inward (place : Place) {pieces : List (List Char)}
    (h : inward 0 pieces = true) : Below place (resolve place pieces) := by
  obtain ⟨inside, hne, hresolve⟩ := resolve_inward place [] h
  rw [List.append_nil] at hresolve
  rw [hresolve]
  exact ⟨List.prefix_append place inside, fun h => hne (List.append_right_eq_self.mp h)⟩

end SealedLog.Files

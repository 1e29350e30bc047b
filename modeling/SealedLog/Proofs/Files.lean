import SealedLog.Files
import SealedLog.Proofs.Lookup
import SealedLog.Proofs.Path
import SealedLog.Proofs.Text

/-!
# Where paths lead

Only directories decide how a path is followed. So a path leads to the same place in two file
systems with the same directories, and a file that appears or disappears beside it is no matter.

- `follow_mono`: more directories do not change where a path leads.
- `follow_remove`: nor does taking away a file that the path does not come from below.
- `Leads files path place`: the path has a last name, which stands in the directory at the place.
- `locate_named_iff`: such paths are the ones that can name a file.
- `existing_of_above`: where a path leads, the paths above it are directories.
-/

namespace SealedLog.Files

variable {files files' : Files}

/-! ## Nodes -/

/-- There is a directory at a place. -/
def IsDirectory (files : Files) (place : Place) : Prop :=
  ∃ mode, files.node? place = some (.directory mode)

theorem node?_put (files : Files) (place other : Place) (node : Node) :
    (files.put place node).node? other
      = if other = place then some node else files.node? other := by
  have hwithout : (without place files.nodes).lookup other
      = if !(other == place) then files.nodes.lookup other else none :=
    lookup_filter (fun key => !(key == place)) other files.nodes
  have hlookup : (files.put place node).nodes.lookup other
      = if other = place then some node else files.nodes.lookup other := by
    show ((place, node) :: without place files.nodes).lookup other = _
    rw [List.lookup_cons, hwithout]
    by_cases h : other = place
    · simp [h]
    · simp [h, beq_eq_false_iff_ne.mpr h]
  rw [node?, hlookup]
  by_cases h : other = place
  · rw [if_pos h, if_pos h]
  · rw [if_neg h, if_neg h, node?]

@[simp] theorem node?_put_self (files : Files) (place : Place) (node : Node) :
    (files.put place node).node? place = some node := by
  rw [node?_put, if_pos rfl]

theorem node?_put_ne {place other : Place} (h : other ≠ place) (files : Files) (node : Node) :
    (files.put place node).node? other = files.node? other := by
  rw [node?_put, if_neg h]

/-- Of two nodes put at a place the later one counts. -/
theorem put_put (files : Files) (place : Place) (node node' : Node) :
    (files.put place node).put place node' = files.put place node' := by
  have hwithout : without place ((place, node) :: without place files.nodes)
      = without place files.nodes := by
    rw [without, List.filter_cons_of_neg (by simp), without, List.filter_filter]
    simp only [Bool.and_self]
  show ({ files with nodes := (place, node') :: without place ((place, node) :: _) } : Files) = _
  rw [hwithout]
  rfl

/-- Taking a place away leaves what is not below it. -/
theorem node?_remove {place other : Place} (h : ¬ place <+: other) (files : Files) :
    (files.remove place).node? other = files.node? other := by
  have hremove : (files.nodes.filter fun entry => !place.isPrefixOf entry.1).lookup other
      = if !place.isPrefixOf other then files.nodes.lookup other else none :=
    lookup_filter (fun key => !place.isPrefixOf key) other files.nodes
  have hfalse : place.isPrefixOf other = false := by
    rw [Bool.eq_false_iff, ne_eq, List.isPrefixOf_iff_prefix]
    exact h
  have hlookup : (files.remove place).nodes.lookup other = files.nodes.lookup other := by
    show (files.nodes.filter fun entry => !place.isPrefixOf entry.1).lookup other = _
    rw [hremove, hfalse]
    rfl
  rw [node?, node?, hlookup]

/-- A file is put where there is no directory; all directories stay, and there is no new one. -/
theorem isDirectory_put_file {place other : Place} (h : ¬ files.IsDirectory place)
    (content : Bytes) (mode : Nat) :
    (files.put place (.file content mode)).IsDirectory other ↔ files.IsDirectory other := by
  rw [IsDirectory, node?_put]
  by_cases heq : other = place
  · subst heq
    simp only [if_true, Option.some.injEq, reduceCtorEq, exists_false, false_iff]
    exact h
  · rw [if_neg heq]
    rfl

/-! ## Following pieces -/

/-- Where a piece leads from a place. -/
def next (place : Place) (piece : List Char) : Place :=
  if piece = ['.'] then place
  else if piece = ['.', '.'] then place.dropLast
  else place ++ [piece]

/-- The piece is dots, or a name that is not too long. -/
def Fits (piece : List Char) : Prop :=
  piece = ['.'] ∨ piece = ['.', '.'] ∨ ¬ longestName < (utf8 (String.ofList piece)).length

/-- A piece is followed from directories only. -/
theorem follow_cons_iff {place found : Place} {piece : List Char} {rest : List (List Char)} :
    files.follow place (piece :: rest) = .ok found ↔
      files.IsDirectory place ∧ Fits piece ∧ files.follow (next place piece) rest = .ok found := by
  rw [follow]
  cases hnode : files.node? place with
  | none =>
    simp only [IsDirectory, hnode, reduceCtorEq, exists_false, false_and]
  | some node =>
    cases node with
    | file content mode =>
      simp only [IsDirectory, hnode, Option.some.injEq, reduceCtorEq, exists_false, false_and]
    | directory mode =>
      have hdirectory : files.IsDirectory place := ⟨mode, hnode⟩
      by_cases hhere : piece = ['.']
      · simp [hhere, next, Fits, hdirectory]
      · by_cases hup : piece = ['.', '.']
        · simp [hup, next, Fits, hdirectory]
        · by_cases hlong : longestName < (utf8 (String.ofList piece)).length
          · simp [hhere, hup, hlong, Fits]
          · simp [hhere, hup, hlong, next, Fits, hdirectory]

/-- Pieces are followed in turn. -/
theorem follow_append_iff {start found : Place} {pieces more : List (List Char)} :
    files.follow start (pieces ++ more) = .ok found ↔
      ∃ middle, files.follow start pieces = .ok middle ∧ files.follow middle more = .ok found := by
  induction pieces generalizing start with
  | nil => simp [follow]
  | cons piece rest ih =>
    rw [List.cons_append, follow_cons_iff, ih]
    constructor
    · rintro ⟨hdirectory, hfits, middle, hrest, hmore⟩
      exact ⟨middle, follow_cons_iff.mpr ⟨hdirectory, hfits, hrest⟩, hmore⟩
    · rintro ⟨middle, hpieces, hmore⟩
      obtain ⟨hdirectory, hfits, hrest⟩ := follow_cons_iff.mp hpieces
      exact ⟨hdirectory, hfits, middle, hrest, hmore⟩

/-- A dot at the end asks for a directory. -/
theorem follow_dot_iff {start found : Place} {pieces : List (List Char)} :
    files.follow start (pieces ++ [['.']]) = .ok found ↔
      files.follow start pieces = .ok found ∧ files.IsDirectory found := by
  rw [follow_append_iff]
  constructor
  · rintro ⟨middle, hpieces, hdot⟩
    obtain ⟨hdirectory, -, hfound⟩ := follow_cons_iff.mp hdot
    obtain rfl : middle = found := Except.ok.inj hfound
    exact ⟨hpieces, hdirectory⟩
  · rintro ⟨hpieces, hdirectory⟩
    exact ⟨found, hpieces, follow_cons_iff.mpr ⟨hdirectory, .inl rfl, rfl⟩⟩

/-- More directories do not change where pieces lead. -/
theorem follow_mono (hdirectories : ∀ place, files.IsDirectory place → files'.IsDirectory place)
    {start found : Place} {pieces : List (List Char)} (h : files.follow start pieces = .ok found) :
    files'.follow start pieces = .ok found := by
  induction pieces generalizing start with
  | nil => exact h
  | cons piece rest ih =>
    obtain ⟨hdirectory, hfits, hrest⟩ := follow_cons_iff.mp h
    exact follow_cons_iff.mpr ⟨hdirectories start hdirectory, hfits, ih hrest⟩

/-- The place above one that is properly below a place is still below it. -/
theorem prefix_dropLast {place other : Place} (h : place <+: other) (hne : place ≠ other) :
    place <+: other.dropLast := by
  obtain ⟨below, rfl⟩ := h
  have hbelow : below ≠ [] := by
    rintro rfl
    exact hne (List.append_nil _).symm
  rw [List.dropLast_append_of_ne_nil hbelow]
  exact List.prefix_append _ _

/-- What starts below a file stays below it: the file itself is not passed. -/
theorem follow_inside {place : Place} (hfile : ¬ files.IsDirectory place) {start found : Place}
    {pieces : List (List Char)} (hstart : place <+: start)
    (h : files.follow start pieces = .ok found) : place <+: found := by
  induction pieces generalizing start with
  | nil =>
    obtain rfl : start = found := Except.ok.inj h
    exact hstart
  | cons piece rest ih =>
    obtain ⟨hdirectory, -, hrest⟩ := follow_cons_iff.mp h
    have hne : place ≠ start := by
      rintro rfl
      exact hfile hdirectory
    refine ih ?_ hrest
    rw [next]
    split
    · exact hstart
    · split
      · exact prefix_dropLast hstart hne
      · exact hstart.trans (List.prefix_append _ _)

/-- What does not start below a file does not get below it, so the file can be taken away. -/
theorem follow_remove {place : Place} (hfile : ¬ files.IsDirectory place) {start found : Place}
    {pieces : List (List Char)} (hstart : ¬ place <+: start ∨ place = start)
    (h : files.follow start pieces = .ok found) :
    (files.remove place).follow start pieces = .ok found ∧
      (¬ place <+: found ∨ place = found) := by
  induction pieces generalizing start with
  | nil =>
    obtain rfl : start = found := Except.ok.inj h
    exact ⟨rfl, hstart⟩
  | cons piece rest ih =>
    obtain ⟨hdirectory, hfits, hrest⟩ := follow_cons_iff.mp h
    have houtside : ¬ place <+: start := by
      rcases hstart with houtside | rfl
      · exact houtside
      · exact absurd hdirectory hfile
    -- The next piece can lead to the file, but not past it.
    have hnext : ¬ place <+: next start piece ∨ place = next start piece := by
      rw [next]
      split
      · exact .inl houtside
      · split
        · exact .inl fun hbelow => houtside (hbelow.trans (List.dropLast_prefix _))
        · by_cases hbelow : place <+: start ++ [piece]
          · rcases List.prefix_concat_iff.mp hbelow with heq | hbelow
            · exact .inr heq
            · exact absurd hbelow houtside
          · exact .inl hbelow
    obtain ⟨hfollow, hfound⟩ := ih hnext hrest
    refine ⟨follow_cons_iff.mpr ⟨?_, hfits, hfollow⟩, hfound⟩
    obtain ⟨mode, hmode⟩ := hdirectory
    exact ⟨mode, (node?_remove houtside files).trans hmode⟩

/-! ## Looking a path up -/

/-- Where a path starts. -/
def start (files : Files) (path : Path) : Place := if path.isAbsolute then [] else files.home

/-- A path has a last name, and leads to it: the name stands in the directory at the place. -/
structure Leads (files : Files) (path : Path) (place : Place) : Prop where
  whole : path.trimmed = path.text.toList
  proper : Part.ofPiece? path.lastPiece = some (.name path.lastPiece)
  noZero : '\x00' ∉ path.text.toList
  short : ¬ longestPath < (utf8 path.text).length
  fits : ¬ longestName < (utf8 (String.ofList path.lastPiece)).length
  follows : files.follow (files.start path) (Path.filled path.directoryPart ++ [['.']]) = .ok place

theorem Leads.text_eq {path : Path} {place : Place} (h : Leads files path place) :
    path.text.toList = path.directoryPart ++ path.lastPiece := by
  rw [← h.whole, path.trimmed_eq]

theorem Leads.isDirectory {path : Path} {place : Place} (h : Leads files path place) :
    files.IsDirectory place :=
  (follow_dot_iff.mp h.follows).2

/-- A path that is not refused for its text is approached by its pieces. -/
theorem approach_eq {path : Path} (hzero : '\x00' ∉ path.text.toList)
    (hne : path.text.toList ≠ []) (hshort : ¬ longestPath < (utf8 path.text).length) :
    files.approach path =
      match (Path.filled path.text.toList).getLast?.bind Part.ofPiece? with
      | some (.name name) =>
        (files.follow (files.start path)
          ((Path.filled path.text.toList).dropLast ++ [['.']])).map
          fun place => ⟨place, some name, decide (path.text.toList.getLast? = some '/')⟩
      | _ =>
        (files.follow (files.start path) (Path.filled path.text.toList)).map
          fun place => ⟨place, none, decide (path.text.toList.getLast? = some '/')⟩ := by
  have hcontains : ¬ path.text.toList.contains '\x00' = true := by
    rwa [List.contains_iff_mem]
  rw [approach, if_neg hcontains, if_neg hne, if_neg hshort]
  rfl

/-- A path that does not end in a slash ends in a name, or in dots. -/
theorem approach_front {path : Path} {front last : List Char}
    (htext : path.text.toList = front ++ last) (hfront : Path.Front front) (hlast : '/' ∉ last)
    (hne : last ≠ []) (hzero : '\x00' ∉ path.text.toList)
    (hshort : ¬ longestPath < (utf8 path.text).length) :
    files.approach path =
      match Part.ofPiece? last with
      | some (.name name) =>
        (files.follow (files.start path) (Path.filled front ++ [['.']])).map
          fun place => ⟨place, some name, false⟩
      | _ =>
        (files.follow (files.start path) (Path.filled front ++ [last])).map
          fun place => ⟨place, none, false⟩ := by
  have hslash : ¬ (front ++ last).getLast? = some '/' := by
    rw [List.getLast?_append_of_ne_nil front hne]
    exact fun h => hlast (List.mem_of_getLast? h)
  have hempty : path.text.toList ≠ [] := by
    rw [htext, ne_eq, List.append_eq_nil_iff]
    exact fun h => hne h.2
  rw [approach_eq hzero hempty hshort, htext, Path.filled_front hfront hlast hne,
    decide_eq_false hslash, List.getLast?_concat, List.dropLast_concat, Option.bind_some]

theorem map_eq_ok {ε α β : Type} {f : α → β} {result : Except ε α} {b : β}
    (h : result.map f = .ok b) : ∃ a, result = .ok a ∧ f a = b := by
  cases result with
  | error error => cases h
  | ok a => exact ⟨a, rfl, Except.ok.inj h⟩

/-- What any path that is approached is like. -/
theorem approach_ok {path : Path} {found : Approach} (h : files.approach path = .ok found) :
    '\x00' ∉ path.text.toList ∧ path.text.toList ≠ [] ∧
      ¬ longestPath < (utf8 path.text).length ∧
      found.slash = decide (path.text.toList.getLast? = some '/') := by
  rw [approach] at h
  split at h
  · cases h
  · rename_i hzero
    split at h
    · cases h
    · rename_i hne
      split at h
      · cases h
      · rename_i hshort
        refine ⟨fun hmem => hzero ?_, hne, hshort, ?_⟩
        · rwa [List.contains_iff_mem]
        · split at h <;> obtain ⟨place, -, rfl⟩ := map_eq_ok h <;> rfl

/-- A path that is approached up to a name, with no slash behind it, leads to that name. -/
theorem leads_of_approach {path : Path} {directory : Place} {name : List Char}
    (h : files.approach path = .ok ⟨directory, some name, false⟩)
    (hfits : ¬ longestName < (utf8 (String.ofList name)).length) :
    Leads files path directory ∧ path.lastPiece = name := by
  obtain ⟨hzero, hempty, hshort, hslash⟩ := approach_ok h
  obtain ⟨front, last, htext, hfront, hlast⟩ := Path.exists_front path.text.toList
  -- Nothing would stand behind the directory part only if the path ended in a slash.
  have hne : last ≠ [] := by
    rintro rfl
    rw [List.append_nil] at htext
    rcases hfront with rfl | ⟨outer, rfl⟩
    · exact hempty htext
    · rw [htext, List.getLast?_concat] at hslash
      simp at hslash
  rw [approach_front htext hfront hlast hne hzero hshort] at h
  split at h
  · rename_i name' hpiece
    obtain ⟨place, hfollow, heq⟩ := map_eq_ok h
    obtain ⟨rfl, rfl⟩ : place = directory ∧ name' = name := by
      simp only [Approach.mk.injEq, Option.some.injEq, and_true] at heq
      exact heq
    have hname : last = name' := Path.ofPiece?_name hpiece
    subst hname
    obtain ⟨hwhole, hdirectory, hpart⟩ := Path.split_of_text htext hfront hlast hpiece
    refine ⟨⟨hwhole, ?_, hzero, hshort, ?_, ?_⟩, hpart⟩
    · rw [hpart, hpiece]
    · rw [hpart]
      exact hfits
    · rw [hdirectory]
      exact hfollow
  · obtain ⟨place, -, heq⟩ := map_eq_ok h
    cases heq

/-- Paths that can name a file are those that lead to a last name. -/
theorem locate_named_iff {path : Path} {place : Place} :
    files.locate path = .ok ⟨place, false, true⟩ ↔
      ∃ directory, Leads files path directory ∧ place = directory ++ [path.lastPiece] := by
  constructor
  · intro h
    rw [locate] at h
    split at h
    · cases h
    · cases h
    · rename_i directory name slash happroach
      split at h
      · cases h
      · rename_i hfits
        obtain ⟨rfl, rfl⟩ : directory ++ [name] = place ∧ slash = false := by
          have := Except.ok.inj h
          simp only [Target.mk.injEq, and_true] at this
          exact this
        obtain ⟨hleads, rfl⟩ := leads_of_approach happroach hfits
        exact ⟨directory, hleads, rfl⟩
  · rintro ⟨directory, h, rfl⟩
    have hne : path.lastPiece ≠ [] := (Path.proper_iff.mp h.proper).1
    rw [locate, approach_front h.text_eq path.front_directoryPart path.noSlash_lastPiece hne
      h.noZero h.short, h.proper]
    simp only [h.follows, Except.map, h.fits, if_false]

theorem existing_ok_iff {path : Path} {place : Place} {node : Node} :
    files.existing path = .ok (place, node) ↔
      ∃ target, files.locate path = .ok target ∧ target.place = place ∧
        files.node? place = some node ∧
        (target.slash = true → ∃ mode, node = .directory mode) := by
  rw [existing]
  cases hlocate : files.locate path with
  | error error => simp
  | ok target =>
    simp only [Except.ok.injEq, exists_eq_left']
    cases hnode : files.node? target.place with
    | none =>
      simp only [reduceCtorEq, false_iff, not_and]
      rintro rfl h
      rw [hnode] at h
      cases h
    | some found =>
      cases found with
      | file content mode =>
        cases hslash : target.slash with
        | true =>
          simp only [if_true, reduceCtorEq, false_iff, forall_const, not_and, not_exists]
          rintro rfl h directory rfl
          rw [hnode] at h
          cases h
        | false =>
          simp only [Bool.false_eq_true, if_false, Except.ok.injEq, Prod.mk.injEq, false_implies,
            and_true]
          constructor
          · rintro ⟨rfl, rfl⟩
            exact ⟨rfl, hnode⟩
          · rintro ⟨rfl, h⟩
            rw [hnode] at h
            exact ⟨rfl, Option.some.inj h⟩
      | directory mode =>
        simp only [Except.ok.injEq, Prod.mk.injEq]
        constructor
        · rintro ⟨rfl, rfl⟩
          exact ⟨rfl, hnode, fun _ => ⟨mode, rfl⟩⟩
        · rintro ⟨rfl, h, -⟩
          rw [hnode] at h
          exact ⟨rfl, Option.some.inj h⟩

theorem approach_mono (hhome : files.home = files'.home)
    (hdirectories : ∀ place, files.IsDirectory place → files'.IsDirectory place) {path : Path}
    {found : Approach} (h : files.approach path = .ok found) :
    files'.approach path = .ok found := by
  have hstart : files'.start path = files.start path := by rw [start, start, hhome]
  obtain ⟨hzero, hne, hshort, -⟩ := approach_ok h
  rw [approach_eq hzero hne hshort] at h ⊢
  rw [hstart]
  split at h <;>
    obtain ⟨place, hfollow, rfl⟩ := map_eq_ok h <;>
    rw [follow_mono hdirectories hfollow] <;> rfl

/-- More directories do not change where a path leads. -/
theorem locate_mono (hhome : files.home = files'.home)
    (hdirectories : ∀ place, files.IsDirectory place → files'.IsDirectory place) {path : Path}
    {target : Target} (h : files.locate path = .ok target) : files'.locate path = .ok target := by
  rw [locate] at h ⊢
  split at h
  · cases h
  · rename_i heq
    rw [approach_mono hhome hdirectories heq]
    exact h
  · rename_i heq
    rw [approach_mono hhome hdirectories heq]
    exact h

theorem Leads.mono (hhome : files.home = files'.home)
    (hdirectories : ∀ place, files.IsDirectory place → files'.IsDirectory place) {path : Path}
    {place : Place} (h : Leads files path place) : Leads files' path place := by
  have hstart : files'.start path = files.start path := by rw [start, start, hhome]
  refine ⟨h.whole, h.proper, h.noZero, h.short, h.fits, ?_⟩
  rw [hstart]
  exact follow_mono hdirectories h.follows

/-- A file that is put somewhere does not change where a path leads. -/
theorem Leads.put_file {path : Path} {directory place : Place} (h : Leads files path directory)
    (hfree : ¬ files.IsDirectory place) (content : Bytes) (mode : Nat) :
    Leads (files.put place (.file content mode)) path directory := by
  refine Leads.mono ?_ (fun other => ?_) h
  · rfl
  · exact (isDirectory_put_file hfree content mode).mpr

/-- A path is approached up to its last name, or as a whole. -/
theorem approach_cases {path : Path} {found : Approach} (h : files.approach path = .ok found) :
    (∃ init name, found.name = some name ∧ Path.filled path.text.toList = init ++ [name] ∧
      Part.ofPiece? name = some (.name name) ∧
      files.follow (files.start path) (init ++ [['.']]) = .ok found.place) ∨
    found.name = none ∧
      (∀ name, (Path.filled path.text.toList).getLast?.bind Part.ofPiece? ≠ some (.name name)) ∧
      files.follow (files.start path) (Path.filled path.text.toList) = .ok found.place := by
  obtain ⟨hzero, hne, hshort, -⟩ := approach_ok h
  rw [approach_eq hzero hne hshort] at h
  split at h
  · rename_i name hlast
    obtain ⟨place, hfollow, rfl⟩ := map_eq_ok h
    obtain ⟨piece, hpiece, hname⟩ := Option.bind_eq_some_iff.mp hlast
    obtain rfl := Path.ofPiece?_name hname
    exact .inl ⟨_, piece, rfl, (List.dropLast_append_getLast? piece hpiece).symm, hname, hfollow⟩
  · rename_i hlast
    obtain ⟨place, hfollow, rfl⟩ := map_eq_ok h
    exact .inr ⟨rfl, hlast, hfollow⟩

/-- A path is looked up by its last name in the directory before it, or as a directory. -/
theorem locate_cases {path : Path} {target : Target} (h : files.locate path = .ok target) :
    (target.named = true ∧ ∃ init name directory,
        Path.filled path.text.toList = init ++ [name] ∧ Part.ofPiece? name = some (.name name) ∧
        files.follow (files.start path) (init ++ [['.']]) = .ok directory ∧
        target.place = directory ++ [name]) ∨
      target.named = false ∧
        (∀ name, (Path.filled path.text.toList).getLast?.bind Part.ofPiece? ≠ some (.name name)) ∧
        files.follow (files.start path) (Path.filled path.text.toList) = .ok target.place := by
  rw [locate] at h
  split at h
  · cases h
  · rename_i place slash heq
    obtain rfl := Except.ok.inj h
    rcases approach_cases heq with ⟨init, name, hname, -⟩ | ⟨-, hlast, hfollow⟩
    · cases hname
    · exact .inr ⟨rfl, hlast, hfollow⟩
  · rename_i place name slash heq
    split at h
    · cases h
    · obtain rfl := Except.ok.inj h
      rcases approach_cases heq with ⟨init, name', hname, hfilled, hproper, hfollow⟩ | ⟨hnone, -⟩
      · obtain rfl := Option.some.inj hname
        exact .inl ⟨rfl, init, name, place, hfilled, hproper, hfollow, rfl⟩
      · cases hnone

/-- Without double dots, pieces lead down. -/
theorem follow_down {start found : Place} {pieces : List (List Char)}
    (hup : ['.', '.'] ∉ pieces) (h : files.follow start pieces = .ok found) :
    found = start ++ pieces.filter (· ≠ ['.']) := by
  induction pieces generalizing start with
  | nil =>
    obtain rfl : start = found := Except.ok.inj h
    exact (List.append_nil _).symm
  | cons piece rest ih =>
    rw [List.mem_cons, not_or] at hup
    obtain ⟨-, -, hrest⟩ := follow_cons_iff.mp h
    rw [ih hup.2 hrest, next, if_neg (Ne.symm hup.1), List.filter_cons]
    by_cases hdot : piece = ['.']
    · simp [hdot]
    · simp [hdot]

/-- Where a path without double dots leads, if it leads anywhere. -/
def down (files : Files) (path : Path) : Place :=
  files.start path ++ (Path.filled path.text.toList).filter (· ≠ ['.'])

theorem locate_down {path : Path} (hup : ['.', '.'] ∉ Path.filled path.text.toList)
    {target : Target} (h : files.locate path = .ok target) : target.place = files.down path := by
  rcases locate_cases h with ⟨-, init, name, directory, hfilled, hproper, hfollow, hplace⟩ |
    ⟨-, -, hfollow⟩
  · rw [hfilled, List.mem_append, not_or] at hup
    have hinit : ['.', '.'] ∉ init ++ [['.']] := by
      rw [List.mem_append, not_or]
      exact ⟨hup.1, by decide⟩
    have hname := (Path.proper_iff.mp hproper).2.1
    rw [hplace, follow_down hinit hfollow, down, hfilled, List.filter_append, List.filter_append]
    simp [hname]
  · exact follow_down hup hfollow

/-- A path that has a last name and yet is looked up without one leads to a directory. -/
theorem isDirectory_of_unnamed {path : Path} {name : List Char} (hname : path.fileName = some name)
    {place : Place} {slash : Bool} (h : files.locate path = .ok ⟨place, slash, false⟩) :
    files.IsDirectory place := by
  rcases locate_cases h with ⟨hnamed, -⟩ | ⟨-, hlast, hfollow⟩
  · cases hnamed
  · obtain ⟨init, hinit⟩ := Path.filled_of_unnamed hname hlast
    rw [hinit] at hfollow
    exact (follow_dot_iff.mp hfollow).2

/-- Only for a directory can there be a slash at the end. -/
theorem slash_of_file {slash : Bool} {content : Bytes} {mode : Nat}
    (h : slash = true → ∃ bits, Node.file content mode = .directory bits) : slash = false := by
  cases slash with
  | false => rfl
  | true =>
    obtain ⟨bits, hbits⟩ := h rfl
    cases hbits

/-- A file is found by a path with a last name, at that name. -/
theorem leads_of_file {path : Path} {name : List Char} (hname : path.fileName = some name)
    {place : Place} {content : Bytes} {mode : Nat}
    (h : files.existing path = .ok (place, .file content mode)) :
    ∃ directory, Leads files path directory ∧ place = directory ++ [path.lastPiece] ∧
      files.node? place = some (.file content mode) := by
  obtain ⟨⟨found, slash, named⟩, hlocate, rfl, hnode, hslash⟩ := existing_ok_iff.mp h
  obtain rfl := slash_of_file hslash
  cases named with
  | false =>
    obtain ⟨mode, hmode⟩ := isDirectory_of_unnamed hname hlocate
    rw [hnode] at hmode
    cases hmode
  | true =>
    obtain ⟨directory, hleads, heq⟩ := locate_named_iff.mp hlocate
    exact ⟨directory, hleads, heq, hnode⟩

theorem Leads.existing_eq {path : Path} {directory : Place} {node : Node}
    (h : Leads files path directory)
    (hnode : files.node? (directory ++ [path.lastPiece]) = some node) :
    files.existing path = .ok (directory ++ [path.lastPiece], node) := by
  refine existing_ok_iff.mpr ⟨_, locate_named_iff.mpr ⟨directory, h, rfl⟩, rfl, hnode, ?_⟩
  intro hslash
  cases hslash

/-- What a path with a last name leads to is at that name. -/
theorem Leads.mode?_eq {path : Path} {directory : Place} (h : Leads files path directory) :
    files.mode? path = files.modeAt? (directory ++ [path.lastPiece]) := by
  rw [modeAt?]
  cases hnode : files.node? (directory ++ [path.lastPiece]) with
  | some node =>
    rw [mode?, h.existing_eq hnode]
    cases node <;> rfl
  | none =>
    rw [mode?]
    cases hexisting : files.existing path with
    | error error => rfl
    | ok found =>
      obtain ⟨place, node⟩ := found
      obtain ⟨target, hlocate, rfl, hthere, -⟩ := existing_ok_iff.mp hexisting
      rw [locate_named_iff.mpr ⟨directory, h, rfl⟩] at hlocate
      rw [← Except.ok.inj hlocate, hnode] at hthere
      cases hthere

theorem read?_eq_some_iff {path : Path} {content : Bytes} :
    files.read? path = some content ↔
      ∃ place mode, files.existing path = .ok (place, .file content mode) := by
  rw [read?]
  split
  · rename_i place found mode heq
    rw [heq]
    constructor
    · intro h
      rw [Option.some.inj h]
      exact ⟨place, mode, rfl⟩
    · rintro ⟨place', mode', h⟩
      rw [(Node.file.inj (Prod.mk.inj (Except.ok.inj h)).2).1]
  · rename_i hnot
    simp only [reduceCtorEq, false_iff, not_exists]
    intro place mode h
    exact hnot place content mode h

theorem Leads.read?_eq {path : Path} {directory : Place} {content : Bytes} {mode : Nat}
    (h : Leads files path directory)
    (hnode : files.node? (directory ++ [path.lastPiece]) = some (.file content mode)) :
    files.read? path = some content :=
  read?_eq_some_iff.mpr ⟨_, mode, h.existing_eq hnode⟩

/-! ## The paths above -/

theorem utf8_length_mono {text text' : List Char} :
    (utf8 (String.ofList text)).length ≤ (utf8 (String.ofList (text ++ text'))).length := by
  rw [utf8_ofList, utf8_ofList, List.flatMap_append, List.length_append]
  exact Nat.le_add_right _ _

/-- Where the pieces lead, the path leads, also if its last name is looked up on its own. -/
theorem locate_of_follow {path : Path} (hzero : '\x00' ∉ path.text.toList)
    (hne : path.text.toList ≠ []) (hshort : ¬ longestPath < (utf8 path.text).length)
    {place : Place} (hfollow : files.follow (files.start path) (Path.filled path.text.toList)
      = .ok place) : ∃ target, files.locate path = .ok target ∧ target.place = place := by
  rw [locate, approach_eq hzero hne hshort]
  rcases List.eq_nil_or_concat' (Path.filled path.text.toList) with hnil | ⟨init, piece, hinit⟩
  · rw [hnil] at hfollow ⊢
    simp only [List.getLast?_nil, Option.bind_none, hfollow, Except.map]
    exact ⟨_, rfl, rfl⟩
  · rw [hinit] at hfollow ⊢
    rw [List.getLast?_concat, Option.bind_some, List.dropLast_concat]
    cases hpart : Part.ofPiece? piece with
    | none =>
      simp only [hfollow, Except.map]
      exact ⟨_, rfl, rfl⟩
    | some part =>
      cases part with
      | name name =>
        -- The name is looked up in the directory that the other pieces lead to.
        obtain rfl := Path.ofPiece?_name hpart
        obtain ⟨-, hdot, hup⟩ := Path.proper_iff.mp hpart
        obtain ⟨middle, hinit, hpiece⟩ := follow_append_iff.mp hfollow
        obtain ⟨hmiddle, hfits, hnext⟩ := follow_cons_iff.mp hpiece
        have hplace : middle ++ [piece] = place := by
          have := Except.ok.inj hnext
          rwa [next, if_neg hdot, if_neg hup] at this
        have hlong : ¬ longestName < (utf8 (String.ofList piece)).length := by
          rcases hfits with h | h | h
          · exact absurd h hdot
          · exact absurd h hup
          · exact h
        simp only [follow_dot_iff.mpr ⟨hinit, hmiddle⟩, Except.map, if_neg hlong]
        exact ⟨_, rfl, hplace⟩
      | root | here | up =>
        simp only [hfollow, Except.map]
        exact ⟨_, rfl, rfl⟩

/-- The pieces that lead to a directory lead to it as a path of its own. -/
theorem existing_of_follow {path : Path} (hzero : '\x00' ∉ path.text.toList)
    (hne : path.text.toList ≠ []) (hshort : ¬ longestPath < (utf8 path.text).length)
    {place : Place} (hfollow : files.follow (files.start path) (Path.filled path.text.toList)
      = .ok place) (hdirectory : files.IsDirectory place) :
    ∃ mode, files.existing path = .ok (place, .directory mode) := by
  obtain ⟨mode, hmode⟩ := hdirectory
  obtain ⟨target, hlocate, htarget⟩ := locate_of_follow hzero hne hshort hfollow
  exact ⟨mode, existing_ok_iff.mpr ⟨target, hlocate, htarget, hmode, fun _ => ⟨mode, rfl⟩⟩⟩

theorem isDirectory_of_follow {start found : Place} {pieces : List (List Char)} (hne : pieces ≠ [])
    (h : files.follow start pieces = .ok found) : files.IsDirectory start := by
  cases pieces with
  | nil => exact absurd rfl hne
  | cons piece rest => exact (follow_cons_iff.mp h).1

/-- Where a path leads, the paths above it are directories. -/
theorem existing_of_above {path outer : Path} {place : Place} (h : Leads files path place)
    (habove : Path.Above outer.text.toList path.directoryPart) (hne : outer.text.toList ≠ []) :
    ∃ found mode, files.existing outer = .ok (found, .directory mode) := by
  have hfollows := h.follows
  have hnonempty : ∀ pieces : List (List Char), pieces ++ [['.']] ≠ [] := fun pieces =>
    List.append_ne_nil_of_right_ne_nil pieces (List.cons_ne_nil _ _)
  rcases habove with hnil | ⟨hroot, hhead⟩ | ⟨rest, hrest⟩
  · exact absurd hnil hne
  -- The root is where an absolute path starts.
  · have habsolute : path.isAbsolute = true := by
      rw [Path.isAbsolute, h.text_eq, List.head?_append, hhead]
      rfl
    have houter : files.start outer = [] := by
      rw [start, Path.isAbsolute, hroot]
      rfl
    rw [start, if_pos habsolute] at hfollows
    refine ⟨[], existing_of_follow ?_ hne ?_ ?_ (isDirectory_of_follow (hnonempty _) hfollows)⟩
    · rw [hroot]
      decide
    · have hslash : outer.text = "/" := String.ext (by rw [hroot]; rfl)
      rw [hslash]
      decide +kernel
    · rw [houter, hroot]
      rfl
  -- Any other path above is followed on the way, and more pieces come behind it.
  · have htext : path.text.toList = outer.text.toList ++ ('/' :: rest ++ path.lastPiece) := by
      rw [h.text_eq, hrest, List.append_assoc]
    have hstart : files.start path = files.start outer := by
      have hhead : path.text.toList.head? = outer.text.toList.head? := by
        rw [htext]
        exact List.head?_append_of_ne_nil _ hne
      rw [start, start, Path.isAbsolute, Path.isAbsolute, hhead]
    rw [hrest, Path.filled_slash, hstart, List.append_assoc] at hfollows
    obtain ⟨middle, houter, hmore⟩ := follow_append_iff.mp hfollows
    refine ⟨middle, existing_of_follow ?_ hne ?_ houter
      (isDirectory_of_follow (hnonempty _) hmore)⟩
    · intro hmem
      exact h.noZero (htext ▸ List.mem_append_left _ hmem)
    · intro hlong
      refine h.short (lt_of_lt_of_le hlong ?_)
      rw [← String.ofList_toList (s := outer.text), ← String.ofList_toList (s := path.text), htext]
      exact utf8_length_mono

end SealedLog.Files

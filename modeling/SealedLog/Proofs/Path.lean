import Mathlib.Data.List.Basic
import Mathlib.Data.List.Induction
import Mathlib.Data.List.TakeWhile
import SealedLog.Path

/-!
# Paths and the paths beside and above them

A path with a last name is its directory part and that name. This module says how the directory
part shows in the pieces of the path, in the path with another extension, and in the paths above.

- `directoryPart path`: what stands in front of the last name; it is empty or ends in a slash.
- `trimmed_eq`, `lastPiece_of_fileName`: apart from what says nothing at its end, a path with a last
  name is its directory part and that name.
- `text_withExtension`: another extension keeps the directory part.
- `above_of_mem_ancestors`: the paths above a path are starts of its directory part.
-/

namespace SealedLog.Path

/-! ## Pieces -/

theorem pieces_ne_nil (text : List Char) : pieces text ≠ [] := by
  induction text with
  | nil => exact List.cons_ne_nil _ _
  | cons c rest ih =>
    rw [pieces]
    split
    · exact List.cons_ne_nil _ _
    · split <;> exact List.cons_ne_nil _ _

/-- A text without slashes is one piece. -/
theorem pieces_of_noSlash {text : List Char} (h : '/' ∉ text) : pieces text = [text] := by
  induction text with
  | nil => rfl
  | cons c rest ih =>
    rw [List.mem_cons, not_or] at h
    rw [pieces, if_neg (Ne.symm h.1), ih h.2]

/-- The pieces on both sides of a slash are the pieces of the whole. -/
theorem pieces_slash (text text' : List Char) :
    pieces (text ++ '/' :: text') = pieces text ++ pieces text' := by
  induction text with
  | nil => rfl
  | cons c rest ih =>
    rw [List.cons_append, pieces, pieces]
    by_cases hslash : c = '/'
    · rw [if_pos hslash, if_pos hslash, ih, List.cons_append]
    · rw [if_neg hslash, if_neg hslash, ih]
      cases hrest : pieces rest with
      | nil => exact absurd hrest (pieces_ne_nil rest)
      | cons first more => rfl

/-- The pieces that are not empty. -/
def filled (text : List Char) : List (List Char) := (pieces text).filter (· ≠ [])

theorem filled_slash (text text' : List Char) :
    filled (text ++ '/' :: text') = filled text ++ filled text' := by
  rw [filled, pieces_slash, List.filter_append]
  rfl

@[simp] theorem filled_nil : filled [] = [] := rfl

theorem filled_of_noSlash {text : List Char} (h : '/' ∉ text) (hne : text ≠ []) :
    filled text = [text] := by
  rw [filled, pieces_of_noSlash h]
  simp [hne]

/-- The directory part of a path: empty, or with a slash at its end. -/
def Front (front : List Char) : Prop := front = [] ∨ ∃ outer, front = outer ++ ['/']

/-- Every text is a directory part with a piece behind it. -/
theorem exists_front (text : List Char) :
    ∃ front last, text = front ++ last ∧ Front front ∧ '/' ∉ last := by
  induction text using List.reverseRecOn with
  | nil => exact ⟨[], [], rfl, .inl rfl, List.not_mem_nil⟩
  | append_singleton text c ih =>
    by_cases hslash : c = '/'
    · subst hslash
      exact ⟨text ++ ['/'], [], (List.append_nil _).symm, .inr ⟨text, rfl⟩, List.not_mem_nil⟩
    · obtain ⟨front, last, rfl, hfront, hlast⟩ := ih
      refine ⟨front, last ++ [c], List.append_assoc .., hfront, ?_⟩
      rw [List.mem_append, List.mem_singleton, not_or]
      exact ⟨hlast, Ne.symm hslash⟩

/-- A name behind a directory part is a piece of its own. -/
theorem pieces_front {front last : List Char} (hfront : Front front) (hlast : '/' ∉ last) :
    pieces (front ++ last) = (pieces front).dropLast ++ [last] := by
  rcases hfront with rfl | ⟨outer, rfl⟩
  · exact pieces_of_noSlash hlast
  · rw [List.append_assoc, List.singleton_append, pieces_slash, pieces_slash,
      pieces_of_noSlash hlast, pieces, List.dropLast_concat]

theorem filled_front {front name : List Char} (hfront : Front front) (hname : '/' ∉ name)
    (hne : name ≠ []) : filled (front ++ name) = filled front ++ [name] := by
  rcases hfront with rfl | ⟨outer, rfl⟩
  · exact filled_of_noSlash hname hne
  · rw [List.append_assoc, List.singleton_append, filled_slash, filled_slash, filled_nil,
      List.append_nil, filled_of_noSlash hname hne]

/-! ## What says nothing at the end of a path -/

theorem length_trimReversed_le (chars : List Char) :
    (trimReversed chars).length ≤ chars.length := by
  fun_induction trimReversed chars with
  | case1 rest ih => exact Nat.le_succ_of_le ih
  | case2 rest ih => exact Nat.le_succ_of_le ih
  | case3 chars h h' => exact Nat.le_refl _

/-- If anything is cut off, the last of it is a slash. -/
theorem trimReversed_cut (chars : List Char) :
    trimReversed chars = chars ∨ ∃ cut, chars = cut ++ '/' :: trimReversed chars := by
  fun_induction trimReversed chars with
  | case1 rest ih =>
    right
    rcases ih with h | ⟨cut, h⟩
    · exact ⟨[], by rw [h]; rfl⟩
    · exact ⟨'/' :: cut, by rw [List.cons_append, ← h]⟩
  | case2 rest ih =>
    right
    rcases ih with h | ⟨cut, h⟩
    · have hlength := length_trimReversed_le rest
      have := congrArg List.length h
      rw [trimReversed, List.length_cons] at this
      omega
    · exact ⟨'.' :: cut, by rw [List.cons_append, ← h]⟩
  | case3 chars h h' => exact .inl rfl

/-- What is left does not end in a slash. -/
theorem trimReversed_head (chars rest : List Char) : trimReversed chars ≠ '/' :: rest := by
  fun_induction trimReversed chars with
  | case1 rest ih => exact ih
  | case2 rest ih => exact ih
  | case3 chars h h' => exact fun heq => h _ heq

/-- What is left does not end in a dot behind a slash. -/
theorem trimReversed_dot (chars rest : List Char) : trimReversed chars ≠ '.' :: '/' :: rest := by
  fun_induction trimReversed chars with
  | case1 rest ih => exact ih
  | case2 rest ih => exact ih
  | case3 chars h h' => exact fun heq => h' _ heq

/-- What is cut off names nothing. -/
theorem named_trimReversed (chars : List Char) :
    (pieces (trimReversed chars).reverse).filterMap Part.ofPiece?
      = (pieces chars.reverse).filterMap Part.ofPiece? := by
  have hslash : ∀ rest : List Char,
      (pieces ('/' :: rest).reverse).filterMap Part.ofPiece?
        = (pieces rest.reverse).filterMap Part.ofPiece? := by
    intro rest
    rw [List.reverse_cons, pieces_slash, List.filterMap_append]
    exact List.append_nil _
  fun_induction trimReversed chars with
  | case1 rest ih => rw [ih, hslash]
  | case2 rest ih =>
    rw [ih, hslash, List.reverse_cons, List.reverse_cons, List.append_assoc,
      List.singleton_append, pieces_slash, List.filterMap_append]
    exact (List.append_nil _).symm
  | case3 chars h h' => rfl

/-! ## The directory part -/

/-- A path without what says nothing at its end. -/
def trimmed (path : Path) : List Char := (trimReversed path.text.toList.reverse).reverse

/-- What stands in front of the last piece. -/
def directoryPart (path : Path) : List Char :=
  ((trimReversed path.text.toList.reverse).dropWhile (· ≠ '/')).reverse

/-- The last piece. -/
def lastPiece (path : Path) : List Char :=
  ((trimReversed path.text.toList.reverse).takeWhile (· ≠ '/')).reverse

theorem trimmed_eq (path : Path) : path.trimmed = path.directoryPart ++ path.lastPiece := by
  rw [trimmed, directoryPart, lastPiece, ← List.reverse_append, List.takeWhile_append_dropWhile]

theorem noSlash_lastPiece (path : Path) : '/' ∉ path.lastPiece := by
  rw [lastPiece, List.mem_reverse]
  intro h
  have := List.mem_takeWhile_imp h
  simp at this

/-- What is cut off a path starts with a slash. -/
theorem text_trimmed (path : Path) :
    path.text.toList = path.trimmed ∨ ∃ more, path.text.toList = path.trimmed ++ '/' :: more := by
  rcases trimReversed_cut path.text.toList.reverse with h | ⟨cut, h⟩
  · left
    rw [trimmed, h, List.reverse_reverse]
  · right
    refine ⟨cut.reverse, ?_⟩
    have htext := congrArg List.reverse h
    rw [List.reverse_reverse, List.reverse_append, List.reverse_cons, List.append_assoc] at htext
    exact htext

/-- The text of a path starts with the trimmed path. -/
theorem trimmed_prefix (path : Path) : path.trimmed <+: path.text.toList := by
  rcases text_trimmed path with h | ⟨more, h⟩
  · refine ⟨[], ?_⟩
    rw [List.append_nil, h]
  · refine ⟨'/' :: more, ?_⟩
    rw [h]

theorem dropWhile_noSlash (chars : List Char) :
    chars.dropWhile (· ≠ '/') = [] ∨ ∃ rest, chars.dropWhile (· ≠ '/') = '/' :: rest := by
  cases h : chars.dropWhile (· ≠ '/') with
  | nil => exact .inl rfl
  | cons c rest =>
    right
    have hc := List.head?_dropWhile_not (fun c : Char => decide (c ≠ '/')) chars
    rw [h] at hc
    have hslash : c = '/' := by simpa using hc
    exact ⟨rest, by rw [hslash]⟩

theorem front_directoryPart (path : Path) : Front path.directoryPart := by
  rcases dropWhile_noSlash (trimReversed path.text.toList.reverse) with h | ⟨rest, h⟩
  · exact .inl (by rw [directoryPart, h]; rfl)
  · exact .inr ⟨rest.reverse, by rw [directoryPart, h, List.reverse_cons]⟩

/-- The parts of a path that are more than a start, from the trimmed path. -/
theorem named_trimmed (path : Path) :
    (pieces path.text.toList).filterMap Part.ofPiece?
      = (pieces path.directoryPart).dropLast.filterMap Part.ofPiece?
        ++ (Part.ofPiece? path.lastPiece).toList := by
  have h := named_trimReversed path.text.toList.reverse
  rw [List.reverse_reverse, ← trimmed, trimmed_eq, pieces_front (front_directoryPart path)
    (noSlash_lastPiece path), List.filterMap_append] at h
  rw [← h]
  cases hpiece : Part.ofPiece? path.lastPiece <;> simp [hpiece]

theorem getLast?_cons_name {first : Part} {named : List Part} {name : List Char}
    (hfirst : first ≠ .name name) (h : (first :: named).getLast? = some (.name name)) :
    named.getLast? = some (.name name) := by
  rw [List.getLast?_cons] at h
  cases hnamed : named.getLast? with
  | none =>
    rw [hnamed] at h
    exact absurd (Option.some.inj h) hfirst
  | some last =>
    rw [hnamed] at h
    exact h

/-- Where a path has a last name, it is the last of its pieces that name something. -/
theorem getLast?_of_fileName {path : Path} {name : List Char} (h : path.fileName = some name) :
    ((pieces path.text.toList).filterMap Part.ofPiece?).getLast? = some (.name name) := by
  have hparts : path.parts.getLast? = some (.name name) := by
    rw [fileName] at h
    split at h
    · rename_i chars heq
      rw [heq, Option.some.inj h]
    · cases h
  rw [parts] at hparts
  split at hparts
  · exact getLast?_cons_name (by simp) hparts
  · split at hparts
    · exact getLast?_cons_name (by simp) hparts
    · exact hparts

/-- A piece names itself if it names anything. -/
theorem ofPiece?_name {piece name : List Char} (h : Part.ofPiece? piece = some (.name name)) :
    piece = name := by
  rw [Part.ofPiece?] at h
  split at h
  · cases h
  · split at h
    · cases h
    · exact Part.name.inj (Option.some.inj h)

/-- The last name of a path is its last piece. -/
theorem lastPiece_of_fileName {path : Path} {name : List Char} (h : path.fileName = some name) :
    path.lastPiece = name ∧ Part.ofPiece? name = some (.name name) := by
  have hlast := getLast?_of_fileName h
  rw [named_trimmed] at hlast
  cases hpiece : Part.ofPiece? path.lastPiece with
  | some part =>
    rw [hpiece, Option.toList_some, List.getLast?_concat] at hlast
    have hname := Option.some.inj hlast
    rw [hname] at hpiece
    have hsame := ofPiece?_name hpiece
    exact ⟨hsame, hsame ▸ hpiece⟩
  | none =>
    exfalso
    -- Then the whole path says nothing, for what could come before it was cut off.
    have hfront : path.directoryPart = [] := by
      rcases front_directoryPart path with hfront | ⟨outer, hfront⟩
      · exact hfront
      · exfalso
        have hrev : trimReversed path.text.toList.reverse
            = path.lastPiece.reverse ++ '/' :: outer.reverse := by
          have := congrArg List.reverse (trimmed_eq path)
          rw [trimmed, List.reverse_reverse, List.reverse_append, hfront, List.reverse_append]
            at this
          exact this
        have hnothing : path.lastPiece = [] ∨ path.lastPiece = ['.'] := by
          by_contra hsome
          rw [Part.ofPiece?, if_neg hsome] at hpiece
          split at hpiece <;> cases hpiece
        rcases hnothing with hnil | hdot
        · rw [hnil] at hrev
          exact trimReversed_head _ _ hrev
        · rw [hdot] at hrev
          exact trimReversed_dot _ _ hrev
    rw [hfront, hpiece] at hlast
    cases hlast

/-- A last piece that is a name is the last name. -/
theorem fileName_of_proper {path : Path}
    (h : Part.ofPiece? path.lastPiece = some (.name path.lastPiece)) :
    path.fileName = some path.lastPiece := by
  have hlast : ((pieces path.text.toList).filterMap Part.ofPiece?).getLast?
      = some (.name path.lastPiece) := by
    rw [named_trimmed, h, Option.toList_some, List.getLast?_concat]
  have hparts : path.parts.getLast? = some (.name path.lastPiece) := by
    rw [parts]
    split
    · rw [List.getLast?_cons, hlast]
      rfl
    · split
      · rw [List.getLast?_cons, hlast]
        rfl
      · exact hlast
  rw [fileName, hparts]

/-- A piece that is a name is neither empty nor dots. -/
theorem proper_iff {piece : List Char} : Part.ofPiece? piece = some (.name piece) ↔
    piece ≠ [] ∧ piece ≠ ['.'] ∧ piece ≠ ['.', '.'] := by
  rw [Part.ofPiece?]
  split
  · rename_i h
    rcases h with rfl | rfl <;> simp
  · rename_i h
    rw [not_or] at h
    split
    · rename_i hup
      simp [hup]
    · rename_i hup
      simp [h, hup]

/-- A text that ends in a name is as it is when it is trimmed. -/
theorem trimReversed_of_proper {front name : List Char} (hname : '/' ∉ name)
    (hproper : Part.ofPiece? name = some (.name name)) :
    trimReversed (front ++ name).reverse = (front ++ name).reverse := by
  obtain ⟨hne, hdot, -⟩ := proper_iff.mp hproper
  have hrev : ∀ c ∈ name.reverse, c ≠ '/' := by
    intro c hc heq
    exact hname (heq ▸ List.mem_reverse.mp hc)
  rw [List.reverse_append]
  cases hcases : name.reverse with
  | nil => exact absurd (List.reverse_eq_nil_iff.mp hcases) hne
  | cons c rest =>
    rw [hcases] at hrev
    refine trimReversed.eq_3 _ ?_ ?_
    · intro tail h
      exact hrev c List.mem_cons_self (List.cons.inj h).1
    · intro tail h
      obtain ⟨hc, hrest⟩ := List.cons.inj h
      cases rest with
      | nil =>
        rw [hc] at hcases
        exact hdot (by rw [← List.reverse_reverse name, hcases]; rfl)
      | cons d rest =>
        exact hrev d (List.mem_cons_of_mem c List.mem_cons_self) (List.cons.inj hrest).1

/-- A directory part is what is left when the piece behind it is dropped. -/
theorem dropWhile_front {front last : List Char} (hfront : Front front) (hlast : '/' ∉ last) :
    (front ++ last).reverse.dropWhile (· ≠ '/') = front.reverse := by
  have hdrop : ∀ c ∈ last.reverse, decide (c ≠ '/') = true := by
    intro c hc
    rw [decide_eq_true_eq]
    rintro rfl
    exact hlast (List.mem_reverse.mp hc)
  rw [List.reverse_append, List.dropWhile_append_of_pos hdrop]
  rcases hfront with rfl | ⟨outer, rfl⟩
  · rfl
  · rw [List.reverse_append]
    rfl

/-- A text falls into a directory part and a piece in one way only. -/
theorem front_unique {front front' last last' : List Char} (hfront : Front front)
    (hlast : '/' ∉ last) (hfront' : Front front') (hlast' : '/' ∉ last')
    (h : front ++ last = front' ++ last') : front = front' ∧ last = last' := by
  have hfronts : front = front' := by
    have := dropWhile_front hfront hlast
    rw [h, dropWhile_front hfront' hlast'] at this
    exact (List.reverse_inj.mp this).symm
  subst hfronts
  exact ⟨rfl, List.append_cancel_left h⟩

/-- Of a path with a last name, the last piece is that name or a dot. -/
theorem filled_of_unnamed {path : Path} {name : List Char} (hname : path.fileName = some name)
    (hlast : ∀ name, (filled path.text.toList).getLast?.bind Part.ofPiece? ≠ some (.name name)) :
    ∃ init, filled path.text.toList = init ++ [['.']] := by
  have hnamed := getLast?_of_fileName hname
  have hfilled : (pieces path.text.toList).filterMap Part.ofPiece?
      = (filled path.text.toList).filterMap Part.ofPiece? := by
    rw [filled, List.filterMap_filter]
    refine List.filterMap_congr fun piece _ => ?_
    by_cases hpiece : piece = []
    · subst hpiece
      rfl
    · simp [hpiece]
  rw [hfilled] at hnamed
  rcases List.eq_nil_or_concat' (filled path.text.toList) with hnil | ⟨init, piece, hinit⟩
  · rw [hnil] at hnamed
    cases hnamed
  · have hsome : piece ≠ [] := by
      have hmem : piece ∈ filled path.text.toList := by
        rw [hinit]
        exact List.mem_append_right init List.mem_cons_self
      simpa using (List.mem_filter.mp hmem).2
    rw [hinit, List.filterMap_append] at hnamed
    rw [hinit, List.getLast?_concat, Option.bind_some] at hlast
    refine ⟨init, ?_⟩
    cases hpart : Part.ofPiece? piece with
    | some part =>
      -- Then the piece itself would be the last name.
      rw [List.filterMap_cons_some hpart, List.filterMap_nil, List.getLast?_concat] at hnamed
      exact absurd (hpart.trans hnamed) (hlast name)
    | none =>
      have hdot : piece = ['.'] := by
        by_contra hdot
        rw [Part.ofPiece?, if_neg (not_or.mpr ⟨hsome, hdot⟩)] at hpart
        split at hpart <;> cases hpart
      rw [hinit, hdot]

/-- The text of a path that ends in a name falls into its directory part and that name. -/
theorem split_of_text {path : Path} {front name : List Char}
    (htext : path.text.toList = front ++ name) (hfront : Front front) (hname : '/' ∉ name)
    (hproper : Part.ofPiece? name = some (.name name)) :
    path.trimmed = path.text.toList ∧ path.directoryPart = front ∧ path.lastPiece = name := by
  have hwhole : path.trimmed = path.text.toList := by
    rw [trimmed, htext, trimReversed_of_proper hname hproper, List.reverse_reverse]
  refine ⟨hwhole, front_unique (front_directoryPart path) (noSlash_lastPiece path) hfront hname ?_⟩
  rw [← trimmed_eq, hwhole, htext]

/-- Whether a path starts at the root shows in its directory part. -/
theorem isAbsolute_eq {path : Path} {front last more : List Char}
    (htext : path.text.toList = front ++ (last ++ more)) (hlast : '/' ∉ last) (hne : last ≠ []) :
    path.isAbsolute = decide (front.head? = some '/') := by
  rw [isAbsolute, htext]
  cases front with
  | nil =>
    cases last with
    | nil => exact absurd rfl hne
    | cons c rest =>
      have hc : c ≠ '/' := fun h => hlast (h ▸ List.mem_cons_self)
      simp [hc]
  | cons c rest => rfl

theorem isAbsolute_of_fileName {path : Path} {name : List Char}
    (hname : path.fileName = some name) :
    path.isAbsolute = decide (path.directoryPart.head? = some '/') := by
  obtain ⟨hlast, hproper⟩ := lastPiece_of_fileName hname
  obtain ⟨more, hmore⟩ := path.trimmed_prefix
  rw [trimmed_eq, List.append_assoc] at hmore
  have hne : path.lastPiece ≠ [] := by
    rw [hlast]
    exact (proper_iff.mp hproper).1
  exact isAbsolute_eq hmore.symm path.noSlash_lastPiece hne

/-! ## Another extension -/

theorem splitName_prefix (name : List Char) : (splitName name).1 <+: name := by
  rw [splitName]
  split
  · exact List.prefix_rfl
  · exact List.take_prefix _ _

/-- A path with another extension has another name behind the same directory part. -/
theorem text_withExtension {path : Path} {name : List Char} (h : path.fileName = some name)
    {extension : String} (hextension : '/' ∉ extension.toList) :
    ∃ name', (path.withExtension extension).text.toList = path.directoryPart ++ name'
      ∧ '/' ∉ name' ∧ name' ≠ [] := by
  obtain ⟨hlast, -⟩ := lastPiece_of_fileName h
  have hnoSlash := noSlash_lastPiece path
  rw [hlast] at hnoSlash
  have hstarts := splitName_prefix name
  have hstem : '/' ∉ (splitName name).1 := fun hmem => hnoSlash (hstarts.subset hmem)
  -- The old extension is cut off at the end.
  have hkept : path.trimmed.take (path.trimmed.length - (name.length - (splitName name).1.length))
      = path.directoryPart ++ (splitName name).1 := by
    have hle := hstarts.length_le
    have hlength : path.trimmed.length - (name.length - (splitName name).1.length)
        = path.directoryPart.length + (splitName name).1.length := by
      rw [trimmed_eq, hlast, List.length_append]
      omega
    rw [hlength, trimmed_eq, hlast, List.take_length_add_append]
    exact congrArg _ (List.prefix_iff_eq_take.mp hstarts).symm
  rw [withExtension, h]
  dsimp only
  rw [← trimmed, hkept]
  split
  · refine ⟨(splitName name).1 ++ ['.'], ?_, ?_, by simp⟩
    · rw [String.toList_ofList, List.append_assoc]
    · simp [hstem]
  · refine ⟨(splitName name).1 ++ '.' :: extension.toList, ?_, ?_, by simp⟩
    · rw [String.toList_ofList, List.append_assoc]
    · simp [hstem, hextension]

/-! ## The paths above -/

/-- The text of a path that lies above a text: a start of it that ends before a slash, or the
root, or nothing. -/
def Above (outer text : List Char) : Prop :=
  outer = [] ∨ (outer = ['/'] ∧ text.head? = some '/') ∨ ∃ rest, text = outer ++ '/' :: rest

theorem Above.trans {outer middle text : List Char} (h : Above outer middle)
    (h' : Above middle text) : Above outer text := by
  rcases h with h | ⟨h, hhead⟩ | ⟨rest, rfl⟩
  · exact .inl h
  · refine .inr (.inl ⟨h, ?_⟩)
    rcases h' with rfl | ⟨-, hhead'⟩ | ⟨rest', rfl⟩
    · cases hhead
    · exact hhead'
    · rw [List.head?_append, hhead]
      rfl
  · rcases h' with hnil | ⟨hroot, -⟩ | ⟨rest', rfl⟩
    · simp at hnil
    · -- Nothing but the empty path is above the root.
      left
      cases outer with
      | nil => rfl
      | cons c outer => simp at hroot
    · exact .inr (.inr ⟨rest ++ '/' :: rest', by rw [List.append_assoc]; rfl⟩)

theorem Above.append {outer text : List Char} (h : Above outer text) (more : List Char) :
    Above outer (text ++ more) := by
  rcases h with h | ⟨h, hhead⟩ | ⟨rest, rfl⟩
  · exact .inl h
  · exact .inr (.inl ⟨h, by rw [List.head?_append, hhead]; rfl⟩)
  · exact .inr (.inr ⟨rest ++ more, by rw [List.append_assoc]; rfl⟩)

/-- A path that starts at the root and names something below it has a directory part that starts
at the root. -/
theorem head?_directoryPart {path : Path} (habsolute : path.isAbsolute = true)
    (hne : path.trimmed ≠ []) : path.directoryPart.head? = some '/' := by
  obtain ⟨more, hmore⟩ := trimmed_prefix path
  have hhead : path.text.toList.head? = some '/' := by
    rw [isAbsolute, decide_eq_true_eq] at habsolute
    exact habsolute
  have htrimmed : path.trimmed.head? = some '/' := by
    cases htrim : path.trimmed with
    | nil => exact absurd htrim hne
    | cons c rest =>
      rw [← hmore, htrim] at hhead
      exact hhead
  rw [trimmed_eq] at htrimmed
  cases hfront : path.directoryPart with
  | nil =>
    exfalso
    rw [hfront, List.nil_append] at htrimmed
    exact noSlash_lastPiece path (List.mem_of_mem_head? htrimmed)
  | cons c rest =>
    rw [hfront] at htrimmed
    exact htrimmed

/-- The path directly above a path is above its directory part. -/
theorem above_of_parent {path outer : Path} (h : path.parent = some outer) :
    Above outer.text.toList path.directoryPart := by
  -- The directory part loses at least the slash at its end.
  have hcut : trimReversed ((trimReversed path.text.toList.reverse).dropWhile (· ≠ '/')) = [] ∨
      ∃ rest, path.directoryPart
        = (trimReversed ((trimReversed path.text.toList.reverse).dropWhile (· ≠ '/'))).reverse
          ++ '/' :: rest := by
    rcases trimReversed_cut ((trimReversed path.text.toList.reverse).dropWhile (· ≠ '/'))
      with heq | ⟨cut, heq⟩
    · left
      rcases dropWhile_noSlash (trimReversed path.text.toList.reverse) with hnil | ⟨rest, hslash⟩
      · rw [heq, hnil]
      · exact absurd (heq.trans hslash) (trimReversed_head _ _)
    · right
      refine ⟨cut.reverse, ?_⟩
      have := congrArg List.reverse heq
      rw [← directoryPart, List.reverse_append, List.reverse_cons, List.append_assoc] at this
      exact this
  rw [parent] at h
  split at h
  · cases h
  · cases h
  · rename_i last hnoRoot hlast
    dsimp only at h
    split at h
    · rename_i hroot
      obtain rfl := Option.some.inj h
      refine .inr (.inl ⟨rfl, head?_directoryPart hroot.2 fun htrimmed => ?_⟩)
      -- Only the root itself has nothing but slashes and dots.
      have hnamed := named_trimReversed path.text.toList.reverse
      rw [List.reverse_reverse, ← trimmed, htrimmed] at hnamed
      have hparts : path.parts = [.root] := by
        rw [parts, if_pos hroot.2, ← hnamed]
        rfl
      rw [hparts] at hlast
      exact hnoRoot (Option.some.inj hlast).symm
    · obtain rfl := Option.some.inj h
      rw [String.toList_ofList]
      rcases hcut with hnil | hrest
      · exact .inl (by rw [hnil]; rfl)
      · exact .inr (.inr hrest)

theorem above_self_of_parent {path outer : Path} (h : path.parent = some outer) :
    Above outer.text.toList path.text.toList := by
  obtain ⟨more, hmore⟩ := trimmed_prefix path
  rw [← hmore, trimmed_eq]
  exact ((above_of_parent h).append _).append _

/-- The paths above a path are above it by their texts. -/
theorem above_of_mem_above {depth : Nat} {path outer : Path} (h : outer ∈ above depth path) :
    outer = path ∨ Above outer.text.toList path.text.toList := by
  induction depth generalizing path with
  | zero => cases h
  | succ depth ih =>
    rw [above] at h
    split at h
    · exact .inl (List.mem_singleton.mp h)
    · rename_i next hnext
      rcases List.mem_cons.mp h with h | h
      · exact .inl h
      · right
        rcases ih h with rfl | habove
        · exact above_self_of_parent hnext
        · exact habove.trans (above_self_of_parent hnext)

/-- The directory of a path and the paths above it are above its directory part. -/
theorem above_of_mem_ancestors {path directory outer : Path}
    (hdirectory : path.parent = some directory) (h : outer ∈ directory.ancestors) :
    Above outer.text.toList path.directoryPart := by
  rcases above_of_mem_above h with rfl | habove
  · exact above_of_parent hdirectory
  · exact habove.trans (above_of_parent hdirectory)

/-- A path above a directory part has the first of its pieces. -/
theorem Above.filled_prefix {outer text : List Char} (h : Above outer text) :
    filled outer <+: filled text := by
  rcases h with rfl | ⟨rfl, -⟩ | ⟨rest, rfl⟩
  · exact List.nil_prefix
  · exact List.nil_prefix
  · rw [filled_slash]
    exact List.prefix_append _ _

/-- Of a path with a last name, the directory part lacks that name at least. -/
theorem filled_eq_of_fileName {path : Path} {name : List Char} (h : path.fileName = some name) :
    ∃ more, filled path.text.toList = filled path.directoryPart ++ name :: more := by
  obtain ⟨hlast, hproper⟩ := lastPiece_of_fileName h
  have hne := (proper_iff.mp hproper).1
  have htrimmed : filled path.trimmed = filled path.directoryPart ++ [name] := by
    rw [trimmed_eq, hlast]
    exact filled_front path.front_directoryPart (hlast ▸ path.noSlash_lastPiece) hne
  rcases text_trimmed path with htext | ⟨more, htext⟩
  · refine ⟨[], ?_⟩
    rw [htext, htrimmed]
  · refine ⟨filled more, ?_⟩
    rw [htext, filled_slash, htrimmed, List.append_assoc]
    rfl

/-- A path above one that starts at the root starts there, too; and so the other way round. -/
theorem Above.isAbsolute_eq {path outer : Path} {name : List Char}
    (hname : path.fileName = some name) (h : Above outer.text.toList path.directoryPart)
    (hne : outer.text.toList ≠ []) : outer.isAbsolute = path.isAbsolute := by
  rw [isAbsolute_of_fileName hname, isAbsolute]
  congr 2
  rcases h with hnil | ⟨hroot, hhead⟩ | ⟨rest, hrest⟩
  · exact absurd hnil hne
  · rw [hroot, hhead]
    rfl
  · rw [hrest, List.head?_append_of_ne_nil _ hne]

end SealedLog.Path

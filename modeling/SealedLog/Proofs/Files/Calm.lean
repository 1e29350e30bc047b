import SealedLog.Proofs.Files.Steps

/-!
# Steps without mishaps

When no mishap is to come, a step does what it is there for. What is said here of a file is said of
a path that leads into a directory, and to no directory there.

- `Untroubled files`: no mishap is to come.
- `openForWriting_of_leads`, `tighten_of_due`, `writeSome_of_due`, `sync_of_due`: a file can be
  opened, restricted, written to and stored.
- `existing_of_leads`: a path leads to the file that is there, or to nothing.
- `Leads.vanish`: a file that is taken away leaves its directory behind.
-/

namespace SealedLog.Files

variable {files : Files} {path : Path} {directory : Place}

/-! ## Mishaps -/

/-- No mishap is to come. -/
def Untroubled (files : Files) : Prop := ∀ mishap ∈ files.mishaps, mishap = none

theorem Untroubled.due (h : Untroubled files) : files.mishaps.head?.join = none := by
  rw [Untroubled] at h
  cases hmishaps : files.mishaps with
  | nil => rfl
  | cons mishap more =>
    rw [hmishaps] at h
    rw [h mishap List.mem_cons_self]
    rfl

theorem Untroubled.later (h : Untroubled files) : Untroubled files.later :=
  fun mishap hmem => h mishap (List.mem_of_mem_drop hmem)

/-! ## Files -/

/-- A path that leads into a directory can be opened, unless it leads to a directory there. -/
theorem openForWriting_of_leads (hdue : files.mishaps.head?.join = none)
    (hleads : Leads files path directory)
    (hfree : ¬ files.IsDirectory (directory ++ [path.lastPiece])) (mode : Nat) (empty : Bool) :
    ∃ bits, openForWriting path mode empty files = (.ok (directory ++ [path.lastPiece]),
      files.later.put (directory ++ [path.lastPiece])
        (.file (if empty then []
          else (files.contentAt? (directory ++ [path.lastPiece])).getD []) bits)) := by
  have hlocate : files.later.locate path = .ok ⟨directory ++ [path.lastPiece], false, true⟩ := by
    rw [(alike_later files).locate_eq]
    exact locate_named_iff.mpr ⟨directory, hleads, rfl⟩
  obtain ⟨name, happroach⟩ :
      ∃ name, files.later.approach path = .ok ⟨directory, some name, false⟩ := by
    have hnamed := hlocate
    rw [locate] at hnamed
    split at hnamed
    · cases hnamed
    · cases hnamed
    · rename_i place name slash heq
      split at hnamed
      · cases hnamed
      · simp only [Except.ok.injEq, Target.mk.injEq, and_true] at hnamed
        obtain ⟨hplace, rfl⟩ := hnamed
        rw [(List.append_inj' hplace rfl).1] at heq
        exact ⟨name, heq⟩
  have hnode : files.later.node? (directory ++ [path.lastPiece])
      = files.node? (directory ++ [path.lastPiece]) := rfl
  rw [openForWriting, attempt_of_none_due _ hdue, happroach]
  show ∃ bits, files.later.afterStep (files.later.locate path >>= _) = _
  rw [hlocate]
  cases hfound : files.node? (directory ++ [path.lastPiece]) with
  | none =>
    have hcontent : files.contentAt? (directory ++ [path.lastPiece]) = none := by
      rw [contentAt?, hfound]
    refine ⟨masked files.later.umask mode, ?_⟩
    simp only [bind, Except.bind, hnode, hfound, hcontent, Option.getD_none, ite_self]
    rfl
  | some node =>
    cases node with
    | directory bits => exact absurd ⟨bits, hfound⟩ hfree
    | file content bits =>
      have hcontent : files.contentAt? (directory ++ [path.lastPiece]) = some content := by
        rw [contentAt?, hfound]
      refine ⟨bits, ?_⟩
      simp only [bind, Except.bind, hnode, hfound, hcontent, Option.getD_some]
      rfl

/-- The access to an opened file can be restricted. -/
theorem tighten_of_due (hdue : files.mishaps.head?.join = none) (place : Place) (mode : Nat) :
    (tighten place mode files).1 = .ok () ∧
      (tighten place mode files).2.mishaps = files.later.mishaps := by
  rw [tighten, attempt_of_none_due _ hdue]
  split
  · split <;> exact ⟨rfl, rfl⟩
  · exact ⟨rfl, rfl⟩

/-- A write takes all its bytes. -/
theorem writeSome_of_due (hdue : files.mishaps.head?.join = none) (place : Place) (bytes : Bytes) :
    writeSome place bytes files = (.ok bytes.length, files.later.appended place bytes) := by
  rw [writeSome]
  split
  · rename_i mishap later hmishaps
    rw [hmishaps] at hdue
    cases hdue
  · rfl

theorem mishaps_appended (files : Files) (place : Place) (bytes : Bytes) :
    (files.appended place bytes).mishaps = files.mishaps := by
  rw [appended]
  split <;> rfl

/-- An opened file can be stored for good. -/
theorem sync_of_due (hdue : files.mishaps.head?.join = none) (place : Place) :
    sync place files = (.ok (), files.later) := by
  rw [sync, attempt_of_none_due _ hdue]
  rfl

/-- A path that leads into a directory leads to what has its last name there. -/
theorem existing_of_leads (hleads : Leads files path directory) :
    files.existing path =
      match files.node? (directory ++ [path.lastPiece]) with
      | none => .error .notFound
      | some node => .ok (directory ++ [path.lastPiece], node) := by
  rw [existing, locate_named_iff.mpr ⟨directory, hleads, rfl⟩]
  dsimp only
  cases files.node? (directory ++ [path.lastPiece]) with
  | none => rfl
  | some node => cases node <;> rfl

/-! ## Taking a file away -/

theorem node?_remove_self {place : Place} (hne : place ≠ []) (files : Files) :
    (files.remove place).node? place = none := by
  have hlookup : (files.remove place).nodes.lookup place = none := by
    show (files.nodes.filter fun entry => !place.isPrefixOf entry.1).lookup place = none
    rw [lookup_filter (fun key => !place.isPrefixOf key) place files.nodes]
    exact if_neg (by simp)
  rw [node?, hlookup]
  exact if_neg hne

/-- All that is left was there before. -/
theorem grows_remove {place : Place} (hne : place ≠ []) (files : Files) :
    Grows (files.remove place) files := by
  refine ⟨rfl, fun {other node} hnode => ?_⟩
  by_cases hbelow : place <+: other
  · have hlookup : (files.remove place).nodes.lookup other = none := by
      show (files.nodes.filter fun entry => !place.isPrefixOf entry.1).lookup other = none
      rw [lookup_filter (fun key => !place.isPrefixOf key) other files.nodes]
      exact if_neg (by simpa using hbelow)
    have hother : other ≠ [] := by
      rintro rfl
      exact hne (List.prefix_nil.mp hbelow)
    rw [node?, hlookup] at hnode
    simp [hother] at hnode
  · rw [node?_remove hbelow] at hnode
    exact hnode

/-- A file that is taken away leaves its directory behind. -/
theorem Leads.vanish (h : Leads files path directory)
    (hfree : ¬ files.IsDirectory (directory ++ [path.lastPiece])) :
    Leads (files.remove (directory ++ [path.lastPiece])) path directory := by
  -- The file is not above the start, or it would be above its own directory.
  have houtside : ¬ directory ++ [path.lastPiece] <+: files.start path := by
    intro hbelow
    have := (follow_inside hfree hbelow h.follows).length_le
    rw [List.length_append, List.length_singleton] at this
    omega
  exact ⟨h.whole, h.proper, h.noZero, h.short, h.fits,
    (follow_remove hfree (.inl houtside) h.follows).1⟩

end SealedLog.Files

import SealedLog.Proofs.Files.Steps
import SealedLog.Proofs.SoftElement.StateFile

/-!
# Replacing a state file

A state file is replaced as a whole or not at all: whatever goes wrong on the way, the path leads
to the old content until the very last step, and to the new content after it.

- `Begun path files files'`: what a replacement can have changed before its last step.
- `existing_of_replace`: after a replacement the path leads to the new content.
- `read?_of_failed_replace`: after a failed one it leads to the content it led to before.
- `Vacant path files`: the path leads nowhere, whichever directories above it are made.
- `vacant_of_failed_replace`: a failed replacement leaves such a path as it is.
- `load_of_save`: slots that were saved are loaded again.
-/

namespace SealedLog.StateFile

open Files

variable {files files' files'' : Files} {path : Path}

/-! ## The successor -/

theorem noSlash_tmp : '/' ∉ "tmp".toList := by decide

theorem exists_fileName (hne : successor path ≠ path) : ∃ name, path.fileName = some name := by
  cases hname : path.fileName with
  | some name => exact ⟨name, rfl⟩
  | none =>
    refine absurd ?_ hne
    rw [successor, Path.withExtension, hname]

/-- A path and its successor start at the same place. -/
theorem start_successor (files : Files) (path : Path) :
    files.start (successor path) = files.start path := by
  cases hname : path.fileName with
  | none => rw [successor, Path.withExtension, hname]
  | some name =>
    obtain ⟨name', htext', hslash', hne'⟩ := Path.text_withExtension hname noSlash_tmp
    have habsolute : (successor path).isAbsolute = path.isAbsolute := by
      rw [Path.isAbsolute_of_fileName hname]
      have htext : (successor path).text.toList = path.directoryPart ++ (name' ++ []) := by
        rw [List.append_nil]
        exact htext'
      exact Path.isAbsolute_eq htext hslash' hne'
    rw [start, start, habsolute]

/-- A successor that leads somewhere stands beside its path. -/
theorem directoryPart_successor {directory : Place}
    (h : Leads files (successor path) directory) :
    (successor path).directoryPart = path.directoryPart := by
  cases hname : path.fileName with
  | none => rw [successor, Path.withExtension, hname]
  | some name =>
    obtain ⟨name', htext', hslash', -⟩ := Path.text_withExtension hname noSlash_tmp
    have htext := h.text_eq
    rw [successor, htext'] at htext
    exact (Path.front_unique path.front_directoryPart hslash'
      (successor path).front_directoryPart (successor path).noSlash_lastPiece htext).1.symm

/-- A path and a successor that is another path do not lead to the same file. -/
theorem place_ne_successor (hne : successor path ≠ path) {directory directory' : Place}
    (h : Leads files path directory) (h' : Leads files (successor path) directory') :
    directory ++ [path.lastPiece] ≠ directory' ++ [(successor path).lastPiece] := by
  have hpart := directoryPart_successor h'
  intro heq
  have hlast := (List.append_inj_right' heq rfl)
  apply hne
  have htext : (successor path).text.toList = path.text.toList := by
    rw [h'.text_eq, h.text_eq, hpart, (List.cons.inj hlast).1]
  have : (successor path).text = path.text := String.ext htext
  cases hsuccessor : successor path with
  | mk text =>
    rw [hsuccessor] at this
    subst this
    rfl

/-! ## Making the directory -/

/-- Making the directory keeps what making each of the paths above keeps. -/
theorem prepare_keeps (Keeps : Files → Prop)
    (h : ∀ outer : Path, Path.Above outer.text.toList path.directoryPart →
      outer.text.toList ≠ [] → ∀ files, Keeps files → Keeps (makeDirectory outer files).2)
    (hfiles : Keeps files) : Keeps (prepare path files).2 := by
  rw [prepare]
  cases hdirectory : path.parent with
  | none => exact hfiles
  | some directory =>
    by_cases hempty : directory.text.isEmpty
    · simp only [hempty, if_true]
      exact hfiles
    · simp only [if_neg hempty]
      refine makeNested_keeps (fun outer houter => ?_) hfiles
      exact h outer (Path.above_of_mem_ancestors hdirectory houter)

theorem prepare_grows (path : Path) (files : Files) : Grows files (prepare path files).2 :=
  prepare_keeps (Grows files)
    (fun outer _ _ files hfiles => hfiles.trans (makeDirectory_grows outer files)) (.refl files)

/-- Where the successor leads somewhere, there is no directory to be made. -/
theorem prepare_alike {directory : Place} (h : Leads files (successor path) directory) :
    Alike files (prepare path files).2 := by
  refine prepare_keeps (Alike files) (fun outer habove hne made hmade => ?_) (.refl files)
  rw [← directoryPart_successor h] at habove
  obtain ⟨place, mode, hthere⟩ := existing_of_above h habove hne
  rw [← hmade.existing_eq] at hthere
  exact hmade.trans (makeDirectory_alike hthere)

/-- Making the directory leaves the bits that new nodes never get. -/
theorem umask_prepare (path : Path) (files : Files) :
    (prepare path files).2.umask = files.umask := by
  refine prepare_keeps (fun made => made.umask = files.umask) (fun outer _ _ made hmade => ?_) rfl
  rcases makeDirectory_cases outer made with ⟨error, h⟩ | ⟨target, mode, -, -, h⟩ <;> rw [h]
  · exact hmade
  · exact hmade

/-! ## Replacing -/

/-- The permission bits of the successor: those of a file that is there already, or those it is
created with. -/
def successorMode (path : Path) (files : Files) : Nat :=
  ((prepare path files).2.mode? (successor path)).getD (masked files.umask fileMode)

/-- What is done with the successor is done with an empty file in a directory that is made. -/
theorem opening_cases {α : Type} (rest : Place → FileStep α) {result : Except SystemError α}
    (h : (do prepare path; let place ← openForWriting (successor path) fileMode true; rest place
      : FileStep α) files = (result, files')) :
    (∃ error, result = .error error) ∧ Alike (prepare path files).2 files' ∨
      ∃ directory opened, Leads (prepare path files).2 (successor path) directory ∧
        ¬ (prepare path files).2.IsDirectory (directory ++ [(successor path).lastPiece]) ∧
        Alike ((prepare path files).2.put (directory ++ [(successor path).lastPiece])
          (.file [] (successorMode path files))) opened ∧
        rest (directory ++ [(successor path).lastPiece]) opened = (result, files') := by
  have hmask := umask_prepare path files
  rw [successorMode, ← hmask]
  cases hprepare : prepare path files with
  | mk prepared made =>
    cases prepared with
    | error error =>
      rw [bind_of_error _ hprepare] at h
      obtain ⟨rfl, rfl⟩ := Prod.mk.inj h
      exact .inl ⟨⟨error, rfl⟩, .refl made⟩
    | ok _ =>
      rw [bind_of_ok _ hprepare] at h
      rcases openForWriting_cases (successor path) fileMode true made with
        ⟨error, hopen⟩ | ⟨directory, bits, hleads, hfree, rfl, hopen⟩
      · rw [bind_of_error _ hopen] at h
        obtain ⟨rfl, rfl⟩ := Prod.mk.inj h
        exact .inl ⟨⟨error, rfl⟩, alike_later made⟩
      · rw [bind_of_ok _ hopen] at h
        exact .inr ⟨directory, _, hleads, hfree, (alike_later made).put _ _, h⟩

/-- A write into an empty file leaves a part of its bytes there, or all of them. -/
theorem writeAll_alike {place : Place} {bits : Nat} {opened : Files}
    (hopened : Alike (files.put place (.file [] bits)) opened) (bytes : Bytes) :
    ∃ part, Alike (files.put place (.file part bits)) (writeAll place bytes opened).2 ∧
      ((writeAll place bytes opened).1 = .ok () → part = bytes) := by
  have hnode : opened.node? place = some (.file [] bits) := by
    rw [hopened.node?_eq, node?_put_self]
  -- The file was empty, so what is written is all there is.
  obtain ⟨part, hwritten, hall⟩ := writeAll_cases hnode bytes
  have hput := hopened.put place (.file part bits)
  rw [put_put] at hput
  exact ⟨part, hput.trans hwritten, hall⟩

/-- With an opened successor, the content is written before the successor takes its place. -/
theorem finish_cases {place : Place} {bits : Nat} {opened : Files}
    (hopened : Alike (files.put place (.file [] bits)) opened) (path : Path) (content : Bytes)
    {result : Except SystemError Unit}
    (h : (do writeAll place content; sync place; rename (successor path) path : FileStep Unit)
      opened = (result, files')) :
    (∃ error part, result = .error error ∧ Alike (files.put place (.file part bits)) files') ∨
      result = .ok () ∧ ∃ written, Alike (files.put place (.file content bits)) written ∧
        rename (successor path) path written = (.ok (), files') := by
  obtain ⟨part, hwritten, hall⟩ := writeAll_alike hopened content
  cases hwrite : writeAll place content opened with
  | mk answer written =>
    rw [hwrite] at hwritten hall
    cases answer with
    | error error =>
      rw [bind_of_error _ hwrite] at h
      obtain ⟨rfl, rfl⟩ := Prod.mk.inj h
      exact .inl ⟨error, part, rfl, hwritten⟩
    | ok _ =>
      obtain rfl := hall rfl
      rw [bind_of_ok _ hwrite] at h
      have hstored := hwritten.trans (sync_alike place written)
      cases hsync : sync place written with
      | mk answer stored =>
        rw [hsync] at hstored
        cases answer with
        | error error =>
          rw [bind_of_error _ hsync] at h
          obtain ⟨rfl, rfl⟩ := Prod.mk.inj h
          exact .inl ⟨error, part, rfl, hstored⟩
        | ok _ =>
          rw [bind_of_ok _ hsync] at h
          rcases rename_cases (successor path) path stored with
            ⟨error, hrename⟩ | ⟨_, _, _, _, -, -, ⟨-, hrename⟩ | ⟨-, -, hrename⟩⟩
          · rw [hrename] at h
            obtain ⟨rfl, rfl⟩ := Prod.mk.inj h
            exact .inl ⟨error, part, rfl, hstored.trans (alike_later stored)⟩
          all_goals
            rw [hrename] at h
            obtain ⟨rfl, rfl⟩ := Prod.mk.inj h
            exact .inr ⟨rfl, stored, hstored, hrename⟩

/-- What a replacement changes before its last step: the directory of the path is made, and then
there is a file at the successor. -/
inductive Begun (path : Path) (files : Files) : Files → Prop
  | prepared {files' : Files} : Alike (prepare path files).2 files' → Begun path files files'
  | beside {directory : Place} {part : Bytes} {files' : Files} :
      Leads (prepare path files).2 (successor path) directory →
      ¬ (prepare path files).2.IsDirectory (directory ++ [(successor path).lastPiece]) →
      Alike ((prepare path files).2.put (directory ++ [(successor path).lastPiece])
        (.file part (successorMode path files))) files' →
      Begun path files files'

/-- A replacement fails before its last step, or comes to the end. -/
theorem replace_cases {content : Bytes} {result : Except SystemError Unit}
    (h : replace path content files = (result, files')) :
    (∃ error, result = .error error) ∧ Begun path files files' ∨
      result = .ok () ∧ ∃ directory written,
        Leads (prepare path files).2 (successor path) directory ∧
        ¬ (prepare path files).2.IsDirectory (directory ++ [(successor path).lastPiece]) ∧
        Alike ((prepare path files).2.put (directory ++ [(successor path).lastPiece])
          (.file content (successorMode path files))) written ∧
        rename (successor path) path written = (.ok (), files') := by
  rcases opening_cases (fun place => do
      writeAll place content; sync place; rename (successor path) path) h with
    ⟨herror, halike⟩ | ⟨directory, opened, hleads, hfree, hopened, hrest⟩
  · exact .inl ⟨herror, .prepared halike⟩
  · rcases finish_cases hopened path content hrest with
      ⟨error, part, herror, halike⟩ | ⟨hok, written, hwritten, hrename⟩
    · exact .inl ⟨⟨error, herror⟩, .beside hleads hfree halike⟩
    · exact .inr ⟨hok, directory, written, hleads, hfree, hwritten, hrename⟩

/-- After a replacement the path leads to the new content, with the permission bits of the
successor. -/
theorem existing_of_replace {content : Bytes}
    (h : replace path content files = (.ok (), files')) :
    ∃ place, files'.existing path = .ok (place, .file content (successorMode path files)) := by
  rcases replace_cases h with
    ⟨⟨error, herror⟩, -⟩ | ⟨-, directory, written, hleads, hfree, hwritten, hrename⟩
  · cases herror
  · have hput := hleads.put_file hfree content (successorMode path files)
    have hnode : written.node? (directory ++ [(successor path).lastPiece])
        = some (.file content (successorMode path files)) := by
      rw [hwritten.node?_eq, node?_put_self]
    exact existing_of_rename (hwritten.grows.leads hput) hnode (start_successor written path)
      hrename

theorem read?_of_replace {content : Bytes} (h : replace path content files = (.ok (), files')) :
    files'.read? path = some content := by
  obtain ⟨place, hthere⟩ := existing_of_replace h
  exact read?_eq_some_iff.mpr ⟨place, _, hthere⟩

/-- A file beside the path does not change what the path leads to. -/
theorem read?_put_successor (hne : successor path ≠ path) {directory : Place}
    (hleads : Leads files (successor path) directory)
    (hfree : ¬ files.IsDirectory (directory ++ [(successor path).lastPiece])) (part : Bytes)
    (bits : Nat) {content : Bytes} (hread : files.read? path = some content) :
    (files.put (directory ++ [(successor path).lastPiece]) (.file part bits)).read? path
      = some content := by
  obtain ⟨name, hname⟩ := exists_fileName hne
  obtain ⟨place, mode, hexisting⟩ := read?_eq_some_iff.mp hread
  obtain ⟨above, habove, rfl, hnode⟩ := leads_of_file hname hexisting
  have hkept := node?_put_ne (place_ne_successor hne habove hleads) files (.file part bits)
  exact (habove.put_file hfree part bits).read?_eq (hkept.trans hnode)

/-- Before the last step of a replacement, the path leads to the content it led to before. -/
theorem Begun.read? (hbegun : Begun path files files') (hne : successor path ≠ path)
    {old : Bytes} (hread : files.read? path = some old) : files'.read? path = some old := by
  have hmade := (prepare_grows path files).read? hread
  cases hbegun with
  | prepared halike => rw [halike.read?_eq, hmade]
  | beside hleads hfree halike =>
    rw [halike.read?_eq]
    exact read?_put_successor hne hleads hfree _ _ hmade

/-- After a failed replacement the path leads to the content it led to before. -/
theorem read?_of_failed_replace (hne : successor path ≠ path) {content old : Bytes}
    {error : SystemError} (h : replace path content files = (.error error, files'))
    (hread : files.read? path = some old) : files'.read? path = some old := by
  rcases replace_cases h with ⟨-, hbegun⟩ | ⟨hok, -⟩
  · exact hbegun.read? hne hread
  · cases hok

/-! ## Paths that stay vacant -/

/-- A file system that comes about when the directory of a path is made, any number of times and
with any mishaps. -/
inductive Prepared (path : Path) (files : Files) : Files → Prop
  | done {files' : Files} : Alike files files' → Prepared path files files'
  | again {made files' : Files} : Prepared path files made → Alike (prepare path made).2 files' →
      Prepared path files files'

theorem Prepared.trans (h : Prepared path files files') (h' : Prepared path files' files'') :
    Prepared path files files'' := by
  induction h' with
  | done halike =>
    cases h with
    | done halike' => exact .done (halike'.trans halike)
    | again hmade halike' => exact .again hmade (halike'.trans halike)
  | again _ halike ih => exact .again ih halike

theorem Prepared.umask_eq (h : Prepared path files files') : files'.umask = files.umask := by
  induction h with
  | done halike => exact halike.umask_eq
  | again _ halike ih => exact halike.umask_eq.trans ((umask_prepare path _).trans ih)

/-- Where the successor leads somewhere, there is no directory to be made. -/
theorem Prepared.alike_of_leads (h : Prepared path files files') {directory : Place}
    (hleads : Leads files (successor path) directory) : Alike files files' := by
  induction h with
  | done halike => exact halike
  | again _ halike ih => exact (ih.trans (prepare_alike (ih.grows.leads hleads))).trans halike

/-- The path leads to nothing, whichever of the missing directories above it are made. -/
def Vacant (path : Path) (files : Files) : Prop :=
  ∀ files', Prepared path files files' → ∀ found, files'.existing path ≠ .ok found

theorem Vacant.prepared (h : Vacant path files) (hprepared : Prepared path files files') :
    Vacant path files' :=
  fun made hmade => h made (hprepared.trans hmade)

/-- Where no directory is to be made, a path is vacant as soon as it leads to nothing. -/
theorem vacant_of_leads {directory : Place} (hleads : Leads files (successor path) directory)
    (hnone : ∀ found, files.existing path ≠ .ok found) : Vacant path files := by
  intro made hprepared found hfound
  rw [(hprepared.alike_of_leads hleads).existing_eq] at hfound
  exact hnone found hfound

/-- A path above another one, both without double dots, leads to another place. -/
theorem down_ne_of_above {outer : Path} {name : List Char} (hname : path.fileName = some name)
    (habove : Path.Above outer.text.toList path.directoryPart) (hne : outer.text.toList ≠ []) :
    files.down path ≠ files.down outer := by
  obtain ⟨more, hfilled⟩ := Path.filled_eq_of_fileName hname
  have hdot : name ≠ ['.'] := (Path.proper_iff.mp (Path.lastPiece_of_fileName hname).2).2.1
  have hle := (habove.filled_prefix.sublist.filter (· ≠ ['.'])).length_le
  rw [down, down, start, start, habove.isAbsolute_eq hname hne]
  intro heq
  have hlength := congrArg List.length (List.append_cancel_left heq)
  rw [hfilled, List.filter_append, List.length_append, List.filter_cons_of_pos (by simp [hdot]),
    List.length_cons] at hlength
  omega

/-- A path without double dots is vacant if nothing is there: the directories above it are other
places. -/
theorem vacant_of_down {name : List Char} (hname : path.fileName = some name)
    (hup : ['.', '.'] ∉ Path.filled path.text.toList)
    (hnone : files.node? (files.down path) = none) : Vacant path files := by
  have hdown : ∀ {made : Files}, made.home = files.home → ∀ other : Path,
      made.down other = files.down other := by
    intro made hhome other
    rw [down, down, start, start, hhome]
  -- Every directory that is made stands higher up.
  have hmake : ∀ outer : Path, Path.Above outer.text.toList path.directoryPart →
      outer.text.toList ≠ [] → ∀ made : Files,
      made.home = files.home ∧ made.node? (files.down path) = none →
      (makeDirectory outer made).2.home = files.home ∧
        (makeDirectory outer made).2.node? (files.down path) = none := by
    rintro outer habove hne made ⟨hhome, hmade⟩
    rcases makeDirectory_cases outer made with ⟨error, h⟩ | ⟨target, mode, hlocate, -, h⟩ <;>
      rw [h]
    · exact ⟨hhome, hmade⟩
    · have houter : ['.', '.'] ∉ Path.filled outer.text.toList := by
        obtain ⟨more, hfilled⟩ := Path.filled_eq_of_fileName hname
        rw [hfilled] at hup
        exact fun hmem => hup (List.mem_append_left _ (habove.filled_prefix.subset hmem))
      have hplace : target.place = files.down outer := by
        rw [locate_down houter hlocate, hdown hhome]
      refine ⟨hhome, ?_⟩
      rw [node?_put_ne (hplace ▸ down_ne_of_above hname habove hne)]
      exact hmade
  have hkeeps : ∀ made, Prepared path files made →
      made.home = files.home ∧ made.node? (files.down path) = none := by
    intro made hprepared
    induction hprepared with
    | done halike => exact ⟨halike.home_eq, (halike.node?_eq _).trans hnone⟩
    | again _ halike ih =>
      obtain ⟨hhome, hmade⟩ := prepare_keeps _ hmake ih
      exact ⟨halike.home_eq.trans hhome, (halike.node?_eq _).trans hmade⟩
  intro made hprepared found hfound
  obtain ⟨hhome, hmade⟩ := hkeeps made hprepared
  obtain ⟨target, hlocate, hplace, hnode, -⟩ := existing_ok_iff.mp hfound
  rw [← hplace, locate_down hup hlocate, hdown hhome, hmade] at hnode
  cases hnode

/-- A file beside the path does not make the path lead anywhere. -/
theorem existing_put_successor (hne : successor path ≠ path) {directory : Place}
    (hleads : Leads files (successor path) directory)
    (hfree : ¬ files.IsDirectory (directory ++ [(successor path).lastPiece])) (part : Bytes)
    (bits : Nat) (hnone : ∀ found, files.existing path ≠ .ok found) (found : Place × Node) :
    (files.put (directory ++ [(successor path).lastPiece]) (.file part bits)).existing path
      ≠ .ok found := by
  intro hfound
  obtain ⟨place, node⟩ := found
  obtain ⟨⟨target, slash, named⟩, hlocate, rfl, hnode, hslash⟩ := existing_ok_iff.mp hfound
  replace hlocate : files.locate path = .ok ⟨target, slash, named⟩ := by
    refine locate_mono ?_ (fun other => ?_) hlocate
    · rfl
    · exact (isDirectory_put_file hfree part bits).mp
  dsimp only at hnode hslash
  -- If the path led to the successor, it would have the same text.
  by_cases heq : target = directory ++ [(successor path).lastPiece]
  · rw [heq, node?_put_self] at hnode
    obtain rfl := Option.some.inj hnode
    obtain rfl := slash_of_file hslash
    obtain ⟨name, hname⟩ := exists_fileName hne
    cases named with
    | false => exact hfree (heq ▸ isDirectory_of_unnamed hname hlocate)
    | true =>
      obtain ⟨above, habove, htarget⟩ := locate_named_iff.mp hlocate
      exact place_ne_successor hne habove hleads (htarget.symm.trans heq)
  · rw [node?_put_ne heq] at hnode
    exact hnone (target, node) (existing_ok_iff.mpr ⟨_, hlocate, rfl, hnode, hslash⟩)

/-- Before the last step of a replacement, a vacant path is vacant. -/
theorem Begun.vacant (hbegun : Begun path files files') (hne : successor path ≠ path)
    (hvacant : Vacant path files) : Vacant path files' := by
  have hmade : Prepared path files (prepare path files).2 :=
    .again (.done (.refl files)) (.refl _)
  cases hbegun with
  | prepared halike => exact hvacant.prepared (hmade.trans (.done halike))
  | beside hleads hfree halike =>
    refine vacant_of_leads (halike.grows.leads (hleads.put_file hfree _ _)) fun found => ?_
    rw [halike.existing_eq]
    exact existing_put_successor hne hleads hfree _ _ (hvacant _ hmade) found

/-- A failed replacement leaves a vacant path vacant. -/
theorem vacant_of_failed_replace (hne : successor path ≠ path) {content : Bytes}
    {error : SystemError} (h : replace path content files = (.error error, files'))
    (hvacant : Vacant path files) : Vacant path files' := by
  rcases replace_cases h with ⟨-, hbegun⟩ | ⟨hok, -⟩
  · exact hbegun.vacant hne hvacant
  · cases hok

/-! ## Loading -/

/-- A file that is there is loaded unless a mishap is due. -/
theorem load_of_read? {hash : Bytes → Bytes} {content : Bytes}
    (hread : files.read? path = some content) (hdue : files.mishaps.head?.join = none) :
    load hash path files = (decode hash path content, files.later) := by
  obtain ⟨place, mode, hexisting⟩ := read?_eq_some_iff.mp hread
  have hall : Files.readAll path files = (.ok content, files.later) := by
    rw [Files.readAll, attempt_of_none_due _ hdue, (alike_later files).existing_eq, hexisting]
    rfl
  rw [load, hall]

/-- What is loaded was read from the file that is there. -/
theorem read?_of_load {hash : Bytes → Bytes} {slots : Slots}
    (h : load hash path files = (.ok slots, files')) :
    ∃ content, files.read? path = some content ∧ decode hash path content = .ok slots ∧
      Alike files files' := by
  rcases Files.readAll_cases path files with ⟨error, hall⟩ | ⟨content, hread, hall⟩ <;>
    rw [load, hall] at h
  · cases h
  · obtain ⟨hdecode, rfl⟩ := Prod.mk.inj h
    exact ⟨content, hread, hdecode, alike_later files⟩

/-- Whatever comes of it, loading changes nothing that is there. -/
theorem load_alike (hash : Bytes → Bytes) (path : Path) (files : Files) :
    Alike files (load hash path files).2 := by
  rcases Files.readAll_cases path files with ⟨error, hall⟩ | ⟨content, -, hall⟩ <;>
    rw [load, hall] <;> exact alike_later files

/-- Slots that were saved are loaded again, and the bytes in between depend on nothing else. -/
theorem load_of_save (hash : Bytes → Bytes) (path : Path) (slots : Slots) (files files' : Files)
    (hsave : save hash path slots files = (.ok (), files')) :
    files'.read? path = some (encode hash slots) ∧
      (∀ other : Slots, other.Same slots → save hash path other files = (.ok (), files')) ∧
      ∀ mishaps, mishaps.head?.join = none →
        ∃ loaded, load hash path { files' with mishaps }
            = (.ok loaded, { files' with mishaps := mishaps.drop 1 }) ∧
          loaded.Same slots := by
  have hread : files'.read? path = some (encode hash slots) := read?_of_replace hsave
  refine ⟨hread, fun other hsame => ?_, fun mishaps hdue => ?_⟩
  · rw [save, encode_eq_of_same hash hsame]
    exact hsave
  · obtain ⟨loaded, hdecode, hsame⟩ := decode_encode hash path slots
    have hread' : ({ files' with mishaps } : Files).read? path = some (encode hash slots) := by
      rw [Alike.read?_eq (⟨mishaps, rfl⟩ : Alike files' { files' with mishaps }), hread]
    refine ⟨loaded, ?_, hsame⟩
    rw [load_of_read? hread' hdue, hdecode]
    rfl

/-- Two slots, one of them with a key, saved under a path whose directory is missing. -/
theorem load_of_save_two :
    ∃ files', save id ⟨"/keys/slots.json"⟩
        ((Slots.empty.insert 7 ⟨[1, 255], some [0, 128]⟩).insert 3 ⟨[9], none⟩) {}
          = (.ok (), files') ∧
      ∃ loaded, load id ⟨"/keys/slots.json"⟩ { files' with mishaps := [] }
          = (.ok loaded, { files' with mishaps := [] }) ∧
        loaded.Same ((Slots.empty.insert 7 ⟨[1, 255], some [0, 128]⟩).insert 3 ⟨[9], none⟩) := by
  have hsave : (save id ⟨"/keys/slots.json"⟩
      ((Slots.empty.insert 7 ⟨[1, 255], some [0, 128]⟩).insert 3 ⟨[9], none⟩) {}).1 = .ok () := by
    decide +kernel
  refine ⟨_, Prod.ext hsave rfl, ?_⟩
  exact (load_of_save id _ _ _ _ (Prod.ext hsave rfl)).2.2 [] rfl

end SealedLog.StateFile

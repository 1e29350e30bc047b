import SealedLog.Proofs.Journal.Mounted

/-!
# Journals that share a log

Any number of journals are booted over one log in a file, one after the other or side by side, and
all of them change it. None remembers where the log ends, so the log holds what all of them have
added since one of them last emptied it.

- `Journal.History`: boots and changes in any order.
- `Journal.Shared`: the invariant, with one lemma for each kind of event.
- `Journal.durable_of_history`: what can be relied on after any history.
- `Journal.not_durable_of_climbing`: a path with double dots can begin to lead to a log.
-/

namespace SealedLog.Journal

open Files

variable {ε : Type} [Element ε]

/-- What can happen to a log that journals share: the results of all changes so far, the journals
that were booted, as they are now, and the files. -/
inductive History (path : Path) (recordSize : Nat) (Quiet : ε → Prop) (first : Files) :
    List (Except LogError Response) → List (Journal ε Mounted) → Files → Prop
  | start : History path recordSize Quiet first [] [] first
  /-- A journal is booted over the log, or the boot fails. -/
  | boot {results : List (Except LogError Response)} {journals : List (Journal ε Mounted)}
      {config : Config} {gateway gateway' : Gateway ε} {world world' : World}
      {result : Except LogError (Journal ε Mounted)} :
      History path recordSize Quiet first results journals world.files →
      config.storage.logPath? = some path → config.recordLen = recordSize →
      Quiet gateway.element →
      (Journal.boot config).run gateway world = .ok ((result, gateway'), world') →
      History path recordSize Quiet first results (journals ++ result.toOption.toList) world'.files
  /-- One of the journals changes the log, or an element fails. -/
  | change {results : List (Except LogError Response)} {before after : List (Journal ε Mounted)}
      {journal journal' : Journal ε Mounted} {change : Change} {world world' : World}
      {result : Except LogError Response} :
      History path recordSize Quiet first results (before ++ journal :: after) world.files →
      change.perform.run journal world = .ok ((result, journal'), world') →
      (∀ error, result = .error error → ¬ error.OfMedium) →
      History path recordSize Quiet first (results ++ [result]) (before ++ journal' :: after)
        world'.files
  /-- Others use the connection of a journal. -/
  | connection {results : List (Except LogError Response)} {before after : List (Journal ε Mounted)}
      {journal : Journal ε Mounted} {gateway : Gateway ε} {files : Files} :
      History path recordSize Quiet first results (before ++ journal :: after) files →
      Quiet gateway.element →
      History path recordSize Quiet first results (before ++ journal.withGateway gateway :: after)
        files
  /-- Other files change. -/
  | outside {results : List (Except LogError Response)} {journals : List (Journal ε Mounted)}
      {files files' : Files} :
      History path recordSize Quiet first results journals files → Spares path files files' →
      History path recordSize Quiet first results journals files'

/-- The records that were added since the log was last emptied, in order. -/
def recorded (results : List (Except LogError Response)) : List Record :=
  results.foldl recordsAfter []

/-! ## The invariant -/

/-- The journals are bound to the log, and the log holds the records. Before the first of them was
booted there may be no log, but then nothing can come in its place. -/
structure Shared (path : Path) (recordSize : Nat) (Quiet : ε → Prop) (records : List Record)
    (journals : List (Journal ε Mounted)) (files : Files) : Prop where
  bound : ∀ journal ∈ journals, Bound path recordSize Quiet journal
  held : Logged path recordSize records files ∨
    journals = [] ∧ records = [] ∧ Barren path files

namespace Shared

variable {path : Path} {recordSize : Nat} {Quiet : ε → Prop} {records : List Record}
  {journals before after : List (Journal ε Mounted)} {journal journal' : Journal ε Mounted}
  {files files' : Files} {world : World}

omit [Element ε] in
/-- Where there is a journal there is a log. -/
theorem logged (h : Shared path recordSize Quiet records journals files) (hne : journals ≠ []) :
    Logged path recordSize records files :=
  h.held.resolve_right fun hnone => hne hnone.1

omit [Element ε] in
theorem outside (h : Shared path recordSize Quiet records journals files)
    (hspares : Spares path files files') :
    Shared path recordSize Quiet records journals files' := by
  refine ⟨h.bound, h.held.imp (fun hlogged => hlogged.spares hspares) ?_⟩
  rintro ⟨hjournals, hrecords, hbarren⟩
  exact ⟨hjournals, hrecords, hspares.barren hbarren⟩

omit [Element ε] in
/-- A journal takes the place of another. -/
theorem replace (h : Shared path recordSize Quiet records (before ++ journal :: after) files)
    {records' : List Record} (hbound : Bound path recordSize Quiet journal')
    (hlogged : Logged path recordSize records' files') :
    Shared path recordSize Quiet records' (before ++ journal' :: after) files' := by
  refine ⟨fun other hother => ?_, .inl hlogged⟩
  rcases List.mem_append.mp hother with hbefore | hafter
  · exact h.bound other (List.mem_append_left _ hbefore)
  · rcases List.mem_cons.mp hafter with rfl | hafter
    · exact hbound
    · exact h.bound other (List.mem_append_right _ (List.mem_cons_of_mem _ hafter))

omit [Element ε] in
theorem connection (h : Shared path recordSize Quiet records (before ++ journal :: after) files)
    {gateway : Gateway ε} (hquiet : Quiet gateway.element) :
    Shared path recordSize Quiet records (before ++ journal.withGateway gateway :: after)
      files := by
  have hbound := h.bound journal (List.mem_append_right _ List.mem_cons_self)
  exact h.replace (hbound.withGateway hquiet) (h.logged (by simp))

variable (hsparing : Element.Sparing path Quiet)
include hsparing

/-- A boot leaves the log alone, and a journal that was booted is bound to it. -/
theorem boot (h : Shared path recordSize Quiet records journals world.files) {config : Config}
    (hpath : config.storage.logPath? = some path) (hsize : config.recordLen = recordSize)
    {gateway gateway' : Gateway ε} (hquiet : Quiet gateway.element) {world' : World}
    {result : Except LogError (Journal ε Mounted)}
    (hboot : (Journal.boot config).run gateway world = .ok ((result, gateway'), world')) :
    Shared path recordSize Quiet records (journals ++ result.toOption.toList) world'.files := by
  have hended := (boot_spares hsparing hpath hquiet world).ends result gateway' world' hboot
  cases result with
  | error error =>
    have hnone :
        journals ++ (Except.error error : Except LogError (Journal ε Mounted)).toOption.toList
          = journals := List.append_nil journals
    rw [hnone]
    exact h.outside hended
  | ok journal =>
    obtain ⟨hspares, hbound, bytes, hread⟩ := hended
    refine ⟨fun other hother => ?_, .inl ?_⟩
    · rcases List.mem_append.mp hother with hold | hnew
      · exact h.bound other hold
      · rw [List.mem_singleton.mp hnew, ← hsize]
        exact hbound
    · rcases (h.outside hspares).held with hlogged | ⟨-, rfl, hbarren⟩
      · exact hlogged
      · have hempty := hbarren world'.files (.refl world'.files)
        rw [hread, Option.getD_some] at hempty
        exact .nil (hread.trans (congrArg some hempty))

/-- A change makes of the log what its answer says. -/
theorem change (h : Shared path recordSize Quiet records (before ++ journal :: after) world.files)
    {change : Change} {world' : World} {result : Except LogError Response}
    (hchange : change.perform.run journal world = .ok ((result, journal'), world'))
    (hmedium : ∀ error, result = .error error → ¬ error.OfMedium) :
    Shared path recordSize Quiet (recordsAfter records result) (before ++ journal' :: after)
      world'.files := by
  have hbound := h.bound journal (List.mem_append_right _ List.mem_cons_self)
  have hended := (hbound.perform_ensures hsparing (h.logged (by simp)) change).ends result journal'
    world' hchange
  cases result with
  | error error => exact h.replace hended.1 (hended.2 (hmedium error rfl))
  | ok answer => exact h.replace hended.1 hended.2

end Shared

/-! ## Histories -/

variable {path : Path} {recordSize : Nat} {Quiet : ε → Prop} {first files : Files}
  {results : List (Except LogError Response)} {journals : List (Journal ε Mounted)}

/-- The invariant holds throughout a history, by induction on the events. -/
theorem shared_of_history (hsparing : Element.Sparing path Quiet) (hbarren : Barren path first)
    (h : History path recordSize Quiet first results journals files) :
    Shared path recordSize Quiet (recorded results) journals files := by
  induction h with
  | start => exact ⟨fun _ hmem => absurd hmem List.not_mem_nil, .inr ⟨rfl, rfl, hbarren⟩⟩
  | boot _ hpath hsize hquiet hboot ih => exact ih.boot hsparing hpath hsize hquiet hboot
  | change _ hchange hmedium ih =>
    rw [recorded, List.foldl_concat]
    exact ih.change hsparing hchange hmedium
  | connection _ hquiet ih => exact ih.connection hquiet
  | outside _ hspares ih => exact ih.outside hspares

/-- What can be relied on after a history. -/
structure Durable (path : Path) (recordSize : Nat) (results : List (Except LogError Response))
    (journals : List (Journal ε Mounted)) (files : Files) : Prop where
  /-- There are the bytes of the records that were added, and no others. -/
  content : (files.read? path).getD [] = (recorded results).flatMap Record.toBytes
  /-- As soon as a journal was booted, there is a log. -/
  present : journals ≠ [] → ∃ bytes, files.read? path = some bytes
  /-- Every journal reads the records back, if they have some length and nothing goes wrong when it
  reads. -/
  records : 0 < recordSize → ∀ journal ∈ journals, ∀ world : World, Alike files world.files →
    Untroubled world.files → ∃ world',
      Journal.records.run journal world = .ok ((.ok (recorded results), journal), world')

omit [Element ε] in
theorem Shared.durable
    (h : Shared path recordSize Quiet (recorded results) journals files) :
    Durable path recordSize results journals files where
  content := by
    rcases h.held with hlogged | ⟨-, hrecords, hbarren⟩
    · rw [hlogged.read, Option.getD_some]
    · rw [hrecords]
      exact hbarren files (.refl files)
  present hne := ⟨_, (h.logged hne).read⟩
  records hpos journal hmem world halike huntroubled := by
    have hlogged := (h.logged (List.ne_nil_of_mem hmem)).spares halike.furnished.spares
    exact (h.bound journal hmem).records_eq hpos hlogged huntroubled

/-- Journals over one log that are booted and used in any order, by elements that leave the log
alone. Nothing was in the log at first, and nothing comes there when directories are made. Then the
log always holds what all of them have added since one of them last emptied it, and each of them
reads it back so. No boot changes a log that is there, whatever is in it and however the boot
ends. -/
theorem durable_of_history (path : Path) (recordSize : Nat) (Quiet : ε → Prop)
    (first files : Files) (results : List (Except LogError Response))
    (journals : List (Journal ε Mounted)) (hsparing : Element.Sparing path Quiet)
    (hbarren : Barren path first)
    (hhistory : History path recordSize Quiet first results journals files) :
    Durable path recordSize results journals files ∧
      ∀ (config : Config) (gateway gateway' : Gateway ε) (world world' : World)
        (result : Except LogError (Journal ε Mounted)) (bytes : Bytes),
        config.storage.logPath? = some path → Quiet gateway.element →
        (boot config).run gateway world = .ok ((result, gateway'), world') →
        world.files.read? path = some bytes → world'.files.read? path = some bytes := by
  refine ⟨(shared_of_history hsparing hbarren hhistory).durable, ?_⟩
  intro config gateway gateway' world world' result bytes hpath hquiet hboot hread
  have hended := (boot_spares hsparing hpath hquiet world).ends result gateway' world' hboot
  cases result with
  | error error => exact hended.kept hread
  | ok journal => exact hended.1.kept hread

/-- A gateway to an element that has a key and seals one message. -/
def sealingOnce : Gateway ScriptedElement where
  element :=
    { steps :=
        [{ answer := .output (.metadata [1]) },
          { answer := .output (.random (.replicate 16 7)) },
          { answer := .output (.ciphertext (.replicate 64 9)) }] }
  timeout := none

/-- A configuration with its log at a path below `/logs`. -/
def besides (fileName : String) : Config :=
  { storage := { mountPoint := some ⟨"/logs"⟩, fileName } }

/-- Two journals are booted over a log that is missing, and the first one adds a message. -/
theorem durable_of_two_journals :
    ∃ (results : List (Except LogError Response))
      (journals : List (Journal ScriptedElement Mounted)) (files : Files),
      Element.Sparing ⟨"/logs/log"⟩ (fun _ : ScriptedElement => True) ∧
      Barren ⟨"/logs/log"⟩ {} ∧
      History ⟨"/logs/log"⟩ defaultRecordLen (fun _ => True) {} results journals files ∧
      journals.length = 2 ∧ (recorded results).length = 1 ∧
      Durable ⟨"/logs/log"⟩ defaultRecordLen results journals files := by
  have hsparing := ScriptedElement.sparing ⟨"/logs/log"⟩
  have hbarren : Barren ⟨"/logs/log"⟩ {} :=
    barren_of_down (by decide +kernel) fun content mode => by
      rw [show ({} : Files).node? _ = none by decide +kernel]
      exact nofun
  have hpath : (besides "log").storage.logPath? = some ⟨"/logs/log"⟩ := by decide +kernel
  -- Boots and commands are evaluated up to what the store writes.
  have heval : ((boot (besides "log")).run sealingOnce {}).toOption.any (fun booted =>
      booted.1.1.toOption.any fun first =>
        ((boot (besides "log")).run sealingOnce booted.2).toOption.any fun again =>
          again.1.1.toOption.any fun _ =>
            ((first.sealer.encryptMessage [5]).run first.gateway again.2).toOption.any fun sealed =>
              sealed.1.1.toOption.any fun record => record.toBytes.length = defaultRecordLen ∧
                sealed.2.files.mishaps = [] ∧
                ((LogFile.mk ⟨"/logs/log"⟩).openRestricted false
                  sealed.2.files).1.toOption.any fun _ => true) = true := by
    decide +kernel
  simp only [any_toOption, Prod.exists, decide_eq_true_eq] at heval
  obtain ⟨_, gateway, world, hfirst, first, rfl, _, gateway', world', hsecond, second, rfl,
    _, sealed, around, hsealed, record, rfl, hlen, hmishaps, place, hplace, -⟩ := heval
  have hbooted : History ⟨"/logs/log"⟩ defaultRecordLen (fun _ => True) {} []
      ([] ++ first :: [second]) world'.files :=
    .boot (.boot .start hpath rfl trivial hfirst) hpath rfl trivial hsecond
  -- The first journal is on the file, so its store can take the record.
  have hstore : first.store = .mounted ⟨"/logs/log"⟩ defaultRecordLen :=
    ((boot_spares hsparing hpath trivial {}).ends (.ok first) gateway world hfirst).2.1.store
  have hcalm : LogFile.faultless.second.Calm ⟨first.store.medium, around.files⟩ := by
    rw [hstore]
    refine LogFile.calm_iff.mpr ⟨fun mishap hmem => ?_, place, hplace⟩
    rw [hmishaps] at hmem
    exact absurd hmem List.not_mem_nil
  obtain ⟨after, happend, -, -⟩ := Store.append_of_calm hcalm (by rw [hlen, hstore]; rfl)
  have hadded : (appendMessage [5]).Ensures first world' (fun _ => False) (fun _ _ _ => False)
      fun found _ _ => found = record :=
    appendMessage_stores
      (Attempt.Ensures.of_eq hsealed (Attempt.Ensures.of_eq (onStore_eq happend) rfl))
  obtain ⟨result, last, final, hrun, hgood⟩ := hadded.exists_of_total
  cases result with
  | error error => exact hgood.elim
  | ok found =>
    obtain rfl := hgood
    have hchange : (Change.appendMessage [5]).perform.run first world'
        = .ok ((.ok (.added found), last), final) :=
      Attempt.bind_of_ok hrun
    have hhistory : History ⟨"/logs/log"⟩ defaultRecordLen (fun _ => True) {} _
        ([] ++ last :: [second]) final.files :=
      .change hbooted hchange nofun
    exact ⟨_, _, _, hsparing, hbarren, hhistory, rfl, rfl,
      (durable_of_history _ _ _ _ _ _ _ hsparing hbarren hhistory).1⟩

/-- A configuration whose mount point climbs out of a directory that mounting makes. -/
def climbing : Config := { storage := { mountPoint := some ⟨"/logs/.."⟩, fileName := "other" } }

/-- A path with double dots that leads to nothing need not stay without content. Mounting `other` at
`/logs/..` makes `/logs`, and from then on the path of the log leads to `/other`. -/
theorem not_durable_of_climbing :
    ¬ ∀ (path : Path) (recordSize : Nat) (first files : Files)
      (results : List (Except LogError Response))
      (journals : List (Journal ScriptedElement Mounted)),
      Element.Sparing path (fun _ : ScriptedElement => True) →
      (∀ found, first.existing path ≠ .ok found) →
      History path recordSize (fun _ => True) first results journals files →
      (files.read? path).getD [] = (recorded results).flatMap Record.toBytes := by
  intro hdurable
  let first : Files := { nodes := [(["other".toList], .file [7] 0o600)] }
  have heval : ((boot climbing).run sealingOnce { files := first }).toOption.any
      (fun ended => ended.2.files.read? ⟨"/logs/../other"⟩ = some [7]) = true := by
    decide +kernel
  simp only [any_toOption, Prod.exists, decide_eq_true_eq] at heval
  obtain ⟨result, gateway, world, hboot, hread⟩ := heval
  have hpath : climbing.storage.logPath? = some ⟨"/logs/../other"⟩ := by decide +kernel
  have hnone : first.existing ⟨"/logs/../other"⟩ = .error .notFound := by decide +kernel
  have hcontent := hdurable ⟨"/logs/../other"⟩ defaultRecordLen first world.files [] _
    (ScriptedElement.sparing _) (fun found h => by rw [hnone] at h; cases h)
    (.boot .start hpath rfl trivial hboot)
  rw [hread] at hcontent
  cases hcontent

end SealedLog.Journal

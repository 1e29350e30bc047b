import SealedLog.Proofs.Console.Steady
import SealedLog.Proofs.Journal.Secrecy
import SealedLog.Proofs.Medium.Legible

/-!
# Sessions at a console

A session shows the log and the commands, and then it does what it is asked for, byte by byte. So a
session over two inputs is a session over the first, continued by one over the second, but for what
the latter shows before it begins.

- `Console.opening_shows`: what is shown first of a log that can be read.
- `Console.obeyAll_append`, `Console.obeyAll_filter`: inputs one after the other, and without ends
  of lines.
- `Console.obey_append`, `Console.obey_clear`: commands that may fail do not end a session.
- `Console.sessions_compose`: how sessions go together.
-/

namespace SealedLog

/-- A text that is written stands behind what was written before. -/
theorem Page.write_of_ok {text : String} {page : Page} (h : (page.write text).1 = .ok ()) :
    (page.write text).2 = { page with shown := page.shown ++ text } := by
  rw [write] at h ⊢
  split at h
  · rfl
  · dsimp only at h ⊢
    split at h
    · rename_i hroom
      rw [if_pos hroom]
    · cases h

namespace Console

variable {ε μ ω α : Type} [Medium μ] {console : Console ε μ Page} {world : World}

/-! ## Openings -/

/-- The lines of some pieces of a dump. -/
def linesOf (chunks : List HexChunk) : String :=
  String.join (chunks.map fun chunk => chunk.line ++ "\n")

@[simp] theorem linesOf_nil : linesOf [] = "" := rfl

@[simp] theorem linesOf_cons (chunk : HexChunk) (chunks : List HexChunk) :
    linesOf (chunk :: chunks) = chunk.line ++ "\n" ++ linesOf chunks := by
  rw [linesOf, List.map_cons, String.join_cons, linesOf]

/-- What is shown first: the log and the commands. -/
def openingText (chunks : List HexChunk) : String := linesOf chunks ++ usage

/-- The console when its medium has become another. -/
def withMedium (console : Console ε μ ω) (medium : μ) : Console ε μ ω :=
  { console with
    journal := { console.journal with store := { console.journal.store with medium } } }

omit [Medium μ] in
@[simp] theorem showing_empty (console : Console ε μ Page) : console.showing "" = console := by
  rw [showing, String.append_empty]

omit [Medium μ] in
theorem showing_showing (console : Console ε μ Page) (text text' : String) :
    (console.showing text).showing text' = console.showing (text ++ text') := by
  simp only [showing, String.append_assoc]

omit [Medium μ] in
/-- What the journal does, the console does. -/
theorem onJournal_eq {console : Console ε μ ω} {error : Type}
    {attempt : Attempt (Journal ε μ) error α} {result : Except error α} {journal : Journal ε μ}
    {around : World}
    (h : attempt.run console.journal world = .ok ((result, journal), around)) :
    (onJournal attempt).run console world = .ok ((result, { console with journal }), around) := by
  show attempt.run.within Console.journal (fun journal console => { console with journal }) console
    world = _
  rw [Act.within_of_ok h]

/-- What the next piece of a dump is, it is for the console. -/
theorem nextItem_eq {console : Console ε μ ω} {dump later : HexDump (Medium.Reader μ)}
    {item : Option (Except StoreError HexChunk)} {site : Site μ}
    (h : dump.next ⟨console.journal.store.medium, world.files⟩ = ((item, later), site)) :
    nextItem dump console world
      = .ok (((item, later), console.withMedium site.medium),
          { world with files := site.files }) := by
  simp only [nextItem, Act.within, Store.onSite, h]
  rfl

omit [Medium μ] in
/-- A text that is printed stands behind what was printed before. A page that takes everything takes
it. -/
theorem print_shows {Halts : Halt → Prop} (text : String) :
    (print text).Ensures console world Halts
      (fun _ _ _ => console.screen.capacity ≠ none)
      fun _ last around => last = console.showing text ∧ around = world := by
  have hprint : (print text).run console world
      = .ok (((console.screen.write text).1.mapError .output,
          { console with screen := (console.screen.write text).2 }), world) := rfl
  cases hprinted : (console.screen.write text).1 with
  | error source =>
    rw [hprinted] at hprint
    refine Attempt.Ensures.of_eq hprint fun hendless => ?_
    rw [Page.write, hendless] at hprinted
    cases hprinted
  | ok _ =>
    rw [hprinted, Page.write_of_ok hprinted] at hprint
    exact Attempt.Ensures.of_eq hprint ⟨rfl, rfl⟩

/-- The pieces of a dump without errors are printed line by line, by induction on how many there can
be. -/
theorem printItems_shows {Halts : Halt → Prop} {limit : Nat} {dump : HexDump (Medium.Reader μ)}
    {chunks : List HexChunk} {site : Site μ}
    (hitems : HexDump.items limit dump ⟨console.journal.store.medium, world.files⟩
      = (chunks.map .ok, site)) (total : Nat) :
    (printItems limit total dump).Ensures console world Halts
      (fun _ _ _ => console.screen.capacity ≠ none)
      fun _ last around => last = (console.withMedium site.medium).showing (linesOf chunks) ∧
        around = { world with files := site.files } := by
  induction limit generalizing dump chunks console world total with
  | zero =>
    obtain ⟨hchunks, rfl⟩ := Prod.mk.inj hitems
    obtain rfl : chunks = [] := List.map_eq_nil_iff.mp hchunks.symm
    rw [linesOf_nil, showing_empty]
    exact Attempt.Ensures.pure ⟨rfl, rfl⟩
  | succ limit ih =>
    rw [HexDump.items] at hitems
    rcases hnext : dump.next ⟨console.journal.store.medium, world.files⟩ with
      ⟨⟨item, later⟩, middle⟩
    rw [hnext] at hitems
    refine Attempt.Ensures.step (Attempt.lift_of_ok (nextItem_eq hnext)) ?_
    rcases item with _ | error | chunk
    · obtain ⟨hchunks, rfl⟩ := Prod.mk.inj hitems
      obtain rfl : chunks = [] := List.map_eq_nil_iff.mp hchunks.symm
      rw [linesOf_nil, showing_empty]
      exact Attempt.Ensures.pure ⟨rfl, rfl⟩
    · cases chunks <;> cases hitems
    · rcases chunks with _ | ⟨first, chunks⟩
      · cases hitems
      rcases hlater : HexDump.items limit later middle with ⟨items, last⟩
      simp only [hlater] at hitems
      obtain ⟨hchunks, rfl⟩ := Prod.mk.inj hitems
      obtain ⟨hfirst, rfl⟩ := List.cons.inj hchunks
      obtain rfl : chunk = first := Except.ok.inj hfirst
      let printed := (console.withMedium middle.medium).showing (chunk.line ++ "\n")
      let around : World := { world with files := middle.files }
      have hrest : HexDump.items limit later ⟨printed.journal.store.medium, around.files⟩
          = (chunks.map .ok, last) := hlater
      refine (print_shows (chunk.line ++ "\n")).bind ?_
      rintro _ _ _ ⟨rfl, rfl⟩
      rw [linesOf_cons, ← showing_showing (console.withMedium last.medium)]
      exact ih hrest (total + chunk.bytes.length)

/-- The log of the console can be read, and its page takes everything. -/
structure Ready (console : Console ε μ Page) (world : World) (chunks : List HexChunk) : Prop where
  endless : console.screen.capacity = none
  legible : Medium.Legible ⟨console.journal.store.medium, world.files⟩ chunks

variable {chunks : List HexChunk}

/-- The log is opened for a dump as the medium opens it. -/
theorem dump_opened {reader : Option (Medium.Reader μ)} {site : Site μ}
    (hopen : Medium.openRead ⟨console.journal.store.medium, world.files⟩ = (.ok reader, site)) :
    ((onJournal Journal.dump).orElseAs ConsoleError.openLog).run console world
      = .ok ((.ok ⟨reader, console.journal.store.location, 0, reader.isNone⟩,
          console.withMedium site.medium), { world with files := site.files }) := by
  have hjournal : Journal.dump.run console.journal world
      = .ok ((.ok ⟨reader, console.journal.store.location, 0, reader.isNone⟩,
            { console.journal with store := { console.journal.store with medium := site.medium } }),
          { world with files := site.files }) :=
    Journal.onStore_eq (Store.dump_of_opened hopen)
  exact Act.map_of_ok (f := Except.mapError ConsoleError.openLog) (onJournal_eq hjournal)

/-- A log that is there is printed, unless the page is full. It ends with the number of records,
which there is none of if they have no length. -/
theorem printLog_prints {reader : Medium.Reader μ} {site site' : Site μ}
    (hopen : Medium.openRead ⟨console.journal.store.medium, world.files⟩
      = (.ok (some reader), site))
    (hall : HexDump.all ⟨some reader, console.journal.store.location, 0, false⟩ site
      = (chunks.map .ok, site')) :
    printLog.Ensures console world
      (fun why => why = .emptyRecords ∧ console.journal.store.recordLen = 0)
      (fun _ _ _ => console.screen.capacity ≠ none)
      fun _ last around => last = (console.withMedium site'.medium).showing (linesOf chunks) ∧
        ∃ notices, around = { world with files := site'.files, notices } := by
  let dump : HexDump (Medium.Reader μ) := ⟨some reader, console.journal.store.location, 0, false⟩
  let opened := console.withMedium site.medium
  let around : World := { world with files := site.files }
  have hitems : HexDump.items (dump.left site) dump ⟨opened.journal.store.medium, around.files⟩
      = (chunks.map .ok, site') := hall
  refine Attempt.Ensures.step (dump_opened hopen) ?_
  dsimp only [Option.isNone_some]
  rw [if_neg Bool.false_ne_true]
  refine Attempt.Ensures.step (a := dump.left site) rfl ?_
  refine (printItems_shows hitems 0).bind ?_
  rintro total _ _ ⟨rfl, rfl⟩
  -- A page passes on what was written without a failure; then the records are counted.
  refine Attempt.Ensures.step rfl ?_
  refine Attempt.Ensures.step rfl ?_
  split
  · rename_i hzero
    exact Act.Ensures.of_halt rfl ⟨rfl, hzero⟩
  · exact Attempt.Ensures.of_eq rfl ⟨rfl, _, rfl⟩

/-- The attempt shows a text; nothing else changes but what was reported. If records have no length
it may not come back, because they cannot be counted. -/
def Shows (attempt : Attempt (Console ε μ Page) ConsoleError Unit) (console : Console ε μ Page)
    (world : World) (text : String) : Prop :=
  (∃ notices,
    attempt.run console world = .ok ((.ok (), console.showing text), { world with notices })) ∨
  console.journal.store.recordLen = 0 ∧ attempt.run console world = .error .emptyRecords

/-- A log that can be read is printed. -/
theorem printLog_shows (h : console.Ready world chunks) :
    Shows printLog console world (linesOf chunks) := by
  obtain ⟨reader, hopen, hall⟩ := h.legible
  cases reader with
  | none =>
    obtain rfl : chunks = [] := by
      have hnone := congrArg Prod.fst (hall "" true)
      exact List.map_eq_nil_iff.mp hnone.symm
    rw [linesOf_nil, Shows, showing_empty]
    exact .inl ⟨_, Attempt.bind_of_ok (dump_opened hopen)⟩
  | some reader =>
    have hprints := printLog_prints hopen (hall console.journal.store.location false)
    cases hrun : printLog.run console world with
    | error why =>
      obtain ⟨rfl, hzero⟩ := hprints.halts why hrun
      exact .inr ⟨hzero, hrun⟩
    | ok ended =>
      obtain ⟨⟨result, last⟩, around⟩ := ended
      have hlast := hprints.ends _ _ _ hrun
      cases result with
      | error error => exact absurd h.endless hlast
      | ok _ =>
        obtain ⟨rfl, notices, rfl⟩ := hlast
        exact .inl ⟨notices, hrun⟩

/-- A session begins with the log and the commands. -/
theorem opening_shows (h : console.Ready world chunks) :
    Shows opening console world (openingText chunks) := by
  rcases printLog_shows h with ⟨notices, hprinted⟩ | ⟨hzero, hhalt⟩
  · refine .inl ⟨notices, (Attempt.bind_of_ok hprinted).trans ?_⟩
    have hendless : (console.showing (linesOf chunks)).screen.capacity = none := h.endless
    rw [openingText, ← showing_showing]
    exact onScreen_of_endless hendless (Page.tell_adds usageLines) _
  · exact .inr ⟨hzero, Act.bind_of_error hhalt⟩

/-! ## Inputs -/

variable [Element ε] [Screen ω]

/-- What is asked for by two inputs, one after the other. -/
theorem obeyAll_append (first second : Bytes) :
    (obeyAll (first ++ second) : Attempt (Console ε μ ω) ConsoleError Unit)
      = (do
        obeyAll first
        obeyAll second) := by
  induction first with
  | nil => exact (pure_bind _ _).symm
  | cons byte more ih => rw [List.cons_append, obeyAll, obeyAll, ih, bind_assoc]

/-- Ends of lines ask for nothing. -/
theorem obeyAll_filter (bytes : Bytes) :
    (obeyAll (bytes.filter (· ∉ utf8 "\r\n")) : Attempt (Console ε μ ω) ConsoleError Unit)
      = obeyAll bytes := by
  induction bytes with
  | nil => rfl
  | cons byte more ih =>
    by_cases hmem : byte ∈ utf8 "\r\n"
    · have hnothing : (obey byte : Attempt (Console ε μ ω) ConsoleError Unit) = pure () := by
        rw [obey, (OperatorCommand.ofByte_eq_ignore byte).mpr hmem]
      rw [List.filter_cons_of_neg (by simpa using hmem), ih, obeyAll, hnothing, pure_bind]
    · rw [List.filter_cons_of_pos (by simpa using hmem), obeyAll, obeyAll, ih]

omit [Medium μ] [Element ε] [Screen ω] in
/-- An attempt on the journal that is only reported on ends without an error, whatever it came
to. -/
theorem caught_eq {console : Console ε μ ω} {error β : Type}
    {attempt : Attempt (Journal ε μ) error β}
    {report : Except error β → Attempt (Console ε μ ω) ConsoleError Unit}
    {result : Except error β} {journal : Journal ε μ} {around : World}
    (h : attempt.run console.journal world = .ok ((result, journal), around))
    (hreport : ∀ (console : Console ε μ ω) world, ∃ notices,
      (report result).run console world = .ok ((.ok (), console), { world with notices })) :
    ∃ notices, ((onJournal attempt).caught >>= report).run console world
      = .ok ((.ok (), { console with journal }), { around with notices }) := by
  have hcaught : ((onJournal attempt).caught : Attempt (Console ε μ ω) ConsoleError _).run console
      world = .ok ((.ok result, { console with journal }), around) :=
    Act.bind_of_ok (onJournal_eq h)
  obtain ⟨notices, hreported⟩ := hreport { console with journal } around
  exact ⟨notices, (Attempt.bind_of_ok hcaught).trans hreported⟩

/-- A status entry that is asked for ends without an error, also if it cannot be added. -/
theorem obey_append {console : Console ε μ ω} {byte : UInt8} (hbyte : byte ∈ utf8 "aA1")
    {result : Except LogError AppendReport} {journal : Journal ε μ} {around : World}
    (h : Journal.appendStatus.run console.journal world = .ok ((result, journal), around)) :
    ∃ notices, (obey byte).run console world
      = .ok ((.ok (), { console with journal }), { around with notices }) := by
  rw [obey, (OperatorCommand.ofByte_eq_append byte).mpr hbyte]
  refine caught_eq h fun console world => ?_
  cases result with
  | ok report => exact ⟨_, rfl⟩
  | error error => exact ⟨_, rfl⟩

/-- So it is if the log is to be emptied. -/
theorem obey_clear {console : Console ε μ ω} {byte : UInt8} (hbyte : byte ∈ utf8 "cC2")
    {result : Except LogError Unit} {journal : Journal ε μ} {around : World}
    (h : Journal.clear.run console.journal world = .ok ((result, journal), around)) :
    ∃ notices, (obey byte).run console world
      = .ok ((.ok (), { console with journal }), { around with notices }) := by
  rw [obey, (OperatorCommand.ofByte_eq_clear byte).mpr hbyte]
  refine caught_eq h fun console world => ?_
  cases result with
  | ok _ => exact ⟨_, rfl⟩
  | error error => exact ⟨_, rfl⟩

/-! ## Sessions -/

/-- How a session ends when all was done that was asked for. -/
def finish : InputEnd → Attempt (Console ε μ ω) ConsoleError Unit
  | .closed | .interrupted => pure ()
  | .failed error => throw (.input error)

/-- A session in its three parts. -/
theorem run_eq_finish (input : OperatorInput) :
    (run input : Attempt (Console ε μ ω) ConsoleError Unit) = (do
      opening
      obeyAll input.bytes
      finish input.ending) := by
  obtain ⟨bytes, ending⟩ := input
  cases ending <;> rfl

omit [Medium μ] [Element ε] in
theorem finish_lockstep {before before' : String} {console console' : Console ε μ Page}
    {world world' : World} (ending : InputEnd)
    (h : Abreast before before' console world console' world') :
    (finish ending).Lockstep (finish ending) console world console' world'
      (Abreast before before') := by
  cases ending with
  | closed => exact Attempt.Lockstep.pure h
  | interrupted => exact Attempt.Lockstep.pure h
  | failed error => exact Attempt.Lockstep.throw h

/-- Also a session that fails in the end has done and counted what it was asked for. -/
theorem finish_steady {recordLen : Nat} {seq : UInt32} (bytes : Bytes) (ending : InputEnd)
    (h : console.Steady recordLen seq) :
    Attempt.Ensures (do obeyAll bytes; finish ending) console world (fun _ => True)
      (fun _ last _ => last.Steady recordLen (seq + UInt32.ofNat (bytes.countP (· ∈ utf8 "aA1"))))
      fun _ last _ =>
        last.Steady recordLen (seq + UInt32.ofNat (bytes.countP (· ∈ utf8 "aA1"))) := by
  refine ((obeyAll_steady bytes h).mono (fun _ _ _ h => h.elim) fun _ _ _ h => h).bind ?_
  intro _ console world hsteady
  cases ending with
  | closed => exact Attempt.Ensures.pure hsteady
  | interrupted => exact Attempt.Ensures.pure hsteady
  | failed error => exact Attempt.Ensures.throw hsteady

/-- When the log and the commands were shown, a session does what it is asked for. -/
theorem run_eq (h : console.Ready world chunks) :
    (∃ notices, ∀ bytes ending, (run ⟨bytes, ending⟩).run console world
      = (do
          obeyAll bytes
          finish ending : Attempt (Console ε μ Page) ConsoleError Unit).run
            (console.showing (openingText chunks)) { world with notices }) ∨
    console.journal.store.recordLen = 0 ∧
      ∀ bytes ending, (run ⟨bytes, ending⟩).run console world = .error .emptyRecords := by
  rcases opening_shows h with ⟨notices, hopened⟩ | ⟨hzero, hhalt⟩
  · refine .inl ⟨notices, fun bytes ending => ?_⟩
    rw [run_eq_finish]
    exact Attempt.bind_of_ok hopened
  · refine .inr ⟨hzero, fun bytes ending => ?_⟩
    rw [run_eq_finish]
    exact Act.bind_of_error hhalt

omit [Element ε] in
/-- How far things are when a session has shown what it shows first. -/
theorem Ready.steady (h : console.Ready world chunks) :
    (console.showing (openingText chunks)).Steady console.journal.store.recordLen
      console.journal.sequence.current :=
  ⟨⟨rfl, rfl⟩, h.endless⟩

/-- A session over two inputs is one over the first and then one over the second, from where the
first has led; only what the second shows of its log and of the commands before it begins is not
printed. If the first does not come back, neither does the session over both. If records have no
length, the second may not come back from showing its log. -/
def Composes (console : Console ε μ Page) (world : World) (first second : Bytes)
    (ending : InputEnd) : Prop :=
  (∃ why, (run ⟨first, .closed⟩).run console world = .error why ∧
    (run ⟨first ++ second, ending⟩).run console world = .error why) ∨
  ∃ middle around, (run ⟨first, .closed⟩).run console world = .ok ((.ok (), middle), around) ∧
    ∀ chunks, Medium.Legible ⟨middle.journal.store.medium, around.files⟩ chunks →
      (run ⟨first ++ second, ending⟩).Lockstep (run ⟨second, ending⟩) console world middle around
        (Abreast middle.screen.shown (middle.screen.shown ++ openingText chunks)) ∨
      console.journal.store.recordLen = 0 ∧
        (run ⟨second, ending⟩).run middle around = .error .emptyRecords

/-- What follows a command does not depend on whether it failed: it goes on from where the command
has led. -/
def GoesOn (attempt : Attempt (Journal ε μ) LogError α) (bytes : Bytes) : Prop :=
  ∀ (console : Console ε μ Page) (world : World) (result : Except LogError α)
    (journal : Journal ε μ) (around : World),
    attempt.run console.journal world = .ok ((result, journal), around) →
    ∀ byte ∈ bytes, ∃ notices, ∀ more, (obeyAll (byte :: more)).run console world
      = (obeyAll more).run { console with journal } { around with notices }

/-- How sessions at a console go together. -/
structure Sessions (console : Console ε μ Page) (world : World) : Prop where
  compose : ∀ first second ending, Composes console world first second ending
  /-- Ends of lines can stand anywhere. -/
  lineEnds : ∀ bytes bytes' ending,
    bytes.filter (· ∉ utf8 "\r\n") = bytes'.filter (· ∉ utf8 "\r\n") →
      (run ⟨bytes, ending⟩).run console world = (run ⟨bytes', ending⟩).run console world
  afterAppend : GoesOn (Journal.appendStatus : Attempt (Journal ε μ) _ _) (utf8 "aA1")
  afterClear : GoesOn (Journal.clear : Attempt (Journal ε μ) _ _) (utf8 "cC2")
  /-- Every byte that asks for a status entry is counted. -/
  counts : ∀ bytes ending result last around,
    (run ⟨bytes, ending⟩).run console world = .ok ((result, last), around) →
      last.journal.sequence.current
        = console.journal.sequence.current + UInt32.ofNat (bytes.countP (· ∈ utf8 "aA1"))

theorem Ready.composes (h : console.Ready world chunks) (first second : Bytes)
    (ending : InputEnd) : Composes console world first second ending := by
  obtain ⟨notices, hrun⟩ | ⟨-, hhalt⟩ := run_eq h
  case inr => exact .inl ⟨_, hhalt first .closed, hhalt (first ++ second) ending⟩
  cases hfirst : (obeyAll first).run (console.showing (openingText chunks))
      { world with notices } with
  | error why =>
    refine .inl ⟨why, ?_, ?_⟩
    · rw [hrun]
      exact Act.bind_of_error hfirst
    · rw [hrun, obeyAll_append, bind_assoc]
      exact Act.bind_of_error hfirst
  | ok ended =>
    rcases ended with ⟨⟨result, middle⟩, around⟩
    have hended := (obeyAll_steady first h.steady).ends _ _ _ hfirst
    cases result with
    | error error => exact hended.elim
    | ok _ =>
      refine .inr ⟨middle, around, ?_, fun chunks hlegible => ?_⟩
      · rw [hrun]
        exact Attempt.bind_of_ok hfirst
      · have hready : middle.Ready around chunks := ⟨hended.endless, hlegible⟩
        obtain ⟨notices', hrun'⟩ | ⟨hzero, hhalt⟩ := run_eq hready
        case inr => exact .inr ⟨hended.journal.recordLen ▸ hzero, hhalt second ending⟩
        have hboth : (run ⟨first ++ second, ending⟩).run console world = (do
            obeyAll second
            finish ending : Attempt (Console ε μ Page) ConsoleError Unit).run middle around := by
          rw [hrun, obeyAll_append, bind_assoc]
          exact Attempt.bind_of_ok hfirst
        have habreast : Abreast middle.screen.shown (middle.screen.shown ++ openingText chunks)
            middle around (middle.showing (openingText chunks))
            { around with notices := notices' } :=
          { journal := ⟨rfl, rfl, rfl⟩
            endless := hended.endless
            endless' := hended.endless
            printed := ⟨"", (String.append_empty).symm, (String.append_empty).symm⟩ }
        refine .inl (Act.Lockstep.congr hboth (hrun' second ending) ?_)
        refine (obeyAll_lockstep second habreast).bind ?_
        exact fun _ _ _ _ _ h => finish_lockstep ending h

/-- If the log of a console can be read and its page takes everything, its sessions go together,
whatever its element and its medium do. -/
theorem sessions_compose (h : console.Ready world chunks) : Sessions console world where
  compose := h.composes
  lineEnds bytes bytes' ending hfilter := by
    obtain ⟨notices, hrun⟩ | ⟨-, hhalt⟩ := run_eq h
    · rw [hrun, hrun, ← obeyAll_filter bytes, hfilter, obeyAll_filter]
    · rw [hhalt, hhalt]
  afterAppend console world result journal around happend byte hbyte := by
    obtain ⟨notices, hobey⟩ := obey_append hbyte happend
    exact ⟨notices, fun more => Attempt.bind_of_ok hobey⟩
  afterClear console world result journal around hclear byte hbyte := by
    obtain ⟨notices, hobey⟩ := obey_clear hbyte hclear
    exact ⟨notices, fun more => Attempt.bind_of_ok hobey⟩
  counts bytes ending result last around hended := by
    obtain ⟨notices, hrun⟩ | ⟨-, hhalt⟩ := run_eq h
    · rw [hrun] at hended
      have hsteady := (finish_steady bytes ending h.steady).ends _ _ _ hended
      cases result <;> exact hsteady.journal.sequence
    · rw [hhalt] at hended
      cases hended

/-- A status entry cannot be added, and then the log is emptied. What follows may as well be a
session of its own. -/
theorem sessions_compose_after_short_ciphertext :
    ∃ (journal : Journal ScriptedElement Memory) (gateway : Gateway ScriptedElement)
      (booted around : World) (middle : Console ScriptedElement Memory Page),
      (Journal.bootOver {} (⟨none⟩ : Memory)).run Journal.stumbling {}
        = .ok ((.ok journal, gateway), booted) ∧
      (run ⟨utf8 "a\nc", .closed⟩).run ⟨journal, {}⟩ booted = .ok ((.ok (), middle), around) ∧
      middle.journal.sequence.current = 1 ∧
      (run ⟨utf8 "a\nc" ++ utf8 "1p", .closed⟩).Lockstep (run ⟨utf8 "1p", .closed⟩) ⟨journal, {}⟩
        booted middle around
        (Abreast middle.screen.shown (middle.screen.shown ++ openingText [])) := by
  have heval : ((Journal.bootOver {} (⟨none⟩ : Memory)).run Journal.stumbling {}).toOption.any
      (fun booted => booted.1.1.toOption.any fun journal =>
        ((run ⟨utf8 "a\nc", .closed⟩).run ⟨journal, ({} : Page)⟩ booted.2).toOption.any fun ended =>
          journal.sequence.current = 0 ∧ journal.store.recordLen = 80 ∧
            ended.1.1.toOption.isSome ∧ ended.1.2.journal.store.medium = ⟨some []⟩) = true := by
    decide +kernel
  simp only [any_toOption, Prod.exists, decide_eq_true_eq] at heval
  obtain ⟨_, gateway, booted, hboot, journal, rfl, result, middle, around, hrun, hzero, hlen,
    hsome, hmedium⟩ := heval
  have hready : (⟨journal, {}⟩ : Console ScriptedElement Memory Page).Ready booted _ :=
    ⟨rfl, Memory.legible _⟩
  have hsessions := sessions_compose hready
  obtain ⟨⟩ : result = .ok () := by
    cases result with
    | error error => cases hsome
    | ok _ => rfl
  refine ⟨journal, gateway, booted, around, middle, hboot, hrun, ?_, ?_⟩
  · rw [hsessions.counts _ _ _ _ _ hrun, hzero]
    decide +kernel
  · rcases hsessions.compose (utf8 "a\nc") (utf8 "1p") .closed with ⟨why, hhalt, -⟩ |
      ⟨middle', around', hrun', hcompose⟩
    · rw [hrun] at hhalt
      cases hhalt
    · rw [hrun] at hrun'
      cases hrun'
      refine (hcompose [] ?_).resolve_right fun hnone => ?_
      · rw [hmedium]
        exact HexDump.chunks_nil 0 ▸ Memory.legible ⟨⟨some []⟩, around.files⟩
      · exact absurd (hlen.symm.trans hnone.1) (by decide)

end Console

end SealedLog

import SealedLog.Medium.Flaky
import SealedLog.Proofs.Console.Sessions
import SealedLog.Proofs.HexDump
import SealedLog.ScriptedElement

/-!
# How sessions end

When a session has been opened, no failure of the log or of the element ends it: it is reported, and
the next byte is read. Only the commands that are shown after an unknown byte may not come to be
shown, and the input may end in a failure. The opening is another matter: a log that cannot be read
is the end of a session before any byte was read.

Nothing is known of the screen. It can fail at any time, and what it does then is up to it.

- `Screen.Served`, `Screen.Breaks`: what a screen was asked for, and that it fails in the end.
- `Console.Unshown`: the errors of an opening.
- `Console.obey_ends`: the one command that can fail.
- `Console.Obeyed`: some bytes were obeyed, one after the other.
- `Console.Session`: the courses a session can take.
- `Console.run_iff_session`: sessions that come back take one of them.
- `Console.run_of_unopened`: a log that cannot be opened ends every session, which
  `Console.not_output_of_unreadable` is an instance of.
-/

namespace SealedLog

/-! ## Screens -/

namespace Screen

variable {ω : Type} [Screen ω] {first screen later : ω} {source : SystemError}

/-- Nothing went wrong since a screen was like the first one: all that it was asked for, it did. -/
inductive Served (first : ω) : ω → Prop
  | start : Served first first
  | written {screen later : ω} (text : String) : Served first screen →
      Screen.write text screen = (.ok (), later) → Served first later
  | flushed {screen later : ω} : Served first screen →
      Screen.flush screen = (.ok (), later) → Served first later

/-- After a while the screen fails with an error, in writing a text or in passing on what was
written. -/
def Breaks (first : ω) (source : SystemError) : Prop :=
  ∃ screen, Served first screen ∧
    ((∃ text, (Screen.write text screen).1 = .error source) ∨
      (Screen.flush screen).1 = .error source)

/-- A step that is only made of what a screen is asked for: if it ends well the screen has served
it, and if not the screen has failed. -/
def Relies (step : ω → Except SystemError Unit × ω) : Prop :=
  ∀ {first screen : ω}, Served first screen →
    (∀ later, step screen = (.ok (), later) → Served first later) ∧
      ∀ source, (step screen).1 = .error source → Breaks first source

theorem write_relies (text : String) : Relies (Screen.write text : ω → _) := fun hserved =>
  ⟨fun _ hwritten => .written text hserved hwritten,
    fun _ hfailed => ⟨_, hserved, .inl ⟨text, hfailed⟩⟩⟩

theorem flush_relies : Relies (Screen.flush : ω → _) := fun hserved =>
  ⟨fun _ hflushed => .flushed hserved hflushed, fun _ hfailed => ⟨_, hserved, .inr hfailed⟩⟩

/-- Texts that are written one after the other, by induction on them. -/
theorem tell_relies (texts : List String) : Relies (Screen.tell texts : ω → _) := by
  intro first screen hserved
  induction texts generalizing screen with
  | nil => exact flush_relies hserved
  | cons text more ih =>
    obtain ⟨hwritten, hfailed⟩ := write_relies text hserved
    rw [Screen.tell]
    rcases hwrite : Screen.write text screen with ⟨_ | _, between⟩
    · refine ⟨?_, fun source hsource => hfailed source ?_⟩
      · rintro _ ⟨⟩
      · rw [hwrite]
        exact hsource
    · exact ih (hwritten between hwrite)

end Screen

namespace Console

open Screen (Served Breaks Relies)

variable {ε μ ω : Type} [Medium μ] [Screen ω] {console middle last : Console ε μ ω}
  {world between around : World}

/-! ## Openings -/

/-- What can go wrong when a log is shown: it cannot be opened, a piece of it cannot be read, or the
screen fails. -/
inductive Unshown (console : Console ε μ ω) (world : World) : ConsoleError → Prop
  | unopened {source : LogError} {journal : Journal ε μ} {around : World} :
      Journal.dump.run console.journal world = .ok ((.error source, journal), around) →
      Unshown console world (.openLog source)
  | unread {source : StoreError} {dump : HexDump (Medium.Reader μ)} {journal : Journal ε μ}
      {around : World} {index : Nat} :
      Journal.dump.run console.journal world = .ok ((.ok dump, journal), around) →
      dump.call index ⟨journal.store.medium, around.files⟩ = some (.error source) →
      Unshown console world (.readLog source)
  | unprinted {source : SystemError} :
      Breaks console.screen source → Unshown console world (.output source)

omit [Medium μ] in
/-- A step on the screen is done, or the screen fails. -/
theorem onScreen_ends {first : ω} {step : ω → Except SystemError Unit × ω} (hstep : Relies step)
    (h : Served first middle.screen) :
    (onScreen step).Ensures middle world (fun _ => True)
      (fun error _ _ => ∃ source, error = .output source ∧ Breaks first source ∧
        (step middle.screen).1 = .error source)
      fun _ last world' => Served first last.screen ∧ last.journal = middle.journal ∧
        world' = world := by
  obtain ⟨hserved, hbreaks⟩ := hstep h
  have hrun : (onScreen step).run middle world
      = .ok (((step middle.screen).1.mapError .output,
          { middle with screen := (step middle.screen).2 }), world) := rfl
  rcases hdone : step middle.screen with ⟨source | _, later⟩
  · rw [hdone] at hrun hbreaks
    exact Attempt.Ensures.of_eq hrun ⟨source, rfl, hbreaks source rfl, rfl⟩
  · rw [hdone] at hrun
    exact Attempt.Ensures.of_eq hrun ⟨hserved later hdone, rfl, rfl⟩

/-- The pieces of a dump are printed, by induction on how many there can be: a piece cannot be read,
or the screen fails. -/
theorem printItems_ends {first : ω} (limit total : Nat) (dump : HexDump (Medium.Reader μ))
    (h : Served first middle.screen) :
    (printItems limit total dump).Ensures middle world (fun _ => True)
      (fun error _ _ =>
        (∃ index source, error = .readLog source ∧
          dump.call index ⟨middle.journal.store.medium, world.files⟩ = some (.error source)) ∨
        ∃ source, error = .output source ∧ Breaks first source)
      fun _ last _ => Served first last.screen := by
  induction limit generalizing total dump middle world with
  | zero => exact Attempt.Ensures.pure h
  | succ limit ih =>
    rcases hnext : dump.next ⟨middle.journal.store.medium, world.files⟩ with ⟨⟨item, later⟩, site⟩
    refine Attempt.Ensures.step (Attempt.lift_of_ok (nextItem_eq hnext)) ?_
    rcases item with _ | error | chunk
    · exact Attempt.Ensures.pure h
    · refine Attempt.Ensures.throw (.inl ⟨0, error, rfl, ?_⟩)
      rw [HexDump.call_zero, hnext]
    · -- Reading may change the medium, but it leaves the screen alone.
      have hmiddle : Served first (middle.withMedium site.medium).screen := h
      have hwrite : Relies (Screen.write (chunk.line ++ "\n") : ω → _) := Screen.write_relies _
      refine ((onScreen_ends hwrite hmiddle).mono ?_ fun _ _ _ h => h).bind ?_
      · rintro error _ _ ⟨source, rfl, hbreaks, -⟩
        exact .inr ⟨source, rfl, hbreaks⟩
      · rintro _ printed _ ⟨hprinted, hjournal, rfl⟩
        refine (ih (total + chunk.bytes.length) later hprinted).mono ?_ fun _ _ _ hlast => hlast
        rintro error _ _ (⟨index, source, rfl, hcall⟩ | hbreaks)
        · refine .inl ⟨index + 1, source, rfl, ?_⟩
          rw [hjournal] at hcall
          rw [HexDump.call_succ, hnext]
          exact hcall
        · exact .inr hbreaks

/-- The log is printed, or it is not for one of these reasons. -/
theorem printLog_ends (console : Console ε μ ω) (world : World) :
    printLog.Ensures console world (fun _ => True) (fun error _ _ => Unshown console world error)
      fun _ last _ => Served console.screen last.screen := by
  have hdump : ((onJournal Journal.dump).orElseAs ConsoleError.openLog).Ensures console world
      (fun _ => True) (fun error _ _ => Unshown console world error)
      fun dump opened around =>
        Journal.dump.run console.journal world = .ok ((.ok dump, opened.journal), around) ∧
          Served console.screen opened.screen := by
    refine Attempt.Ensures.orElseAs (Attempt.Ensures.within ⟨fun _ _ => trivial, ?_⟩)
    intro result journal around hend
    cases result with
    | error source => exact Unshown.unopened hend
    | ok dump => exact ⟨hend, .start⟩
  refine hdump.bind ?_
  rintro dump opened around ⟨hend, hopened⟩
  split
  · exact Attempt.Ensures.of_eq rfl hopened
  · refine Attempt.Ensures.step rfl ?_
    refine ((printItems_ends _ 0 dump hopened).mono ?_ fun _ _ _ hlast => hlast).bind ?_
    · rintro error _ _ (⟨index, source, rfl, hcall⟩ | ⟨source, rfl, hbreaks⟩)
      · exact .unread hend hcall
      · exact .unprinted hbreaks
    · intro total printed last hprinted
      refine ((onScreen_ends Screen.flush_relies hprinted).mono ?_ fun _ _ _ h => h.1).bind ?_
      · rintro error _ _ ⟨source, rfl, hbreaks, -⟩
        exact .unprinted hbreaks
      intro _ flushed last hflushed
      refine Attempt.Ensures.step rfl ?_
      dsimp only
      split
      · exact Act.Ensures.of_halt rfl trivial
      · exact Attempt.Ensures.of_eq rfl hflushed

/-- So it is with the log and the commands. -/
theorem opening_ends (console : Console ε μ ω) (world : World) :
    opening.Ensures console world (fun _ => True) (fun error _ _ => Unshown console world error)
      fun _ last _ => Served console.screen last.screen := by
  refine (printLog_ends console world).bind fun _ shown around hshown => ?_
  refine (onScreen_ends (Screen.tell_relies usageLines) hshown).mono ?_ fun _ _ _ h => h.1
  rintro error _ _ ⟨source, rfl, hbreaks, -⟩
  exact .unprinted hbreaks

/-! ## Commands -/

variable [Element ε]

omit [Medium μ] [Screen ω] [Element ε] in
/-- When an attempt is only reported on, it does not matter how it ended. -/
theorem caught_ends {α error : Type} {attempt : Attempt (Console ε μ ω) error α}
    {report : Except error α → Attempt (Console ε μ ω) ConsoleError Unit}
    {Bad : ConsoleError → Console ε μ ω → World → Prop}
    (hreport : ∀ result console world, ∃ world',
      (report result).run console world = .ok ((.ok (), console), world')) :
    Attempt.Ensures (attempt.caught >>= report) console world (fun _ => True) Bad
      fun _ _ _ => True := by
  refine (Attempt.Ensures.caught Attempt.Ensures.anyhow).bind fun result console world _ => ?_
  obtain ⟨_, hreported⟩ := hreport result console world
  exact Attempt.Ensures.of_eq hreported trivial

/-- What fails in the log or in the element is reported. So a command ends in an error only if the
byte is unknown and the screen fails when the commands are to be shown then. -/
theorem obey_ends (byte : UInt8) (console : Console ε μ ω) (world : World) :
    (obey byte).Ensures console world (fun _ => True)
      (fun error _ _ => ∃ other source, OperatorCommand.ofByte byte = .unknown other ∧
        error = .output source ∧ (Screen.tell usageLines console.screen).1 = .error source)
      fun _ _ _ => True := by
  rw [obey]
  cases hcommand : OperatorCommand.ofByte byte with
  | append | clear | print =>
    refine caught_ends fun result console world => ?_
    cases result with
    | ok _ => exact ⟨_, rfl⟩
    | error _ => exact ⟨_, rfl⟩
  | ignore => exact Attempt.Ensures.pure trivial
  | unknown other =>
    refine Attempt.Ensures.step rfl ?_
    refine (onScreen_ends (Screen.tell_relies usageLines) .start).mono ?_ fun _ _ _ _ => trivial
    rintro error _ _ ⟨source, rfl, -, htold⟩
    exact ⟨other, source, rfl, rfl, htold⟩

/-- The bytes were obeyed, one after the other, and no command ended in an error. -/
inductive Obeyed : Console ε μ ω → World → Bytes → Console ε μ ω → World → Prop
  | nothing {console : Console ε μ ω} {world : World} : Obeyed console world [] console world
  | next {console middle last : Console ε μ ω} {world between around : World} {byte : UInt8}
      {more : Bytes} :
      (obey byte).run console world = .ok ((.ok (), middle), between) →
      Obeyed middle between more last around → Obeyed console world (byte :: more) last around

/-- All was done that was asked for if all bytes were obeyed. -/
theorem obeyAll_eq_ok {bytes : Bytes} :
    (obeyAll bytes).run console world = .ok ((.ok (), last), around) ↔
      Obeyed console world bytes last around := by
  constructor
  · intro h
    -- Where one command ended in an error, the whole does not end well.
    induction bytes generalizing console world with
    | nil =>
      cases h
      exact .nothing
    | cons byte more ih =>
      obtain ⟨error, -, himpossible⟩ | ⟨_, middle, between, hobey, hmore⟩ :=
        Attempt.bind_eq_ok.mp h
      · cases himpossible
      · exact .next hobey (ih hmore)
  · intro h
    induction h with
    | nothing => rfl
    | next hobey _ ih => exact (Attempt.bind_of_ok hobey).trans ih

/-- Otherwise some were obeyed, and then a command ended in an error. -/
theorem obeyAll_eq_error {bytes : Bytes} {error : ConsoleError} :
    (obeyAll bytes).run console world = .ok ((.error error, last), around) ↔
      ∃ done byte left middle between, bytes = done ++ byte :: left ∧
        Obeyed console world done middle between ∧
        (obey byte).run middle between = .ok ((.error error, last), around) := by
  constructor
  · intro h
    induction bytes generalizing console world with
    | nil => cases h
    | cons byte more ih =>
      obtain ⟨_, hobey, herror⟩ | ⟨_, middle, between, hobey, hmore⟩ := Attempt.bind_eq_ok.mp h
      · cases herror
        exact ⟨[], byte, more, console, world, rfl, .nothing, hobey⟩
      · obtain ⟨done, failing, left, later, there, rfl, hdone, hfailing⟩ := ih hmore
        exact ⟨byte :: done, failing, left, later, there, rfl, .next hobey hdone, hfailing⟩
  · rintro ⟨done, byte, left, middle, between, rfl, hdone, hbyte⟩
    rw [obeyAll_append]
    refine (Attempt.bind_of_ok (obeyAll_eq_ok.mpr hdone)).trans ?_
    exact Attempt.bind_eq_ok.mpr (.inl ⟨error, hbyte, rfl⟩)

/-! ## Sessions -/

/-- How a session can go that comes back. -/
inductive Session (console : Console ε μ ω) (world : World) (input : OperatorInput) :
    Except ConsoleError Unit → Console ε μ ω → World → Prop
  /-- The log or the commands could not be shown. No byte is read. -/
  | unshown {error : ConsoleError} {last : Console ε μ ω} {around : World} :
      opening.run console world = .ok ((.error error, last), around) →
      Unshown console world error → Session console world input (.error error) last around
  /-- The screen failed when the commands were to be shown after an unknown byte. What follows it is
  not read. -/
  | unprinted {opened middle last : Console ε μ ω} {shown between around : World}
      {done left : Bytes} {byte other : UInt8} {source : SystemError} :
      opening.run console world = .ok ((.ok (), opened), shown) →
      input.bytes = done ++ byte :: left → Obeyed opened shown done middle between →
      OperatorCommand.ofByte byte = .unknown other →
      (Screen.tell usageLines middle.screen).1 = .error source →
      (obey byte).run middle between = .ok ((.error (.output source), last), around) →
      Session console world input (.error (.output source)) last around
  /-- All bytes were obeyed, and then the input failed. -/
  | unread {opened last : Console ε μ ω} {shown around : World} {source : SystemError} :
      opening.run console world = .ok ((.ok (), opened), shown) →
      Obeyed opened shown input.bytes last around → input.ending = .failed source →
      Session console world input (.error (.input source)) last around
  /-- All bytes were obeyed. -/
  | whole {opened last : Console ε μ ω} {shown around : World} :
      opening.run console world = .ok ((.ok (), opened), shown) →
      Obeyed opened shown input.bytes last around → (∀ source, input.ending ≠ .failed source) →
      Session console world input (.ok ()) last around

/-- A session comes back if it goes in one of these ways. -/
theorem run_of_session {input : OperatorInput} {result : Except ConsoleError Unit}
    (h : Session console world input result last around) :
    (run input).run console world = .ok ((result, last), around) := by
  rw [run_eq_finish]
  cases h with
  | unshown hopening _ => exact Attempt.bind_eq_ok.mpr (.inl ⟨_, hopening, rfl⟩)
  | unprinted hopening hbytes hdone _ _ hbyte =>
    have hobeyed := obeyAll_eq_error.mpr ⟨_, _, _, _, _, hbytes, hdone, hbyte⟩
    refine (Attempt.bind_of_ok hopening).trans ?_
    exact Attempt.bind_eq_ok.mpr (.inl ⟨_, hobeyed, rfl⟩)
  | unread hopening hobeyed hending =>
    refine (Attempt.bind_of_ok hopening).trans ?_
    refine (Attempt.bind_of_ok (obeyAll_eq_ok.mpr hobeyed)).trans ?_
    rw [hending]
    rfl
  | whole hopening hobeyed hending =>
    refine (Attempt.bind_of_ok hopening).trans ?_
    refine (Attempt.bind_of_ok (obeyAll_eq_ok.mpr hobeyed)).trans ?_
    cases hend : input.ending with
    | closed => rfl
    | interrupted => rfl
    | failed source => exact absurd hend (hending source)

/-- A session that comes back goes in one of these ways. -/
theorem session_of_run {input : OperatorInput} {result : Except ConsoleError Unit}
    (h : (run input).run console world = .ok ((result, last), around)) :
    Session console world input result last around := by
  rw [run_eq_finish] at h
  obtain ⟨error, hopening, rfl⟩ | ⟨_, opened, shown, hopening, hrest⟩ := Attempt.bind_eq_ok.mp h
  · exact .unshown hopening ((opening_ends console world).ends _ _ _ hopening)
  obtain ⟨error, hobeyed, rfl⟩ | ⟨_, middle, between, hobeyed, hfinish⟩ :=
    Attempt.bind_eq_ok.mp hrest
  · obtain ⟨done, byte, left, middle, between, hbytes, hdone, hbyte⟩ :=
      obeyAll_eq_error.mp hobeyed
    obtain ⟨other, source, hunknown, rfl, hprint⟩ :=
      (obey_ends byte middle between).ends _ _ _ hbyte
    exact .unprinted hopening hbytes hdone hunknown hprint hbyte
  · have hdone := obeyAll_eq_ok.mp hobeyed
    cases hend : input.ending with
    | closed =>
      rw [hend] at hfinish
      cases hfinish
      exact .whole hopening hdone (by rw [hend]; nofun)
    | interrupted =>
      rw [hend] at hfinish
      cases hfinish
      exact .whole hopening hdone (by rw [hend]; nofun)
    | failed source =>
      rw [hend] at hfinish
      cases hfinish
      exact .unread hopening hdone hend

/-- Sessions that come back are those that fail in their opening, because the screen does after an
unknown byte or because the input does, and those in which every byte was obeyed. That is so for
every screen, whenever it fails. -/
theorem run_iff_session (console : Console ε μ ω) (world : World) (input : OperatorInput)
    (result : Except ConsoleError Unit) (last : Console ε μ ω) (around : World) :
    (run input).run console world = .ok ((result, last), around) ↔
      Session console world input result last around :=
  ⟨session_of_run, run_of_session⟩

/-- A log that cannot be opened ends a session, whatever is to be typed. -/
theorem run_of_unopened {source : LogError} {journal : Journal ε μ} (input : OperatorInput)
    (h : Journal.dump.run console.journal world = .ok ((.error source, journal), around)) :
    (run input).run console world
      = .ok ((.error (.openLog source), { console with journal }), around) := by
  have hdump : ((onJournal Journal.dump).orElseAs ConsoleError.openLog).run console world
      = .ok ((.error (.openLog source), { console with journal }), around) :=
    Act.map_of_ok (f := Except.mapError ConsoleError.openLog) (onJournal_eq h)
  have hlog : printLog.run console world
      = .ok ((.error (.openLog source), { console with journal }), around) :=
    Attempt.bind_eq_ok.mpr (.inl ⟨_, hdump, rfl⟩)
  have hopening : opening.run console world
      = .ok ((.error (.openLog source), { console with journal }), around) :=
    Attempt.bind_eq_ok.mpr (.inl ⟨_, hlog, rfl⟩)
  exact run_of_session (.unshown hopening (.unopened h))

/-- An empty log that cannot be opened for reading once. -/
def shut : Flaky where
  faults := [{ call := .openRead, failure := .failure "broken" }]

/-- So it is not only the input and the screen that can end a session. -/
theorem not_output_of_unreadable :
    ¬ ∀ (medium : Flaky) (journal : Journal ScriptedElement Flaky)
      (gateway : Gateway ScriptedElement) (booted around : World) (input : OperatorInput)
      (error : ConsoleError) (last : Console ScriptedElement Flaky Page),
      (Journal.bootOver {} medium).run Journal.stumbling {}
        = .ok ((.ok journal, gateway), booted) →
      (run input).run ⟨journal, {}⟩ booted = .ok ((.error error, last), around) →
      ∃ source, error = .input source ∨ error = .output source := by
  intro hends
  have heval : ((Journal.bootOver {} shut).run Journal.stumbling {}).toOption.any
      (fun booted => booted.1.1.toOption.any fun journal =>
        (Journal.dump.run journal booted.2).toOption.any fun ended =>
          ended.1.1.toOption.isNone) = true := by
    decide +kernel
  simp only [any_toOption, Prod.exists] at heval
  obtain ⟨_, gateway, booted, hboot, journal, rfl, result, opened, around, hdump, hnone⟩ := heval
  cases result with
  | ok dump => cases hnone
  | error source =>
    obtain ⟨_, hinput | houtput⟩ :=
      hends shut journal gateway booted around ⟨utf8 "a", .closed⟩ _ _ hboot
        (run_of_unopened _ hdump)
    · cases hinput
    · cases houtput

end Console

end SealedLog

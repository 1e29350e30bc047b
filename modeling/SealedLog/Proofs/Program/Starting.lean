import SealedLog.CommandLine
import SealedLog.Proofs.Journal.Mounted
import SealedLog.Proofs.SoftElement.Reopening

/-!
# Starting in stages

A program that starts reads its configuration, opens its element and boots its journal; a boot checks
the configuration, mounts the log and makes the key ready. Each of these stages can fail, and then
none of the later ones has been begun. No stage changes what is in a log that is there.

- `Journal.Stage`: how a boot ends, by the stage it has got to.
- `Journal.BootsInStages`: what is left alone by a boot.
- `Program.StartsInStages`: what is left alone by a program that does not get to its boot.
- `Program.starts_in_stages`: both are so from everywhere.
-/

namespace SealedLog

open Files

variable {ε : Type} [Element ε]

/-! ## Boots -/

/-- Whatever a configuration names, mounting it takes nothing away from any file. -/
theorem StorageConfig.mount_retains (config : StorageConfig) (world : World) :
    ∃ result world', config.mount world = .ok (result, world') ∧
      Retains world.files world'.files := by
  cases houter : config.outer? with
  | some outer =>
    obtain ⟨_, world', hmount, hmounting⟩ := config.mount_of_outer houter world
    exact ⟨_, world', hmount, hmounting.retains⟩
  | none =>
    rcases config with ⟨_ | _ | _, mountPoint, fileName⟩ <;> cases houter
    exact ⟨_, world, rfl, .refl world.files⟩

/-- Elements of which this is said keep what is true of the files, and it can always be said of them
again. -/
structure Element.Keeping (Kept : Files → Prop) (Quiet : ε → Prop) : Prop where
  submit : ∀ {element} (ticket : Ticket) (command : Command), Quiet element →
    Quiet (Element.submit ticket command element).element
  await : ∀ {element files} (limit : Option Span), Quiet element → Kept files →
    Quiet (Element.await limit element files).element ∧
      Kept (Element.await limit element files).files

theorem Element.Keeping.lasting {Kept : Files → Prop} {Quiet : ε → Prop}
    (h : Element.Keeping Kept Quiet) :
    Element.Lasting fun element _ files => Quiet element ∧ Kept files where
  submit command hlasts := ⟨h.submit _ command hlasts.1, hlasts.2⟩
  await limit hlasts := h.await limit hlasts.1 hlasts.2

/-- A software element without a state file does nothing to files. -/
theorem SoftElement.keeping (Kept : Files → Prop) :
    Element.Keeping Kept fun element : SoftElement => element.stateFile = none where
  submit {element} ticket command h := by
    show (react ticket command element).element.stateFile = none
    rcases react_cases ticket command element with ⟨code, faults, hreact⟩ | hreact <;>
      rw [hreact] <;> exact h
  await {element files} limit h hkept := by
    have hcommit : KeptByCommit fun _ stateFile files => stateFile = none ∧ Kept files := by
      intro element id entry files _ h
      rw [commit, h.1]
      exact ⟨rfl, h.2⟩
    exact workOff_keeps hcommit element.queue limit { element with queue := [] } ⟨h, hkept⟩

/-- A scripted element does nothing while a caller waits. -/
theorem ScriptedElement.keeping (Kept : Files → Prop) :
    Element.Keeping Kept fun _ : ScriptedElement => True where
  submit _ _ _ := trivial
  await _ _ hkept := ⟨trivial, hkept⟩

namespace Journal

variable {config : Config} {gateway gateway' : Gateway ε} {world world' : World}
  {result : Except LogError (Journal ε Mounted)}

/-- How a boot ends, by the stage it has got to. -/
inductive Stage (config : Config) (gateway : Gateway ε) (world : World) :
    Except LogError (Journal ε Mounted) → Gateway ε → World → Prop
  /-- The configuration is refused. Everything is as it was. -/
  | refused {error : ConfigError} :
      config.validate = .error error →
      Stage config gateway world (.error (.config error)) gateway world
  /-- The log cannot be mounted. The element has got no command. -/
  | unmounted {error : StoreError} {mounted : World} :
      config.validate = .ok () →
      config.storage.mount world = .ok (.error error, mounted) →
      Stage config gateway world (.error (.store error)) gateway mounted
  /-- The key cannot be made ready. -/
  | unready {medium : Mounted} {error : KeyError} {gateway' : Gateway ε} {mounted world' : World} :
      config.validate = .ok () →
      config.storage.mount world = .ok (.ok medium, mounted) →
      (bootOver config medium).run gateway mounted
        = .ok ((.error (.key error), gateway'), world') →
      Stage config gateway world (.error (.key error)) gateway' world'
  | booted {medium : Mounted} {journal : Journal ε Mounted} {gateway' : Gateway ε}
      {mounted world' : World} :
      config.validate = .ok () →
      config.storage.mount world = .ok (.ok medium, mounted) →
      (bootOver config medium).run gateway mounted = .ok ((.ok journal, gateway'), world') →
      Stage config gateway world (.ok journal) gateway' world'

/-- Over a medium that is mounted only the key can fail. -/
theorem bootOver_fails_by_key (hvalid : config.validate = .ok ()) (medium : Mounted) :
    (bootOver config medium).Ensures gateway world (fun _ => True)
      (fun error _ _ => ∃ source, error = .key source) fun _ _ _ => True := by
  refine bootOver_ensures (fun error herror => ?_) fun _ => ?_
  · rw [hvalid] at herror
    cases herror
  · exact Attempt.Ensures.anyhow.mono (fun error _ _ _ => ⟨error, rfl⟩) fun _ _ _ _ _ => trivial

theorem boot_of_refused {error : ConfigError} (h : config.validate = .error error) :
    (boot config).run gateway world = .ok ((.error (.config error), gateway), world) := by
  rw [boot, h]
  rfl

theorem boot_of_unmounted {error : StoreError} {mounted : World} (hvalid : config.validate = .ok ())
    (hmount : config.storage.mount world = .ok (.error error, mounted)) :
    (boot config).run gateway world = .ok ((.error (.store error), gateway), mounted) := by
  rw [boot, hvalid]
  exact Act.bind_of_ok (Act.lift_of_ok hmount)

theorem boot_of_mounted {medium : Mounted} {mounted : World} (hvalid : config.validate = .ok ())
    (hmount : config.storage.mount world = .ok (.ok medium, mounted)) :
    (boot config).run gateway world = (bootOver config medium).run gateway mounted := by
  rw [boot, hvalid]
  exact Act.bind_of_ok (Act.lift_of_ok hmount)

theorem stage_of_boot
    (h : (boot config).run gateway world = .ok ((result, gateway'), world')) :
    Stage config gateway world result gateway' world' := by
  cases hvalid : config.validate with
  | error error =>
    rw [boot_of_refused hvalid] at h
    cases h
    exact .refused hvalid
  | ok _ =>
    obtain ⟨outcome, mounted, hmount, -⟩ := config.storage.mount_retains world
    cases outcome with
    | error error =>
      rw [boot_of_unmounted hvalid hmount] at h
      cases h
      exact .unmounted hvalid hmount
    | ok medium =>
      rw [boot_of_mounted hvalid hmount] at h
      have hended := (bootOver_fails_by_key hvalid medium).ends result gateway' world' h
      cases result with
      | error error =>
        obtain ⟨source, rfl⟩ := hended
        exact .unready hvalid hmount h
      | ok journal => exact .booted hvalid hmount h

/-- Only an element that is asked for something can keep a boot from coming back. -/
theorem mounted_of_halt {why : Halt} (h : (boot config).run gateway world = .error why) :
    ∃ medium mounted, config.validate = .ok () ∧
      config.storage.mount world = .ok (.ok medium, mounted) := by
  cases hvalid : config.validate with
  | error error =>
    rw [boot_of_refused hvalid] at h
    cases h
  | ok _ =>
    obtain ⟨outcome, mounted, hmount, -⟩ := config.storage.mount_retains world
    cases outcome with
    | error error =>
      rw [boot_of_unmounted hvalid hmount] at h
      cases h
    | ok medium => exact ⟨medium, mounted, rfl, hmount⟩

/-- What is true as long as no file loses what is in it is kept by a boot, if the element keeps it,
however the boot ends. -/
theorem boot_keeps {Kept : Files → Prop} {Quiet : ε → Prop}
    (hretained : ∀ {files files'}, Retains files files' → Kept files → Kept files')
    (hkeeping : Element.Keeping Kept Quiet) (hquiet : Quiet gateway.element)
    (hkept : Kept world.files)
    (h : (boot config).run gateway world = .ok ((result, gateway'), world')) :
    Kept world'.files := by
  obtain ⟨outcome, mounted, hmount, hretains⟩ := config.storage.mount_retains world
  have hover : ∀ medium, (bootOver config medium).run gateway mounted
      = .ok ((result, gateway'), world') → Kept world'.files := by
    intro medium hrun
    have hlasts := (bootOver_lasting (hkeeping.lasting.under _)
      (show gateway.Has _ mounted from ⟨hquiet, hretained hretains hkept⟩) config medium).ends
      result gateway' world' hrun
    cases result with
    | error error => exact hlasts.2
    | ok journal => exact hlasts.1.2
  cases stage_of_boot h with
  | refused _ => exact hkept
  | unmounted _ hfailed =>
    rw [hmount] at hfailed
    cases hfailed
    exact hretained hretains hkept
  | unready _ hmounted hrun | booted _ hmounted hrun =>
    rw [hmount] at hmounted
    cases hmounted
    exact hover _ hrun

/-- What is left alone by a boot. -/
structure BootsInStages (config : Config) (gateway : Gateway ε) (world : World) : Prop where
  /-- A boot that comes back has got to one of the stages. -/
  stage : ∀ {result gateway' world'},
    (boot config).run gateway world = .ok ((result, gateway'), world') →
    Stage config gateway world result gateway' world'
  /-- A boot that does not come back has got to the last one. -/
  halt : ∀ {why}, (boot config).run gateway world = .error why →
    ∃ medium mounted, config.validate = .ok () ∧
      config.storage.mount world = .ok (.ok medium, mounted)
  /-- Whatever is read by a path is read by it after the boot, if the element leaves it alone. -/
  read : ∀ {Quiet : ε → Prop} {path bytes},
    Element.Keeping (fun files => files.read? path = some bytes) Quiet → Quiet gateway.element →
    world.files.read? path = some bytes → ∀ {result gateway' world'},
    (boot config).run gateway world = .ok ((result, gateway'), world') →
    world'.files.read? path = some bytes
  /-- So is whatever is in the file at a place, also if the path of the log does not lead there yet. -/
  content : ∀ {Quiet : ε → Prop} {place bytes},
    Element.Keeping (fun files => files.contentAt? place = some bytes) Quiet →
    Quiet gateway.element → world.files.contentAt? place = some bytes →
    ∀ {result gateway' world'},
    (boot config).run gateway world = .ok ((result, gateway'), world') →
    world'.files.contentAt? place = some bytes

theorem boots_in_stages (config : Config) (gateway : Gateway ε) (world : World) :
    BootsInStages config gateway world where
  stage := stage_of_boot
  halt := mounted_of_halt
  read hkeeping hquiet hread _ _ _ hrun :=
    boot_keeps (fun hretains => hretains.read?) hkeeping hquiet hread hrun
  content hkeeping hquiet hcontent _ _ _ hrun :=
    boot_keeps (fun hretains => hretains.contentAt?) hkeeping hquiet hcontent hrun

end Journal

/-! ## Programs -/

/-- Reading a configuration changes nothing. -/
theorem Config.load_alike (path : Path) (world : World) :
    ∃ result world', Config.load path world = .ok (result, world') ∧
      Alike world.files world'.files := by
  rcases Files.readAll_cases path world.files with ⟨error, hread⟩ | ⟨content, -, hread⟩ <;>
    exact ⟨_, _, Scene.bind_of_ok (Scene.onFiles_of_eq hread), alike_later world.files⟩

theorem Arguments.baseConfig_alike (arguments : Arguments) (world : World) :
    ∃ result world', arguments.baseConfig world = .ok (result, world') ∧
      Alike world.files world'.files := by
  rw [baseConfig]
  cases arguments.config with
  | none => exact ⟨_, world, rfl, .refl world.files⟩
  | some path =>
    obtain ⟨result, world', hload, halike⟩ := Config.load_alike path world
    exact ⟨_, world', Scene.bind_of_ok hload, halike⟩

theorem Arguments.loadConfig_alike (arguments : Arguments) (world : World) :
    ∃ result world', arguments.loadConfig world = .ok (result, world') ∧
      Alike world.files world'.files := by
  obtain ⟨result, world', hbase, halike⟩ := arguments.baseConfig_alike world
  rw [loadConfig, Scene.bind_of_ok hbase]
  cases result with
  | error error => exact ⟨_, world', rfl, halike⟩
  | ok config => exact ⟨_, world', rfl, halike⟩

/-- Neither does opening an element. -/
theorem SoftElement.start_alike (generator : Generator) (latency : Span) (stateFile : Option Path)
    (world : World) :
    ∃ result world', SoftElement.start generator latency stateFile world = .ok (result, world') ∧
      Alike world.files world'.files := by
  cases stateFile with
  | none => exact ⟨_, world, rfl, .refl world.files⟩
  | some path =>
    have halike := StateFile.load_alike Sha256.digest path world.files
    rw [start_eq]
    split
    · exact ⟨_, world, rfl, .refl world.files⟩
    · split <;> rename_i hload <;> rw [hload] at halike
      · exact ⟨_, _, rfl, halike⟩
      · exact ⟨_, _, rfl, halike⟩

namespace Program

variable {arguments : Arguments} {generator : Generator} {input : OperatorInput}
  {world loaded opened : World}

theorem run_of_unloaded (generator : Generator) (input : OperatorInput) {error : LoadError}
    (h : arguments.loadConfig world = .ok (.error error, loaded)) :
    ∃ world', run arguments generator input world = .ok (({}, .error (.load error)), world') ∧
      Alike world.files world'.files := by
  obtain ⟨_, _, hloaded, halike⟩ := arguments.loadConfig_alike world
  cases h.symm.trans hloaded
  have hstart : start arguments generator world = .ok (.error (.load error), loaded) :=
    Scene.bind_of_ok h
  rw [run, Scene.bind_of_ok hstart]
  exact ⟨_, rfl, halike⟩

theorem run_of_unopened (input : OperatorInput) {config : Config} {error : ElementError}
    (hload : arguments.loadConfig world = .ok (.ok config, loaded))
    (hopen : SoftElement.start generator config.element.latency config.element.stateFile loaded
      = .ok (.error error, opened)) :
    ∃ world', run arguments generator input world = .ok (({}, .error (.element error)), world') ∧
      Alike world.files world'.files := by
  obtain ⟨_, _, hloaded, halike⟩ := arguments.loadConfig_alike world
  cases hload.symm.trans hloaded
  obtain ⟨_, _, hopened, halike'⟩ := SoftElement.start_alike generator config.element.latency
    config.element.stateFile loaded
  cases hopen.symm.trans hopened
  have hstart : start arguments generator world = .ok (.error (.element error), opened) := by
    rw [start, Scene.bind_of_ok hload]
    exact Scene.bind_of_ok hopen
  rw [run, Scene.bind_of_ok hstart]
  exact ⟨_, rfl, halike.trans halike'⟩

/-- A program that gets to its boot fails in its boot or on its console, if it fails. -/
theorem run_of_opened {config : Config} {element : SoftElement} {screen : Page}
    {error : ProgramError} {world' : World}
    (hload : arguments.loadConfig world = .ok (.ok config, loaded))
    (hopen : SoftElement.start generator config.element.latency config.element.stateFile loaded
      = .ok (.ok element, opened))
    (h : run arguments generator input world = .ok ((screen, .error error), world')) :
    (∃ source, error = .boot source) ∨ ∃ source, error = .console source := by
  rw [run] at h
  obtain ⟨started, between, hstart, h⟩ := Scene.bind_eq_ok.mp h
  rw [start, Scene.bind_of_ok hload] at hstart
  dsimp only at hstart
  rw [Scene.bind_of_ok hopen] at hstart
  obtain ⟨⟨booted, gateway⟩, _, -, hended⟩ := Scene.bind_eq_ok.mp hstart
  cases booted with
  | error source =>
    cases hended
    cases h
    exact .inl ⟨source, rfl⟩
  | ok journal =>
    cases hended
    obtain ⟨⟨result, console⟩, _, -, h⟩ := Scene.bind_eq_ok.mp h
    cases result with
    | error source =>
      cases h
      exact .inr ⟨source, rfl⟩
    | ok _ => cases h

/-- What is left alone by a program that does not get to its boot. -/
structure StartsInStages (arguments : Arguments) (generator : Generator) (input : OperatorInput)
    (world : World) : Prop where
  /-- The configuration does not load. -/
  unloaded : ∀ {error loaded}, arguments.loadConfig world = .ok (.error error, loaded) →
    ∃ world', run arguments generator input world = .ok (({}, .error (.load error)), world') ∧
      Alike world.files world'.files
  /-- The state file of the element is refused. -/
  unopened : ∀ {config loaded error opened},
    arguments.loadConfig world = .ok (.ok config, loaded) →
    SoftElement.start generator config.element.latency config.element.stateFile loaded
      = .ok (.error error, opened) →
    ∃ world', run arguments generator input world = .ok (({}, .error (.element error)), world') ∧
      Alike world.files world'.files
  /-- No other failure is reported so. -/
  failed : ∀ {screen error world'},
    run arguments generator input world = .ok ((screen, .error error), world') →
    (∃ source, error = .load source) ∨ (∃ source, error = .element source) →
    screen = {} ∧ Alike world.files world'.files

/-- A program that fails before its boot leaves all files as they were. A boot that fails leaves alone
what the stages behind it have to do with, and no boot changes a log that is there. -/
theorem starts_in_stages (config : Config) (gateway : Gateway ε) (before : World)
    (arguments : Arguments) (generator : Generator) (input : OperatorInput) (world : World) :
    Journal.BootsInStages config gateway before ∧
      StartsInStages arguments generator input world := by
  refine ⟨Journal.boots_in_stages config gateway before, run_of_unloaded generator input,
    run_of_unopened input, ?_⟩
  intro screen error world' hrun hfailed
  obtain ⟨configured, loaded, hload, -⟩ := arguments.loadConfig_alike world
  cases configured with
  | error source =>
    obtain ⟨_, hended, halike⟩ := run_of_unloaded generator input hload
    cases hrun.symm.trans hended
    exact ⟨rfl, halike⟩
  | ok config =>
    obtain ⟨element, opened, hopen, -⟩ := SoftElement.start_alike generator config.element.latency
      config.element.stateFile loaded
    cases element with
    | error source =>
      obtain ⟨_, hended, halike⟩ := run_of_unopened input hload hopen
      cases hrun.symm.trans hended
      exact ⟨rfl, halike⟩
    | ok element =>
      -- The boot and the console report other failures.
      rcases run_of_opened hload hopen hrun with ⟨source, rfl⟩ | ⟨source, rfl⟩ <;>
        rcases hfailed with ⟨_, h⟩ | ⟨_, h⟩ <;> cases h

/-- An element refuses the first command of a boot over an old log, and a program is started without
its configuration file. -/
theorem starts_in_stages_over_old_log :
    let config : Config := { storage := { mountPoint := some ⟨"/logs"⟩, fileName := "log" } }
    let gateway : Gateway ScriptedElement :=
      { element := { steps := [{ refusal := some .deviceError }, { refusal := some .deviceError }] }
        timeout := none }
    let files : Files :=
      { nodes :=
          [(["logs".toList], .directory 0o755),
            (["logs".toList, "log".toList], .file [7] 0o644)] }
    let arguments : Arguments := { config := some ⟨"/config.yaml"⟩ }
    (∃ error gateway' world',
      (Journal.boot config).run gateway { files } = .ok ((.error (.key error), gateway'), world') ∧
        world'.files.read? ⟨"/logs/log"⟩ = some [7]) ∧
      ∃ screen source world',
        run arguments ⟨fun _ => 0, 0⟩ ⟨[], .closed⟩ { files }
          = .ok ((screen, .error (.load source)), world') ∧ Alike files world'.files := by
  intro config gateway files arguments
  obtain ⟨hboots, hstarts⟩ :=
    starts_in_stages config gateway { files } arguments ⟨fun _ => 0, 0⟩ ⟨[], .closed⟩ { files }
  constructor
  · have heval : (((Journal.boot config).run gateway { files }).toOption.any fun ended =>
        !ended.1.1.isOk) = true := by
      decide +kernel
    have hmounted : ((config.storage.mount { files }).toOption.any fun mounted =>
        mounted.1.isOk) = true := by
      decide +kernel
    simp only [any_toOption, Prod.exists] at heval hmounted
    obtain ⟨result, gateway', world', hboot, hended⟩ := heval
    obtain ⟨medium, mounted, hmount, hmedium⟩ := hmounted
    cases hboots.stage hboot with
    | refused hrefused =>
      have hvalid : config.validate = .ok () := by decide +kernel
      cases hvalid.symm.trans hrefused
    | unmounted _ hfailed =>
      rw [hmount] at hfailed
      cases hfailed
      cases hmedium
    | @unready _ error _ _ _ _ _ _ =>
      refine ⟨error, gateway', world', hboot, ?_⟩
      exact hboots.read (ScriptedElement.keeping _) trivial (by decide +kernel) hboot
    | booted => cases hended
  · have heval : ((arguments.loadConfig { files }).toOption.any fun loaded =>
        !loaded.1.isOk) = true := by
      decide +kernel
    simp only [any_toOption, Prod.exists] at heval
    obtain ⟨result, loaded, hload, hfailed⟩ := heval
    cases result with
    | error source =>
      obtain ⟨world', hrun, halike⟩ := hstarts.unloaded hload
      exact ⟨_, source, world', hrun, halike⟩
    | ok _ => cases hfailed

end Program

end SealedLog

import SealedLog.Proofs.Config.Written
import SealedLog.Proofs.Program.Starting

/-!
# The configuration of a program

A program is told by its arguments which configuration it starts from, the usual one or that of a
file, and what to change in it. The configuration of a file has to be valid as it stands, and what
the options make of it has to be valid again. So no boot complains about its configuration.

- `Governs`: how an option decides about one field.
- `Arguments.Overrides`: the same for all fields of a configuration.
- `Arguments.Base`: the configuration that the options are applied to; `Base.of_spells` says what
  has to be in a file for it.
- `Arguments.Configured`, `Program.boots_as_configured`: what a program is configured with.
-/

namespace SealedLog

/-! ## Options and fields -/

/-- An option that is given decides what a field is; otherwise the field is what it was. -/
inductive Governs {α : Type} : Option α → α → α → Prop
  | given (value before : α) : Governs (some value) before value
  | absent (before : α) : Governs none before before

theorem governs_iff {α : Type} {option : Option α} {before after : α} :
    Governs option before after ↔ after = option.getD before := by
  constructor
  · rintro (_ | _) <;> rfl
  · rintro rfl
    cases option with
    | none => exact .absent before
    | some value => exact .given value before

/-- For a field that need not be set. -/
theorem governs_some_iff {α : Type} {option before after : Option α} :
    Governs (option.map some) before after ↔ after = (option <|> before) := by
  rw [governs_iff]
  cases option <;> rfl

namespace Arguments

/-- What the options make of a configuration. -/
structure Overrides (arguments : Arguments) (base config : Config) : Prop where
  keySlot : config.keySlot = base.keySlot
  /-- The flag asks for a new key. It cannot keep the configuration from asking for one. -/
  forceRegenerate : config.forceRegenerate = true ↔
    arguments.forceRegenerate = true ∨ base.forceRegenerate = true
  plaintextMaxLen : config.plaintextMaxLen = base.plaintextMaxLen
  recordSize : config.recordSize = base.recordSize
  backend : Governs arguments.storage base.storage.backend config.storage.backend
  mountPoint :
    Governs (arguments.mountPoint.map some) base.storage.mountPoint config.storage.mountPoint
  fileName : config.storage.fileName = base.storage.fileName
  completionTimeoutMs :
    Governs (arguments.timeoutMs.map some) base.element.completionTimeoutMs
      config.element.completionTimeoutMs
  stateFile :
    Governs (arguments.hsmState.map some) base.element.stateFile config.element.stateFile
  latencyMs : config.element.latencyMs = base.element.latencyMs

/-- They make one configuration of it. -/
theorem overrides_iff {arguments : Arguments} {base config : Config} :
    arguments.Overrides base config ↔ config = arguments.apply base := by
  constructor
  · intro h
    rcases config with ⟨keySlot, forceRegenerate, plaintextMaxLen, recordSize, storage, element⟩
    obtain rfl : keySlot = base.keySlot := h.keySlot
    obtain rfl : plaintextMaxLen = base.plaintextMaxLen := h.plaintextMaxLen
    obtain rfl : recordSize = base.recordSize := h.recordSize
    have hforce : forceRegenerate = (base.forceRegenerate || arguments.forceRegenerate) := by
      rw [Bool.eq_iff_iff, Bool.or_eq_true, or_comm]
      exact h.forceRegenerate
    have hstorage : storage = (arguments.apply base).storage := by
      rcases storage with ⟨backend, mountPoint, fileName⟩
      obtain rfl : fileName = base.storage.fileName := h.fileName
      obtain rfl : backend = arguments.storage.getD base.storage.backend :=
        governs_iff.mp h.backend
      obtain rfl : mountPoint = (arguments.mountPoint <|> base.storage.mountPoint) :=
        governs_some_iff.mp h.mountPoint
      rfl
    have helement : element = (arguments.apply base).element := by
      rcases element with ⟨completionTimeoutMs, stateFile, latencyMs⟩
      obtain rfl : latencyMs = base.element.latencyMs := h.latencyMs
      obtain rfl : completionTimeoutMs
          = (arguments.timeoutMs <|> base.element.completionTimeoutMs) :=
        governs_some_iff.mp h.completionTimeoutMs
      obtain rfl : stateFile = (arguments.hsmState <|> base.element.stateFile) :=
        governs_some_iff.mp h.stateFile
      rfl
    rw [hforce, hstorage, helement]
    rfl
  · rintro rfl
    constructor
    · rfl
    · rw [apply, Bool.or_eq_true, or_comm]
    · rfl
    · rfl
    · exact governs_iff.mpr rfl
    · exact governs_some_iff.mpr rfl
    · rfl
    · exact governs_some_iff.mpr rfl
    · exact governs_some_iff.mpr rfl
    · rfl

/-! ## Where options are applied -/

/-- The configuration that the options are applied to: the usual one, or that of the file if it can
be read, is one and is valid. -/
inductive Base (arguments : Arguments) (files : Files) : Config → Prop
  | usual : arguments.config = none → Base arguments files {}
  | file {path : Path} {content : Bytes} {text : String} {config : Config} :
      arguments.config = some path →
      (Files.readAll path files).1 = .ok content →
      ofUtf8? content = some text →
      Config.ofText? path text = some config →
      config.validate = .ok () →
      Base arguments files config

/-- A valid configuration that a JSON file spells is the one they are applied to. -/
theorem Base.of_spells {arguments : Arguments} {files : Files} {path : Path} {text : String}
    {config : Config} (hpath : arguments.config = some path) (hjson : Config.isJson path = true)
    (hread : (Files.readAll path files).1 = .ok (utf8 text))
    (hspells : Json.Spells (utf8 text) config.document) (hvalid : config.validate = .ok ()) :
    arguments.Base files config :=
  .file hpath hread (ofUtf8?_utf8 text) (Config.ofText?_of_spells hjson hspells) hvalid

end Arguments

theorem Config.ofContent_eq_ok_iff {path : Path} {content : Bytes} {config : Config} :
    Config.ofContent path content = .ok config ↔
      ∃ text, ofUtf8? content = some text ∧ Config.ofText? path text = some config ∧
        config.validate = .ok () := by
  rw [ofContent]
  cases ofUtf8? content with
  | none => exact ⟨nofun, fun ⟨_, htext, _⟩ => by cases htext⟩
  | some text =>
    dsimp only
    cases hconfig : ofText? path text with
    | none =>
      refine ⟨nofun, ?_⟩
      rintro ⟨_, htext, hother, _⟩
      cases htext
      cases hconfig.symm.trans hother
    | some found =>
      dsimp only
      cases hvalid : found.validate with
      | error error =>
        refine ⟨nofun, ?_⟩
        rintro ⟨_, htext, hother, hok⟩
        cases htext
        cases hconfig.symm.trans hother
        cases hvalid.symm.trans hok
      | ok _ =>
        constructor
        · intro hfound
          cases hfound
          exact ⟨text, rfl, hconfig, hvalid⟩
        · rintro ⟨_, htext, hother, _⟩
          cases htext
          cases hconfig.symm.trans hother
          rfl

/-- A configuration is loaded from what is in its file. -/
theorem Config.load_eq (path : Path) (world : World) :
    ∃ world', Config.load path world
        = .ok (match (Files.readAll path world.files).1 with
          | .error error => .error (.unreadable path error)
          | .ok content => Config.ofContent path content, world') := by
  rcases hread : Files.readAll path world.files with ⟨result, files⟩
  rw [load, Scene.bind_of_ok (Scene.onFiles_of_eq hread)]
  cases result <;> exact ⟨_, rfl⟩

namespace Arguments

variable {arguments : Arguments} {world : World} {base config : Config}

theorem base_iff :
    arguments.Base world.files base ↔
      ∃ world', arguments.baseConfig world = .ok (.ok base, world') := by
  rw [baseConfig]
  cases hpath : arguments.config with
  | none =>
    constructor
    · rintro (_ | ⟨hnamed, _⟩)
      · exact ⟨world, rfl⟩
      · cases hpath.symm.trans hnamed
    · rintro ⟨_, hbase⟩
      cases hbase
      exact .usual hpath
  | some path =>
    obtain ⟨loaded, hload⟩ := Config.load_eq path world
    dsimp only
    rw [Scene.bind_of_ok hload]
    constructor
    · rintro (hunnamed | @⟨_, content, text, _, hnamed, hread, htext, hconfig, hvalid⟩)
      · cases hpath.symm.trans hunnamed
      · cases hpath.symm.trans hnamed
        rw [hread]
        dsimp only
        rw [Config.ofContent_eq_ok_iff.mpr ⟨text, htext, hconfig, hvalid⟩]
        exact ⟨_, rfl⟩
    · rintro ⟨_, hbase⟩
      cases hread : (Files.readAll path world.files).1 with
      | error error =>
        rw [hread] at hbase
        cases hbase
      | ok content =>
        rw [hread] at hbase
        dsimp only at hbase
        cases hcontent : Config.ofContent path content with
        | error error =>
          rw [hcontent] at hbase
          cases hbase
        | ok found =>
          rw [hcontent] at hbase
          cases hbase
          obtain ⟨text, htext, hconfig, hvalid⟩ := Config.ofContent_eq_ok_iff.mp hcontent
          exact .file hpath hread htext hconfig hvalid

/-- What is loaded is what the options make of what they are applied to, if it is valid. -/
theorem loadConfig_iff :
    (∃ world', arguments.loadConfig world = .ok (.ok config, world')) ↔
      ∃ base, arguments.Base world.files base ∧ arguments.Overrides base config ∧
        config.validate = .ok () := by
  obtain ⟨based, around, hbased, -⟩ := arguments.baseConfig_alike world
  have hload : arguments.loadConfig world
      = .ok (based.bind fun base =>
          ((arguments.apply base).validate.mapError .invalid).map fun _ => arguments.apply base,
        around) := by
    rw [loadConfig, Scene.bind_of_ok hbased]
    cases based <;> rfl
  rw [hload]
  constructor
  · rintro ⟨_, hok⟩
    cases based with
    | error error => cases hok
    | ok base =>
      refine ⟨base, base_iff.mpr ⟨around, hbased⟩, ?_⟩
      cases hvalid : (arguments.apply base).validate with
      | error error =>
        rw [Except.bind, hvalid] at hok
        cases hok
      | ok _ =>
        rw [Except.bind, hvalid] at hok
        cases hok
        exact ⟨overrides_iff.mpr rfl, hvalid⟩
  · rintro ⟨base, hbase, hoverrides, hvalid⟩
    obtain ⟨_, hbase⟩ := base_iff.mp hbase
    cases hbased.symm.trans hbase
    obtain rfl := overrides_iff.mp hoverrides
    refine ⟨around, ?_⟩
    rw [Except.bind, hvalid]
    rfl

end Arguments

/-! ## Boots of what was loaded -/

namespace Journal

variable {ε : Type} [Element ε] {config : Config} {gateway gateway' : Gateway ε}
  {world world' : World}

/-- A valid configuration is not complained about, over whatever medium. -/
theorem not_config_of_boot (hvalid : config.validate = .ok ()) (error : ConfigError) :
    (boot config).run gateway world ≠ .ok ((.error (.config error), gateway'), world') := by
  intro hboot
  cases stage_of_boot hboot with
  | refused hrefused => cases hvalid.symm.trans hrefused

theorem not_config_of_bootOver {μ : Type} [Medium μ] (medium : μ)
    (hvalid : config.validate = .ok ()) (error : ConfigError) :
    (bootOver config medium).run gateway world
      ≠ .ok ((.error (.config error), gateway'), world') := by
  have hended : (bootOver config medium).Ensures gateway world (fun _ => True)
      (fun error _ _ => ∃ source, error = .key source) fun _ _ _ => True := by
    refine bootOver_ensures (fun error herror => ?_) fun _ => ?_
    · cases hvalid.symm.trans herror
    · exact Attempt.Ensures.anyhow.mono (fun error _ _ _ => ⟨error, rfl⟩) fun _ _ _ _ _ => trivial
  intro hboot
  obtain ⟨source, hsource⟩ := hended.ends _ _ _ hboot
  cases hsource

end Journal

/-- A program that fails in its boot has loaded a configuration, and it was booted with that. -/
theorem Program.boot_of_run {arguments : Arguments} {generator : Generator} {input : OperatorInput}
    {screen : Page} {source : LogError} {world world' : World}
    (h : run arguments generator input world = .ok ((screen, .error (.boot source)), world')) :
    ∃ (config : Config) (gateway gateway' : Gateway SoftElement) (loaded opened booted : World),
      arguments.loadConfig world = .ok (.ok config, loaded) ∧
        (Journal.boot config).run gateway opened = .ok ((.error source, gateway'), booted) := by
  obtain ⟨configured, loaded, hload, -⟩ := arguments.loadConfig_alike world
  cases configured with
  | error error =>
    obtain ⟨_, hended, -⟩ := run_of_unloaded generator input hload
    cases h.symm.trans hended
  | ok config =>
    obtain ⟨element, opened, hopen, -⟩ := SoftElement.start_alike generator config.element.latency
      config.element.stateFile loaded
    cases element with
    | error error =>
      obtain ⟨_, hended, -⟩ := run_of_unopened input hload hopen
      cases h.symm.trans hended
    | ok element =>
      rw [run] at h
      obtain ⟨started, between, hstart, h⟩ := Scene.bind_eq_ok.mp h
      rw [start, Scene.bind_of_ok hload] at hstart
      dsimp only at hstart
      rw [Scene.bind_of_ok hopen] at hstart
      obtain ⟨⟨result, gateway'⟩, _, hboot, hended⟩ := Scene.bind_eq_ok.mp hstart
      cases result with
      | error found =>
        cases hended
        cases h
        exact ⟨config, _, gateway', loaded, opened, _, hload, hboot⟩
      | ok journal =>
        cases hended
        obtain ⟨⟨result, console⟩, _, -, h⟩ := Scene.bind_eq_ok.mp h
        cases result <;> cases h

/-! ## What a program is configured with -/

/-- What a program is configured with. -/
structure Arguments.Configured (arguments : Arguments) (world : World) : Prop where
  /-- Loading comes back, with a configuration or with an error. -/
  comes : ∃ result world', arguments.loadConfig world = .ok (result, world')
  /-- There is a configuration if the file, where one is named, can be loaded and is valid, and what
  the options make of it is valid; and this is the configuration. -/
  loads : ∀ config, (∃ world', arguments.loadConfig world = .ok (.ok config, world')) ↔
    ∃ base, arguments.Base world.files base ∧ arguments.Overrides base config ∧
      config.validate = .ok ()
  /-- No element and no medium is booted with a complaint about it. -/
  boots : ∀ config loaded, arguments.loadConfig world = .ok (.ok config, loaded) →
    ∀ {ε : Type} [Element ε] (gateway gateway' : Gateway ε) (around around' : World)
      (error : ConfigError),
      (Journal.boot config).run gateway around ≠ .ok ((.error (.config error), gateway'), around') ∧
      ∀ {μ : Type} [Medium μ] (medium : μ), (Journal.bootOver config medium).run gateway around
        ≠ .ok ((.error (.config error), gateway'), around')
  /-- Nor does the program ever report one when it boots. -/
  runs : ∀ generator input screen error world',
    Program.run arguments generator input world
      ≠ .ok ((screen, .error (.boot (.config error))), world')

/-- Whatever the options and the file, a program is configured with what the options make of the
file's configuration, or fails before its boot. -/
theorem Program.boots_as_configured (arguments : Arguments) (world : World) :
    arguments.Configured world := by
  have hvalid : ∀ {config loaded}, arguments.loadConfig world = .ok (.ok config, loaded) →
      config.validate = .ok () := by
    intro config loaded hload
    obtain ⟨-, -, -, hvalid⟩ := Arguments.loadConfig_iff.mp ⟨loaded, hload⟩
    exact hvalid
  constructor
  · obtain ⟨result, world', hload, -⟩ := arguments.loadConfig_alike world
    exact ⟨result, world', hload⟩
  · intro config
    exact Arguments.loadConfig_iff
  · intro config loaded hload ε _ gateway gateway' around around' error
    refine ⟨Journal.not_config_of_boot (hvalid hload) error, ?_⟩
    intro μ _ medium
    exact Journal.not_config_of_bootOver medium (hvalid hload) error
  · intro generator input screen error world' hrun
    obtain ⟨config, _, _, loaded, _, _, hload, hboot⟩ := boot_of_run hrun
    exact Journal.not_config_of_boot (hvalid hload) error hboot

end SealedLog

import SealedLog.Console
import SealedLog.Proofs.Gateway.Dialogue
import SealedLog.Proofs.Journal.Lockstep

/-!
# Consoles side by side

Two consoles work on the same journal, among the same files, at the same time. What was reported
and what is on their pages may differ; pages take everything. Whatever an operator asks for,
both consoles do the same, and print the same.

- `Journal.Twin`: the same journal, apart from what was reported around it.
- `Page.Adds`: a step that adds a text to a page that takes everything.
- `Console.Abreast`: consoles on twins, with what they printed since.
- `Console.obeyAll_lockstep`: they stay so, whatever the input is.
-/

namespace SealedLog

variable {ε μ α : Type}

/-! ## Journals -/

namespace Journal

/-- The same journal, among the same files, at the same time. -/
structure Twin (journal : Journal ε μ) (world : World) (journal' : Journal ε μ) (world' : World) :
    Prop where
  journal : journal = journal'
  files : world.files = world'.files
  now : world.now = world'.now

variable {journal journal' : Journal ε μ} {world world' : World}

/-- What a store does does not depend on what was reported around it. -/
theorem onStore_twin {attempt : Attempt (Store μ) StoreError α}
    (hattempt : ∀ {store world store' world'}, Store.Beside Eq store world store' world' →
      attempt.Lockstep attempt store world store' world' (Store.Beside Eq))
    (h : Twin journal world journal' world') :
    (onStore attempt : Attempt (Journal ε μ) LogError α).Lockstep (onStore attempt) journal world
      journal' world' Twin := by
  obtain ⟨rfl, hfiles, hnow⟩ := h
  refine onStore_lockstep (Act.Lockstep.mono (hattempt ⟨rfl, hfiles, hnow⟩) ?_)
  rintro store world _ world' ⟨rfl, hfiles, hnow⟩
  exact ⟨rfl, hfiles, hnow⟩

variable [Element ε] [Medium μ]

theorem appendMessage_twin (plaintext : Bytes) (h : Twin journal world journal' world') :
    (appendMessage plaintext).Lockstep (appendMessage plaintext) journal world journal' world'
      Twin := by
  obtain ⟨rfl, hfiles, hnow⟩ := h
  refine appendMessage_lockstep ((journal.sealer.encryptMessage_follows plaintext).lockstep_self
    journal.gateway hfiles hnow) ?_ ?_
  · rintro gateway world _ world' ⟨rfl, hfiles, hnow⟩
    exact ⟨rfl, hfiles, hnow⟩
  · rintro record gateway world _ world' ⟨rfl, hfiles, hnow⟩
    refine Act.Lockstep.mono
      (Store.append_lockstep Medium.indifferent_eq record ⟨rfl, hfiles, hnow⟩) ?_
    rintro store world _ world' ⟨rfl, hfiles, hnow⟩
    exact ⟨rfl, hfiles, hnow⟩

theorem appendStatus_twin (h : Twin journal world journal' world') :
    appendStatus.Lockstep appendStatus journal world journal' world' Twin := by
  obtain ⟨rfl, hfiles, hnow⟩ := h
  refine appendStatus_lockstep rfl (appendNumbered_lockstep rfl hnow ?_ ?_)
  · rintro journal world _ world' notices notices' ⟨rfl, hfiles, hnow⟩
    exact ⟨rfl, hfiles, hnow⟩
  · exact appendMessage_twin _ ⟨rfl, hfiles, hnow⟩

end Journal

/-! ## Pages -/

namespace Page

/-- A step that adds a text to what is on a page that takes everything. -/
def Adds (text : String) (step : Page → Except SystemError Unit × Page) : Prop :=
  ∀ page, page.capacity = none → step page = (.ok (), { page with shown := page.shown ++ text })

theorem write_adds (text : String) : Adds text (Screen.write text) := by
  rintro ⟨shown, capacity⟩ hendless
  obtain rfl : capacity = none := hendless
  rfl

theorem flush_adds : Adds "" Screen.flush := fun page _ => by
  rw [String.append_empty]
  rfl

/-- Texts that are written one after the other are added as one. -/
theorem tell_adds (texts : List String) : Adds (String.join texts) (Screen.tell texts) := by
  intro page hendless
  induction texts generalizing page with
  | nil => exact flush_adds page hendless
  | cons text more ih =>
    rw [Screen.tell, write_adds text page hendless, String.join_cons, ← String.append_assoc]
    exact ih _ hendless

end Page

/-! ## Consoles -/

namespace Console

/-- Two consoles with pages that take everything, on journals that are twins. Since the first
showed `before` and the second `before'`, both have printed the same. -/
structure Abreast (before before' : String) (console : Console ε μ Page) (world : World)
    (console' : Console ε μ Page) (world' : World) : Prop where
  journal : console.journal.Twin world console'.journal world'
  endless : console.screen.capacity = none
  endless' : console'.screen.capacity = none
  printed : ∃ text, console.screen.shown = before ++ text ∧ console'.screen.shown = before' ++ text

variable {before before' : String} {console console' : Console ε μ Page} {world world' : World}

/-- Reports do not matter. -/
theorem Abreast.withNotices (h : Abreast before before' console world console' world')
    (notices notices' : List Notice) :
    Abreast before before' console { world with notices } console'
      { world' with notices := notices' } :=
  { h with journal := ⟨h.journal.journal, h.journal.files, h.journal.now⟩ }

/-- The console when a text was printed. -/
def showing (console : Console ε μ Page) (text : String) : Console ε μ Page :=
  { console with screen := { console.screen with shown := console.screen.shown ++ text } }

/-- Where the page is endless, everything can be printed. -/
theorem onScreen_of_endless {console : Console ε μ Page} (h : console.screen.capacity = none)
    {text : String} {step : Page → Except SystemError Unit × Page} (hadds : Page.Adds text step)
    (world : World) :
    (onScreen step).run console world = .ok ((.ok (), console.showing text), world) := by
  have hstep := hadds console.screen h
  show Except.ok (((step console.screen).1.mapError _, { console with
    screen := (step console.screen).2 }), world) = _
  rw [hstep]
  rfl

/-- What both print, they print alike. -/
theorem onScreen_lockstep {text : String} {step : Page → Except SystemError Unit × Page}
    (hadds : Page.Adds text step) (h : Abreast before before' console world console' world') :
    (onScreen step).Lockstep (onScreen step) console world console' world'
      (Abreast before before') := by
  refine Act.Lockstep.of_eq (onScreen_of_endless h.endless hadds world)
    (onScreen_of_endless h.endless' hadds world') ⟨h.journal, h.endless, h.endless', ?_⟩
  obtain ⟨printed, hshown, hshown'⟩ := h.printed
  refine ⟨printed ++ text, ?_, ?_⟩
  · rw [showing, hshown, String.append_assoc]
  · rw [showing, hshown', String.append_assoc]

/-- What is done with both journals is done to both consoles. -/
theorem onJournal_lockstep {error : Type} {attempt : Attempt (Journal ε μ) error α}
    (hattempt : attempt.Lockstep attempt console.journal world console'.journal world'
      Journal.Twin)
    (h : Abreast before before' console world console' world') :
    (onJournal attempt).Lockstep (onJournal attempt) console world console' world'
      (Abreast before before') :=
  Attempt.Lockstep.within (Act.Lockstep.mono hattempt fun _ _ _ _ htwin =>
    ⟨htwin, h.endless, h.endless', h.printed⟩)

/-- A report on both sides. -/
theorem note_lockstep {error : Type} (notice : Notice)
    (h : Abreast before before' console world console' world') :
    Attempt.Lockstep (liftM (Scene.note notice) : Attempt (Console ε μ Page) error Unit)
      (liftM (Scene.note notice)) console world console' world' (Abreast before before') :=
  Act.Lockstep.of_eq rfl rfl (h.withNotices _ _)

variable [Medium μ]

theorem nextItem_lockstep (dump : HexDump (Medium.Reader μ))
    (h : Abreast before before' console world console' world') :
    Act.Lockstep (nextItem dump) (nextItem dump) console world console' world'
      (Abreast before before') := by
  have hbeside : Store.Beside Eq console.journal.store world console'.journal.store world' :=
    ⟨congrArg Journal.store h.journal.journal, h.journal.files, h.journal.now⟩
  refine Act.Lockstep.within ?_
  refine (Store.onSite_lockstep (Medium.indifferent_eq.next dump) hbeside).mono ?_
  rintro store world _ world' ⟨rfl, hfiles, hnow⟩
  refine { h with journal := ⟨?_, hfiles, hnow⟩ }
  exact congrArg (fun journal : Journal ε μ => { journal with store }) h.journal.journal

/-- The pieces of a dump are printed alike, by induction on how many there can be. -/
theorem printItems_lockstep (limit total : Nat) (dump : HexDump (Medium.Reader μ))
    (h : Abreast before before' console world console' world') :
    (printItems limit total dump).Lockstep (printItems limit total dump) console world console'
      world' (Abreast before before') := by
  induction limit generalizing total dump console world console' world' with
  | zero => exact Attempt.Lockstep.pure h
  | succ limit ih =>
    refine Attempt.Lockstep.bind (Attempt.Lockstep.lift (nextItem_lockstep dump h)) ?_
    rintro ⟨item, later⟩ console world console' world' h
    rcases item with _ | error | chunk
    · exact Attempt.Lockstep.pure h
    · exact Attempt.Lockstep.throw h
    · refine (onScreen_lockstep (Page.write_adds _) h).bind ?_
      exact fun _ _ _ _ _ h => ih _ later h

theorem itemsLeft_lockstep (dump : HexDump (Medium.Reader μ))
    (h : Abreast before before' console world console' world') :
    Act.Lockstep (itemsLeft dump) (itemsLeft dump) console world console' world'
      (Abreast before before') := by
  refine Act.Lockstep.of_eq (a := dump.left ⟨console.journal.store.medium, world.files⟩) rfl ?_ h
  rw [h.journal.journal, h.journal.files]
  rfl

theorem printLog_lockstep (h : Abreast before before' console world console' world') :
    printLog.Lockstep printLog console world console' world' (Abreast before before') := by
  refine Attempt.Lockstep.bind (Attempt.Lockstep.orElseAs (onJournal_lockstep
    (Journal.onStore_twin (Store.dump_lockstep Medium.indifferent_eq) h.journal) h)) ?_
  intro dump console world console' world' h
  split
  · exact note_lockstep _ h
  · refine Attempt.Lockstep.bind (Attempt.Lockstep.lift (itemsLeft_lockstep dump h)) ?_
    intro limit console world console' world' h
    refine (printItems_lockstep limit 0 dump h).bind ?_
    intro total console world console' world' h
    refine (onScreen_lockstep Page.flush_adds h).bind ?_
    intro _ console world console' world' h
    refine Act.Lockstep.congr (Attempt.bind_of_ok rfl) (Attempt.bind_of_ok rfl) ?_
    rw [h.journal.journal]
    dsimp only
    split
    · exact Act.Lockstep.of_halt rfl rfl
    · exact note_lockstep _ h

variable [Element ε]

/-- Whatever is asked for, both do the same. -/
theorem obey_lockstep (byte : UInt8) (h : Abreast before before' console world console' world') :
    (obey byte).Lockstep (obey byte) console world console' world' (Abreast before before') := by
  rw [obey]
  cases OperatorCommand.ofByte byte with
  | append =>
    refine Attempt.Lockstep.bind (Attempt.Lockstep.caught (onJournal_lockstep
      (Journal.appendStatus_twin h.journal) h)) ?_
    intro result console world console' world' h
    cases result with
    | ok report => exact note_lockstep _ h
    | error error => exact note_lockstep _ h
  | clear =>
    refine Attempt.Lockstep.bind (Attempt.Lockstep.caught (onJournal_lockstep
      (Journal.onStore_twin (Store.clear_lockstep Medium.indifferent_eq) h.journal) h)) ?_
    intro result console world console' world' h
    cases result with
    | ok _ => exact note_lockstep _ h
    | error error => exact note_lockstep _ h
  | print =>
    refine Attempt.Lockstep.bind (Attempt.Lockstep.caught (printLog_lockstep h)) ?_
    intro result console world console' world' h
    cases result with
    | ok _ => exact Attempt.Lockstep.pure h
    | error error => exact note_lockstep _ h
  | ignore => exact Attempt.Lockstep.pure h
  | unknown byte =>
    refine Attempt.Lockstep.bind (note_lockstep _ h) ?_
    exact fun _ _ _ _ _ h => onScreen_lockstep (Page.tell_adds usageLines) h

/-- Whatever the input is, both do the same, by induction on it. -/
theorem obeyAll_lockstep (bytes : Bytes)
    (h : Abreast before before' console world console' world') :
    (obeyAll bytes).Lockstep (obeyAll bytes) console world console' world'
      (Abreast before before') := by
  induction bytes generalizing console world console' world' with
  | nil => exact Attempt.Lockstep.pure h
  | cons byte more ih =>
    refine (obey_lockstep byte h).bind ?_
    exact fun _ _ _ _ _ h => ih h

end Console

end SealedLog

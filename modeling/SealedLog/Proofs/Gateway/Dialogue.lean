import SealedLog.Proofs.Gateway.Fate
import SealedLog.Proofs.Lockstep
import SealedLog.Proofs.Sealer

/-!
# Dialogues with an element

Sealing a message is a dialogue: commands are asked for one after the other, and what is asked next
depends on the answers alone. Who holds the same dialogue with elements that answer alike comes to
the same. What a command carries does not matter for that, only its name, which is in the errors.

- `Dialogue`: what is asked, command by command.
- `Dialogue.hold`, `Dialogue.upshots`: how a dialogue goes, and what becomes of its commands.
- `Dialogue.Follows`: an attempt that is such a dialogue. `Sealer.encryptMessage_follows` says so
  of sealing.
- `Dialogue.hold_alike`: dialogues that differ in what their commands carry are held alike, and so
  attempts that follow them keep step.
-/

namespace SealedLog

/-- What is asked of an element. -/
inductive Dialogue (α : Type)
  | done (a : α)
  /-- The dialogue is broken off, and there is nothing to come back to. -/
  | broken (why : Halt)
  | ask (command : Command) (next : Except CommandError Output → Dialogue α)

/-- What becomes of a command, and the files after it. -/
structure Upshot where
  fate : Gateway.Fate
  files : Files

namespace Dialogue

variable {ε ε' α error : Type} [Element ε] [Element ε']

/-- How a dialogue goes: what it comes to, and the gateway and the files after it. -/
def hold : Dialogue α → Gateway ε → Files → Except Halt (α × Gateway ε × Files)
  | .done a, gateway, files => .ok (a, gateway, files)
  | .broken why, _, _ => .error why
  | .ask command next, gateway, files =>
    match (gateway.fate command files).result gateway.timeout command with
    | .error why => .error why
    | .ok answer =>
      hold (next answer) (gateway.after command files) (gateway.filesAfter command files)

/-- What becomes of the commands of a dialogue, in the order in which they are asked. -/
def upshots : Dialogue α → Gateway ε → Files → List Upshot
  | .done _, _, _ => []
  | .broken _, _, _ => []
  | .ask command next, gateway, files =>
    ⟨gateway.fate command files, gateway.filesAfter command files⟩ ::
      match (gateway.fate command files).result gateway.timeout command with
      | .error _ => []
      | .ok answer =>
        upshots (next answer) (gateway.after command files) (gateway.filesAfter command files)

/-! ## Attempts that are dialogues -/

/-- The attempt comes to what the dialogue comes to, while the clock stands still. -/
def Follows (attempt : Attempt (Gateway ε) error α) (dialogue : Dialogue (Except error α)) : Prop :=
  ∀ gateway world, Act.Ensures attempt.run gateway world
    (fun why => dialogue.hold gateway world.files = .error why)
    fun result gateway' world' =>
      dialogue.hold gateway world.files = .ok (result, gateway', world'.files) ∧
        world'.now = world.now

variable {gateway gateway' : Gateway ε} {world world' : World} {files : Files}

theorem Follows.run_of_error {attempt : Attempt (Gateway ε) error α}
    {dialogue : Dialogue (Except error α)} (h : Follows attempt dialogue) {why : Halt}
    (hheld : dialogue.hold gateway world.files = .error why) :
    attempt.run gateway world = .error why := by
  cases hrun : attempt.run gateway world with
  | error other =>
    have hother := (h gateway world).halts other hrun
    rw [hheld] at hother
    cases hother
    rfl
  | ok ended =>
    have hended := ((h gateway world).ends _ _ _ hrun).1
    rw [hheld] at hended
    cases hended

theorem Follows.run_of_ok {attempt : Attempt (Gateway ε) error α}
    {dialogue : Dialogue (Except error α)} (h : Follows attempt dialogue)
    {result : Except error α} (hheld : dialogue.hold gateway world.files
      = .ok (result, gateway', files)) :
    ∃ around, attempt.run gateway world = .ok ((result, gateway'), around) ∧
      around.files = files ∧ around.now = world.now := by
  cases hrun : attempt.run gateway world with
  | error why =>
    have hwhy := (h gateway world).halts why hrun
    rw [hheld] at hwhy
    cases hwhy
  | ok ended =>
    rcases ended with ⟨⟨found, last⟩, around⟩
    obtain ⟨hended, hnow⟩ := (h gateway world).ends _ _ _ hrun
    rw [hheld] at hended
    cases hended
    exact ⟨around, rfl, rfl, hnow⟩

/-- A command of a dialogue is asked for, and the dialogue goes on with the answer. -/
theorem submitAndWait_held {command : Command} {next : Except CommandError Output → Dialogue α}
    {held : Except Halt (α × Gateway ε × Files)} {Bad : CommandError → Gateway ε → World → Prop}
    {Good : Output → Gateway ε → World → Prop}
    (hheld : held = (ask command next).hold gateway world.files)
    (hfailed : ∀ error gateway' world', held = (next (.error error)).hold gateway' world'.files →
      world'.now = world.now → Bad error gateway' world')
    (hanswered : ∀ output gateway' world', held = (next (.ok output)).hold gateway' world'.files →
      world'.now = world.now → Good output gateway' world') :
    (Gateway.submitAndWait command).Ensures gateway world (fun why => held = .error why) Bad
      Good := by
  have hcommand := Gateway.submitAndWait_fate command gateway world
  constructor
  · intro why hwhy
    rw [hheld, hold, hcommand.halts why hwhy]
  · rintro (error | output) gateway' world' hends
    · obtain ⟨⟨rfl, hfiles, hnow⟩, hresult⟩ := hcommand.ends _ _ _ hends
      refine hfailed error _ world' ?_ hnow
      rw [hheld, hold, hresult, hfiles]
    · obtain ⟨⟨rfl, hfiles, hnow⟩, hresult⟩ := hcommand.ends _ _ _ hends
      refine hanswered output _ world' ?_ hnow
      rw [hheld, hold, hresult, hfiles]

/-! ## Dialogues that are alike -/

/-- Two dialogues in which the same kinds of commands are asked in the same order, whatever the
answers are. -/
inductive Alike : Dialogue α → Dialogue α → Prop
  | done (a : α) : Alike (.done a) (.done a)
  | broken (why : Halt) : Alike (.broken why) (.broken why)
  | ask {command command' : Command} {next next' : Except CommandError Output → Dialogue α} :
      command.name = command'.name → (∀ answer, Alike (next answer) (next' answer)) →
      Alike (.ask command next) (.ask command' next')

theorem Alike.refl (dialogue : Dialogue α) : Alike dialogue dialogue := by
  induction dialogue with
  | done a => exact .done a
  | broken why => exact .broken why
  | ask command next ih => exact .ask rfl ih

/-- As far as there are commands on both sides, what becomes of them is the same, and so are the
files after them for all that matters. -/
def Agree (Near : Files → Files → Prop) (upshots upshots' : List Upshot) : Prop :=
  ∀ (k : Nat) (upshot upshot' : Upshot), upshots[k]? = some upshot → upshots'[k]? = some upshot' →
    upshot.fate = upshot'.fate ∧ Near upshot.files upshot'.files

/-- Where files do not matter, the fates are all that has to agree. -/
theorem Agree.of_fates {upshots upshots' : List Upshot}
    (h : upshots.map Upshot.fate = upshots'.map Upshot.fate) :
    Agree (fun _ _ => True) upshots upshots' := by
  intro k upshot upshot' hupshot hupshot'
  have hfate : (upshots.map Upshot.fate)[k]? = (upshots'.map Upshot.fate)[k]? := by rw [h]
  rw [List.getElem?_map, List.getElem?_map, hupshot, hupshot'] at hfate
  exact ⟨Option.some.inj hfate, trivial⟩

variable {Near : Files → Files → Prop}

theorem Agree.head {upshot upshot' : Upshot} {later later' : List Upshot}
    (h : Agree Near (upshot :: later) (upshot' :: later')) :
    upshot.fate = upshot'.fate ∧ Near upshot.files upshot'.files := h 0 _ _ rfl rfl

theorem Agree.tail {upshot upshot' : Upshot} {later later' : List Upshot}
    (h : Agree Near (upshot :: later) (upshot' :: later')) : Agree Near later later' :=
  fun k => h (k + 1)

/-- What a fate comes to depends on the name of the command alone. -/
theorem result_congr (fate : Gateway.Fate) (timeout : Option Span) {command command' : Command}
    (h : command.name = command'.name) :
    fate.result timeout command = fate.result timeout command' := by
  rcases fate with code | (code | output) | outcome | _ <;>
    simp only [Gateway.Fate.result, h]

/-- Dialogues that are alike are held alike, by induction on them: as long as what becomes of the
commands agrees, the next commands are the same. What is left of the commands after the dialogue
agrees too. -/
theorem hold_alike {dialogue dialogue' : Dialogue α} (h : Alike dialogue dialogue')
    {gateway : Gateway ε} {gateway' : Gateway ε'} {files files' : Files}
    {rest rest' : List Upshot} (htimeout : gateway.timeout = gateway'.timeout)
    (hfiles : Near files files')
    (hagree : Agree Near (dialogue.upshots gateway files ++ rest)
      (dialogue'.upshots gateway' files' ++ rest')) :
    (∃ why, dialogue.hold gateway files = .error why ∧
        dialogue'.hold gateway' files' = .error why) ∨
      ∃ a last around last' around', dialogue.hold gateway files = .ok (a, last, around) ∧
        dialogue'.hold gateway' files' = .ok (a, last', around') ∧
        last.timeout = last'.timeout ∧ Near around around' ∧ Agree Near rest rest' := by
  induction h generalizing gateway gateway' files files' with
  | done a => exact .inr ⟨a, gateway, files, gateway', files', rfl, rfl, htimeout, hfiles, hagree⟩
  | broken why => exact .inl ⟨why, rfl, rfl⟩
  | @ask command command' next next' hname _ ih =>
    rw [upshots, upshots] at hagree
    obtain ⟨hfate, hafter⟩ := hagree.head
    have hlater := hagree.tail
    dsimp only at hfate hafter
    rw [hfate, result_congr _ _ hname, htimeout] at hlater
    rw [hold, hold, hfate, result_congr _ _ hname, htimeout]
    cases hresult : (gateway'.fate command' files').result gateway'.timeout command' with
    | error why => exact .inl ⟨why, rfl, rfl⟩
    | ok answer =>
      rw [hresult] at hlater
      refine ih answer ?_ hafter hlater
      rw [Gateway.timeout_after, Gateway.timeout_after, htimeout]

/-- Attempts that are dialogues keep step if the dialogues are alike and what becomes of the
commands agrees. -/
theorem Follows.lockstep {attempt : Attempt (Gateway ε) error α}
    {attempt' : Attempt (Gateway ε') error α} {dialogue dialogue' : Dialogue (Except error α)}
    (h : Follows attempt dialogue) (h' : Follows attempt' dialogue')
    (halike : Alike dialogue dialogue')
    {gateway : Gateway ε} {gateway' : Gateway ε'} {world world' : World}
    {rest rest' : List Upshot} (htimeout : gateway.timeout = gateway'.timeout)
    (hfiles : Near world.files world'.files) (hnow : world.now = world'.now)
    (hagree : Agree Near (dialogue.upshots gateway world.files ++ rest)
      (dialogue'.upshots gateway' world'.files ++ rest')) :
    attempt.Lockstep attempt' gateway world gateway' world' fun gateway world gateway' world' =>
      gateway.timeout = gateway'.timeout ∧ Near world.files world'.files ∧ world.now = world'.now ∧
        Agree Near rest rest' := by
  rcases hold_alike halike htimeout hfiles hagree with ⟨why, hheld, hheld'⟩ |
    ⟨result, last, files, last', files', hheld, hheld', hlast, hnear, hrest⟩
  · exact Act.Lockstep.of_halt (h.run_of_error hheld) (h'.run_of_error hheld')
  · obtain ⟨around, hrun, rfl, haround⟩ := h.run_of_ok hheld
    obtain ⟨around', hrun', rfl, haround'⟩ := h'.run_of_ok hheld'
    refine Act.Lockstep.of_eq hrun hrun' ⟨hlast, hnear, ?_, hrest⟩
    rw [haround, haround', hnow]

/-- Of the world, an attempt that is a dialogue sees the files alone. -/
theorem Follows.lockstep_self {attempt : Attempt (Gateway ε) error α}
    {dialogue : Dialogue (Except error α)} (h : Follows attempt dialogue) (gateway : Gateway ε)
    {world world' : World} (hfiles : world.files = world'.files) (hnow : world.now = world'.now) :
    attempt.Lockstep attempt gateway world gateway world' fun gateway world gateway' world' =>
      gateway = gateway' ∧ world.files = world'.files ∧ world.now = world'.now := by
  cases hheld : dialogue.hold gateway world.files with
  | error why =>
    exact Act.Lockstep.of_halt (h.run_of_error hheld) (h.run_of_error (hfiles ▸ hheld))
  | ok ended =>
    obtain ⟨around, hrun, haround, hlater⟩ := h.run_of_ok hheld
    obtain ⟨around', hrun', haround', hlater'⟩ :=
      h.run_of_ok (hfiles ▸ hheld)
    refine Act.Lockstep.of_eq hrun hrun' ⟨rfl, haround.trans haround'.symm, ?_⟩
    rw [hlater, hlater', hnow]

end Dialogue

/-! ## Sealing -/

namespace Sealer

/-- What is made of the answer to a command to encipher. -/
def judge (sealer : Sealer) (nonce : Bytes) (hnonce : nonce.length = nonceLen) :
    Except CommandError Output → Except CipherError Record
  | .error error => .error (.encryptionFailed error)
  | .ok (.ciphertext ciphertext) =>
    if ciphertext.length = sealer.blockLen then .ok ⟨nonce, ciphertext, hnonce⟩
    else .error (.unexpectedLength .ciphertext sealer.blockLen ciphertext.length)
  | .ok _ => .error (.encryptionFailed (.unexpectedResponse "encrypt"))

/-- How sealing goes on when a nonce was asked for. -/
def proceed (sealer : Sealer) (message : Bytes) :
    Except CommandError Output → Dialogue (Except CipherError Record)
  | .error error => .done (.error (.nonceGenerationFailed error))
  | .ok (.random nonce) =>
    if hnonce : nonce.length = nonceLen then
      .ask (.encrypt sealer.slot.id .cbc (sealer.block message) nonce) fun answer =>
        .done (sealer.judge nonce hnonce answer)
    else .done (.error (.unexpectedLength .nonce nonceLen nonce.length))
  | .ok _ => .done (.error (.nonceGenerationFailed (.unexpectedResponse "generate_random")))

/-- What is asked of an element to seal a message, and what is made of the answers. -/
def dialogue (sealer : Sealer) (message : Bytes) : Dialogue (Except CipherError Record) :=
  if sealer.blockLen < message.length then
    .done (.error (.plaintextTooLong message.length sealer.blockLen))
  else if capacityMax < sealer.blockLen then .broken .capacityOverflow
  else .ask (.generateRandom nonceLen) (sealer.proceed message)

/-- Two messages that fit into their blocks are sealed in dialogues that are alike. -/
theorem dialogue_alike {sealer : Sealer} {message message' : Bytes}
    (hfits : message.length ≤ sealer.blockLen) (hfits' : message'.length ≤ sealer.blockLen) :
    (sealer.dialogue message).Alike (sealer.dialogue message') := by
  rw [dialogue, dialogue, if_neg (Nat.not_lt.mpr hfits), if_neg (Nat.not_lt.mpr hfits')]
  split
  · exact .broken _
  refine .ask rfl fun answer => ?_
  rcases answer with error | (nonce | metadata | ciphertext | _)
  · exact .refl _
  · rw [proceed, proceed]
    split
    · exact .ask rfl fun answer => .refl _
    · exact .refl _
  · exact .refl _
  · exact .refl _
  · exact .refl _

variable {ε : Type} [Element ε] {held : Except Halt (Except CipherError Record × Gateway ε × Files)}
  {gateway : Gateway ε} {world : World} {since : Nat}

/-- The record is what the dialogue comes to, or it is an error; the clock stands still. -/
def Held (held : Except Halt (Except CipherError Record × Gateway ε × Files)) (since : Nat)
    (result : Except CipherError Record) (gateway : Gateway ε) (world : World) : Prop :=
  held = .ok (result, gateway, world.files) ∧ world.now = since

/-- Enciphering, and what is made of the answer. -/
theorem encrypt_held {sealer : Sealer} {message nonce : Bytes} {hnonce : nonce.length = nonceLen}
    (hheld : held = (Dialogue.ask (.encrypt sealer.slot.id .cbc (sealer.block message) nonce)
      fun answer => .done (sealer.judge nonce hnonce answer)).hold gateway world.files)
    (hnow : world.now = since) :
    (Gateway.encrypt sealer.slot .cbc (sealer.block message) nonce).Ensures gateway world
      (fun why => held = .error why)
      (fun error => Held held since (.error (.encryptionFailed error)))
      fun ciphertext gateway' world' =>
        (ciphertext.length ≠ sealer.blockLen → Held held since
          (.error (.unexpectedLength .ciphertext sealer.blockLen ciphertext.length)) gateway'
            world') ∧
        (ciphertext.length = sealer.blockLen →
          Held held since (.ok ⟨nonce, ciphertext, hnonce⟩) gateway' world') := by
  refine Gateway.encrypt_ensures (Dialogue.submitAndWait_held hheld ?_ ?_)
  · exact fun error gateway' world' herror hlater => ⟨herror, hlater.trans hnow⟩
  · intro output gateway' world' houtput hlater
    refine ⟨?_, fun hnone => ?_⟩
    · rintro ciphertext rfl
      rw [judge] at houtput
      refine ⟨fun hlen => ?_, fun hlen => ?_⟩
      · rw [if_neg hlen] at houtput
        exact ⟨houtput, hlater.trans hnow⟩
      · rw [if_pos hlen] at houtput
        exact ⟨houtput, hlater.trans hnow⟩
    · cases output with
      | ciphertext bytes => exact absurd rfl (hnone bytes)
      | random | metadata | done => exact ⟨houtput, hlater.trans hnow⟩

/-- Sealing a message is the dialogue. -/
theorem encryptMessage_follows (sealer : Sealer) (message : Bytes) :
    Dialogue.Follows (sealer.encryptMessage message : Attempt (Gateway ε) CipherError Record)
      (sealer.dialogue message) := by
  intro gateway world
  generalize hheld : (sealer.dialogue message).hold gateway world.files = held
  have hended : (sealer.encryptMessage message).Ensures gateway world (fun why => held = .error why)
      (fun error => Held held world.now (.error error))
      fun record => Held held world.now (.ok record) := by
    refine encryptMessage_ensures ?_ ?_ fun hfits hroom => Gateway.generateRandom_ensures ?_
    · intro hlong
      rw [dialogue, if_pos hlong] at hheld
      exact ⟨hheld.symm, rfl⟩
    · intro hfits hhuge
      rw [dialogue, if_neg (Nat.not_lt.mpr hfits), if_pos hhuge] at hheld
      exact hheld.symm
    · rw [dialogue, if_neg (Nat.not_lt.mpr hfits), if_neg (Nat.not_lt.mpr hroom)] at hheld
      refine Dialogue.submitAndWait_held hheld.symm (fun _ _ _ herror hnow => ⟨herror, hnow⟩) ?_
      intro output gateway' world' houtput hnow
      refine ⟨?_, fun hnone => ?_⟩
      · rintro nonce rfl
        rw [proceed] at houtput
        refine ⟨fun hlen => ?_, fun hlen => ?_⟩
        · rw [dif_neg hlen] at houtput
          exact ⟨houtput, hnow⟩
        · rw [dif_pos hlen] at houtput
          exact encrypt_held houtput hnow
      · cases output with
        | random bytes => exact absurd rfl (hnone bytes)
        | metadata | ciphertext | done => exact ⟨houtput, hnow⟩
  refine Act.Ensures.mono hended fun result _ _ hresult => ?_
  cases result with
  | error error => exact hresult
  | ok record => exact hresult

end Sealer

end SealedLog

import SealedLog.Proofs.Gateway.Dialogue
import SealedLog.Proofs.Gateway.Exchanges

/-!
# The courses that sealing can take

To seal a message is to ask for a nonce and to have a block enciphered from that nonce on. A message
that is too long is not asked about at all, nor is one whose block cannot be made; and without a
nonce of the right length nothing is enciphered. What goes wrong is told with the stage at which it
went wrong, and with the error of the command as it was.

- `Gateway.Handled`: the commands that led from one gateway to another, with their fates.
- `Sealer.Fitting`, `Sealer.Fills`: a message that has a block, and the block.
- `Sealer.Course`: the commands of an attempt, with what it comes to.
- `Sealer.encryptMessage_takes`: every attempt takes such a course.
-/

namespace SealedLog

open Gateway (Call Fate Records)

/-! ## Commands one after the other -/

namespace Gateway

variable {ε : Type} [Element ε] {gateway gateway' : Gateway ε} {files files' : Files}
  {commands : List (Command × Fate)}

/-- These commands were given one after the other, with these fates, and nothing else was done. -/
inductive Handled (gateway : Gateway ε) (files : Files) :
    List (Command × Fate) → Gateway ε → Files → Prop
  | start : Handled gateway files [] gateway files
  | command {commands : List (Command × Fate)} {gateway' : Gateway ε} {files' : Files}
      (next : Command) : Handled gateway files commands gateway' files' →
      Handled gateway files (commands ++ [(next, gateway'.fate next files')])
        (gateway'.after next files') (gateway'.filesAfter next files')

/-- Every command is counted. -/
theorem Handled.issued (h : Handled gateway files commands gateway' files') :
    gateway'.issued = gateway.issued + commands.length := by
  induction h with
  | start => rfl
  | command next _ ih =>
    rw [issued_after, ih, List.length_append, List.length_singleton, Nat.add_assoc]

/-- The element was handed these commands, in this order. -/
theorem Handled.handed {handed : ε → List Command} (hrecords : Records handed)
    (h : Handled gateway files commands gateway' files') :
    handed gateway'.element = handed gateway.element ++ commands.map Prod.fst := by
  induction h with
  | start => rw [List.map_nil, List.append_nil]
  | command next _ ih =>
    rw [hrecords.after, ih, List.map_append, List.append_assoc]
    rfl

theorem Handled.timeout (h : Handled gateway files commands gateway' files') :
    gateway'.timeout = gateway.timeout := by
  induction h with
  | start => rfl
  | command next _ ih => rw [timeout_after, ih]

end Gateway

namespace Sealer

/-! ## Blocks -/

/-- There is room for the message in a block, and such a block can be made. -/
structure Fitting (sealer : Sealer) (message : Bytes) : Prop where
  fits : message.length ≤ sealer.blockLen
  room : sealer.blockLen ≤ capacityMax

/-- The message is the start of the block, and the rest of the block is zero. -/
structure Fills (sealer : Sealer) (message block : Bytes) : Prop where
  length : block.length = sealer.blockLen
  room : block.length ≤ capacityMax
  starts : message <+: block
  zero : ∀ byte ∈ block.drop message.length, byte = 0

variable {sealer : Sealer} {message block : Bytes}

/-- Only a message for which there is room has a block. -/
theorem Fills.fitting (h : sealer.Fills message block) : sealer.Fitting message :=
  ⟨h.length ▸ h.starts.length_le, h.length ▸ h.room⟩

theorem not_fitting_iff :
    ¬sealer.Fitting message ↔ sealer.blockLen < message.length ∨ capacityMax < sealer.blockLen := by
  constructor
  · intro hnot
    by_contra hneither
    rw [not_or, Nat.not_lt, Nat.not_lt] at hneither
    exact hnot ⟨hneither.1, hneither.2⟩
  · rintro (hlong | hhuge) hfits
    · exact absurd hfits.fits (Nat.not_le.mpr hlong)
    · exact absurd hfits.room (Nat.not_le.mpr hhuge)

/-- There is one block for a message that fits, and it is the one that is enciphered. -/
theorem fills_iff (hfits : sealer.Fitting message) :
    sealer.Fills message block ↔ block = sealer.block message := by
  constructor
  · rintro ⟨hlen, -, ⟨rest, rfl⟩, hzero⟩
    rw [List.drop_left] at hzero
    rw [List.length_append] at hlen
    rw [Sealer.block, ← hlen, Nat.add_sub_cancel_left]
    exact congrArg (message ++ ·) (List.eq_replicate_iff.mpr ⟨rfl, hzero⟩)
  · rintro rfl
    have hlen := length_block hfits.fits
    refine ⟨hlen, hlen ▸ hfits.room, List.prefix_append _ _, fun byte hbyte => ?_⟩
    rw [Sealer.block, List.drop_left] at hbyte
    exact List.eq_of_mem_replicate hbyte

/-! ## Courses -/

/-- The commands of an attempt, in order and with their fates, and what the attempt comes to. -/
inductive Course (sealer : Sealer) (message : Bytes) (timeout : Option Span) :
    List (Command × Fate) → Except Halt (Except CipherError Record) → Prop
  /-- There is no room for the message. -/
  | tooLong : sealer.blockLen < message.length →
      Course sealer message timeout []
        (.ok (.error (.plaintextTooLong message.length sealer.blockLen)))
  /-- The block for the message cannot be made. -/
  | unmade : message.length ≤ sealer.blockLen → capacityMax < sealer.blockLen →
      Course sealer message timeout [] (.error .capacityOverflow)
  /-- No random bytes are to be had. -/
  | undrawn {fate : Fate} {error : CommandError} : sealer.Fitting message →
      (Call.generateRandom nonceLen).result timeout fate = .ok (.error error) →
      Course sealer message timeout [(.generateRandom nonceLen, fate)]
        (.ok (.error (.nonceGenerationFailed error)))
  /-- They are too few or too many. -/
  | misdrawn {nonce : Bytes} : sealer.Fitting message → nonce.length ≠ nonceLen →
      Course sealer message timeout [(.generateRandom nonceLen, .inTime (.ok (.random nonce)))]
        (.ok (.error (.unexpectedLength .nonce nonceLen nonce.length)))
  /-- The block is not enciphered. -/
  | unsealed {nonce block : Bytes} {fate : Fate} {error : CommandError} :
      nonce.length = nonceLen → sealer.Fills message block →
      (Call.encrypt sealer.slot .cbc block nonce).result timeout fate = .ok (.error error) →
      Course sealer message timeout
        [(.generateRandom nonceLen, .inTime (.ok (.random nonce))),
          (.encrypt sealer.slot.id .cbc block nonce, fate)]
        (.ok (.error (.encryptionFailed error)))
  /-- The ciphertext is not as long as the block. -/
  | missealed {nonce block ciphertext : Bytes} :
      nonce.length = nonceLen → sealer.Fills message block → ciphertext.length ≠ sealer.blockLen →
      Course sealer message timeout
        [(.generateRandom nonceLen, .inTime (.ok (.random nonce))),
          (.encrypt sealer.slot.id .cbc block nonce, .inTime (.ok (.ciphertext ciphertext)))]
        (.ok (.error (.unexpectedLength .ciphertext sealer.blockLen ciphertext.length)))
  /-- The message is sealed. -/
  | sealed {nonce block ciphertext : Bytes} (hnonce : nonce.length = nonceLen) :
      sealer.Fills message block → ciphertext.length = sealer.blockLen →
      Course sealer message timeout
        [(.generateRandom nonceLen, .inTime (.ok (.random nonce))),
          (.encrypt sealer.slot.id .cbc block nonce, .inTime (.ok (.ciphertext ciphertext)))]
        (.ok (.ok ⟨nonce, ciphertext, hnonce⟩))
  /-- Random bytes are waited for, and never come. -/
  | awaitingNonce {fate : Fate} : sealer.Fitting message →
      (Call.generateRandom nonceLen).result timeout fate = .error .waitsForever →
      Course sealer message timeout [(.generateRandom nonceLen, fate)] (.error .waitsForever)
  /-- The ciphertext is waited for, and never comes. -/
  | awaitingCiphertext {nonce block : Bytes} {fate : Fate} :
      nonce.length = nonceLen → sealer.Fills message block →
      (Call.encrypt sealer.slot .cbc block nonce).result timeout fate = .error .waitsForever →
      Course sealer message timeout
        [(.generateRandom nonceLen, .inTime (.ok (.random nonce))),
          (.encrypt sealer.slot.id .cbc block nonce, fate)]
        (.error .waitsForever)

namespace Course

variable {timeout : Option Span} {commands : List (Command × Fate)}
  {outcome outcome' : Except Halt (Except CipherError Record)}

/-- No command is given for a message that is too long or whose block cannot be made, and for no
other one. -/
theorem silent_iff (h : Course sealer message timeout commands outcome) :
    commands = [] ↔ sealer.blockLen < message.length ∨ capacityMax < sealer.blockLen := by
  rw [← not_fitting_iff]
  cases h with
  | tooLong hlong => exact ⟨fun _ => not_fitting_iff.mpr (.inl hlong), fun _ => rfl⟩
  | unmade _ hhuge => exact ⟨fun _ => not_fitting_iff.mpr (.inr hhuge), fun _ => rfl⟩
  | undrawn hfits | misdrawn hfits | awaitingNonce hfits => exact ⟨nofun, absurd hfits⟩
  | unsealed _ hfills | missealed _ hfills | sealed _ hfills | awaitingCiphertext _ hfills =>
    exact ⟨nofun, absurd hfills.fitting⟩

/-- A second command is given when random bytes of the right length have come, and only then. -/
theorem enciphers_iff (h : Course sealer message timeout commands outcome) :
    commands.length = 2 ↔ ∃ nonce, nonce.length = nonceLen ∧
      commands.head? = some (.generateRandom nonceLen, .inTime (.ok (.random nonce))) := by
  cases h with
  | tooLong | unmade => exact ⟨nofun, nofun⟩
  | undrawn _ hresult =>
    refine ⟨nofun, ?_⟩
    rintro ⟨nonce, -, hhead⟩
    cases hhead
    cases hresult
  | misdrawn _ hlen =>
    refine ⟨nofun, ?_⟩
    rintro ⟨nonce, hnonce, hhead⟩
    cases hhead
    exact absurd hnonce hlen
  | awaitingNonce _ hresult =>
    refine ⟨nofun, ?_⟩
    rintro ⟨nonce, -, hhead⟩
    cases hhead
    cases hresult
  | unsealed hnonce | missealed hnonce | sealed hnonce | awaitingCiphertext hnonce =>
    exact ⟨fun _ => ⟨_, hnonce, rfl⟩, fun _ => rfl⟩

/-- A record is made if the block was enciphered to its length, and only then. -/
theorem ok_iff (h : Course sealer message timeout commands outcome) (record : Record) :
    outcome = .ok (.ok record) ↔ ∃ block, sealer.Fills message block ∧
      record.ciphertext.length = sealer.blockLen ∧
      commands = [(.generateRandom nonceLen, .inTime (.ok (.random record.nonce))),
        (.encrypt sealer.slot.id .cbc block record.nonce,
          .inTime (.ok (.ciphertext record.ciphertext)))] := by
  rcases record with ⟨nonce, ciphertext, hnonce⟩
  constructor
  · rintro rfl
    cases h with
    | sealed _ hfills hlen => exact ⟨_, hfills, hlen, rfl⟩
  · rintro ⟨block, -, hlen, rfl⟩
    cases h with
    | unsealed _ _ hresult => cases hresult
    | missealed _ _ hne => exact absurd hlen hne
    | sealed => rfl
    | awaitingCiphertext _ _ hresult => cases hresult

/-- What an attempt comes to follows from its commands. -/
theorem unique (h : Course sealer message timeout commands outcome)
    (h' : Course sealer message timeout commands outcome') : outcome = outcome' := by
  cases h with
  | tooLong hlong =>
    cases h' with
    | tooLong => rfl
    | unmade hfits => exact absurd hfits (Nat.not_le.mpr hlong)
  | unmade hfits =>
    cases h' with
    | tooLong hlong => exact absurd hfits (Nat.not_le.mpr hlong)
    | unmade => rfl
  | undrawn _ hresult =>
    cases h' with
    | undrawn _ hresult' =>
      cases hresult.symm.trans hresult'
      rfl
    | misdrawn => cases hresult
    | awaitingNonce _ hresult' => cases hresult.symm.trans hresult'
  | misdrawn =>
    cases h' with
    | undrawn _ hresult' => cases hresult'
    | misdrawn => rfl
    | awaitingNonce _ hresult' => cases hresult'
  | unsealed _ _ hresult =>
    cases h' with
    | unsealed _ _ hresult' =>
      cases hresult.symm.trans hresult'
      rfl
    | missealed | sealed => cases hresult
    | awaitingCiphertext _ _ hresult' => cases hresult.symm.trans hresult'
  | missealed _ _ hne =>
    cases h' with
    | unsealed _ _ hresult' => cases hresult'
    | missealed => rfl
    | sealed _ _ hlen => exact absurd hlen hne
    | awaitingCiphertext _ _ hresult' => cases hresult'
  | sealed _ _ hlen =>
    cases h' with
    | unsealed _ _ hresult' => cases hresult'
    | missealed _ _ hne => exact absurd hlen hne
    | sealed => rfl
    | awaitingCiphertext _ _ hresult' => cases hresult'
  | awaitingNonce _ hresult =>
    cases h' with
    | undrawn _ hresult' => cases hresult.symm.trans hresult'
    | misdrawn => cases hresult
    | awaitingNonce => rfl
  | awaitingCiphertext _ _ hresult =>
    cases h' with
    | unsealed _ _ hresult' => cases hresult.symm.trans hresult'
    | missealed | sealed => cases hresult
    | awaitingCiphertext => rfl

end Course

/-! ## Attempts -/

/-- Only an output in time comes to an output. -/
theorem inTime_of_result {timeout : Option Span} {command : Command} {fate : Fate} {output : Output}
    (h : fate.result timeout command = .ok (.ok output)) : fate = .inTime (.ok output) := by
  rcases fate with code | (code | found) | outcome | _
  · cases h
  · cases h
  · cases h
    rfl
  all_goals cases timeout <;> cases h

/-- The only thing that keeps a command from coming back. -/
theorem waitsForever_of_result {timeout : Option Span} {command : Command} {fate : Fate} {why : Halt}
    (h : fate.result timeout command = .error why) : why = .waitsForever := by
  rcases fate with code | (code | found) | outcome | _
  · cases h
  · cases h
  · cases h
  all_goals
    cases timeout <;> cases h
    rfl

variable {ε : Type} [Element ε] {gateway : Gateway ε} {files : Files}

/-- Commands of a course were given, and there is nothing else that could have come of them. -/
def Taken (sealer : Sealer) (message : Bytes) (gateway : Gateway ε) (files : Files)
    (held : Except Halt (Except CipherError Record × Gateway ε × Files)) : Prop :=
  ∃ commands last files' outcome, gateway.Handled files commands last files' ∧
    Course sealer message gateway.timeout commands outcome ∧
    held = outcome.map fun result => (result, last, files')

/-- When there is a nonce, the block is enciphered. -/
theorem encipher_takes {nonce : Bytes} {last : Gateway ε} {files' : Files}
    (hfits : sealer.Fitting message) (hnonce : nonce.length = nonceLen)
    (h : gateway.Handled files [(.generateRandom nonceLen, .inTime (.ok (.random nonce)))] last
      files') :
    Taken sealer message gateway files
      ((Dialogue.ask (.encrypt sealer.slot.id .cbc (sealer.block message) nonce) fun answer =>
        .done (sealer.judge nonce hnonce answer)).hold last files') := by
  have hfills : sealer.Fills message (sealer.block message) := (fills_iff hfits).mpr rfl
  have hnext := h.command (.encrypt sealer.slot.id .cbc (sealer.block message) nonce)
  rw [Dialogue.hold, h.timeout]
  generalize last.fate (.encrypt sealer.slot.id .cbc (sealer.block message) nonce) files' = fate
    at hnext ⊢
  cases hresult : fate.result gateway.timeout
      (.encrypt sealer.slot.id .cbc (sealer.block message) nonce) with
  | error why =>
    obtain rfl := waitsForever_of_result hresult
    refine ⟨_, _, _, .error .waitsForever, hnext, .awaitingCiphertext hnonce hfills ?_, rfl⟩
    rw [Call.result, Call.asCommand, hresult]
    rfl
  | ok answer =>
    have hcall : (Call.encrypt sealer.slot .cbc (sealer.block message) nonce).result gateway.timeout
        fate = .ok (answer.bind
          (Call.encrypt sealer.slot .cbc (sealer.block message) nonce).judge) := by
      rw [Call.result, Call.asCommand, hresult]
      rfl
    rcases answer with error | output
    · exact ⟨_, _, _, _, hnext, .unsealed hnonce hfills hcall, rfl⟩
    · obtain rfl := inTime_of_result hresult
      cases output with
      | ciphertext ciphertext =>
        by_cases hlen : ciphertext.length = sealer.blockLen
        · refine ⟨_, _, _, _, hnext, .sealed hnonce hfills hlen, ?_⟩
          dsimp only
          rw [judge, if_pos hlen]
          rfl
        · refine ⟨_, _, _, _, hnext, .missealed hnonce hfills hlen, ?_⟩
          dsimp only
          rw [judge, if_neg hlen]
          rfl
      | random | metadata | done => exact ⟨_, _, _, _, hnext, .unsealed hnonce hfills hcall, rfl⟩

/-- Whatever the element answers, sealing takes a course. -/
theorem dialogue_takes (sealer : Sealer) (message : Bytes) (gateway : Gateway ε) (files : Files) :
    Taken sealer message gateway files ((sealer.dialogue message).hold gateway files) := by
  rw [dialogue]
  split
  · rename_i hlong
    exact ⟨[], gateway, files, _, .start, .tooLong hlong, rfl⟩
  · rename_i hshort
    split
    · rename_i hhuge
      exact ⟨[], gateway, files, _, .start, .unmade (Nat.le_of_not_lt hshort) hhuge, rfl⟩
    rename_i hroom
    have hfits : sealer.Fitting message := ⟨Nat.le_of_not_lt hshort, Nat.le_of_not_lt hroom⟩
    have hstart : gateway.Handled files [] gateway files := .start
    have hfirst := hstart.command (.generateRandom nonceLen)
    rw [Dialogue.hold]
    generalize gateway.fate (.generateRandom nonceLen) files = fate at hfirst ⊢
    cases hresult : fate.result gateway.timeout (.generateRandom nonceLen) with
    | error why =>
      obtain rfl := waitsForever_of_result hresult
      refine ⟨_, _, _, .error .waitsForever, hfirst, .awaitingNonce hfits ?_, rfl⟩
      rw [Call.result, Call.asCommand, hresult]
      rfl
    | ok answer =>
      have hcall : (Call.generateRandom nonceLen).result gateway.timeout fate
          = .ok (answer.bind (Call.generateRandom nonceLen).judge) := by
        rw [Call.result, Call.asCommand, hresult]
        rfl
      rcases answer with error | output
      · exact ⟨_, _, _, _, hfirst, .undrawn hfits hcall, rfl⟩
      · obtain rfl := inTime_of_result hresult
        cases output with
        | random nonce =>
          dsimp only
          rw [proceed]
          split
          · rename_i hnonce
            exact encipher_takes hfits hnonce hfirst
          · rename_i hnonce
            exact ⟨_, _, _, _, hfirst, .misdrawn hfits hnonce, rfl⟩
        | metadata | ciphertext | done => exact ⟨_, _, _, _, hfirst, .undrawn hfits hcall, rfl⟩

/-- Whatever the element answers, a message is sealed by the commands of a course, which are all that
the element is handed and all that is counted. None is given for a message that is too long, or
whose block cannot be made. A block is enciphered if and only if random bytes of the right length
have come, from these bytes on; and a record is made, of these bytes and the ciphertext, if and only
if this is as long as the block. -/
theorem encryptMessage_takes (sealer : Sealer) (message : Bytes) (gateway : Gateway ε)
    (world : World) :
    ∃ commands last files outcome, gateway.Handled world.files commands last files ∧
      Course sealer message gateway.timeout commands outcome ∧
      ((∃ why, outcome = .error why ∧
          (sealer.encryptMessage message).run gateway world = .error why) ∨
        ∃ result world', outcome = .ok result ∧
          (sealer.encryptMessage message).run gateway world = .ok ((result, last), world') ∧
          world'.files = files) ∧
      last.issued = gateway.issued + commands.length ∧
      (∀ handed : ε → List Command, Records handed →
        handed last.element = handed gateway.element ++ commands.map Prod.fst) ∧
      (commands = [] ↔ sealer.blockLen < message.length ∨ capacityMax < sealer.blockLen) ∧
      (commands.length = 2 ↔ ∃ nonce, nonce.length = nonceLen ∧
        commands.head? = some (.generateRandom nonceLen, .inTime (.ok (.random nonce)))) ∧
      ∀ record, (outcome = .ok (.ok record) → record.encodedLen = nonceLen + sealer.blockLen) ∧
        (outcome = .ok (.ok record) ↔ ∃ block, sealer.Fills message block ∧
          record.ciphertext.length = sealer.blockLen ∧
          commands = [(.generateRandom nonceLen, .inTime (.ok (.random record.nonce))),
            (.encrypt sealer.slot.id .cbc block record.nonce,
              .inTime (.ok (.ciphertext record.ciphertext)))]) := by
  obtain ⟨commands, last, files, outcome, hhandled, hcourse, hheld⟩ :=
    dialogue_takes sealer message gateway world.files
  refine ⟨commands, last, files, outcome, hhandled, hcourse, ?_, hhandled.issued,
    fun handed hrecords => hhandled.handed hrecords, hcourse.silent_iff, hcourse.enciphers_iff,
    fun record => ⟨fun hok => ?_, hcourse.ok_iff record⟩⟩
  · have hfollows := encryptMessage_follows (ε := ε) sealer message
    cases outcome with
    | error why => exact .inl ⟨why, rfl, hfollows.run_of_error hheld⟩
    | ok result =>
      obtain ⟨world', hrun, hfiles, -⟩ := hfollows.run_of_ok hheld
      exact .inr ⟨result, world', rfl, hrun, hfiles⟩
  · obtain ⟨block, -, hlen, -⟩ := (hcourse.ok_iff record).mp hok
    rw [Record.encodedLen, hlen]

end Sealer

end SealedLog

import SealedLog.Proofs.Gateway.Dialogue
import SealedLog.Proofs.Journal.Lockstep
import SealedLog.Proofs.Lasting
import SealedLog.ScriptedElement

/-!
# What a journal tells of its messages

A message goes to the element, and what is stored and told is made of the element's answers. Two
journals that are booted alike and called alike, with messages that may differ in all but this,
that they fit into their blocks, look the same after every call, if only their elements answer
alike.

- `Journal.Turn`, `Journal.seen`: calls at given times, and what is seen after each of them.
- `Journal.upshots`: what becomes of the commands that are given meanwhile.
- `Journal.Paired`: journals that look the same; `Call.answer_lockstep` keeps them so.
- `Journal.messages_unseen`: what is seen does not depend on the messages.
-/

namespace SealedLog

variable {ε ε' μ : Type} [Element ε] [Element ε']

/-- A connection has the same time limit, whatever commands are given. -/
theorem Gateway.enduring_timeout (timeout : Option Span) :
    Gateway.Enduring fun (gateway : Gateway ε) _ => gateway.timeout = timeout where
  notices _ h := h
  command {gateway world} command _ h := by
    refine ⟨fun _ _ => trivial, ?_⟩
    have hfate := submitAndWait_fate command gateway world
    rintro (error | output) gateway' world' hends
    · obtain ⟨hended, -⟩ := hfate.ends _ _ _ hends
      rw [hended.reached]
      exact (gateway.timeout_after command world.files).trans h
    · obtain ⟨hended, -⟩ := hfate.ends _ _ _ hends
      rw [hended.reached]
      exact (gateway.timeout_after command world.files).trans h

namespace Journal

/-! ## Calls at given times -/

/-- A call and its answer, whatever the medium is. -/
def Call.answer [Medium μ] : Call → Attempt (Journal ε μ) LogError Response
  | .appendStatus => do return .reported (← Journal.appendStatus)
  | .appendMessage plaintext => do return .added (← Journal.appendMessage plaintext)
  | .clear => do
    Journal.clear
    return .cleared
  | .dump limit => do
    let dump : HexDump (Medium.Reader μ) ← Journal.dump
    return .dumped (← (Act.within Journal.store (fun store journal => { journal with store })
      (Store.dumpItems limit dump) : Act (Journal ε μ) (List (Except StoreError HexChunk))))
  | .records => do return .listed (← Journal.records)
  | .recordCount => do return .counted (← Journal.recordCount)

/-- In memory these are the calls of a journal in memory. -/
theorem Call.answer_eq_perform (call : Call) :
    (call.answer : Attempt (Journal ε Memory) LogError Response) = call.perform := by
  cases call <;> rfl

/-- A call, and the clock when it is made. -/
structure Turn where
  call : Call
  now : Nat

/-- What is to be seen when a call has ended. -/
structure Sight (μ : Type) where
  result : Except LogError Response
  medium : μ
  files : Files

/-- The message that a call has sealed, if it seals one. -/
def Call.message? (journal : Journal ε μ) (now : Nat) : Call → Option Bytes
  | .appendStatus =>
    some (statusMessage (journal.sequence.current + 1) journal.started now).encode
  | .appendMessage plaintext => some plaintext
  | _ => none

/-- What becomes of the commands that a call gives. -/
def Call.upshots (call : Call) (journal : Journal ε μ) (world : World) : List Upshot :=
  match call.message? journal world.now with
  | some message => (journal.sealer.dialogue message).upshots journal.gateway world.files
  | none => []

variable [Medium μ]

/-- What is seen after each call, until a call does not come back. -/
def seen : List Turn → Journal ε μ → World → List (Except Halt (Sight μ))
  | [], _, _ => []
  | turn :: later, journal, world =>
    match turn.call.answer.run journal { world with now := turn.now } with
    | .error why => [.error why]
    | .ok ((result, journal), world) =>
      .ok ⟨result, journal.store.medium, world.files⟩ :: seen later journal world

/-- What becomes of the commands that all calls give, one after the other. -/
def upshots : List Turn → Journal ε μ → World → List Upshot
  | [], _, _ => []
  | turn :: later, journal, world =>
    turn.call.upshots journal { world with now := turn.now } ++
      match turn.call.answer.run journal { world with now := turn.now } with
      | .error _ => []
      | .ok ((_, journal), world) => upshots later journal world

/-! ## Journals that look the same -/

/-- The same call, but for messages that both fit into blocks of this length. -/
inductive Call.Alike (blockLen : Nat) : Call → Call → Prop
  | same (call : Call) : Alike blockLen call call
  | message {plaintext plaintext' : Bytes} :
      plaintext.length ≤ blockLen → plaintext'.length ≤ blockLen →
      Alike blockLen (.appendMessage plaintext) (.appendMessage plaintext')

/-- Calls at the same time that are the same but for their messages. -/
structure Turn.Alike (blockLen : Nat) (turn turn' : Turn) : Prop where
  call : turn.call.Alike blockLen turn'.call
  now : turn.now = turn'.now

/-- After both calls the same is to be seen, or neither of them came back. -/
def Sight.Same (Near : Files → Files → Prop) : Except Halt (Sight μ) → Except Halt (Sight μ) → Prop
  | .error why, .error why' => why = why'
  | .ok sight, .ok sight' => sight.result = sight'.result ∧ sight.medium = sight'.medium ∧
    Near sight.files sight'.files
  | _, _ => False

/-- Two journals with blocks of this length that look the same, at the same time. What their
elements hold is another matter. -/
structure Paired (Near : Files → Files → Prop) (blockLen : Nat) (journal : Journal ε μ)
    (world : World) (journal' : Journal ε' μ) (world' : World) : Prop where
  store : Store.Beside Near journal.store world journal'.store world'
  sealer : journal.sealer = journal'.sealer
  blockLen : journal.sealer.blockLen = blockLen
  sequence : journal.sequence = journal'.sequence
  started : journal.started = journal'.started
  timeout : journal.gateway.timeout = journal'.gateway.timeout

variable {Near : Files → Files → Prop} {blockLen : Nat} {journal : Journal ε μ}
  {journal' : Journal ε' μ} {world world' : World} {rest rest' : List Upshot}

omit [Element ε] [Element ε'] [Medium μ] in
/-- Only the files matter of what becomes of the world in between. -/
theorem Paired.at (h : Paired Near blockLen journal world journal' world') (now : Nat) :
    Paired Near blockLen journal { world with now } journal' { world' with now } :=
  { h with store := ⟨h.store.store, h.store.files, rfl⟩ }

/-- The journals look the same, and what becomes of the commands to come agrees. -/
def Paired.Ahead (Near : Files → Files → Prop) (blockLen : Nat) (rest rest' : List Upshot)
    (journal : Journal ε μ) (world : World) (journal' : Journal ε' μ) (world' : World) : Prop :=
  Paired Near blockLen journal world journal' world' ∧ Dialogue.Agree Near rest rest'

section

variable (hμ : Medium.Indifferent μ Near)
include hμ

/-- Messages that are sealed in dialogues that are alike are added alike. -/
theorem appendMessage_paired {plaintext plaintext' : Bytes}
    (h : Paired Near blockLen journal world journal' world')
    (halike : (journal.sealer.dialogue plaintext).Alike (journal.sealer.dialogue plaintext'))
    (hagree : Dialogue.Agree Near
      ((journal.sealer.dialogue plaintext).upshots journal.gateway world.files ++ rest)
      ((journal.sealer.dialogue plaintext').upshots journal'.gateway world'.files ++ rest')) :
    (appendMessage plaintext).Lockstep (appendMessage plaintext') journal world journal' world'
      (Paired.Ahead Near blockLen rest rest') := by
  have hsealed : (journal.sealer.encryptMessage plaintext).Lockstep
      (journal'.sealer.encryptMessage plaintext') journal.gateway world journal'.gateway world'
      fun gateway world gateway' world' => gateway.timeout = gateway'.timeout ∧
        Near world.files world'.files ∧ world.now = world'.now ∧
        Dialogue.Agree Near rest rest' := by
    rw [← h.sealer]
    exact (journal.sealer.encryptMessage_follows plaintext).lockstep
      (journal.sealer.encryptMessage_follows plaintext') halike h.timeout h.store.files h.store.now
      hagree
  refine appendMessage_lockstep hsealed ?_ ?_
  · rintro gateway world gateway' world' ⟨htimeout, hfiles, hnow, hrest⟩
    exact ⟨{ h with store := ⟨h.store.store, hfiles, hnow⟩, timeout := htimeout }, hrest⟩
  · rintro record gateway world gateway' world' ⟨htimeout, hfiles, hnow, hrest⟩
    have hstored := Store.append_lockstep hμ record ⟨h.store.store, hfiles, hnow⟩
    refine Act.Lockstep.mono hstored fun store world store' world' hbeside => ?_
    exact ⟨{ h with store := hbeside, timeout := htimeout }, hrest⟩

omit [Element ε] [Element ε'] hμ [Medium μ] in
/-- What the stores do side by side, the journals do. -/
theorem onStore_paired {α : Type} {attempt attempt' : Attempt (Store μ) StoreError α}
    (h : Paired.Ahead Near blockLen rest rest' journal world journal' world')
    (hstores : attempt.Lockstep attempt' journal.store world journal'.store world'
      (Store.Beside Near)) :
    (onStore attempt).Lockstep (onStore attempt') journal world journal' world'
      (Paired.Ahead Near blockLen rest rest') := by
  obtain ⟨hpaired, hrest⟩ := h
  refine onStore_lockstep (Act.Lockstep.mono hstores fun store world store' world' hbeside => ?_)
  exact ⟨{ hpaired with store := hbeside }, hrest⟩

/-- A status entry is the same message on both sides. -/
theorem appendStatus_paired (h : Paired Near blockLen journal world journal' world')
    (hagree : Dialogue.Agree Near (Call.appendStatus.upshots journal world ++ rest)
      (Call.appendStatus.upshots journal' world' ++ rest')) :
    appendStatus.Lockstep appendStatus journal world journal' world'
      (Paired.Ahead Near blockLen rest rest') := by
  simp only [Call.upshots, Call.message?, ← h.sequence, ← h.started, ← h.sealer, ← h.store.now]
    at hagree
  refine appendStatus_lockstep h.sequence (appendNumbered_lockstep h.started h.store.now ?_ ?_)
  · rintro journal world journal' world' _ _ ⟨hpaired, hrest⟩
    obtain ⟨hstore, hfiles, hnow⟩ := hpaired.store
    exact ⟨{ hpaired with store := ⟨hstore, hfiles, hnow⟩ }, hrest⟩
  · refine appendMessage_paired hμ ?_ (.refl _) hagree
    exact { h with sequence := rfl }

/-- Two calls that are alike are answered alike, if their commands are. -/
theorem Call.answer_lockstep {call call' : Call}
    (h : Paired Near blockLen journal world journal' world') (halike : call.Alike blockLen call')
    (hagree : Dialogue.Agree Near (call.upshots journal world ++ rest)
      (call'.upshots journal' world' ++ rest')) :
    call.answer.Lockstep call'.answer journal world journal' world'
      (Paired.Ahead Near blockLen rest rest') := by
  cases halike with
  | @message plaintext plaintext' hfits hfits' =>
    have halike := Sealer.dialogue_alike (h.blockLen ▸ hfits) (h.blockLen ▸ hfits')
    simp only [upshots, message?, ← h.sealer] at hagree
    exact (appendMessage_paired hμ h halike hagree).bind_pure
  | same =>
    cases call with
    | appendStatus =>
      exact (appendStatus_paired hμ h hagree).bind_pure
    | appendMessage plaintext =>
      simp only [upshots, message?, ← h.sealer] at hagree
      exact (appendMessage_paired hμ h (.refl _) hagree).bind_pure
    | clear =>
      exact (onStore_paired ⟨h, hagree⟩ (Store.clear_lockstep hμ h.store)).bind_pure
    | dump limit =>
      refine (onStore_paired ⟨h, hagree⟩ (Store.dump_lockstep hμ h.store)).bind ?_
      rintro dump journal world journal' world' ⟨hpaired, hrest⟩
      have hitems := (Store.dumpItems_lockstep hμ limit dump hpaired.store).mono
        fun store world store' world' hbeside =>
          show Paired.Ahead Near blockLen rest rest' { journal with store } world
            { journal' with store := store' } world' from
          ⟨{ hpaired with store := hbeside }, hrest⟩
      exact Attempt.Lockstep.bind_pure (Attempt.Lockstep.lift (Act.Lockstep.within hitems))
    | records =>
      exact (onStore_paired ⟨h, hagree⟩ (Store.records_lockstep hμ h.store)).bind_pure
    | recordCount =>
      exact (onStore_paired ⟨h, hagree⟩ (Store.recordCount_lockstep hμ h.store)).bind_pure

/-- Whatever calls follow, what is seen is the same, by induction on the calls. -/
theorem seen_same {turns turns' : List Turn}
    (h : ∀ now, Paired Near blockLen journal { world with now } journal' { world' with now })
    (halike : List.Forall₂ (Turn.Alike blockLen) turns turns')
    (hagree : Dialogue.Agree Near (upshots turns journal world) (upshots turns' journal' world')) :
    List.Forall₂ (Sight.Same Near) (seen turns journal world) (seen turns' journal' world') := by
  induction halike generalizing journal world journal' world' with
  | nil => exact .nil
  | @cons turn turn' later later' hturn _ ih =>
    obtain ⟨hcall, hnow⟩ := hturn
    rw [upshots, upshots, ← hnow] at hagree
    have hanswers := Call.answer_lockstep hμ (h turn.now) hcall hagree
    rw [seen, seen, ← hnow]
    rcases hanswers.cases with ⟨why, hhalt, hhalt'⟩ |
      ⟨result, last, around, last', around', hrun, hrun', hlast, hlater⟩
    · rw [hhalt, hhalt']
      exact .cons rfl .nil
    · rw [hrun, hrun'] at hlater ⊢
      refine .cons ⟨rfl, congrArg Store.medium hlast.store.store, hlast.store.files⟩ ?_
      exact ih hlast.at hlater

/-! ## From the boot on -/

omit hμ [Element ε'] in
/-- What is known of a journal that was booted. -/
theorem bootOver_booted (config : Config) (medium : μ) (gateway : Gateway ε) (world : World) :
    (bootOver config medium).Ensures gateway world (fun _ => True) (fun _ _ _ => True)
      fun journal _ _ => journal.sealer = ⟨config.slot, config.blockLen⟩ ∧
        journal.store = ⟨medium, config.recordLen⟩ ∧ journal.sequence = {} ∧
        journal.started = world.now ∧
        journal.gateway.timeout = config.element.completionTimeout := by
  refine bootOver_ensures (fun _ _ => trivial) fun _ => ?_
  let custody : Custody ε := ⟨rewired config gateway, config.slot, .unknown⟩
  have htimeout : custody.gateway.timeout = config.element.completionTimeout := rfl
  refine (Custody.ensureKeyReady_lasting (Gateway.enduring_timeout _) htimeout
    config.forceRegenerate).mono (fun _ _ _ _ => trivial) ?_
  exact fun provisioning custody world' hready notices => ⟨rfl, rfl, rfl, rfl, hready⟩

/-- Two journals are booted with the same configuration, over the same medium, at the same time, and
called alike, with messages that may differ in all but this, that they fit into their blocks. If
what becomes of the commands agrees, one by one, then after every call the same is to be seen:
the answer or the error, the medium, and files that the medium cannot tell apart. -/
theorem messages_unseen {config : Config} {medium : μ} {first gateway : Gateway ε}
    {first' gateway' : Gateway ε'} {booted booted' : World} (hclock : world.now = world'.now)
    (hboot : (bootOver config medium).run first world = .ok ((.ok journal, gateway), booted))
    (hboot' : (bootOver config medium).run first' world' = .ok ((.ok journal', gateway'), booted'))
    (hfiles : Near booted.files booted'.files) {turns turns' : List Turn}
    (halike : List.Forall₂ (Turn.Alike config.blockLen) turns turns')
    (hagree : Dialogue.Agree Near (upshots turns journal booted)
      (upshots turns' journal' booted')) :
    List.Forall₂ (Sight.Same Near) (seen turns journal booted) (seen turns' journal' booted') := by
  obtain ⟨hsealer, hstore, hsequence, hstarted, htimeout⟩ :=
    (bootOver_booted config medium first world).ends _ _ _ hboot
  obtain ⟨hsealer', hstore', hsequence', hstarted', htimeout'⟩ :=
    (bootOver_booted config medium first' world').ends _ _ _ hboot'
  refine seen_same hμ (fun now => ?_) halike hagree
  exact
    { store := ⟨hstore.trans hstore'.symm, hfiles, rfl⟩
      sealer := hsealer.trans hsealer'.symm
      blockLen := congrArg Sealer.blockLen hsealer
      sequence := hsequence.trans hsequence'.symm
      started := by rw [hstarted, hstarted', hclock]
      timeout := htimeout.trans htimeout'.symm }

end

omit [Element ε'] in
theorem upshots_of_ok {turn : Turn} {later : List Turn} {last : Journal ε μ} {around : World}
    {result : Except LogError Response}
    (h : turn.call.answer.run journal { world with now := turn.now }
      = .ok ((result, last), around)) :
    upshots (turn :: later) journal world
      = turn.call.upshots journal { world with now := turn.now } ++ upshots later last around := by
  rw [upshots, h]

omit [Element ε'] in
theorem upshots_singleton (turn : Turn) (journal : Journal ε μ) (world : World) :
    upshots [turn] journal world
      = turn.call.upshots journal { world with now := turn.now } := by
  rw [upshots]
  split
  · exact List.append_nil _
  · exact List.append_nil _

/-- A gateway to an element that has a key, is a byte short with a message and seals another. -/
def stumbling : Gateway ScriptedElement where
  element :=
    { steps :=
        [{ answer := .output (.metadata [1]) },
          { answer := .output (.random (.replicate 16 7)) },
          { answer := .output (.ciphertext (.replicate 63 9)) },
          { answer := .output (.random (.replicate 16 7)) },
          { answer := .output (.ciphertext (.replicate 64 9)) }] }
  timeout := none

/-- Of two messages one is refused and one is added; neither their bytes nor their lengths can be
seen. -/
theorem messages_unseen_after_short_ciphertext :
    ∃ (journal : Journal ScriptedElement Memory) (gateway : Gateway ScriptedElement)
      (booted : World),
      (bootOver {} (⟨none⟩ : Memory)).run stumbling {} = .ok ((.ok journal, gateway), booted) ∧
      (upshots [⟨.appendMessage [5], 10⟩, ⟨.appendMessage [], 20⟩] journal booted).length = 4 ∧
      List.Forall₂ (Sight.Same fun _ _ => True)
        (seen [⟨.appendMessage [5], 10⟩, ⟨.appendMessage [], 20⟩] journal booted)
        (seen [⟨.appendMessage [6, 7], 10⟩, ⟨.appendMessage [8], 20⟩] journal booted) := by
  -- The calls are evaluated up to what the store writes.
  have heval : ((bootOver {} (⟨none⟩ : Memory)).run stumbling {}).toOption.any (fun booted =>
      booted.1.1.toOption.any fun journal =>
        ((Call.answer (.appendMessage [5])).run journal { booted.2 with now := 10 }).toOption.any
          fun failed =>
        ((Call.answer (.appendMessage [6, 7])).run journal { booted.2 with now := 10 }).toOption.any
          fun failed' =>
        ((Call.appendMessage [5]).upshots journal { booted.2 with now := 10 } ++
            (Call.appendMessage []).upshots failed.1.2 { failed.2 with now := 20 }).length = 4 ∧
          ((Call.appendMessage [5]).upshots journal { booted.2 with now := 10 } ++
              (Call.appendMessage []).upshots failed.1.2 { failed.2 with now := 20 }).map
                Upshot.fate
            = ((Call.appendMessage [6, 7]).upshots journal { booted.2 with now := 10 } ++
              (Call.appendMessage [8]).upshots failed'.1.2 { failed'.2 with now := 20 }).map
                Upshot.fate) = true := by
    decide +kernel
  simp only [any_toOption, Prod.exists, decide_eq_true_eq] at heval
  obtain ⟨_, gateway, booted, hboot, journal, rfl, result, failed, around, hfailed, result',
    failed', around', hfailed', hlen, hfates⟩ := heval
  have hupshots : upshots [⟨.appendMessage [5], 10⟩, ⟨.appendMessage [], 20⟩] journal booted
      = (Call.appendMessage [5]).upshots journal { booted with now := 10 }
        ++ (Call.appendMessage []).upshots failed { around with now := 20 } := by
    rw [upshots_of_ok hfailed, upshots_singleton]
  have hupshots' : upshots [⟨.appendMessage [6, 7], 10⟩, ⟨.appendMessage [8], 20⟩] journal booted
      = (Call.appendMessage [6, 7]).upshots journal { booted with now := 10 }
        ++ (Call.appendMessage [8]).upshots failed' { around' with now := 20 } := by
    rw [upshots_of_ok hfailed', upshots_singleton]
  refine ⟨journal, gateway, booted, hboot, ?_, ?_⟩
  · rw [hupshots]
    exact hlen
  · refine messages_unseen Memory.indifferent rfl hboot hboot trivial ?_ ?_
    · exact .cons ⟨.message (by decide) (by decide), rfl⟩
        (.cons ⟨.message (by decide) (by decide), rfl⟩ .nil)
    · refine Dialogue.Agree.of_fates ?_
      rw [hupshots, hupshots']
      exact hfates

end Journal

end SealedLog

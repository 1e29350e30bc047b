import SealedLog.Proofs.Cbc
import SealedLog.Proofs.Files.Shape
import SealedLog.Proofs.SoftElement.Run

/-!
# Keys stay inside

Two elements that differ in the bytes of their keys only are told apart by nothing but the bytes of
ciphertexts. Slots with the same metadata and keys of the same lengths are `Matched`; so are two
elements that agree in all but such slots, and their surroundings if the files around them have the
same shape, since a state file holds the keys. Each command keeps the match and is answered alike,
with ciphertexts of the same length.

- `Event`, `Situation.live`: a life of an element, with all that is heard of it.
- `Output.veiled`: an answer with the bytes of a ciphertext blotted out.
- `matched_execute`, `matched_perform`, `matched_workOff`: what a command, a job and a worker do in
  both elements.
- `keys_unseen`: what is heard of two matched elements is the same behind the veil.
-/

namespace SealedLog

/-! ## What may be seen -/

/-- An answer with the bytes of a ciphertext, but not their number, blotted out. -/
def Output.veiled : Output → Output
  | .ciphertext bytes => .ciphertext (List.replicate bytes.length 0)
  | output => output

/-- A resolution with such an answer. -/
def Resolution.veiled (resolution : Resolution) : Resolution :=
  { resolution with outcome := resolution.outcome.map Output.veiled }

theorem Output.veiled_ciphertext {bytes bytes' : Bytes} (h : bytes.length = bytes'.length) :
    veiled (.ciphertext bytes) = veiled (.ciphertext bytes') := by
  rw [veiled, veiled, h]

/-! ## Slots -/

/-- What a slot shows of itself: its metadata, and whether there is a key and how long it is. -/
def SlotEntry.face (entry : SlotEntry) : Bytes × Option Nat :=
  (entry.metadata, entry.key.map List.length)

namespace Slots

/-- The same slots are written, with the same metadata and with keys of the same lengths. -/
def Matched (slots slots' : Slots) : Prop :=
  ∀ id, (slots.get? id).map SlotEntry.face = (slots'.get? id).map SlotEntry.face

variable {slots slots' : Slots}

/-- A slot is written in both or in neither, and shows the same. -/
theorem Matched.get?_cases (h : slots.Matched slots') (id : ObjectId) :
    (slots.get? id = none ∧ slots'.get? id = none) ∨
      ∃ entry entry', slots.get? id = some entry ∧ slots'.get? id = some entry' ∧
        entry.face = entry'.face := by
  have hface := h id
  cases hfirst : slots.get? id with
  | none =>
    rw [hfirst, Option.map_none] at hface
    exact .inl ⟨rfl, Option.map_eq_none_iff.mp hface.symm⟩
  | some entry =>
    rw [hfirst, Option.map_some] at hface
    obtain ⟨entry', hsecond, heq⟩ := Option.map_eq_some_iff.mp hface.symm
    exact .inr ⟨entry, entry', rfl, hsecond, heq.symm⟩

theorem Matched.metadata_eq (h : slots.Matched slots') (id : ObjectId) :
    slots.metadata id = slots'.metadata id := by
  rw [metadata, metadata]
  rcases h.get?_cases id with ⟨hfirst, hsecond⟩ | ⟨entry, entry', hfirst, hsecond, hface⟩ <;>
    rw [hfirst, hsecond]
  exact congrArg Prod.fst hface

/-- There is a key in both or in neither, and of the same length. -/
theorem Matched.key?_cases (h : slots.Matched slots') (id : ObjectId) :
    (slots.key? id = none ∧ slots'.key? id = none) ∨
      ∃ key key', slots.key? id = some key ∧ slots'.key? id = some key' ∧
        key.length = key'.length := by
  rw [key?, key?]
  rcases h.get?_cases id with ⟨hfirst, hsecond⟩ | ⟨entry, entry', hfirst, hsecond, hface⟩ <;>
    rw [hfirst, hsecond]
  · exact .inl ⟨rfl, rfl⟩
  · have hlength : entry.key.map List.length = entry'.key.map List.length :=
      congrArg Prod.snd hface
    rw [Option.bind_some, Option.bind_some]
    cases hkey : entry.key with
    | none =>
      rw [hkey, Option.map_none] at hlength
      exact .inl ⟨rfl, Option.map_eq_none_iff.mp hlength.symm⟩
    | some key =>
      rw [hkey, Option.map_some] at hlength
      obtain ⟨key', hkey', heq⟩ := Option.map_eq_some_iff.mp hlength.symm
      exact .inr ⟨key, key', rfl, hkey', heq.symm⟩

theorem Matched.insert (h : slots.Matched slots') (id : ObjectId) {entry entry' : SlotEntry}
    (hentry : entry.face = entry'.face) :
    (slots.insert id entry).Matched (slots'.insert id entry') := by
  intro other
  rw [get?_insert, get?_insert]
  split
  · exact congrArg some hentry
  · exact h other

end Slots

namespace SoftElement

/-! ## Commands -/

/-- Two elements that agree in all but the bytes of keys. -/
def Matched (element element' : SoftElement) : Prop :=
  ∃ slots, element.slots.Matched slots ∧ element' = { element with slots }

variable {element element' : SoftElement} {files files' : Files}

/-- Two executions that no one outside can tell apart. -/
structure Execution.Matched (execution execution' : Execution) : Prop where
  outcome : execution.outcome.map Output.veiled = execution'.outcome.map Output.veiled
  element : SoftElement.Matched execution.element execution'.element
  files : execution.files.shape = execution'.files.shape
  notices : execution.notices = execution'.notices

/-- Storing slots succeeds with both keys, or fails with both for the same reason. -/
theorem matched_commit (h : Matched element element') (hfiles : files.shape = files'.shape)
    (id : ObjectId) {entry entry' : SlotEntry} (hentry : entry.face = entry'.face) :
    (element.commit id entry files).Matched (element'.commit id entry' files') := by
  obtain ⟨slots', hslots, rfl⟩ := h
  have hinserted := hslots.insert id hentry
  rcases element with ⟨slots, generator, latency, handover, stateFile, queue, spent, faults, old,
    stalled⟩
  cases stateFile with
  | none => exact ⟨rfl, ⟨_, hinserted, rfl⟩, hfiles, rfl⟩
  | some path =>
    have hfirst := Files.blurs_save Sha256.digest path (slots.insert id entry) files
    have hsecond := Files.blurs_save Sha256.digest path (slots'.insert id entry') files'
    rw [hfiles, hsecond] at hfirst
    rw [commit, commit]
    dsimp only
    generalize StateFile.save Sha256.digest path (slots.insert id entry) files = saved at hfirst
    generalize StateFile.save Sha256.digest path (slots'.insert id entry') files' = saved'
      at hfirst
    rcases saved with ⟨result, stored⟩
    rcases saved' with ⟨result', stored'⟩
    obtain ⟨rfl, hstored⟩ : result' = result ∧ stored'.shape = stored.shape := Prod.mk.inj hfirst
    cases result' with
    | ok _ => exact ⟨rfl, ⟨_, hinserted, rfl⟩, hstored.symm, rfl⟩
    | error error => exact ⟨rfl, ⟨slots', hslots, rfl⟩, hstored.symm, rfl⟩

/-- A message is enciphered under both keys or under neither, and to the same length. -/
theorem encryptAes_cases {key key' : Bytes} (h : key.length = key'.length) (iv message : Bytes) :
    (Cbc.encryptAes key iv message = none ∧ Cbc.encryptAes key' iv message = none) ∨
      ∃ ciphertext ciphertext', Cbc.encryptAes key iv message = some ciphertext ∧
        Cbc.encryptAes key' iv message = some ciphertext' ∧
        ciphertext.length = ciphertext'.length := by
  by_cases hparts : key.length = Aes.blockLen ∧ iv.length = Aes.blockLen
      ∧ message.length % Aes.blockLen = 0
  · obtain ⟨hkey, hiv, hmessage⟩ := hparts
    obtain ⟨ciphertext, hcipher, hlen⟩ := Cbc.exists_encryptAes hkey hiv hmessage
    obtain ⟨ciphertext', hcipher', hlen'⟩ := Cbc.exists_encryptAes (h ▸ hkey) hiv hmessage
    exact .inr ⟨ciphertext, ciphertext', hcipher, hcipher', hlen.trans hlen'.symm⟩
  · refine .inl ⟨if_neg hparts, if_neg ?_⟩
    rw [← h]
    exact hparts

/-- A key is made in both slots or in neither; it is the same key then. -/
theorem matched_generate {slots' : Slots} (hslots : element.slots.Matched slots')
    (hfiles : files.shape = files'.shape) (slot : ObjectId) (algorithm : Algorithm)
    (usage : KeyUsage) :
    (element.execute (.generateSymmetricKey slot algorithm usage) files).Matched
      (execute { element with slots := slots' } (.generateSymmetricKey slot algorithm usage)
        files') := by
  have hsame : Matched element { element with slots := slots' } := ⟨slots', hslots, rfl⟩
  rw [execute, execute]
  rcases hslots.get?_cases slot with ⟨hfirst, hsecond⟩ | ⟨entry, entry', hfirst, hsecond, hface⟩
  · rw [hfirst, hsecond]
    exact ⟨rfl, hsame, hfiles, rfl⟩
  · have hmetadata : entry.metadata = entry'.metadata := congrArg Prod.fst hface
    rw [hfirst, hsecond]
    dsimp only
    rw [hmetadata]
    split
    · exact ⟨rfl, hsame, hfiles, rfl⟩
    · have hdrawn : Matched
          { element with generator := (element.generator.fill algorithm.keyLen).2 }
          { element with
            generator := (element.generator.fill algorithm.keyLen).2
            slots := slots' } :=
        ⟨slots', hslots, rfl⟩
      exact matched_commit hdrawn hfiles slot rfl

/-- A message is enciphered with both keys or with neither. -/
theorem matched_encrypt {slots' : Slots} (hslots : element.slots.Matched slots')
    (hfiles : files.shape = files'.shape) (slot : ObjectId) (mode : CipherMode)
    (plaintext iv : Bytes) :
    (element.execute (.encrypt slot mode plaintext iv) files).Matched
      (execute { element with slots := slots' } (.encrypt slot mode plaintext iv) files') := by
  have hsame : Matched element { element with slots := slots' } := ⟨slots', hslots, rfl⟩
  cases mode
  rw [execute, execute]
  rcases hslots.key?_cases slot with ⟨hfirst, hsecond⟩ | ⟨key, key', hfirst, hsecond, hlength⟩
  · rw [hfirst, hsecond]
    exact ⟨rfl, hsame, hfiles, rfl⟩
  · rw [hfirst, hsecond]
    dsimp only
    split
    · exact ⟨rfl, hsame, hfiles, rfl⟩
    · rcases encryptAes_cases hlength iv plaintext with
        ⟨hcipher, hcipher'⟩ | ⟨ciphertext, ciphertext', hcipher, hcipher', hlen⟩
      · rw [hcipher, hcipher']
        exact ⟨rfl, hsame, hfiles, rfl⟩
      · rw [hcipher, hcipher']
        exact ⟨congrArg Except.ok (Output.veiled_ciphertext hlen), hsame, hfiles, rfl⟩

/-- A command does not tell matched elements apart. -/
theorem matched_execute (h : Matched element element') (hfiles : files.shape = files'.shape)
    (command : Command) :
    (element.execute command files).Matched (element'.execute command files') := by
  obtain ⟨slots', hslots, rfl⟩ := h
  have hsame : Matched element { element with slots := slots' } := ⟨slots', hslots, rfl⟩
  cases command with
  | generateRandom len => exact ⟨rfl, ⟨slots', hslots, rfl⟩, hfiles, rfl⟩
  | readMetadata slot =>
    rw [execute, execute, hslots.metadata_eq]
    exact ⟨rfl, hsame, hfiles, rfl⟩
  | writeMetadata slot metadata =>
    refine matched_commit hsame hfiles slot ?_
    -- The key that is there stays, whatever it is.
    rcases hslots.get?_cases slot with ⟨hfirst, hsecond⟩ | ⟨entry, entry', hfirst, hsecond, hface⟩
    · rw [hfirst, hsecond]
    · rw [hfirst, hsecond]
      exact congrArg (fun face => (metadata, face.2)) hface
  | generateSymmetricKey slot algorithm usage =>
    exact matched_generate hslots hfiles slot algorithm usage
  | encrypt slot mode plaintext iv => exact matched_encrypt hslots hfiles slot mode plaintext iv

/-! ## The worker -/

/-- Two activities that no one outside can tell apart. -/
structure ActivityMatched (activity activity' : Activity SoftElement) : Prop where
  element : Matched activity.element activity'.element
  files : activity.files.shape = activity'.files.shape
  timely : activity.timely.map Resolution.veiled = activity'.timely.map Resolution.veiled
  overdue : activity.overdue.map Resolution.veiled = activity'.overdue.map Resolution.veiled
  elapsed : activity.elapsed = activity'.elapsed
  notices : activity.notices = activity'.notices

/-- The last byte is lost behind the veil as it is before it. -/
theorem veiled_shortened (output : Output) :
    (shortened output).veiled = shortened output.veiled := by
  cases output with
  | ciphertext bytes =>
    rw [shortened, Output.veiled, Output.veiled, shortened, List.length_dropLast,
      List.dropLast_replicate]
  | random bytes => rfl
  | metadata bytes => rfl
  | done => rfl

/-- An executed job is resolved alike, whatever is done to its output on the way. -/
theorem matched_executed (h : Matched element element') (hfiles : files.shape = files'.shape)
    (job : Job) {change : Output → Output}
    (hchange : ∀ output, (change output).veiled = change output.veiled) :
    ActivityMatched (perform.executed element job files change)
      (perform.executed element' job files' change) := by
  have hexecution := matched_execute h hfiles job.command
  have hthrough : ∀ outcome : Outcome,
      (outcome.map change).map Output.veiled = (outcome.map Output.veiled).map change := by
    rintro (code | output)
    · rfl
    · exact congrArg Except.ok (hchange output)
  refine ⟨hexecution.element, hexecution.files, ?_, rfl, rfl, hexecution.notices⟩
  refine congrArg (fun outcome => [(⟨job.ticket, outcome⟩ : Resolution)]) ?_
  rw [hthrough, hthrough, hexecution.outcome]

/-- A job does not tell matched elements apart, whatever fault it comes with. -/
theorem matched_perform (h : Matched element element') (hfiles : files.shape = files'.shape)
    (job : Job) : ActivityMatched (element.perform job files) (element'.perform job files') := by
  rw [perform, perform]
  split
  · obtain ⟨slots', hslots, rfl⟩ := h
    exact ⟨⟨slots', hslots, rfl⟩, hfiles, rfl, rfl, rfl, rfl⟩
  · exact ⟨h, hfiles, rfl, rfl, rfl, rfl⟩
  · exact matched_executed h hfiles job veiled_shortened
  · exact matched_executed h hfiles job fun _ => rfl

/-- Nor do any number of jobs, by induction on them. -/
theorem matched_workOff (jobs : List Job) (limit : Option Span) (h : Matched element element')
    (hfiles : files.shape = files'.shape) :
    ActivityMatched (workOff limit jobs element files) (workOff limit jobs element' files') := by
  induction jobs generalizing limit element element' files files' with
  | nil => exact ⟨h, hfiles, rfl, rfl, rfl, rfl⟩
  | cons job later ih =>
    obtain ⟨slots', hslots, rfl⟩ := h
    -- How long a job takes is no matter of keys.
    have hduration : ({ element with slots := slots' } : SoftElement).duration job
        = element.duration job := rfl
    rw [workOff, workOff, hduration]
    dsimp only
    split
    · have hready : Matched { element with spent := ⟨0⟩ }
          { element with slots := slots', spent := ⟨0⟩ } :=
        ⟨slots', hslots, rfl⟩
      have hfirst := matched_perform hready hfiles job
      have hrest := ih (limit.map (· - (element.duration job - element.spent))) hfirst.element
        hfirst.files
      refine ⟨hrest.element, hrest.files, ?_, hrest.overdue, ?_, ?_⟩
      · rw [List.map_append, List.map_append, hfirst.timely, hrest.timely]
      · exact congrArg (_ + ·) hrest.elapsed
      · rw [hfirst.notices, hrest.notices]
    · exact ⟨⟨slots', hslots, rfl⟩, hfiles, rfl, rfl, rfl, rfl⟩

theorem matched_await (h : Matched element element') (hfiles : files.shape = files'.shape)
    (limit : Option Span) : ActivityMatched (element.await limit files)
      (element'.await limit files') := by
  obtain ⟨slots', hslots, rfl⟩ := h
  exact matched_workOff element.queue limit ⟨slots', hslots, rfl⟩ hfiles

/-! ## Submission -/

/-- Two reactions that no one outside can tell apart. -/
structure ReactionMatched (reaction reaction' : Reaction SoftElement) : Prop where
  element : Matched reaction.element reaction'.element
  refusal : reaction.refusal = reaction'.refusal
  resolved : reaction.resolved = reaction'.resolved

/-- Submission does not look at slots at all. -/
theorem matched_react (h : Matched element element') (ticket : Ticket) (command : Command) :
    ReactionMatched (element.react ticket command) (element'.react ticket command) := by
  obtain ⟨slots', hslots, rfl⟩ := h
  rw [react, react]
  cases checkParameters command with
  | error code => exact ⟨⟨slots', hslots, rfl⟩, rfl, rfl⟩
  | ok _ =>
    dsimp only
    split
    · exact ⟨⟨slots', hslots, rfl⟩, rfl, rfl⟩
    · exact ⟨⟨slots', hslots, rfl⟩, rfl, rfl⟩

/-! ## Lives -/

/-- What can be done to an element from outside. -/
inductive Event
  | submit (command : Command)
  | inject (fault : Fault)
  | work (limit : Option Span)

/-- What is heard of an element. -/
structure Heard where
  refusal : Option StatusCode := none
  resolved : List Resolution := []
  elapsed : Span := ⟨0⟩
  notices : List Notice := []

/-- The same behind the veil. -/
def Heard.veiled (heard : Heard) : Heard :=
  { heard with resolved := heard.resolved.map Resolution.veiled }

namespace Situation

/-- One event: what is heard, and how things stand then. -/
def meet (situation : Situation) : Event → Heard × Situation
  | .submit command =>
    let reaction := situation.element.react situation.issued command
    ({ refusal := reaction.refusal, resolved := reaction.resolved },
      { situation with element := reaction.element, issued := situation.issued + 1 })
  | .inject fault => ({}, { situation with element := situation.element.injectFault fault })
  | .work limit =>
    let activity := situation.element.await limit situation.files
    ({ resolved := activity.timely ++ activity.overdue
       elapsed := activity.elapsed
       notices := activity.notices },
      { situation with element := activity.element, files := activity.files })

/-- One event after the other. -/
def live : List Event → Situation → List Heard × Situation
  | [], situation => ([], situation)
  | event :: later, situation =>
    let (heard, situation) := situation.meet event
    let (rest, situation) := live later situation
    (heard :: rest, situation)

/-- What happens in a life could have happened step by step. -/
theorem run_live (events : List Event) {first situation : Situation}
    {outside : Files → Files → Prop} (h : Run outside first situation) :
    Run outside first (situation.live events).2 := by
  induction events generalizing situation with
  | nil => exact h
  | cons event later ih =>
    refine ih (h.tail ?_)
    cases event with
    | submit command => exact .submit command
    | inject fault => exact .inject fault
    | work limit => exact .work limit

/-- Two situations that differ in key bytes only, and in the bytes in files. -/
structure Matched (situation situation' : Situation) : Prop where
  element : SoftElement.Matched situation.element situation'.element
  files : situation.files.shape = situation'.files.shape
  issued : situation.issued = situation'.issued

theorem matched_meet {situation situation' : Situation} (h : situation.Matched situation')
    (event : Event) :
    (situation.meet event).1.veiled = (situation'.meet event).1.veiled ∧
      (situation.meet event).2.Matched (situation'.meet event).2 := by
  cases event with
  | submit command =>
    have hreaction := matched_react h.element situation.issued command
    rw [meet, meet, ← h.issued]
    refine ⟨?_, hreaction.element, h.files, rfl⟩
    rw [Heard.veiled, Heard.veiled, hreaction.refusal, hreaction.resolved]
  | inject fault =>
    obtain ⟨slots', hslots, helement⟩ := h.element
    refine ⟨rfl, ⟨slots', hslots, ?_⟩, h.files, h.issued⟩
    rw [meet, helement]
    rfl
  | work limit =>
    have hactivity := matched_await h.element h.files limit
    refine ⟨?_, hactivity.element, hactivity.files, h.issued⟩
    rw [meet, meet, Heard.veiled, Heard.veiled, List.map_append, List.map_append,
      hactivity.timely, hactivity.overdue, hactivity.elapsed, hactivity.notices]

theorem matched_live (events : List Event) {situation situation' : Situation}
    (h : situation.Matched situation') :
    (situation.live events).1.map Heard.veiled = (situation'.live events).1.map Heard.veiled ∧
      (situation.live events).2.Matched (situation'.live events).2 := by
  induction events generalizing situation situation' with
  | nil => exact ⟨rfl, h⟩
  | cons event later ih =>
    obtain ⟨hheard, hthen⟩ := matched_meet h event
    obtain ⟨hlater, hend⟩ := ih hthen
    exact ⟨congrArg₂ List.cons hheard hlater, hend⟩

end Situation

/-! ## Two lives -/

/-- Two elements that differ in the bytes of their keys live through the same events: each
submission is answered alike, the same commands are resolved in the same order after the same time
and with the same answers, ciphertexts of the same length apart, and the same is noted. The history
is the same, and so are the commands held back. -/
theorem keys_unseen (element : SoftElement) {slots' : Slots}
    (hslots : element.slots.Matched slots') {files files' : Files}
    (hfiles : files.shape = files'.shape) (issued : Nat) (events : List Event) :
    let first := Situation.live events ⟨element, files, issued⟩
    let second := Situation.live events ⟨{ element with slots := slots' }, files', issued⟩
    first.1.map Heard.veiled = second.1.map Heard.veiled ∧
      first.2.element.history = second.2.element.history ∧
      first.2.element.stalled = second.2.element.stalled := by
  intro first second
  have hstart : Situation.Matched ⟨element, files, issued⟩
      ⟨{ element with slots := slots' }, files', issued⟩ :=
    ⟨⟨slots', hslots, rfl⟩, hfiles, rfl⟩
  obtain ⟨hheard, hend⟩ := Situation.matched_live events hstart
  obtain ⟨slots, -, helement⟩ := hend.element
  refine ⟨hheard, ?_, ?_⟩ <;> rw [helement]

/-- Under two keys the ciphertexts differ in their bytes, and in nothing else that is heard. -/
theorem keys_unseen_encrypt :
    let element : SoftElement :=
      { generator := .stepping 1 1, stateFile := some ⟨"state.json"⟩, faults := [.shortOutput] }
    let slots := (element.withKey defaultKeySlot (List.replicate 16 1)).slots
    let slots' := (element.withKey defaultKeySlot (List.replicate 16 2)).slots
    let iv : Bytes := List.replicate 16 0
    let events : List Event :=
      [.submit (.encrypt defaultKeySlot .cbc iv iv), .work none,
        .submit (.writeMetadata defaultKeySlot [7]), .inject .stall, .work (some ⟨0⟩),
        .submit (.generateSymmetricKey defaultKeySlot .aes128 .encryption), .work none]
    let first := Situation.live events ⟨{ element with slots }, {}, 0⟩
    let second := Situation.live events ⟨{ element with slots := slots' }, {}, 0⟩
    slots.Matched slots' ∧
      first.1.map Heard.veiled = second.1.map Heard.veiled ∧
      (first.1.flatMap Heard.resolved).map (·.outcome.toOption)
        ≠ (second.1.flatMap Heard.resolved).map (·.outcome.toOption) := by
  intro element slots slots' iv events first second
  have hslots : slots.Matched slots' := Slots.Matched.insert (fun _ => rfl) defaultKeySlot rfl
  refine ⟨hslots, ?_, ?_⟩
  · exact (keys_unseen { element with slots } hslots rfl 0 events).1
  · decide +kernel

end SoftElement

end SealedLog

import SealedLog.Proofs.Gateway.Fate
import SealedLog.Proofs.Lasting
import SealedLog.Proofs.SoftElement.Worker

/-!
# Draws of random bytes

Nonces and keys are sixteen bytes each, so an element that serves a log takes two words of its
generator at a time. A job takes them when it is executed and at no other time: a command that
fails before that takes none, and one that fails after it has used them up.

- `Generator.draw`: the sixteen bytes taken at each time.
- `Generator.Gives`: what was taken so far, one draw after the other.
- `SoftElement.Tallied`: an element beside a list of the jobs it did. The element does not see the
  list.
- `Deed.draw?`, `Deed.key?`: the draw that a job took, and the key that it made.
- `Tallied.lasting_sound`: the draws are taken in order and none is left out.
- `Tallied.encryptMessage_fresh`: a record takes a draw of its own.
-/

namespace SealedLog

/-! ## Sixteen bytes at a time -/

namespace Generator

/-- The generator when it was asked so many times for sixteen bytes. -/
def advanced (generator : Generator) (count : Nat) : Generator :=
  { generator with used := generator.used + 2 * count }

/-- The sixteen bytes that come after so many times sixteen: two words, least significant byte
first. -/
def draw (generator : Generator) (index : Nat) : Bytes := (generator.advanced index).bytes 2

theorem advanced_advanced (generator : Generator) (count more : Nat) :
    (generator.advanced count).advanced more = generator.advanced (count + more) := by
  rw [advanced, advanced, advanced]
  congr 1
  dsimp only
  omega

theorem draw_advanced (generator : Generator) (count index : Nat) :
    (generator.advanced count).draw index = generator.draw (count + index) := by
  rw [draw, draw, advanced_advanced]

theorem length_draw (generator : Generator) (index : Nat) :
    (generator.draw index).length = nonceLen :=
  SoftElement.length_bytes _ 2

/-- Sixteen bytes are one draw. -/
theorem fill_eq_draw (generator : Generator) :
    generator.fill nonceLen = (generator.draw 0, generator.advanced 1) := by
  have hlen : (generator.bytes 2).length ≤ nonceLen :=
    Nat.le_of_eq (SoftElement.length_bytes generator 2)
  exact congrArg (·, generator.advanced 1) (List.take_of_length_le hlen)

/-- The first generator gave these draws in order and no others, and it has become the second. -/
structure Gives (generator : Generator) (draws : List Bytes) (generator' : Generator) : Prop where
  inOrder : draws = (List.range draws.length).map generator.draw
  rest : generator' = generator.advanced draws.length

variable {generator generator' generator'' : Generator} {draws draws' : List Bytes}

theorem Gives.refl (generator : Generator) : generator.Gives [] generator := ⟨rfl, rfl⟩

theorem Gives.one (generator : Generator) :
    generator.Gives [generator.draw 0] (generator.advanced 1) := ⟨rfl, rfl⟩

theorem Gives.trans (h : generator.Gives draws generator')
    (h' : generator'.Gives draws' generator'') : generator.Gives (draws ++ draws') generator'' := by
  constructor
  · rw [List.length_append, List.range_add, List.map_append, ← h.inOrder, List.map_map]
    refine congrArg (draws ++ ·) (h'.inOrder.trans (List.map_congr_left fun index _ => ?_))
    rw [h.rest, draw_advanced]
    rfl
  · rw [h'.rest, h.rest, advanced_advanced, List.length_append]

end Generator

namespace SoftElement

/-! ## Jobs -/

/-- A job that was done, with the element that did it and the files before it. -/
structure Deed where
  element : SoftElement
  job : Job
  files : Files

namespace Deed

variable {deed : Deed}

/-- What was done. -/
def activity (deed : Deed) : Activity SoftElement := deed.element.perform deed.job deed.files

/-- The words of the generator that were used up. -/
def words (deed : Deed) : Nat :=
  deed.activity.element.generator.used - deed.element.generator.used

/-- The bytes of these words, if there are any. -/
def draw? (deed : Deed) : Option Bytes :=
  if deed.words = 0 then none else some (deed.element.generator.bytes deed.words)

/-- Whether random bytes were asked for. -/
def asksRandom (deed : Deed) : Bool :=
  match deed.job.command with
  | .generateRandom _ => true
  | _ => false

/-- The key that was made: what is in the slot when the command went well. -/
def key? (deed : Deed) : Option Bytes :=
  match deed.job.command with
  | .generateSymmetricKey slot _ _ =>
    if deed.activity.timely.any fun resolution => resolution.outcome.isOk then
      deed.activity.element.slots.key? slot
    else none
  | _ => none

theorem draw?_eq_none (h : deed.activity.element.generator = deed.element.generator) :
    deed.draw? = none := by
  rw [draw?, words, h, Nat.sub_self, if_pos rfl]

theorem draw?_eq_some
    (h : deed.activity.element.generator = deed.element.generator.advanced 1) :
    deed.draw? = some (deed.element.generator.draw 0) := by
  have hwords : deed.words = 2 := by
    rw [words, h, Generator.advanced]
    dsimp only
    omega
  rw [draw?, hwords, if_neg (by decide)]
  rfl

end Deed

/-- Storing slots, or failing to, does not touch the generator. -/
theorem generator_commit (element : SoftElement) (id : ObjectId) (entry : SlotEntry)
    (files : Files) : (element.commit id entry files).element.generator = element.generator := by
  rw [commit]
  cases element.stateFile with
  | none => rfl
  | some path =>
    dsimp only
    split <;> rfl

/-- A command that a log gives takes one draw or none. -/
theorem gives_execute (element : SoftElement) {command : Command} (h : command.OfLog)
    (files : Files) :
    (element.execute command files).element.generator = element.generator ∨
      (element.execute command files).element.generator = element.generator.advanced 1 := by
  cases command with
  | generateRandom len =>
    obtain rfl : len = nonceLen := h
    exact .inr rfl
  | readMetadata slot => exact .inl rfl
  | writeMetadata slot metadata => exact .inl (generator_commit element slot _ files)
  | generateSymmetricKey slot algorithm usage =>
    rw [execute]
    split
    · exact .inl rfl
    · split
      · exact .inl rfl
      · cases algorithm
        exact .inr (generator_commit _ slot _ files)
  | encrypt slot mode plaintext iv =>
    cases mode
    rw [execute]
    split
    · exact .inl rfl
    · split
      · exact .inl rfl
      · split <;> exact .inl rfl

/-- A key that could be stored is the draw that was taken for it. -/
theorem key?_execute {element : SoftElement} {slot : ObjectId} {algorithm : Algorithm}
    {usage : KeyUsage} {files : Files} {output : Output}
    (h : (element.execute (.generateSymmetricKey slot algorithm usage) files).outcome
      = .ok output) :
    (element.execute (.generateSymmetricKey slot algorithm usage) files).element.generator
        = element.generator.advanced 1 ∧
      (element.execute (.generateSymmetricKey slot algorithm usage) files).element.slots.key? slot
        = some (element.generator.draw 0) := by
  cases algorithm
  have hkey : element.generator.fill Algorithm.aes128.keyLen
      = (element.generator.draw 0, element.generator.advanced 1) :=
    element.generator.fill_eq_draw
  rw [execute] at h ⊢
  rw [hkey] at h ⊢
  cases hslot : element.slots.get? slot with
  | none =>
    rw [hslot] at h
    cases h
  | some entry =>
    rw [hslot] at h
    dsimp only at h ⊢
    split at h
    · cases h
    · rename_i hmetadata
      rw [if_neg hmetadata]
      refine ⟨generator_commit _ slot _ files, ?_⟩
      rcases commit_cases { element with generator := element.generator.advanced 1 } slot
        { entry with key := some (element.generator.draw 0) } files with
        ⟨-, hslots⟩ | ⟨houtcome, -⟩
      · rw [hslots, Slots.key?_insert, if_pos rfl]
      · rw [houtcome] at h
        cases h

namespace Deed

variable {deed : Deed}

/-- So does a job, whatever fault it comes with. -/
theorem gives (h : deed.job.command.OfLog) :
    deed.element.generator.Gives deed.draw?.toList deed.activity.element.generator := by
  have hdrawn : deed.activity.element.generator = deed.element.generator ∨
      deed.activity.element.generator = deed.element.generator.advanced 1 := by
    rw [activity, perform]
    split
    · exact .inl rfl
    · exact .inl rfl
    · exact gives_execute deed.element h deed.files
    · exact gives_execute deed.element h deed.files
  rcases hdrawn with hnone | hone
  · rw [draw?_eq_none hnone, hnone]
    exact .refl _
  · rw [draw?_eq_some hone, hone]
    exact .one _

/-- A job that is resolved with an output was executed, and the output is the one it came to or
that without its last byte. -/
theorem executed_of_ok {ticket : Ticket} {output : Output}
    (h : (⟨ticket, .ok output⟩ : Resolution) ∈ deed.activity.timely) :
    ∃ whole, (deed.element.execute deed.job.command deed.files).outcome = .ok whole ∧
      (output = whole ∨ output = shortened whole) ∧
      deed.activity.element = (deed.element.execute deed.job.command deed.files).element := by
  have hchanged : ∀ change, (⟨ticket, .ok output⟩ : Resolution) ∈
      (perform.executed deed.element deed.job deed.files change).timely →
      ∃ whole, (deed.element.execute deed.job.command deed.files).outcome = .ok whole ∧
        output = change whole := by
    intro change hmem
    have houtcome := congrArg Resolution.outcome (List.mem_singleton.mp hmem)
    dsimp only at houtcome
    cases hwhole : (deed.element.execute deed.job.command deed.files).outcome with
    | error code =>
      rw [hwhole] at houtcome
      cases houtcome
    | ok whole =>
      rw [hwhole] at houtcome
      exact ⟨whole, rfl, Except.ok.inj houtcome⟩
  rw [activity, perform] at h ⊢
  split at h
  · cases h
  · cases List.mem_singleton.mp h
  · obtain ⟨whole, hwhole, houtput⟩ := hchanged _ h
    exact ⟨whole, hwhole, .inr houtput, rfl⟩
  · obtain ⟨whole, hwhole, houtput⟩ := hchanged _ h
    exact ⟨whole, hwhole, .inl houtput, rfl⟩

/-- Sixteen random bytes that were answered are the draw that was taken. -/
theorem draw?_of_random {ticket : Ticket} {bytes : Bytes}
    (hcommand : deed.job.command = .generateRandom nonceLen)
    (h : (⟨ticket, .ok (.random bytes)⟩ : Resolution) ∈ deed.activity.timely)
    (hlen : bytes.length = nonceLen) : deed.draw? = some bytes := by
  obtain ⟨whole, hwhole, houtput, helement⟩ := executed_of_ok h
  rw [hcommand, execute, Generator.fill_eq_draw] at hwhole helement
  obtain rfl : Output.random (deed.element.generator.draw 0) = whole := Except.ok.inj hwhole
  have hdraw : deed.draw? = some (deed.element.generator.draw 0) :=
    draw?_eq_some (congrArg SoftElement.generator helement)
  rcases houtput with hwhole | hshort
  · rw [hdraw, Output.random.inj hwhole]
  · -- An answer that lost a byte has not got sixteen.
    rw [Output.random.inj hshort, List.length_dropLast, Generator.length_draw] at hlen
    exact absurd hlen (by decide)

/-- A key that was made is the draw that was taken. -/
theorem draw?_of_key {key : Bytes} (h : deed.key? = some key) :
    deed.draw? = some key ∧ deed.asksRandom = false := by
  rw [key?] at h
  rw [asksRandom]
  split at h
  · rename_i slot algorithm usage hcommand
    rw [hcommand]
    refine ⟨?_, rfl⟩
    split at h
    · rename_i hany
      obtain ⟨⟨ticket, outcome⟩, hmem, hok⟩ := List.any_eq_true.mp hany
      cases outcome with
      | error code => cases hok
      | ok output =>
        obtain ⟨whole, hwhole, -, helement⟩ := executed_of_ok hmem
        rw [hcommand] at hwhole helement
        obtain ⟨hgenerator, hkey⟩ := key?_execute hwhole
        rw [helement, hkey] at h
        rw [← Option.some.inj h]
        exact draw?_eq_some ((congrArg SoftElement.generator helement).trans hgenerator)
    · cases h
  · cases h

end Deed

/-! ## Work -/

/-- The jobs that a worker does while there is time. -/
def deeds (limit : Option Span) : List Job → SoftElement → Files → List Deed
  | [], _, _ => []
  | job :: later, element, files =>
    let need := element.duration job - element.spent
    if need.isWithin limit then
      let deed : Deed := ⟨{ element with spent := ⟨0⟩ }, job, files⟩
      deed :: deeds (limit.map (· - need)) later deed.activity.element deed.activity.files
    else []

variable {limit : Option Span} {jobs : List Job} {element : SoftElement} {files : Files}

/-- Whatever is resolved is resolved by a job that is done. -/
theorem timely_workOff : (workOff limit jobs element files).timely
    = (deeds limit jobs element files).flatMap fun deed => deed.activity.timely := by
  induction jobs generalizing limit element files with
  | nil => rfl
  | cons job later ih =>
    rw [workOff, deeds]
    dsimp only
    split
    · rw [List.flatMap_cons, ← ih]
      rfl
    · rfl

theorem job_mem_of_mem_deeds {deed : Deed} (h : deed ∈ deeds limit jobs element files) :
    deed.job ∈ jobs := by
  induction jobs generalizing limit element files with
  | nil => cases h
  | cons job later ih =>
    rw [deeds] at h
    dsimp only at h
    split at h
    · rcases List.mem_cons.mp h with rfl | hlater
      · exact List.mem_cons_self
      · exact List.mem_cons_of_mem job (ih hlater)
    · cases h

/-- The draws of the jobs follow each other, by induction on the jobs. -/
theorem gives_workOff (limit : Option Span) (element : SoftElement) (files : Files)
    (h : ∀ job ∈ jobs, job.command.OfLog) :
    element.generator.Gives ((deeds limit jobs element files).filterMap Deed.draw?)
      (workOff limit jobs element files).element.generator := by
  induction jobs generalizing limit element files with
  | nil => exact .refl _
  | cons job later ih =>
    rw [workOff, deeds]
    dsimp only
    split
    · let deed : Deed := ⟨{ element with spent := ⟨0⟩ }, job, files⟩
      have hfirst := deed.gives (h job List.mem_cons_self)
      have hsplit : ∀ rest : List Deed, (deed :: rest).filterMap Deed.draw?
          = deed.draw?.toList ++ rest.filterMap Deed.draw? := by
        intro rest
        rw [List.filterMap_cons]
        cases deed.draw? <;> rfl
      rw [hsplit]
      exact hfirst.trans (ih _ _ _ fun other hother => h other (List.mem_cons_of_mem job hother))
    · exact .refl _

/-! ## Tallies -/

/-- An element beside the jobs it has done, first one first. -/
structure Tallied where
  element : SoftElement
  deeds : List Deed := []

namespace Tallied

/-- Commands and waits go through to the element. -/
instance : Element Tallied where
  name tallied := Element.name tallied.element
  submit ticket command tallied :=
    (Element.submit ticket command tallied.element).map fun element => { tallied with element }
  await limit tallied files :=
    (Element.await limit tallied.element files).map fun element =>
      ⟨element, tallied.deeds
        ++ SoftElement.deeds limit tallied.element.queue { tallied.element with queue := [] } files⟩

/-- The draws taken so far, whatever became of them. -/
def draws (tallied : Tallied) : List Bytes := tallied.deeds.filterMap Deed.draw?

/-- Those of them taken for random bytes. -/
def randoms (tallied : Tallied) : List Bytes :=
  (tallied.deeds.filter Deed.asksRandom).filterMap Deed.draw?

/-- The keys made so far. -/
def keys (tallied : Tallied) : List Bytes := tallied.deeds.filterMap Deed.key?

/-- No key is a draw taken for random bytes. -/
theorem randoms_append_keys (tallied : Tallied) :
    (tallied.randoms ++ tallied.keys).Subperm tallied.draws := by
  have hkeys : tallied.keys.Sublist
      ((tallied.deeds.filter fun deed => !deed.asksRandom).filterMap Deed.draw?) := by
    rw [keys]
    induction tallied.deeds with
    | nil => exact .slnil
    | cons deed rest ih =>
      rw [List.filterMap_cons]
      cases hkey : deed.key? with
      | none =>
        refine ih.trans (List.Sublist.filterMap _ ?_)
        exact (List.sublist_cons_self deed rest).filter _
      | some key =>
        obtain ⟨hdraw, hrandom⟩ := Deed.draw?_of_key hkey
        rw [List.filter_cons_of_pos (by rw [hrandom]; rfl), List.filterMap_cons, hdraw]
        exact ih.cons_cons key
  have hsplit : (tallied.randoms
      ++ (tallied.deeds.filter fun deed => !deed.asksRandom).filterMap Deed.draw?).Perm
        tallied.draws := by
    rw [randoms, ← List.filterMap_append]
    exact (List.filter_append_perm Deed.asksRandom tallied.deeds).filterMap Deed.draw?
  exact ((List.Sublist.refl _).append hkeys).subperm.trans hsplit.subperm

/-- The tally is right: only commands of a log were ever queued, and all that the generator gave is
in the tally. Nonces that are known of are draws taken for random bytes, each for one of them. -/
structure Sound (first : Generator) (nonces : List Bytes) (tallied : Tallied) (issued : Nat) :
    Prop where
  proper : ∀ job ∈ tallied.element.queue, job.command.OfLog
  queued : ∀ job ∈ tallied.element.queue, job.ticket < issued
  gives : first.Gives tallied.draws tallied.element.generator
  nonces : nonces.Sublist tallied.randoms

variable {first : Generator} {nonces : List Bytes} {tallied : Tallied} {issued : Nat}

/-- A nonce that is in no record need not be known of. -/
theorem Sound.forget {nonce : Bytes} (h : Sound first (nonces ++ [nonce]) tallied issued) :
    Sound first nonces tallied issued :=
  ⟨h.proper, h.queued, h.gives, (List.sublist_append_left _ _).trans h.nonces⟩

/-- What is done later is added to the tally. -/
theorem Sound.extend (h : Sound first nonces tallied issued) {later : SoftElement}
    {done : List Deed} (hqueue : ∀ job ∈ later.queue, job ∈ tallied.element.queue)
    (hgives : tallied.element.generator.Gives (done.filterMap Deed.draw?) later.generator) :
    Sound first nonces ⟨later, tallied.deeds ++ done⟩ issued where
  proper job hjob := h.proper job (hqueue job hjob)
  queued job hjob := h.queued job (hqueue job hjob)
  gives := by
    rw [draws, List.filterMap_append]
    exact h.gives.trans hgives
  nonces := by
    rw [randoms, List.filter_append, List.filterMap_append]
    exact h.nonces.trans (List.sublist_append_left _ _)

theorem sound_await (h : Sound first nonces tallied issued) (limit : Option Span)
    (files : Files) : Sound first nonces (Element.await limit tallied files).element issued := by
  refine h.extend (fun job hjob => ?_)
    (gives_workOff limit { tallied.element with queue := [] } files h.proper)
  rcases mem_queue_workOff hjob with hqueue | hnone
  · exact hqueue
  · cases hnone

theorem sound_submit (h : Sound first nonces tallied issued) {command : Command}
    (hcommand : command.OfLog) :
    Sound first nonces (Element.submit issued command tallied).element (issued + 1) := by
  show Sound first nonces
    { tallied with element := (tallied.element.react issued command).element } (issued + 1)
  refine ⟨fun job hjob => ?_, fun job hjob => ?_, ?_, h.nonces⟩
  · rcases mem_queue_react hjob with hold | ⟨-, hnew⟩
    · exact h.proper job hold
    · exact hnew ▸ hcommand
  · rcases mem_queue_react hjob with hold | ⟨hnew, -⟩
    · exact Nat.lt_succ_of_lt (h.queued job hold)
    · exact hnew ▸ Nat.lt_succ_self issued
  · rcases react_cases issued command tallied.element with ⟨code, faults, hreact⟩ | hreact <;>
      rw [hreact] <;> exact h.gives

/-- The tally stays sound under the commands of a log, with whatever nonces are known of. -/
theorem lasting_sound (first : Generator) (nonces : List Bytes) :
    Element.LastingUnder Command.OfLog fun tallied issued _ =>
      Sound first nonces tallied issued where
  submit hcommand h := sound_submit h hcommand
  await limit h := sound_await h limit _

/-! ## Nonces -/

open Gateway

/-- A gateway to an element whose tally is sound. -/
abbrev Tracked (first : Generator) (nonces : List Bytes) : Gateway Tallied → World → Prop :=
  Gateway.Has fun tallied issued _ => Sound first nonces tallied issued

variable {gateway : Gateway Tallied} {world : World}

/-- Sixteen random bytes that are answered during a wait are a draw of their own, taken during the
wait: only the job of the command can answer, and it has taken them. -/
theorem sound_await_random (h : Sound first nonces tallied issued) {limit : Option Span}
    {files : Files} {ticket : Ticket} {bytes : Bytes}
    (hasked : ∀ job ∈ tallied.element.queue, job.ticket = ticket →
      job.command = .generateRandom nonceLen)
    (hanswered : (⟨ticket, .ok (.random bytes)⟩ : Resolution)
      ∈ (Element.await limit tallied files).timely)
    (hlen : bytes.length = nonceLen) :
    Sound first (nonces ++ [bytes]) (Element.await limit tallied files).element issued := by
  have hafter := sound_await h limit files
  refine ⟨hafter.proper, hafter.queued, hafter.gives, ?_⟩
  change _ ∈ (workOff limit tallied.element.queue _ files).timely at hanswered
  rw [timely_workOff] at hanswered
  obtain ⟨deed, hdeed, hmem⟩ := List.mem_flatMap.mp hanswered
  have hcommand : deed.job.command = .generateRandom nonceLen :=
    hasked deed.job (job_mem_of_mem_deeds hdeed) (ticket_of_mem_perform hmem).symm
  have hrandom : deed.asksRandom = true := by rw [Deed.asksRandom, hcommand]
  show (nonces ++ [bytes]).Sublist
    (((tallied.deeds ++ SoftElement.deeds limit tallied.element.queue _ files).filter
      Deed.asksRandom).filterMap Deed.draw?)
  rw [List.filter_append, List.filterMap_append]
  refine h.nonces.append (List.singleton_sublist.mpr (List.mem_filterMap.mpr ⟨deed, ?_, ?_⟩))
  · exact List.mem_filter.mpr ⟨hdeed, hrandom⟩
  · exact Deed.draw?_of_random hcommand hmem hlen

/-- The same for a command from its submission on. -/
theorem sound_answered (h : Sound first nonces gateway.element gateway.completions.length)
    {files : Files} {bytes : Bytes}
    (hfound : (gateway.answered (.generateRandom nonceLen) files).1.1
      = some (.ok (.random bytes)))
    (hlen : bytes.length = nonceLen) :
    Sound first (nonces ++ [bytes])
      (gateway.answered (.generateRandom nonceLen) files).1.2.element
      (gateway.completions.length + 1) := by
  have hasked : Command.OfLog (.generateRandom nonceLen) := rfl
  have hsent := sound_submit h hasked
  rw [(answered_first gateway (.generateRandom nonceLen) files).1] at hfound
  have hmem := Completion.mem_of_first hfound
  show Sound first (nonces ++ [bytes])
    ((gateway.sent (.generateRandom nonceLen)).activity gateway.completions.length files).element _
  -- Nothing is answered at submission, so there was a wait.
  have hresolved : (⟨gateway.completions.length, .ok (.random bytes)⟩ : Resolution) ∉
      (Element.submit gateway.completions.length (.generateRandom nonceLen)
        gateway.element).resolved := by
    show _ ∉ (gateway.element.element.react _ _).resolved
    rcases react_cases gateway.completions.length (.generateRandom nonceLen)
      gateway.element.element with ⟨code, faults, hreact⟩ | hreact <;> rw [hreact]
    · exact fun hdrop => nomatch List.mem_singleton.mp hdrop
    · exact List.not_mem_nil
  have htimely := (List.mem_append.mp hmem).resolve_left hresolved
  rw [activity] at htimely ⊢
  split at htimely
  · rename_i hpending
    rw [if_pos hpending]
    refine sound_await_random hsent ?_ htimely hlen
    -- The tickets of the other jobs are used up.
    intro job hjob hticket
    rcases mem_queue_react hjob with hold | ⟨-, hnew⟩
    · exact absurd hticket (Nat.ne_of_lt (h.queued job hold))
    · exact hnew
  · cases htimely

/-- Random bytes for a nonce are a draw that is in no record yet. -/
theorem generateRandom_fresh (h : Tracked first nonces gateway world) :
    (generateRandom nonceLen).Ensures gateway world (fun _ => True) (fun _ => Tracked first nonces)
      fun bytes gateway' world' => Tracked first nonces gateway' world' ∧
        (bytes.length = nonceLen → Tracked first (nonces ++ [bytes]) gateway' world') := by
  have hlasting := lasting_sound first nonces
  have hasked : Command.OfLog (.generateRandom nonceLen) := rfl
  refine generateRandom_ensures (submitAndWait_ensures ?_ ?_ ?_ ?_ fun _ _ => trivial)
  · exact fun _ _ _ _ _ => sent_lasting hlasting h hasked
  · intro output world' hfound hfiles _
    have hafter := answered_lasting hlasting h hasked hfiles
    refine ⟨?_, fun _ => hafter⟩
    rintro bytes rfl
    refine ⟨hafter, fun hlen => ?_⟩
    rw [Tracked, Has, length_answered]
    exact sound_answered h hfound hlen
  · exact fun _ _ _ hfiles _ => answered_lasting hlasting h hasked hfiles
  · exact fun _ _ _ _ hfiles _ => answered_lasting hlasting h hasked hfiles

/-- A record takes a draw of its own for its nonce. A message that is not sealed may have used one
up all the same. -/
theorem encryptMessage_fresh (h : Tracked first nonces gateway world) (sealer : Sealer)
    (message : Bytes) :
    (sealer.encryptMessage message).Ensures gateway world (fun _ => True)
      (fun _ => Tracked first nonces)
      fun record => Tracked first (nonces ++ [record.nonce]) := by
  refine Sealer.encryptMessage_ensures (fun _ => h) (fun _ _ => trivial) fun _ _ => ?_
  refine (generateRandom_fresh h).mono (fun _ _ _ hfailed => hfailed) ?_
  rintro nonce gateway' world' ⟨hafter, hfresh⟩
  refine ⟨fun _ => hafter, fun hnonce => encrypt_ensures ?_⟩
  have hlasts := submitAndWait_lasting (lasting_sound first (nonces ++ [nonce])) (hfresh hnonce)
    (.encrypt sealer.slot.id .cbc (sealer.block message) nonce) trivial
  refine hlasts.mono (fun _ _ _ hfailed => hfailed.forget) ?_
  intro output gateway'' world'' hsealed
  exact ⟨fun _ _ => ⟨fun _ => hsealed.forget, fun _ => hsealed⟩, fun _ => hsealed.forget⟩

end Tallied

end SoftElement

end SealedLog

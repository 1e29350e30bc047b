import SealedLog.Proofs.Gateway.Fate
import SealedLog.ScriptedElement

/-!
# Isolation of commands

A gateway is called any number of times. Between the calls, and during them, an element may resolve
or give up whatever it was handed before; the caller cannot tell.

- `Gateway.Call`, `Gateway.Turn`: what is asked of a gateway, and what goes on around it.
- `Gateway.play`, `Gateway.shown`: a run, and what a caller sees of it.
- `Gateway.shown_eq`: what is seen follows from the fates of the commands.
- `Gateway.isolated`: elements that agree on the fates show the same. Every call is one command.
-/

namespace SealedLog.Gateway

/-! ## Calls -/

/-- What can be asked of a gateway. -/
inductive Call
  | raw (command : Command)
  | generateRandom (len : Nat)
  | readMetadata (slot : ObjectId)
  | writeMetadata (slot : ObjectId) (metadata : Bytes)
  | generateSymmetricKey (slot : KeySlot)
  | encrypt (slot : KeySlot) (mode : CipherMode) (plaintext iv : Bytes)

/-- What a gateway gives back. -/
inductive Response
  | output (output : Output)
  | bytes (bytes : Bytes)
  | done

namespace Call

/-- The command that a call consists of. -/
def asCommand : Call → Command
  | .raw command => command
  | .generateRandom len => .generateRandom len
  | .readMetadata slot => .readMetadata slot
  | .writeMetadata slot metadata => .writeMetadata slot metadata
  | .generateSymmetricKey slot => .generateSymmetricKey slot.id slot.algorithm slot.usage
  | .encrypt slot mode plaintext iv => .encrypt slot.id mode plaintext iv

/-- What a call makes of the output of its command. -/
def judge : Call → Output → Except CommandError Response
  | .raw _, output => .ok (.output output)
  | .generateRandom _, .random bytes => .ok (.bytes bytes)
  | .readMetadata _, .metadata bytes => .ok (.bytes bytes)
  | .writeMetadata _ _, _ => .ok .done
  | .generateSymmetricKey _, _ => .ok .done
  | .encrypt _ _ _ _, .ciphertext bytes => .ok (.bytes bytes)
  | call, _ => .error (.unexpectedResponse call.asCommand.name)

variable {ε : Type} [Element ε]

/-- A call and its result. -/
def perform : Call → Attempt (Gateway ε) CommandError Response
  | .raw command => do return .output (← submitAndWait command)
  | .generateRandom len => do return .bytes (← Gateway.generateRandom len)
  | .readMetadata slot => do return .bytes (← Gateway.readMetadata slot)
  | .writeMetadata slot metadata => do
    Gateway.writeMetadata slot metadata
    return .done
  | .generateSymmetricKey slot => do
    Gateway.generateSymmetricKey slot
    return .done
  | .encrypt slot mode plaintext iv => do
    return .bytes (← Gateway.encrypt slot mode plaintext iv)

variable {gateway : Gateway ε} {world : World} {Halts : Halt → Prop}
  {Bad : CommandError → Gateway ε → World → Prop} {Good : Response → Gateway ε → World → Prop}

/-- A call is its command, with the output judged. -/
theorem perform_ensures {call : Call}
    (h : (submitAndWait call.asCommand).Ensures gateway world Halts Bad fun output gateway world =>
      Attempt.Either Bad Good (call.judge output) gateway world) :
    call.perform.Ensures gateway world Halts Bad Good := by
  cases call with
  | raw command => exact h.bind fun _ _ _ hgood => Attempt.Ensures.pure hgood
  | generateRandom len =>
    refine Attempt.Ensures.bind (generateRandom_ensures (h.mono (fun _ _ _ hbad => hbad) ?_))
      fun _ _ _ hgood => Attempt.Ensures.pure hgood
    intro output gateway' world' hjudged
    constructor
    · rintro bytes rfl
      exact hjudged
    · intro hother
      cases output with
      | random bytes => exact absurd rfl (hother bytes)
      | _ => exact hjudged
  | readMetadata slot =>
    refine Attempt.Ensures.bind (readMetadata_ensures (h.mono (fun _ _ _ hbad => hbad) ?_))
      fun _ _ _ hgood => Attempt.Ensures.pure hgood
    intro output gateway' world' hjudged
    constructor
    · rintro bytes rfl
      exact hjudged
    · intro hother
      cases output with
      | metadata bytes => exact absurd rfl (hother bytes)
      | _ => exact hjudged
  | writeMetadata slot metadata =>
    refine Attempt.Ensures.bind (writeMetadata_ensures (h.mono (fun _ _ _ hbad => hbad) ?_))
      fun _ _ _ hgood => Attempt.Ensures.pure hgood
    exact fun _ _ _ hjudged => hjudged
  | generateSymmetricKey slot =>
    refine Attempt.Ensures.bind (generateSymmetricKey_ensures (h.mono (fun _ _ _ hbad => hbad) ?_))
      fun _ _ _ hgood => Attempt.Ensures.pure hgood
    exact fun _ _ _ hjudged => hjudged
  | encrypt slot mode plaintext iv =>
    refine Attempt.Ensures.bind (encrypt_ensures (h.mono (fun _ _ _ hbad => hbad) ?_))
      fun _ _ _ hgood => Attempt.Ensures.pure hgood
    intro output gateway' world' hjudged
    constructor
    · rintro bytes rfl
      exact hjudged
    · intro hother
      cases output with
      | ciphertext bytes => exact absurd rfl (hother bytes)
      | _ => exact hjudged

/-- What a call comes to whose command has such a fate. -/
def result (call : Call) (timeout : Option Span) (fate : Fate) :
    Except Halt (Except CommandError Response) :=
  (fate.result timeout call.asCommand).map (·.bind call.judge)

/-- A call comes to what the fate of its command says. -/
theorem perform_fate (call : Call) (gateway : Gateway ε) (world : World) :
    call.perform.Ensures gateway world
      (fun why => call.result gateway.timeout (gateway.fate call.asCommand world.files)
        = .error why)
      (fun error gateway' _ => gateway' = gateway.after call.asCommand world.files ∧
        call.result gateway.timeout (gateway.fate call.asCommand world.files)
          = .ok (.error error))
      fun response gateway' _ => gateway' = gateway.after call.asCommand world.files ∧
        call.result gateway.timeout (gateway.fate call.asCommand world.files)
          = .ok (.ok response) := by
  have hcommand := submitAndWait_fate call.asCommand gateway world
  refine perform_ensures ⟨?_, ?_⟩
  · intro why hwhy
    rw [result, hcommand.halts why hwhy]
    rfl
  · rintro (error | output) gateway' world' hends
    · obtain ⟨⟨hafter, -, -⟩, hresult⟩ := hcommand.ends _ _ _ hends
      refine ⟨hafter, ?_⟩
      rw [result, hresult]
      rfl
    · obtain ⟨⟨hafter, -, -⟩, hresult⟩ := hcommand.ends _ _ _ hends
      have hjudged : call.result gateway.timeout (gateway.fate call.asCommand world.files)
          = .ok (call.judge output) := by
        rw [result, hresult]
        rfl
      show Attempt.Either _ _ (call.judge output) gateway' world'
      cases hjudge : call.judge output with
      | error error => exact ⟨hafter, hjudge ▸ hjudged⟩
      | ok response => exact ⟨hafter, hjudge ▸ hjudged⟩

/-- A call that has come back came to what the fate of its command says. -/
theorem ended_of_run {call : Call} {gateway' : Gateway ε} {world' : World}
    {result : Except CommandError Response}
    (h : call.perform.run gateway world = .ok ((result, gateway'), world')) :
    gateway' = gateway.after call.asCommand world.files ∧
      call.result gateway.timeout (gateway.fate call.asCommand world.files) = .ok result := by
  have hends := (call.perform_fate gateway world).ends result gateway' world' h
  cases result with
  | error error => exact hends
  | ok response => exact hends

end Call

/-! ## Runs -/

/-- A call, and what goes on around it that is not up to the caller. -/
structure Turn (ε : Type) where
  call : Call
  /-- What becomes of the element before the call. -/
  meanwhile : ε → ε := id
  /-- What is resolved before the call. -/
  between : List Resolution := []
  /-- The surroundings of the call. -/
  world : World := {}

/-- The gateway when a turn has come to its call. -/
def Turn.reached {ε : Type} (turn : Turn ε) (gateway : Gateway ε) : Gateway ε :=
  { gateway with element := turn.meanwhile gateway.element }.settle turn.between

/-- What a caller sees of a call. -/
structure Shown where
  result : Except CommandError Response
  status : Option CommandStatus
  issued : Nat

variable {ε : Type} [Element ε]

/-- Turns one after the other, with the results and the gateways after them. A call that never
returns is the last one. -/
def play : List (Turn ε) → Gateway ε →
    List (Except Halt (Except CommandError Response × Gateway ε))
  | [], _ => []
  | turn :: later, gateway =>
    match turn.call.perform.run (turn.reached gateway) turn.world with
    | .error why => [.error why]
    | .ok ((result, gateway), _) => .ok (result, gateway) :: play later gateway

/-- What a caller sees of turns. -/
def shown (turns : List (Turn ε)) (gateway : Gateway ε) : List (Except Halt Shown) :=
  (play turns gateway).map fun ended =>
    ended.map fun (result, gateway) => ⟨result, gateway.status, gateway.issued⟩

/-- The fates of the commands, up to a call that never returns. -/
def fates : List (Turn ε) → Gateway ε → List Fate
  | [], _ => []
  | turn :: later, gateway =>
    let reached := turn.reached gateway
    let fate := reached.fate turn.call.asCommand turn.world.files
    match fate.result gateway.timeout turn.call.asCommand with
    | .error _ => [fate]
    | .ok _ => fate :: fates later (reached.after turn.call.asCommand turn.world.files)

/-- What a caller sees when the commands have such fates. -/
def told (timeout : Option Span) : Nat → List (Call × Fate) → List (Except Halt Shown)
  | _, [] => []
  | issued, (call, fate) :: later =>
    match call.result timeout fate with
    | .error why => [.error why]
    | .ok result => .ok ⟨result, some fate.status, issued + 1⟩ :: told timeout (issued + 1) later

/-- The first of several turns decides how they go on. -/
theorem play_cons (turn : Turn ε) (later : List (Turn ε)) (gateway : Gateway ε) :
    play (turn :: later) gateway =
      match turn.call.result gateway.timeout
          ((turn.reached gateway).fate turn.call.asCommand turn.world.files) with
      | .error why => [.error why]
      | .ok result =>
        .ok (result, (turn.reached gateway).after turn.call.asCommand turn.world.files)
          :: play later ((turn.reached gateway).after turn.call.asCommand turn.world.files) := by
  have hperform := turn.call.perform_fate (turn.reached gateway) turn.world
  have htimeout : (turn.reached gateway).timeout = gateway.timeout := rfl
  rw [htimeout] at hperform
  rw [play]
  cases hrun : turn.call.perform.run (turn.reached gateway) turn.world with
  | error why => rw [hperform.halts why hrun]
  | ok ended =>
    rcases ended with ⟨⟨result, gateway'⟩, world'⟩
    obtain ⟨rfl, hresult⟩ := Call.ended_of_run hrun
    rw [htimeout] at hresult
    rw [hresult]

/-- What is seen of turns follows from the calls and the fates of their commands. -/
theorem shown_eq (turns : List (Turn ε)) (gateway : Gateway ε) :
    shown turns gateway
      = told gateway.timeout gateway.issued ((turns.map (·.call)).zip (fates turns gateway)) := by
  induction turns generalizing gateway with
  | nil => rfl
  | cons turn later ih =>
    let fate := (turn.reached gateway).fate turn.call.asCommand turn.world.files
    let after := (turn.reached gateway).after turn.call.asCommand turn.world.files
    have hstatus : after.status = some fate.status := status_after _ _ _
    have hissued : after.issued = gateway.issued + 1 := issued_after _ _ _
    have htimeout : after.timeout = gateway.timeout := timeout_after _ _ _
    have hlater := ih after
    rw [hissued, htimeout] at hlater
    rw [shown, play_cons, fates, List.map_cons]
    change List.map _ (match turn.call.result gateway.timeout fate with
      | .error why => [.error why]
      | .ok result => .ok (result, after) :: play later after) = told _ _ (List.zip _
        (match fate.result gateway.timeout turn.call.asCommand with
          | .error _ => [fate]
          | .ok _ => fate :: fates later after))
    cases hfate : fate.result gateway.timeout turn.call.asCommand with
    | error why =>
      have hresult : turn.call.result gateway.timeout fate = .error why := by
        rw [Call.result, hfate]
        rfl
      rw [hresult]
      dsimp only
      rw [List.zip_cons_cons, told, hresult]
      rfl
    | ok found =>
      have hresult : turn.call.result gateway.timeout fate = .ok (found.bind turn.call.judge) := by
        rw [Call.result, hfate]
        rfl
      rw [hresult]
      dsimp only
      rw [List.zip_cons_cons, told, hresult, List.map_cons]
      dsimp only
      rw [← hlater, ← hstatus, ← hissued]
      rfl

/-! ## Watching -/

/-- An element, and the commands that it was handed since it is watched. -/
structure Watched (ε : Type) where
  element : ε
  seen : List Command := []

instance : Element (Watched ε) where
  name watched := Element.name watched.element
  submit ticket command watched :=
    (Element.submit ticket command watched.element).map (⟨·, watched.seen ++ [command]⟩)
  await limit watched files :=
    (Element.await limit watched.element files).map (⟨·, watched.seen⟩)

/-- The gateway with its element watched. -/
def watched {ε : Type} (gateway : Gateway ε) (seen : List Command) : Gateway (Watched ε) :=
  { gateway with element := ⟨gateway.element, seen⟩ }

/-- The same turn with an element that is watched. -/
def Turn.watched {ε : Type} (turn : Turn ε) : Turn (Watched ε) :=
  { turn with meanwhile := fun watched => { watched with element := turn.meanwhile watched.element } }

theorem sent_watched (gateway : Gateway ε) (seen : List Command) (command : Command) :
    (gateway.watched seen).sent command = (gateway.sent command).watched (seen ++ [command]) := rfl

theorem activity_watched (gateway : Gateway ε) (seen : List Command) (ticket : Ticket)
    (files : Files) :
    (gateway.watched seen).activity ticket files
      = (gateway.activity ticket files).map (⟨·, seen⟩) := by
  rw [activity, activity]
  show (if gateway.isPending ticket = true then _ else _) = _
  split <;> rfl

/-- Who watches changes nothing about what becomes of a command. -/
theorem fate_watched (gateway : Gateway ε) (seen : List Command) (command : Command)
    (files : Files) :
    (gateway.watched seen).fate command files = gateway.fate command files := by
  rw [fate, fate, sent_watched, activity_watched]
  rfl

theorem after_watched (gateway : Gateway ε) (seen : List Command) (command : Command)
    (files : Files) :
    (gateway.watched seen).after command files
      = (gateway.after command files).watched (seen ++ [command]) := by
  have hanswered : ((gateway.watched seen).answered command files).1.2
      = (gateway.answered command files).1.2.watched (seen ++ [command]) := by
    rw [answered, sent_watched]
    show (waited _ _ (activity _ _ _)).2 = _
    rw [activity_watched]
    rfl
  have hrefusal : (Element.submit (gateway.watched seen).completions.length command
      (gateway.watched seen).element).refusal
        = (Element.submit gateway.completions.length command gateway.element).refusal := rfl
  rw [after, after, hrefusal, hanswered]
  cases (Element.submit gateway.completions.length command gateway.element).refusal <;> rfl

/-- In a run that is watched the same happens, and every call hands one command to the element. -/
theorem play_watched (turns : List (Turn ε)) (gateway : Gateway ε) (seen : List Command) :
    play (turns.map Turn.watched) (gateway.watched seen)
      = (play turns gateway).mapIdx fun k ended => ended.map fun (result, gateway) =>
          (result, gateway.watched
            (seen ++ (turns.map (·.call.asCommand)).take (k + 1))) := by
  induction turns generalizing gateway seen with
  | nil => rfl
  | cons turn later ih =>
    have hcall : turn.watched.call = turn.call := rfl
    have hworld : turn.watched.world = turn.world := rfl
    have hreached : turn.watched.reached (gateway.watched seen)
        = (turn.reached gateway).watched seen := rfl
    have htimeout : (gateway.watched seen).timeout = gateway.timeout := rfl
    rw [List.map_cons, play_cons, play_cons, hcall, hworld, hreached, htimeout, fate_watched,
      after_watched, ih]
    cases turn.call.result gateway.timeout
        ((turn.reached gateway).fate turn.call.asCommand turn.world.files) with
    | error why => rfl
    | ok result =>
      dsimp only
      rw [List.mapIdx_cons]
      simp only [List.append_assoc, List.map_cons, List.take_succ_cons, List.singleton_append,
        Except.map, List.take_zero]

/-- Every call is counted. -/
theorem issued_of_play {turns : List (Turn ε)} {gateway gateway' : Gateway ε} {k : Nat}
    {result : Except CommandError Response}
    (h : (play turns gateway)[k]? = some (.ok (result, gateway'))) :
    gateway'.issued = gateway.issued + (k + 1) ∧ k < turns.length := by
  induction turns generalizing gateway k with
  | nil => cases h
  | cons turn later ih =>
    rw [play_cons] at h
    split at h
    · cases k <;> cases h
    · cases k with
      | zero =>
        cases h
        exact ⟨issued_after _ _ _, Nat.succ_pos _⟩
      | succ k =>
        obtain ⟨hissued, hlt⟩ := ih h
        refine ⟨?_, Nat.succ_lt_succ hlt⟩
        rw [hissued, issued_after]
        show gateway.issued + 1 + (k + 1) = _
        omega

/-- Who watches changes nothing about what is seen of turns. -/
theorem shown_watched (turns : List (Turn ε)) (gateway : Gateway ε) (seen : List Command) :
    shown (turns.map Turn.watched) (gateway.watched seen) = shown turns gateway := by
  refine List.ext_getElem? fun k => ?_
  rw [shown, shown, play_watched, List.getElem?_map, List.getElem?_map, List.getElem?_mapIdx]
  rcases (play turns gateway)[k]? with _ | _ | _ <;> rfl

/-- Two elements behind gateways with the same count and the same limit are called alike. If the
commands have the same fates, up to a call that never returns, then the callers see the same,
whatever else the elements resolve or give up, and when. A watched element shows the same too, and
it sees one command for every call, in the order of the calls. -/
theorem isolated {ε₁ ε₂ : Type} [Element ε₁] [Element ε₂] {gateway₁ : Gateway ε₁}
    {gateway₂ : Gateway ε₂} (turns₁ : List (Turn ε₁)) (turns₂ : List (Turn ε₂))
    (hcalls : turns₁.map (·.call) = turns₂.map (·.call))
    (htimeout : gateway₁.timeout = gateway₂.timeout) (hissued : gateway₁.issued = gateway₂.issued)
    (hfates : fates turns₁ gateway₁ = fates turns₂ gateway₂) :
    shown turns₁ gateway₁ = shown turns₂ gateway₂ ∧
      shown (turns₁.map Turn.watched) (gateway₁.watched []) = shown turns₁ gateway₁ ∧
      ∀ k result gateway, (play (turns₁.map Turn.watched) (gateway₁.watched []))[k]?
          = some (.ok (result, gateway)) →
        gateway.element.seen = (turns₁.map (·.call.asCommand)).take (k + 1) ∧
          gateway.issued = gateway₁.issued + gateway.element.seen.length := by
  refine ⟨?_, shown_watched turns₁ gateway₁ [], ?_⟩
  · rw [shown_eq, shown_eq, hcalls, htimeout, hissued, hfates]
  · intro k result gateway hk
    rw [play_watched, List.getElem?_mapIdx] at hk
    obtain ⟨ended, hended, heq⟩ := Option.map_eq_some_iff.mp hk
    cases ended with
    | error why => cases heq
    | ok ended =>
      rcases ended with ⟨found, unwatched⟩
      obtain ⟨rfl, rfl⟩ := Prod.mk.inj (Except.ok.inj heq)
      obtain ⟨hissued, hlt⟩ := issued_of_play hended
      have hseen : ((unwatched.watched ([] ++ (turns₁.map (·.call.asCommand)).take (k + 1))).element
          : Watched ε₁).seen = (turns₁.map (·.call.asCommand)).take (k + 1) := List.nil_append _
      refine ⟨hseen, ?_⟩
      rw [hseen, List.length_take, List.length_map, Nat.min_eq_left hlt]
      exact hissued

/-- A gateway to an element that holds the first command back until the second one, and then resolves
it so. -/
def holding (late : Option (Nat × SealedLog.Answer)) : Gateway ScriptedElement where
  element := { steps := [{ answer := .hold }, { answer := .output (.random [1, 2]), late }] }
  timeout := some (.ofMillis 10)

/-- Random bytes are asked for twice. The first command times out; whether the bytes it asked for
come during the second one, or nothing does, is not seen. -/
theorem isolated_of_late_bytes :
    let turns : List (Turn ScriptedElement) :=
      [{ call := .generateRandom 8 }, { call := .generateRandom 8 }]
    shown turns (holding (some (0, .output (.random [3, 4])))) = shown turns (holding none) ∧
      shown turns (holding none)
        = [.ok ⟨.error (.timedOut "generate_random" (.ofMillis 10)), some .pending, 1⟩,
          .ok ⟨.ok (.bytes [1, 2]), some .succeeded, 2⟩] := by
  intro turns
  have hfates : fates turns (holding (some (0, .output (.random [3, 4]))))
      = fates turns (holding none) := rfl
  exact ⟨(isolated turns turns rfl rfl rfl hfates).1, rfl⟩

end SealedLog.Gateway

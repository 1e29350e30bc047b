import SealedLog.Proofs.Gateway.Isolation

/-!
# Exchanges with an element

All that an attempt does through a gateway is to make calls, one after the other. The calls with
their responses tell where it has got to: the gateway, the element behind it and the files are where
these calls have led, and no other command was handed to the element.

- `Exchanged gateway world exchanges gateway' world'`: the calls led from the one to the other.
- `Exchanged.issued`, `Exchanged.handed`: they are what was counted, and what the element was handed.
- `Exchanged.call_ensures`: an attempt that is a call adds one exchange, or never returns.
-/

namespace SealedLog.Gateway

/-- A call and the response to it. -/
structure Exchange where
  call : Call
  response : Except CommandError Response

variable {ε : Type} [Element ε]

/-- The calls led from one gateway to another with these responses. What was noted in between is no
matter. -/
inductive Exchanged (gateway : Gateway ε) (world : World) :
    List Exchange → Gateway ε → World → Prop
  | start : Exchanged gateway world [] gateway world
  | noted {exchanges : List Exchange} {gateway' : Gateway ε} {world' : World}
      (notices : List Notice) : Exchanged gateway world exchanges gateway' world' →
      Exchanged gateway world exchanges gateway' { world' with notices }
  | call {exchanges : List Exchange} {gateway' gateway'' : Gateway ε} {world' world'' : World}
      {call : Call} {response : Except CommandError Response} :
      Exchanged gateway world exchanges gateway' world' →
      call.perform.run gateway' world' = .ok ((response, gateway''), world'') →
      Exchanged gateway world (exchanges ++ [⟨call, response⟩]) gateway'' world''

/-! ## What an element is handed -/

/-- The element keeps a record of the commands it is handed. -/
structure Records (handed : ε → List Command) : Prop where
  submit : ∀ (ticket : Ticket) (command : Command) (element : ε),
    handed (Element.submit ticket command element).element = handed element ++ [command]
  await : ∀ (limit : Option Span) (element : ε) (files : Files),
    handed (Element.await limit element files).element = handed element

/-- Any element that is watched does. -/
theorem records_seen : Records fun watched : Watched ε => watched.seen := by
  constructor
  · intro ticket command watched
    rfl
  · intro limit watched files
    rfl

/-- A command that has come back was handed to the element once, and nothing else was. -/
theorem Records.after {handed : ε → List Command} (h : Records handed) (gateway : Gateway ε)
    (command : Command) (files : Files) :
    handed (gateway.after command files).element = handed gateway.element ++ [command] := by
  have hsent : handed (gateway.sent command).element = handed gateway.element ++ [command] :=
    h.submit gateway.completions.length command gateway.element
  rw [Gateway.after]
  split
  · exact hsent
  · rw [← hsent]
    show handed ((gateway.sent command).activity gateway.completions.length files).element = _
    rw [activity]
    split
    · exact h.await _ _ _
    · rfl

namespace Exchanged

variable {gateway gateway' : Gateway ε} {world world' : World} {exchanges : List Exchange}

/-- Every call is counted. -/
theorem issued (h : Exchanged gateway world exchanges gateway' world') :
    gateway'.issued = gateway.issued + exchanges.length := by
  induction h with
  | start => rfl
  | noted notices _ ih => exact ih
  | call _ hrun ih =>
    obtain ⟨rfl, -⟩ := Call.ended_of_run hrun
    rw [issued_after, ih, List.length_append, List.length_singleton]
    omega

/-- Every call hands its command to the element. -/
theorem handed {handed : ε → List Command} (hrecords : Records handed)
    (h : Exchanged gateway world exchanges gateway' world') :
    handed gateway'.element
      = handed gateway.element ++ exchanges.map (fun exchange => exchange.call.asCommand) := by
  induction h with
  | start => simp
  | noted notices _ ih => exact ih
  | call _ hrun ih =>
    obtain ⟨rfl, -⟩ := Call.ended_of_run hrun
    rw [hrecords.after, ih, List.map_append, List.append_assoc]
    rfl

end Exchanged

/-! ## Calls -/

/-- A call ends, unless its command is waited for forever. -/
theorem Call.perform_ends (call : Call) (gateway : Gateway ε) (world : World) :
    call.perform.Ensures gateway world (· = .waitsForever) (fun _ _ _ => True)
      fun _ _ _ => True := by
  refine Call.perform_ensures ((submitAndWait_ends _ gateway world).mono (fun _ _ _ _ => trivial) ?_)
  intro output gateway' world' _
  cases call.judge output <;> trivial

/-- An attempt that is a call makes one more exchange, or it never returns. -/
theorem Exchanged.call_ensures {α : Type} {first gateway : Gateway ε} {around world : World}
    {exchanges : List Exchange} {call : Call} {attempt : Attempt (Gateway ε) CommandError α}
    {respond : α → Response} {Halts : Halt → Prop} {Bad : CommandError → Gateway ε → World → Prop}
    {Good : α → Gateway ε → World → Prop}
    (hcall : call.perform = (do return respond (← attempt)))
    (h : Exchanged first around exchanges gateway world)
    (hhalts : call.perform.run gateway world = .error .waitsForever → Halts .waitsForever)
    (hbad : ∀ error gateway' world',
      Exchanged first around (exchanges ++ [⟨call, .error error⟩]) gateway' world' →
      Bad error gateway' world')
    (hgood : ∀ a gateway' world',
      Exchanged first around (exchanges ++ [⟨call, .ok (respond a)⟩]) gateway' world' →
      Good a gateway' world') :
    attempt.Ensures gateway world Halts Bad Good := by
  constructor
  · intro why hwhy
    have hrun : call.perform.run gateway world = .error why := by
      rw [hcall]
      exact Act.bind_of_error hwhy
    obtain rfl := (call.perform_ends gateway world).halts why hrun
    exact hhalts hrun
  · intro result gateway' world' hresult
    have hrun : call.perform.run gateway world
        = .ok ((result.map respond, gateway'), world') := by
      rw [hcall]
      exact (Act.bind_of_ok hresult).trans (by cases result <;> rfl)
    cases result with
    | error error => exact hbad error gateway' world' (h.call hrun)
    | ok a => exact hgood a gateway' world' (h.call hrun)

end SealedLog.Gateway

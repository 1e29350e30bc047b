import Mathlib.Data.List.Basic
import SealedLog.Proofs.Completion.Rendezvous

/-!
# A completion is resolved once

What comes of the moves at a completion is decided by the first attempt that gets there. Attempts
that come later are told so and change nothing. Whoever is the first to find an outcome finds that
of the first attempt, whether it came before the wait or during it.

- `Attended`: what is true of the waits after the first attempt, if there was one.
- `Kept`: what is true of a rendezvous after some moves; `Kept.after` is for one move more, and
  `kept_run` for all of them.
- `OneShot`, `oneShot_of_moves`: what follows for attempts, status, handles and waits.
-/

namespace SealedLog.Completion

/-! ## Waits -/

/-- Someone's wait is over and has found an outcome. -/
def Found (waits : Nat → Wait) (waiter : Nat) (outcome : Outcome) : Prop :=
  ∃ limited, waits waiter = .ended limited (some outcome)

/-- What is true of the waits after the first attempt, if there was one. Some of the waits may have
been given up before it. -/
structure Attended (first : Option Outcome) (GaveUp : Nat → Prop) (stored : Option Outcome)
    (waits : Nat → Wait) : Prop where
  /-- The outcome of the first attempt stays until someone finds it. -/
  unfound : (∀ waiter outcome, ¬ Found waits waiter outcome) → stored = first
  /-- One finds it, and then it is gone. -/
  found : ∀ waiter outcome, Found waits waiter outcome →
    first = some outcome ∧ stored = none ∧
      ∀ other outcome', Found waits other outcome' → other = waiter
  /-- No one sleeps through the attempt. -/
  asleep : ∀ waiter limited notified, waits waiter = .asleep limited notified →
    first ≠ none → notified = true
  /-- Who finds nothing has run out of time, or someone else was faster. -/
  nothing : ∀ waiter limited, waits waiter = .ended limited none →
    limited = true ∧ GaveUp waiter ∨ ∃ other outcome, Found waits other outcome

namespace Attended

variable {first : Option Outcome} {GaveUp GaveUp' : Nat → Prop} {stored : Option Outcome}
  {waits : Nat → Wait} {waiter : Nat} {limited : Bool}

theorem unbegun : Attended none GaveUp none fun _ => .unbegun where
  unfound _ := rfl
  found := by
    rintro waiter outcome ⟨limited, hended⟩
    cases hended
  asleep := by
    intro waiter limited notified hasleep
    cases hasleep
  nothing := by
    intro waiter limited hended
    cases hended

theorem mono (h : Attended first GaveUp stored waits)
    (hgaveUp : ∀ waiter, GaveUp waiter → GaveUp' waiter) : Attended first GaveUp' stored waits where
  unfound := h.unfound
  found := h.found
  asleep := h.asleep
  nothing waiter limited hended :=
    (h.nothing waiter limited hended).imp_left fun ⟨hlimited, hnone⟩ =>
      ⟨hlimited, hgaveUp waiter hnone⟩

/-- No one has found anything before the first attempt. -/
theorem not_found (h : Attended none GaveUp stored waits) (waiter : Nat) (outcome : Outcome) :
    ¬ Found waits waiter outcome := by
  intro hfound
  obtain ⟨hfirst, -⟩ := h.found waiter outcome hfound
  cases hfirst

/-- The first attempt notifies whoever sleeps. -/
theorem notified (h : Attended none GaveUp stored waits) (outcome : Outcome) :
    Attended (some outcome) GaveUp (some outcome) fun waiter => (waits waiter).notified := by
  have hfound : ∀ waiter outcome,
      ¬ Found (fun waiter => (waits waiter).notified) waiter outcome := by
    rintro waiter outcome ⟨limited, hended⟩
    exact h.not_found waiter outcome ⟨limited, Wait.notified_eq_ended.mp hended⟩
  constructor
  · intro _
    rfl
  · intro waiter outcome hended
    exact absurd hended (hfound waiter outcome)
  · intro waiter limited notified hasleep _
    cases hwait : waits waiter with
    | unbegun | ended => simp [hwait, Wait.notified] at hasleep
    | asleep =>
      simp only [hwait, Wait.notified, Wait.asleep.injEq] at hasleep
      exact hasleep.2.symm
  · intro waiter limited hended
    obtain hgaveUp | ⟨other, outcome, hother⟩ :=
      h.nothing waiter limited (Wait.notified_eq_ended.mp hended)
    · exact .inl hgaveUp
    · exact absurd hother (h.not_found other outcome)

/-- Someone falls asleep while there was no attempt. -/
theorem sleep (h : Attended none GaveUp stored waits) :
    Attended none GaveUp stored (Function.update waits waiter (.asleep limited false)) := by
  have hended : ∀ other limited' found,
      Function.update waits waiter (.asleep limited false) other = .ended limited' found →
      waits other = .ended limited' found := by
    intro other limited' found hended
    by_cases hother : other = waiter
    · subst hother
      simp at hended
    · rwa [Function.update_of_ne hother] at hended
  have hfound : ∀ other outcome,
      ¬ Found (Function.update waits waiter (.asleep limited false)) other outcome :=
    fun other outcome ⟨limited', hfound⟩ =>
      h.not_found other outcome ⟨limited', hended other limited' _ hfound⟩
  constructor
  · intro _
    exact h.unfound h.not_found
  · intro other outcome hother
    exact absurd hother (hfound other outcome)
  · intro other limited' notified _ hfirst
    exact absurd rfl hfirst
  · intro other limited' hnone
    obtain hgaveUp | ⟨other', outcome, hother⟩ := h.nothing other limited' (hended _ _ _ hnone)
    · exact .inl hgaveUp
    · exact absurd hother (h.not_found other' outcome)

/-- Someone's wait ends with what is stored. -/
theorem leave (h : Attended first GaveUp stored waits)
    (hopen : ∀ limited found, waits waiter ≠ .ended limited found)
    (hnone : first = none → limited = true ∧ GaveUp waiter) :
    Attended first GaveUp none (Function.update waits waiter (.ended limited stored)) := by
  have hself : ∀ outcome,
      Found (Function.update waits waiter (.ended limited stored)) waiter outcome
        ↔ stored = some outcome := by
    intro outcome
    simp [Found]
  have hother : ∀ other, other ≠ waiter → ∀ outcome,
      Found (Function.update waits waiter (.ended limited stored)) other outcome
        ↔ Found waits other outcome := by
    intro other hne outcome
    rw [Found, Found, Function.update_of_ne hne]
  have hbefore : ∀ other outcome, Found waits other outcome → other ≠ waiter := by
    rintro other outcome ⟨limited', hended⟩ rfl
    exact hopen limited' _ hended
  have hstays : ∀ other outcome, Found waits other outcome →
      Found (Function.update waits waiter (.ended limited stored)) other outcome :=
    fun other outcome hfound => (hother other (hbefore other outcome hfound) outcome).mpr hfound
  constructor
  · intro hunfound
    have hstored : stored = first := h.unfound fun other outcome hfound =>
      hunfound other outcome (hstays other outcome hfound)
    rw [← hstored, Eq.comm, Option.eq_none_iff_forall_ne_some]
    exact fun outcome hsome => hunfound waiter outcome ((hself outcome).mpr hsome)
  · intro other outcome hfound
    by_cases hne : other = waiter
    · -- Nobody has found it before.
      subst hne
      rw [hself] at hfound
      have hunfound : ∀ other' outcome', ¬ Found waits other' outcome' := by
        intro other' outcome' hfound'
        rw [(h.found other' outcome' hfound').2.1] at hfound
        cases hfound
      refine ⟨(h.unfound hunfound).symm.trans hfound, rfl, fun other' outcome' hfound' => ?_⟩
      by_contra hne
      exact hunfound other' outcome' ((hother other' hne outcome').mp hfound')
    · rw [hother other hne] at hfound
      obtain ⟨hfirst, hstored, honly⟩ := h.found other outcome hfound
      refine ⟨hfirst, rfl, fun other' outcome' hfound' => ?_⟩
      by_cases hne' : other' = waiter
      · subst hne'
        rw [hself, hstored] at hfound'
        cases hfound'
      · exact honly other' outcome' ((hother other' hne' outcome').mp hfound')
  · intro other limited' notified hasleep
    by_cases hne : other = waiter
    · subst hne
      simp at hasleep
    · rw [Function.update_of_ne hne] at hasleep
      exact h.asleep other limited' notified hasleep
  · intro other limited' hended
    by_cases hne : other = waiter
    · subst hne
      obtain ⟨rfl, hstored⟩ : limited = limited' ∧ stored = none := by simpa using hended
      by_cases hfound : ∃ other' outcome, Found waits other' outcome
      · obtain ⟨other', outcome, hfound⟩ := hfound
        exact .inr ⟨other', outcome, hstays other' outcome hfound⟩
      · push Not at hfound
        exact .inl (hnone ((h.unfound hfound).symm.trans hstored))
    · rw [Function.update_of_ne hne] at hended
      exact (h.nothing other limited' hended).imp_right fun ⟨other', outcome, hfound⟩ =>
        ⟨other', outcome, hstays other' outcome hfound⟩

end Attended

/-! ## What every move keeps -/

/-- Someone's time was over before any attempt. -/
def GaveUp (moves : List Move) (waiter : Nat) : Prop :=
  ∃ earlier, earlier ++ [.expire waiter] <+: moves ∧ attempts [] earlier = []

theorem gaveUp_concat {moves : List Move} {waiter : Nat} (h : GaveUp moves waiter) (move : Move) :
    GaveUp (moves ++ [move]) waiter := by
  obtain ⟨earlier, hearlier, hnone⟩ := h
  exact ⟨earlier, hearlier.trans (List.prefix_append _ _), hnone⟩

/-- What is true of a rendezvous after some moves. -/
structure Kept (moves : List Move) (meeting : Rendezvous) : Prop where
  handles : ∀ number, meeting.handles number = ⟨number ∉ uses moves⟩
  told : meeting.told = verdicts (attempts [] moves)
  status : meeting.completion.status = standing (attempts [] moves)
  attended : Attended (attempts [] moves).head? (GaveUp moves) meeting.completion.outcome
    meeting.waits

namespace Kept

variable {moves : List Move} {move : Move} {meeting : Rendezvous} {waiter : Nat} {limited : Bool}
  {outcome : Outcome}

theorem status_eq_pending_iff (h : Kept moves meeting) :
    meeting.completion.status = .pending ↔ attempts [] moves = [] := by
  rw [h.status, standing_eq_pending_iff]

theorem resolve_late (h : Kept moves meeting) (htried : attempts [] moves ≠ [])
    (outcome : Outcome) : meeting.completion.resolve outcome = (meeting.completion, false) := by
  rw [resolve, if_neg (h.status_eq_pending_iff.not.mpr htried)]

/-- What a wait finds is what is stored. -/
theorem collect_eq (h : Kept moves meeting) :
    meeting.completion.collect
      = (meeting.completion.outcome, { meeting.completion with outcome := none }) := by
  rw [collect]
  split
  · next hpending =>
    rw [h.status_eq_pending_iff] at hpending
    have hattended := h.attended
    rw [hpending] at hattended
    have hstored : meeting.completion.outcome = none := hattended.unfound hattended.not_found
    rw [hstored, ← hstored]
  · rfl

/-- A move that is no attempt. -/
theorem idle (h : Kept moves meeting) (huses : ∀ number ∈ move.handle?, number ∈ uses moves)
    (hmove : move.reaching (uses moves) = []) : Kept (moves ++ [move]) meeting := by
  have hattempts : attempts [] (moves ++ [move]) = attempts [] moves := by
    rw [attempts_concat, hmove, List.append_nil]
  constructor
  · intro number
    have hsame : number ∈ uses (moves ++ [move]) ↔ number ∈ uses moves := by
      rw [uses_concat, List.mem_append, Option.mem_toList]
      exact ⟨fun hmem => hmem.elim id (huses number), Or.inl⟩
    rw [h.handles]
    simp only [hsame]
  · rw [h.told, hattempts]
  · rw [h.status, hattempts]
  · rw [hattempts]
    exact h.attended.mono fun _ hgaveUp => gaveUp_concat hgaveUp move

/-- A move of someone who waits. -/
theorem patient (h : Kept moves meeting) (hhandle : move.handle? = none)
    (houtcome : move.outcome? = none) : Kept (moves ++ [move]) meeting := by
  refine h.idle ?_ ?_
  · intro number hnumber
    rw [hhandle] at hnumber
    exact absurd hnumber (Option.not_mem_none number)
  · rw [Move.reaching, hhandle, houtcome]
    rfl

/-- A move that is an attempt. -/
theorem attempt (h : Kept moves meeting) (hmove : move.reaching (uses moves) = [outcome])
    {handles : Nat → Handle}
    (hhandles : ∀ number, handles number = ⟨number ∉ uses (moves ++ [move])⟩) :
    Kept (moves ++ [move])
      { meeting.informed (meeting.completion.resolve outcome).1
          [(meeting.completion.resolve outcome).2] with handles } := by
  have hattempts : attempts [] (moves ++ [move]) = attempts [] moves ++ [outcome] := by
    rw [attempts_concat, hmove]
  have hattended : Attended (attempts [] moves).head? (GaveUp (moves ++ [move]))
      meeting.completion.outcome meeting.waits :=
    h.attended.mono fun _ hgaveUp => gaveUp_concat hgaveUp move
  by_cases hnone : attempts [] moves = []
  · -- It is the first, and whoever sleeps is notified.
    have hresolve : meeting.completion.resolve outcome
        = (⟨.ofOutcome outcome, some outcome⟩, true) := by
      rw [resolve, if_pos (h.status_eq_pending_iff.mpr hnone)]
    rw [hnone] at hattended
    rw [hnone, List.nil_append] at hattempts
    rw [hresolve]
    constructor
    · exact hhandles
    · show meeting.told ++ [true] = _
      rw [h.told, hattempts, hnone]
      rfl
    · rw [hattempts]
      rfl
    · rw [hattempts]
      exact hattended.notified outcome
  · -- It comes too late.
    have hhead : (attempts [] (moves ++ [move])).head? = (attempts [] moves).head? := by
      rw [hattempts, List.head?_append_of_ne_nil _ hnone]
    rw [h.resolve_late hnone]
    constructor
    · exact hhandles
    · show meeting.told ++ [false] = _
      rw [h.told, hattempts, verdicts_concat, List.isEmpty_eq_false_iff.mpr hnone]
    · show meeting.completion.status = _
      rw [h.status, standing, standing, hhead]
    · rw [hhead]
      exact hattended

/-- A wait ends, after an attempt or because its time is over. -/
theorem leave (h : Kept moves meeting)
    (hopen : ∀ limited found, meeting.waits waiter ≠ .ended limited found)
    (hnone : attempts [] moves = [] → limited = true ∧ GaveUp moves waiter) :
    Kept moves (meeting.leave waiter limited) := by
  have hleave : meeting.leave waiter limited
      = { meeting with
          completion := { meeting.completion with outcome := none }
          waits := Function.update meeting.waits waiter
            (.ended limited meeting.completion.outcome) } := by
    rw [Rendezvous.leave, h.collect_eq]
  rw [hleave]
  constructor
  · exact h.handles
  · exact h.told
  · exact h.status
  · exact h.attended.leave hopen fun hfirst => hnone (List.head?_eq_none_iff.mp hfirst)

/-- Someone looks, and sleeps while there was no attempt. -/
theorem look (h : Kept moves meeting)
    (hopen : ∀ limited found, meeting.waits waiter ≠ .ended limited found) :
    Kept moves (meeting.look waiter limited) := by
  rw [Rendezvous.look]
  split
  · next hpending =>
    rw [h.status_eq_pending_iff] at hpending
    constructor
    · exact h.handles
    · exact h.told
    · exact h.status
    · have hattended := h.attended
      rw [hpending] at hattended ⊢
      exact hattended.sleep
  · next hresolved =>
    rw [h.status_eq_pending_iff] at hresolved
    exact h.leave hopen fun hnone => absurd hnone hresolved

/-- Nothing comes of a handle that was used before. -/
theorem used_spent (h : Kept moves meeting) {number : Nat} (hused : number ∈ uses moves)
    (outcome : Outcome) :
    meeting.used number ((meeting.handles number).use outcome meeting.completion) = meeting := by
  have hspent : meeting.handles number = ⟨false⟩ := by simp [h.handles, hused]
  rw [hspent, use_spent]
  simp [Rendezvous.used, Rendezvous.informed, ← hspent]

/-- A handle is used, and gets to the completion unless it was used before. -/
theorem use (h : Kept moves meeting) {number : Nat} (hhandle : move.handle? = some number)
    (houtcome : move.outcome? = some outcome) :
    Kept (moves ++ [move])
      (meeting.used number ((meeting.handles number).use outcome meeting.completion)) := by
  have huses : uses (moves ++ [move]) = uses moves ++ [number] := by
    rw [uses_concat, hhandle]
    rfl
  by_cases hused : number ∈ uses moves
  · have hmove : move.reaching (uses moves) = [] := by simp [Move.reaching, hhandle, hused]
    rw [h.used_spent hused]
    refine h.idle (fun other hother => ?_) hmove
    rw [hhandle, Option.mem_some_iff] at hother
    exact hother ▸ hused
  · have hmove : move.reaching (uses moves) = [outcome] := by
      simp [Move.reaching, hhandle, houtcome, hused]
    have harmed : meeting.handles number = ⟨true⟩ := by simp [h.handles, hused]
    rw [harmed, use_armed]
    refine h.attempt hmove fun other => ?_
    by_cases hother : other = number
    · subst hother
      simp [huses]
    · simp [huses, h.handles, hother]

/-- One move keeps what is true. -/
theorem after (h : Kept moves meeting) (move : Move) :
    Kept (moves ++ [move]) (meeting.after move) := by
  cases move with
  | resolve outcome =>
    refine h.attempt rfl fun number => ?_
    simp [h.handles, uses_concat, Move.handle?]
  | complete number outcome =>
    rw [Rendezvous.after, complete_eq_use]
    exact h.use rfl rfl
  | drop number => exact h.use rfl rfl
  | wait waiter limited =>
    have hidle : Kept (moves ++ [.wait waiter limited]) meeting := h.patient rfl rfl
    cases hwait : meeting.waits waiter with
    | unbegun =>
      rw [Rendezvous.after, hwait]
      exact hidle.look (by simp [hwait])
    | asleep | ended =>
      rw [Rendezvous.after, hwait]
      exact hidle
  | wake waiter =>
    have hidle : Kept (moves ++ [.wake waiter]) meeting := h.patient rfl rfl
    cases hwait : meeting.waits waiter with
    | asleep limited notified =>
      rw [Rendezvous.after, hwait]
      exact hidle.look (by simp [hwait])
    | unbegun | ended =>
      rw [Rendezvous.after, hwait]
      exact hidle
  | expire waiter =>
    have hidle : Kept (moves ++ [.expire waiter]) meeting := h.patient rfl rfl
    cases hwait : meeting.waits waiter with
    | asleep limited notified =>
      rw [Rendezvous.after, hwait]
      cases limited with
      | false => exact hidle
      | true =>
        refine hidle.leave (by simp [hwait]) fun hnone => ⟨rfl, moves, List.prefix_refl _, ?_⟩
        rw [attempts_concat] at hnone
        exact (List.append_eq_nil_iff.mp hnone).1
    | unbegun | ended =>
      rw [Rendezvous.after, hwait]
      exact hidle

end Kept

/-- Any moves keep what is true. -/
theorem kept_run (moves : List Move) : Kept moves (run moves) := by
  induction moves using List.reverseRecOn with
  | nil =>
    constructor
    · intro number
      rfl
    · rfl
    · rfl
    · exact Attended.unbegun
  | append_singleton moves move ih =>
    rw [run_concat]
    exact ih.after move

/-! ## One shot -/

/-- A completion is resolved once, by the first attempt, and its outcome is found once. -/
structure OneShot (moves : List Move) : Prop where
  /-- The first attempt is told that it was the first, and all others that they were not. -/
  told : (run moves).told = verdicts (attempts [] moves)
  /-- The status is that of the first attempt. -/
  status : (run moves).completion.status = standing (attempts [] moves)
  /-- It does not change any more, whatever happens. -/
  settled : attempts [] moves ≠ [] → ∀ later,
    (run (moves ++ later)).completion.status = (run moves).completion.status
  /-- Nothing is changed by an attempt that comes late. -/
  late : attempts [] moves ≠ [] → ∀ move, move.outcome? ≠ none →
    (run (moves ++ [move])).completion = (run moves).completion ∧
      (run (moves ++ [move])).waits = (run moves).waits
  /-- To complete by a handle that was not used is to resolve, though the handle is given up. -/
  completed : ∀ number ∉ uses moves, ∀ outcome,
    run (moves ++ [.complete number outcome])
      = { run (moves ++ [.resolve outcome]) with
          handles := Function.update (run moves).handles number ⟨false⟩ }
  /-- To give up a handle that was not used is to resolve as abandoned. -/
  abandoned : ∀ number ∉ uses moves,
    run (moves ++ [.drop number])
      = { run (moves ++ [.resolve (.error .abandoned)]) with
          handles := Function.update (run moves).handles number ⟨false⟩ }
  /-- Nothing comes of it when a handle is given up that was used. -/
  spent : ∀ number ∈ uses moves, run (moves ++ [.drop number]) = run moves
  /-- What is found is the outcome of the first attempt, and no one else finds it. -/
  found : ∀ waiter outcome, Found (run moves).waits waiter outcome →
    (attempts [] moves).head? = some outcome ∧
      ∀ other outcome', Found (run moves).waits other outcome' → other = waiter
  /-- A wait that is over stays over. -/
  lasting : ∀ waiter limited found, (run moves).waits waiter = .ended limited found →
    ∀ later, (run (moves ++ later)).waits waiter = .ended limited found
  /-- Who finds nothing had only so much time, which was over before any attempt, or someone else
  was faster. -/
  nothing : ∀ waiter limited, (run moves).waits waiter = .ended limited none →
    limited = true ∧ GaveUp moves waiter ∨
      ∃ other outcome, Found (run moves).waits other outcome
  /-- A wait that begins after an attempt is over at once. If no one has found the outcome, this
  one finds it. -/
  begun : attempts [] moves ≠ [] → (∀ other outcome, ¬ Found (run moves).waits other outcome) →
    ∀ waiter limited, (run moves).waits waiter = .unbegun →
      (run (moves ++ [.wait waiter limited])).waits waiter
        = .ended limited (attempts [] moves).head?
  /-- Who sleeps when there was an attempt was notified, and finds the outcome when waking up, and
  even when the time is over. -/
  woken : attempts [] moves ≠ [] → (∀ other outcome, ¬ Found (run moves).waits other outcome) →
    ∀ waiter limited notified, (run moves).waits waiter = .asleep limited notified →
      notified = true ∧
        (run (moves ++ [.wake waiter])).waits waiter = .ended limited (attempts [] moves).head? ∧
        (limited = true → (run (moves ++ [.expire waiter])).waits waiter
          = .ended limited (attempts [] moves).head?)

namespace Kept

variable {moves : List Move} {meeting : Rendezvous} {waiter : Nat} {limited : Bool}

/-- Whoever stops waiting when no one has found anything finds the outcome of the first attempt. -/
theorem waits_leave (h : Kept moves meeting)
    (hunfound : ∀ other outcome, ¬ Found meeting.waits other outcome) :
    (meeting.leave waiter limited).waits waiter = .ended limited (attempts [] moves).head? := by
  rw [Rendezvous.leave, h.collect_eq, ← h.attended.unfound hunfound]
  exact Function.update_self _ _ _

/-- So does whoever looks when there was an attempt. -/
theorem waits_look (h : Kept moves meeting) (htried : attempts [] moves ≠ [])
    (hunfound : ∀ other outcome, ¬ Found meeting.waits other outcome) :
    (meeting.look waiter limited).waits waiter = .ended limited (attempts [] moves).head? := by
  rw [Rendezvous.look, if_neg (h.status_eq_pending_iff.not.mpr htried)]
  exact h.waits_leave hunfound

/-- Nothing is changed by an attempt that comes late. -/
theorem after_late (h : Kept moves meeting) (htried : attempts [] moves ≠ []) {move : Move}
    (hmove : move.outcome? ≠ none) :
    (meeting.after move).completion = meeting.completion ∧
      (meeting.after move).waits = meeting.waits := by
  have hused : ∀ number outcome,
      (meeting.used number ((meeting.handles number).use outcome meeting.completion)).completion
          = meeting.completion ∧
        (meeting.used number ((meeting.handles number).use outcome meeting.completion)).waits
          = meeting.waits := by
    intro number outcome
    rcases hhandle : meeting.handles number with ⟨_ | _⟩
    · simp [Rendezvous.used, Rendezvous.informed, use_spent]
    · simp [Rendezvous.used, Rendezvous.informed, use_armed, h.resolve_late htried]
  cases move with
  | resolve outcome => simp [Rendezvous.after, Rendezvous.informed, h.resolve_late htried]
  | complete number outcome =>
    rw [Rendezvous.after, complete_eq_use]
    exact hused number outcome
  | drop number => exact hused number (.error .abandoned)
  | wait | wake | expire => exact absurd rfl hmove

end Kept

/-- What follows for attempts, status, handles and waits, in whatever order they come. -/
theorem oneShot_of_moves (moves : List Move) : OneShot moves := by
  have h : Kept moves (run moves) := kept_run moves
  have harmed : ∀ number ∉ uses moves, (run moves).handles number = ⟨true⟩ := by
    intro number hnew
    simp [h.handles, hnew]
  constructor
  · exact h.told
  · exact h.status
  · intro htried later
    rw [h.status, (kept_run (moves ++ later)).status, attempts_append, standing, standing,
      List.head?_append_of_ne_nil _ htried]
  · intro htried move hmove
    rw [run_concat]
    exact h.after_late htried hmove
  · intro number hnew outcome
    rw [run_concat, run_concat]
    show (run moves).used number (((run moves).handles number).complete outcome _) = _
    rw [complete_eq_use, harmed number hnew]
    rfl
  · intro number hnew
    rw [run_concat, run_concat]
    show (run moves).used number (((run moves).handles number).drop _) = _
    rw [harmed number hnew]
    rfl
  · intro number hused
    rw [run_concat]
    exact h.used_spent hused (.error .abandoned)
  · intro waiter outcome hfound
    obtain ⟨hfirst, -, honly⟩ := h.attended.found waiter outcome hfound
    exact ⟨hfirst, honly⟩
  · intro waiter limited found hended later
    exact waits_run_of_ended hended later
  · exact h.attended.nothing
  · intro htried hunfound waiter limited hunbegun
    rw [run_concat, Rendezvous.after, hunbegun]
    exact h.waits_look htried hunfound
  · intro htried hunfound waiter limited notified hasleep
    refine ⟨h.attended.asleep waiter limited notified hasleep ?_, ?_, ?_⟩
    · exact List.head?_eq_none_iff.not.mpr htried
    · rw [run_concat, Rendezvous.after, hasleep]
      exact h.waits_look htried hunfound
    · rintro rfl
      rw [run_concat, Rendezvous.after, hasleep]
      exact h.waits_leave hunfound

end SealedLog.Completion

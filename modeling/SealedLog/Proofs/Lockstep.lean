import SealedLog.Proofs.Act

/-!
# Two runs side by side

A calculus for pairs of actions, each run from a state and a world of its own. They keep step if
neither comes back, for the same reason, or if both end with the same result; how they leave their
states and worlds is up to a relation. The rules follow the ways in which actions are put together.

- `Act.Lockstep`, `Attempt.Lockstep`: two actions that keep step.
- `Act.Lockstep.bind`, `Attempt.Lockstep.bind`: one pair after another.
- `Attempt.Lockstep.within`: pairs on parts of larger states.
-/

namespace SealedLog

variable {σ σ' τ τ' α β ε ε₂ : Type}

/-- Two runs have ended alike, and the relation holds of how they left things. -/
def Act.EndAlike (Related : σ → World → σ' → World → Prop) :
    Except Halt ((α × σ) × World) → Except Halt ((α × σ') × World) → Prop
  | .error why, .error why' => why = why'
  | .ok ((a, state), world), .ok ((a', state'), world') =>
    a = a' ∧ Related state world state' world'
  | _, _ => False

/-- From these states and worlds the two actions keep step. -/
def Act.Lockstep (act : Act σ α) (act' : Act σ' α) (state : σ) (world : World) (state' : σ')
    (world' : World) (Related : σ → World → σ' → World → Prop) : Prop :=
  EndAlike Related (act state world) (act' state' world')

variable {state last : σ} {state' last' : σ'} {world world' around around' : World}
  {Related Mid : σ → World → σ' → World → Prop}

namespace Act.Lockstep

variable {act : Act σ α} {act' : Act σ' α} {next : α → Act σ β} {next' : α → Act σ' β}

theorem of_eq {a : α} (h : act state world = .ok ((a, last), around))
    (h' : act' state' world' = .ok ((a, last'), around'))
    (hrelated : Related last around last' around') :
    Lockstep act act' state world state' world' Related := by
  rw [Lockstep, h, h']
  exact ⟨rfl, hrelated⟩

theorem of_halt {why : Halt} (h : act state world = .error why)
    (h' : act' state' world' = .error why) :
    Lockstep act act' state world state' world' Related := by
  rw [Lockstep, h, h']
  exact rfl

/-- Two actions that keep step do not come back for the same reason, or both end. -/
theorem cases (h : Lockstep act act' state world state' world' Related) :
    (∃ why, act state world = .error why ∧ act' state' world' = .error why) ∨
      ∃ a last around last' around', act state world = .ok ((a, last), around) ∧
        act' state' world' = .ok ((a, last'), around') ∧ Related last around last' around' := by
  rw [Lockstep] at h
  rcases hact : act state world with why | ⟨⟨a, last⟩, around⟩ <;>
    rcases hact' : act' state' world' with why' | ⟨⟨a', last'⟩, around'⟩ <;> rw [hact, hact'] at h
  · obtain rfl : why = why' := h
    exact .inl ⟨why, rfl, rfl⟩
  · exact h.elim
  · exact h.elim
  · obtain ⟨rfl, hrelated⟩ := h
    exact .inr ⟨a, last, around, last', around', rfl, rfl, hrelated⟩

theorem mono (h : Lockstep act act' state world state' world' Mid)
    (hmono : ∀ state world state' world', Mid state world state' world' →
      Related state world state' world') :
    Lockstep act act' state world state' world' Related := by
  rcases h.cases with ⟨why, hhalt, hhalt'⟩ | ⟨a, last, around, last', around', heq, heq', hmid⟩
  · exact of_halt hhalt hhalt'
  · exact of_eq heq heq' (hmono _ _ _ _ hmid)

/-- Actions that run like others keep step if the others do. -/
theorem congr {other : Act σ α} {other' : Act σ' α} (heq : act state world = other last around)
    (heq' : act' state' world' = other' last' around')
    (h : Lockstep other other' last around last' around' Related) :
    Lockstep act act' state world state' world' Related := by
  rw [Lockstep, heq, heq']
  exact h

/-- One pair after another. -/
theorem bind (h : Lockstep act act' state world state' world' Mid)
    (hnext : ∀ a state world state' world', Mid state world state' world' →
      Lockstep (next a) (next' a) state world state' world' Related) :
    Lockstep (act >>= next) (act' >>= next') state world state' world' Related := by
  rcases h.cases with ⟨why, hhalt, hhalt'⟩ | ⟨a, last, around, last', around', heq, heq', hmid⟩
  · exact of_halt (bind_of_error hhalt) (bind_of_error hhalt')
  · exact congr (bind_of_ok heq) (bind_of_ok heq') (hnext a _ _ _ _ hmid)

/-- A pair whose ends are known, and another after it. -/
theorem step {a : α} (heq : act state world = .ok ((a, last), around))
    (heq' : act' state' world' = .ok ((a, last'), around'))
    (h : Lockstep (next a) (next' a) last around last' around' Related) :
    Lockstep (act >>= next) (act' >>= next') state world state' world' Related :=
  congr (bind_of_ok heq) (bind_of_ok heq') h

theorem map {f : α → β} (h : Lockstep act act' state world state' world' Related) :
    Lockstep (f <$> act) (f <$> act') state world state' world' Related := by
  have hhalts : ∀ {ρ : Type} {act : Act ρ α} {state : ρ} {world : World} {why : Halt},
      act state world = .error why → (f <$> act) state world = .error why := by
    intro ρ act state world why hact
    simp only [Functor.map, StateT.map, Bind.bind, StateT.bind, Except.bind, hact]
  rcases h.cases with ⟨why, hhalt, hhalt'⟩ | ⟨a, last, around, last', around', heq, heq', hend⟩
  · exact of_halt (hhalts hhalt) (hhalts hhalt')
  · exact of_eq (map_of_ok heq) (map_of_ok heq') hend

/-- A pair on parts of larger states. -/
theorem within {part : τ → σ} {replace : σ → τ → τ} {part' : τ' → σ'} {replace' : σ' → τ' → τ'}
    {whole : τ} {whole' : τ'} {Whole : τ → World → τ' → World → Prop}
    (h : Lockstep act act' (part whole) world (part' whole') world'
      fun inner world inner' world' =>
        Whole (replace inner whole) world (replace' inner' whole') world') :
    Lockstep (act.within part replace) (act'.within part' replace') whole world whole' world'
      Whole := by
  rcases h.cases with ⟨why, hhalt, hhalt'⟩ | ⟨a, last, around, last', around', heq, heq', hend⟩
  · exact of_halt (by rw [Act.within, hhalt]) (by rw [Act.within, hhalt'])
  · exact of_eq (within_of_ok heq) (within_of_ok heq') hend

end Act.Lockstep

/-! ## Attempts -/

/-- From these states and worlds the two attempts keep step: both fail, with the same error, or
both succeed. -/
def Attempt.Lockstep (attempt : Attempt σ ε α) (attempt' : Attempt σ' ε α) (state : σ)
    (world : World) (state' : σ') (world' : World)
    (Related : σ → World → σ' → World → Prop) : Prop :=
  Act.Lockstep attempt.run attempt'.run state world state' world' Related

namespace Attempt.Lockstep

variable {attempt : Attempt σ ε α} {attempt' : Attempt σ' ε α} {next : α → Attempt σ ε β}
  {next' : α → Attempt σ' ε β}

theorem pure {a : α} (h : Related state world state' world') :
    Lockstep (Pure.pure a : Attempt σ ε α) (Pure.pure a : Attempt σ' ε α) state world state' world'
      Related :=
  Act.Lockstep.of_eq rfl rfl h

theorem throw {error : ε} (h : Related state world state' world') :
    Lockstep (MonadExcept.throw error : Attempt σ ε α) (MonadExcept.throw error : Attempt σ' ε α)
      state world state' world' Related :=
  Act.Lockstep.of_eq rfl rfl h

/-- One pair after another that went well, with a relation of its own in between. -/
theorem bind_via (h : Lockstep attempt attempt' state world state' world' Mid)
    (hfailed : ∀ state world state' world', Mid state world state' world' →
      Related state world state' world')
    (hnext : ∀ a state world state' world', Mid state world state' world' →
      Lockstep (next a) (next' a) state world state' world' Related) :
    Lockstep (attempt >>= next) (attempt' >>= next') state world state' world' Related := by
  refine Act.Lockstep.bind h fun result state world state' world' hmid => ?_
  cases result with
  | error error => exact Act.Lockstep.of_eq rfl rfl (hfailed _ _ _ _ hmid)
  | ok a => exact hnext a _ _ _ _ hmid

/-- One pair after another that went well. -/
theorem bind (h : Lockstep attempt attempt' state world state' world' Related)
    (hnext : ∀ a state world state' world', Related state world state' world' →
      Lockstep (next a) (next' a) state world state' world' Related) :
    Lockstep (attempt >>= next) (attempt' >>= next') state world state' world' Related :=
  h.bind_via (fun _ _ _ _ hrelated => hrelated) hnext

/-- What is made of the result does not matter. -/
theorem bind_pure {f : α → β} (h : Lockstep attempt attempt' state world state' world' Related) :
    Lockstep (attempt >>= fun a => Pure.pure (f a)) (attempt' >>= fun a => Pure.pure (f a)) state
      world state' world' Related :=
  h.bind fun _ _ _ _ _ hrelated => pure hrelated

theorem step {a : α} (heq : attempt.run state world = .ok ((.ok a, last), around))
    (heq' : attempt'.run state' world' = .ok ((.ok a, last'), around'))
    (h : Lockstep (next a) (next' a) last around last' around' Related) :
    Lockstep (attempt >>= next) (attempt' >>= next') state world state' world' Related :=
  Act.Lockstep.congr (bind_of_ok heq) (bind_of_ok heq') h

/-- Actions that have no error, as attempts. -/
theorem lift {act : Act σ α} {act' : Act σ' α}
    (h : Act.Lockstep act act' state world state' world' Related) :
    Lockstep (ExceptT.lift act : Attempt σ ε α) (ExceptT.lift act' : Attempt σ' ε α) state world
      state' world' Related :=
  Act.Lockstep.map h

theorem within {part : τ → σ} {replace : σ → τ → τ} {part' : τ' → σ'} {replace' : σ' → τ' → τ'}
    {whole : τ} {whole' : τ'} {Whole : τ → World → τ' → World → Prop}
    (h : Lockstep attempt attempt' (part whole) world (part' whole') world'
      fun inner world inner' world' =>
        Whole (replace inner whole) world (replace' inner' whole') world') :
    Lockstep (Attempt.within part replace attempt) (Attempt.within part' replace' attempt') whole
      world whole' world' Whole :=
  Act.Lockstep.within h

theorem orElseAs {f : ε → ε₂} (h : Lockstep attempt attempt' state world state' world' Related) :
    Lockstep (attempt.orElseAs f) (attempt'.orElseAs f) state world state' world' Related :=
  Act.Lockstep.map h

/-- A result, good or bad, is the same value to go on with. -/
theorem caught (h : Lockstep attempt attempt' state world state' world' Related) :
    Lockstep (attempt.caught : Attempt σ ε₂ _) (attempt'.caught : Attempt σ' ε₂ _) state world
      state' world' Related :=
  Act.Lockstep.bind h fun _ _ _ _ _ hrelated => Act.Lockstep.of_eq rfl rfl hrelated

end Attempt.Lockstep

end SealedLog

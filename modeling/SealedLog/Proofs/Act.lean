import SealedLog.Act

/-!
# What actions come to

A calculus for actions: what an action comes to in one state of its own and of the world, whether
it ends, and how. The rules follow the ways in which actions are put together.

- `Act.Ensures`: an action ends as is said, or does not come back for a reason that is allowed.
- `Attempt.Ensures`: the same with errors told apart from results.
- `Act.Ensures.bind`, `Attempt.Ensures.bind`: one action after another.
- `Act.Ensures.exists_of_total`: an action with no reason to stay away ends.
-/

namespace SealedLog

variable {σ τ α β ε ε₂ : Type} {state state' : σ} {world world' : World}

/-! ## Actions -/

/-- An action on the world after one whose end is known. -/
theorem Scene.bind_of_ok {scene : Scene α} {next : α → Scene β} {a : α}
    (h : scene world = .ok (a, world')) : (scene >>= next) world = next a world' := by
  simp only [Bind.bind, StateT.bind, Except.bind, h]

/-- An action in two parts comes back if both parts do. -/
theorem Scene.bind_eq_ok {scene : Scene α} {next : α → Scene β} {ended : β × World} :
    (scene >>= next) world = .ok ended ↔
      ∃ a between, scene world = .ok (a, between) ∧ next a between = .ok ended := by
  cases hscene : scene world with
  | error why =>
    have hhalt : (scene >>= next) world = .error why := by
      simp only [Bind.bind, StateT.bind, Except.bind, hscene]
    rw [hhalt]
    exact ⟨nofun, by rintro ⟨_, _, h, -⟩; cases h⟩
  | ok found =>
    obtain ⟨a, between⟩ := found
    rw [Scene.bind_of_ok hscene]
    constructor
    · exact fun h => ⟨a, between, rfl, h⟩
    · rintro ⟨_, _, h, hnext⟩
      cases h
      exact hnext

theorem Scene.onFiles_of_eq {step : FileStep α} {result : Except SystemError α} {files : Files}
    (h : step world.files = (result, files)) :
    Scene.onFiles step world = .ok (result, { world with files }) := by
  simp only [Scene.onFiles, modifyGet, MonadStateOf.modifyGet, StateT.modifyGet, h]
  rfl

/-- An action after one whose end is known. -/
theorem Act.bind_of_ok {act : Act σ α} {next : α → Act σ β} {a : α}
    (h : act state world = .ok ((a, state'), world')) :
    (act >>= next) state world = next a state' world' := by
  simp only [Bind.bind, StateT.bind, Except.bind, h]

/-- An action on the world alone leaves the state alone. -/
theorem Act.lift_of_ok {scene : Scene α} {a : α} (h : scene world = .ok (a, world')) :
    (liftM scene : Act σ α) state world = .ok ((a, state), world') := by
  simp only [liftM, monadLift, MonadLift.monadLift, StateT.lift, Bind.bind, StateT.bind,
    Except.bind, h]
  rfl

theorem Act.bind_of_error {act : Act σ α} {next : α → Act σ β} {why : Halt}
    (h : act state world = .error why) : (act >>= next) state world = .error why := by
  simp only [Bind.bind, StateT.bind, Except.bind, h]

theorem Act.map_of_ok {act : Act σ α} {f : α → β} {a : α}
    (h : act state world = .ok ((a, state'), world')) :
    (f <$> act) state world = .ok ((f a, state'), world') := by
  simp only [Functor.map, StateT.map, Bind.bind, StateT.bind, Except.bind, h]
  rfl

theorem Act.map_of_error {act : Act σ α} {f : α → β} {why : Halt}
    (h : act state world = .error why) : (f <$> act) state world = .error why := by
  simp only [Functor.map, StateT.map, Bind.bind, StateT.bind, Except.bind, h]

theorem Act.within_of_ok {act : Act σ α} {part : τ → σ} {replace : σ → τ → τ} {whole : τ} {a : α}
    (h : act (part whole) world = .ok ((a, state'), world')) :
    act.within part replace whole world = .ok ((a, replace state' whole), world') := by
  rw [Act.within, h]

/-- From a state and a world, the action ends as `Post` says, or it does not come back for a
reason that `Halts` allows. -/
structure Act.Ensures (act : Act σ α) (state : σ) (world : World) (Halts : Halt → Prop)
    (Post : α → σ → World → Prop) : Prop where
  halts : ∀ why, act state world = .error why → Halts why
  ends : ∀ a state' world', act state world = .ok ((a, state'), world') → Post a state' world'

namespace Act.Ensures

variable {act : Act σ α} {next : α → Act σ β} {Halts : Halt → Prop}
  {Post Post' Mid : α → σ → World → Prop} {Last : β → σ → World → Prop}

theorem of_eq {a : α} (heq : act state world = .ok ((a, state'), world'))
    (h : Post a state' world') : act.Ensures state world Halts Post := by
  constructor
  · intro why hwhy
    rw [heq] at hwhy
    cases hwhy
  · intro b later around hb
    rw [heq] at hb
    obtain ⟨h', rfl⟩ := Prod.mk.inj (Except.ok.inj hb)
    obtain ⟨rfl, rfl⟩ := Prod.mk.inj h'
    exact h

theorem of_halt {why : Halt} (heq : act state world = .error why) (h : Halts why) :
    act.Ensures state world Halts Post := by
  constructor
  · intro other hother
    rw [heq] at hother
    cases hother
    exact h
  · intro a later around ha
    rw [heq] at ha
    cases ha

theorem mono (h : act.Ensures state world Halts Post)
    (hpost : ∀ a state world, Post a state world → Post' a state world) :
    act.Ensures state world Halts Post' :=
  ⟨h.halts, fun a state world heq => hpost a state world (h.ends a state world heq)⟩

/-- More reasons may be allowed. -/
theorem allowing {Halts' : Halt → Prop} (h : act.Ensures state world Halts Post)
    (hhalts : ∀ why, Halts why → Halts' why) : act.Ensures state world Halts' Post :=
  ⟨fun why hwhy => hhalts why (h.halts why hwhy), h.ends⟩

/-- Actions that run alike come to the same. -/
theorem congr {act' : Act σ α} (heq : act state world = act' state' world')
    (h : act'.Ensures state' world' Halts Post) : act.Ensures state world Halts Post := by
  constructor
  · rw [heq]
    exact h.halts
  · rw [heq]
    exact h.ends

/-- One action after another. -/
theorem bind (h : act.Ensures state world Halts Mid)
    (hnext : ∀ a state world, Mid a state world → (next a).Ensures state world Halts Last) :
    (act >>= next).Ensures state world Halts Last := by
  cases hact : act state world with
  | error why => exact of_halt (Act.bind_of_error hact) (h.halts why hact)
  | ok found =>
    rcases found with ⟨⟨a, later⟩, around⟩
    exact congr (Act.bind_of_ok hact) (hnext a later around (h.ends a later around hact))

theorem step {a : α} (heq : act state world = .ok ((a, state'), world'))
    (h : (next a).Ensures state' world' Halts Last) :
    (act >>= next).Ensures state world Halts Last := by
  have hend : act.Ensures state world Halts fun b later around =>
      b = a ∧ later = state' ∧ around = world' :=
    of_eq heq ⟨rfl, rfl, rfl⟩
  refine hend.bind ?_
  rintro b later around ⟨rfl, rfl, rfl⟩
  exact h

/-- An action with its result put into other terms. -/
theorem map {f : α → β} (h : act.Ensures state world Halts fun a => Last (f a)) :
    (f <$> act).Ensures state world Halts Last := by
  cases hact : act state world with
  | error why => exact of_halt (Act.map_of_error hact) (h.halts why hact)
  | ok found =>
    rcases found with ⟨⟨a, later⟩, around⟩
    exact of_eq (Act.map_of_ok hact) (h.ends a later around hact)

/-- An action on a part of a state leaves the rest of it alone. -/
theorem within {part : τ → σ} {replace : σ → τ → τ} {whole : τ} {Post : α → τ → World → Prop}
    (h : act.Ensures (part whole) world Halts
      fun a inner world => Post a (replace inner whole) world) :
    (act.within part replace).Ensures whole world Halts Post := by
  cases hact : act (part whole) world with
  | error why =>
    have heq : act.within part replace whole world = .error why := by rw [Act.within, hact]
    exact of_halt heq (h.halts why hact)
  | ok found =>
    rcases found with ⟨⟨a, inner⟩, around⟩
    exact of_eq (Act.within_of_ok hact) (h.ends a inner around hact)

/-- An action on a state of its own, run in between. -/
theorem bind_run {inner : τ} {act : Act τ α} {next : α × τ → Act σ β}
    {Mid : α → τ → World → Prop} (h : act.Ensures inner world Halts Mid)
    (hnext : ∀ a inner world, Mid a inner world →
      (next (a, inner)).Ensures state world Halts Last) :
    Act.Ensures ((StateT.lift (act.run inner) : Act σ (α × τ)) >>= next) state world Halts
      Last := by
  have hrun : Act.Ensures (StateT.lift (act.run inner)) state world Halts fun found state' world' =>
      state' = state ∧ Mid found.1 found.2 world' := by
    cases hact : act inner world with
    | error why =>
      refine of_halt ?_ (h.halts why hact)
      simp only [StateT.lift, StateT.run, Bind.bind, StateT.bind, Except.bind, hact]
    | ok found =>
      rcases found with ⟨⟨a, later⟩, around⟩
      refine of_eq (a := (a, later)) ?_ ⟨rfl, h.ends a later around hact⟩
      simp only [StateT.lift, StateT.run, Bind.bind, StateT.bind, Except.bind, hact]
      rfl
  refine hrun.bind ?_
  rintro found _ world' ⟨rfl, hmid⟩
  exact hnext found.1 found.2 world' hmid

/-- An action with no reason to stay away ends. -/
theorem exists_of_total (h : act.Ensures state world (fun _ => False) Post) :
    ∃ a state' world', act state world = .ok ((a, state'), world') ∧ Post a state' world' := by
  cases hact : act state world with
  | error why => exact (h.halts why hact).elim
  | ok found =>
    rcases found with ⟨⟨a, later⟩, around⟩
    exact ⟨a, later, around, rfl, h.ends a later around hact⟩

end Act.Ensures

/-! ## Attempts -/

namespace Attempt

/-- An attempt after one that is known to go well. -/
theorem bind_of_ok {attempt : Attempt σ ε α} {next : α → Attempt σ ε β} {a : α}
    (h : attempt.run state world = .ok ((.ok a, state'), world')) :
    (attempt >>= next).run state world = (next a).run state' world' :=
  Act.bind_of_ok h

/-- An attempt in two parts comes back from the first one with an error, or from the second one. -/
theorem bind_eq_ok {attempt : Attempt σ ε α} {next : α → Attempt σ ε β} {last : σ} {around : World}
    {result : Except ε β} :
    (attempt >>= next).run state world = .ok ((result, last), around) ↔
      (∃ error, attempt.run state world = .ok ((.error error, last), around) ∧
        result = .error error) ∨
      ∃ a middle between, attempt.run state world = .ok ((.ok a, middle), between) ∧
        (next a).run middle between = .ok ((result, last), around) := by
  cases hrun : attempt.run state world with
  | error why =>
    have hhalt : (attempt >>= next).run state world = .error why := Act.bind_of_error hrun
    rw [hhalt]
    exact ⟨nofun, by rintro (⟨_, h, -⟩ | ⟨_, _, _, h, -⟩) <;> cases h⟩
  | ok ended =>
    obtain ⟨⟨found, middle⟩, between⟩ := ended
    cases found with
    | error error =>
      have hfailed : (attempt >>= next).run state world = .ok ((.error error, middle), between) :=
        Act.bind_of_ok hrun
      rw [hfailed]
      constructor
      · intro h
        cases h
        exact .inl ⟨error, rfl, rfl⟩
      · rintro (⟨_, h, rfl⟩ | ⟨_, _, _, h, -⟩) <;> cases h
        rfl
    | ok a =>
      rw [Attempt.bind_of_ok hrun]
      constructor
      · exact fun h => .inr ⟨a, middle, between, rfl, h⟩
      · rintro (⟨_, h, -⟩ | ⟨_, _, _, h, hnext⟩) <;> cases h
        exact hnext

theorem lift_of_ok {act : Act σ α} {a : α} (h : act state world = .ok ((a, state'), world')) :
    (ExceptT.lift act : Attempt σ ε α).run state world = .ok ((.ok a, state'), world') :=
  Act.map_of_ok (f := Except.ok) h

/-- What is said of errors and what is said of results, as one. -/
def Either (Bad : ε → σ → World → Prop) (Good : α → σ → World → Prop) :
    Except ε α → σ → World → Prop
  | .error error => Bad error
  | .ok a => Good a

/-- From a state and a world, the attempt ends in a result as `Good` says, or in an error as `Bad`
says, or it does not come back for a reason that `Halts` allows. -/
def Ensures (attempt : Attempt σ ε α) (state : σ) (world : World) (Halts : Halt → Prop)
    (Bad : ε → σ → World → Prop) (Good : α → σ → World → Prop) : Prop :=
  Act.Ensures attempt.run state world Halts (Either Bad Good)

namespace Ensures

variable {attempt : Attempt σ ε α} {next : α → Attempt σ ε β} {Halts : Halt → Prop}
  {Bad Bad' : ε → σ → World → Prop}
  {Good Good' Mid : α → σ → World → Prop} {Last : β → σ → World → Prop}

theorem of_eq {result : Except ε α} (heq : attempt.run state world = .ok ((result, state'), world'))
    (h : Either Bad Good result state' world') : attempt.Ensures state world Halts Bad Good :=
  Act.Ensures.of_eq heq h

theorem mono (h : attempt.Ensures state world Halts Bad Good)
    (hbad : ∀ error state world, Bad error state world → Bad' error state world)
    (hgood : ∀ a state world, Good a state world → Good' a state world) :
    attempt.Ensures state world Halts Bad' Good' := by
  refine Act.Ensures.mono h fun result state world hresult => ?_
  cases result with
  | error error => exact hbad error state world hresult
  | ok a => exact hgood a state world hresult

/-- An attempt that cannot end does not come back. -/
theorem run_of_never {why : Halt}
    (h : attempt.Ensures state world (· = why) (fun _ _ _ => False) fun _ _ _ => False) :
    attempt.run state world = .error why := by
  cases hrun : attempt.run state world with
  | error other => rw [h.halts other hrun]
  | ok found =>
    obtain ⟨⟨result, last⟩, around⟩ := found
    have hends := h.ends result last around hrun
    cases result with
    | error error => exact hends.elim
    | ok a => exact hends.elim

/-- An attempt ends in whatever way. -/
theorem anyhow : attempt.Ensures state world (fun _ => True) (fun _ _ _ => True)
    fun _ _ _ => True := by
  refine ⟨fun _ _ => trivial, ?_⟩
  rintro (_ | _) _ _ _ <;> trivial

theorem pure {a : α} (h : Good a state world) :
    Ensures (Pure.pure a : Attempt σ ε α) state world Halts Bad Good :=
  of_eq rfl h

theorem throw {error : ε} (h : Bad error state world) :
    Ensures (MonadExcept.throw error : Attempt σ ε α) state world Halts Bad Good :=
  of_eq rfl h

/-- One attempt after another that went well. -/
theorem bind (h : attempt.Ensures state world Halts Bad Mid)
    (hnext : ∀ a state world, Mid a state world → (next a).Ensures state world Halts Bad Last) :
    Ensures (attempt >>= next) state world Halts Bad Last := by
  refine Act.Ensures.bind h fun result state world hresult => ?_
  cases result with
  | error error => exact Act.Ensures.of_eq rfl hresult
  | ok a => exact hnext a state world hresult

/-- An attempt after one whose end is known. -/
theorem step {a : α} (heq : attempt.run state world = .ok ((.ok a, state'), world'))
    (h : (next a).Ensures state' world' Halts Bad Last) :
    Ensures (attempt >>= next) state world Halts Bad Last := by
  have hend : attempt.Ensures state world Halts Bad fun b later around =>
      b = a ∧ later = state' ∧ around = world' :=
    of_eq heq ⟨rfl, rfl, rfl⟩
  refine hend.bind ?_
  rintro b later around ⟨rfl, rfl, rfl⟩
  exact h

/-- An action that has no error, as an attempt. -/
theorem lift {act : Act σ α} (h : act.Ensures state world Halts Good) :
    Ensures (ExceptT.lift act : Attempt σ ε α) state world Halts Bad Good :=
  Act.Ensures.map (f := Except.ok) h

/-- An attempt on a part of a state leaves the rest of it alone. -/
theorem within {part : τ → σ} {replace : σ → τ → τ} {whole : τ}
    {Bad : ε → τ → World → Prop} {Good : α → τ → World → Prop}
    (h : attempt.Ensures (part whole) world Halts
      (fun error inner world => Bad error (replace inner whole) world)
      fun a inner world => Good a (replace inner whole) world) :
    (Attempt.within part replace attempt).Ensures whole world Halts Bad Good := by
  refine Act.Ensures.within (Act.Ensures.mono h fun result inner world hresult => ?_)
  cases result with
  | error error => exact hresult
  | ok a => exact hresult

/-- An attempt with its error put into other terms. -/
theorem orElseAs {f : ε → ε₂} {Bad : ε₂ → σ → World → Prop}
    (h : attempt.Ensures state world Halts (fun error => Bad (f error)) Good) :
    (attempt.orElseAs f).Ensures state world Halts Bad Good := by
  refine Act.Ensures.map (f := Except.mapError f) (Act.Ensures.mono h ?_)
  intro result state world hresult
  cases result with
  | error error => exact hresult
  | ok a => exact hresult

/-- A result, good or bad, is a value to go on with. -/
theorem caught {Bad : ε₂ → σ → World → Prop} {Post : σ → World → Prop}
    (h : attempt.Ensures state world Halts (fun _ => Post) fun _ => Post) :
    Ensures (attempt.caught : Attempt σ ε₂ (Except ε α)) state world Halts Bad fun _ => Post := by
  refine Act.Ensures.bind h fun result last around hresult => ?_
  cases result with
  | error error => exact Act.Ensures.of_eq rfl hresult
  | ok a => exact Act.Ensures.of_eq rfl hresult

end Ensures

end Attempt

/-! ## Evaluation -/

/-- A way to say what actions come to that can be evaluated, one after the other. -/
theorem any_toOption {result : Except ε α} {p : α → Bool} :
    result.toOption.any p = true ↔ ∃ a, result = .ok a ∧ p a = true := by
  cases result with
  | error error => simp [Except.toOption]
  | ok a => simp [Except.toOption]

end SealedLog

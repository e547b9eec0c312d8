import GuardedMachine.Effect.Basic
import GuardedMachine.Proofs.Program.Doing

/-!
# What entering and leaving a state does

Entering a state runs its effects in order, each with the event and the context of the state, reports
the names that are not configured, and keeps the cleanups that the effects return (`Entered`).
Leaving it runs these cleanups in order.  This holds wherever effects and cleanups are run by calls
(`EffectCalls.Made`), and whatever these calls do.
-/

namespace GuardedMachine

/-- The calls by which effects and cleanups are run and reports are written. -/
structure EffectCalls (Call : Type) (Answer : Call → Type) (W C K : Type) where
  effect : K → EffectParams C → Call
  cleanup : K → EffectParams C → Call
  report : Report → Call
  /-- The cleanup that an effect returns at a moment. -/
  returned : Moment Call Answer W → List K

namespace EffectCalls

variable {Call : Type} {Answer : Call → Type} {W ε S C K : Type}
  (calls : EffectCalls Call Answer W C K)

/-- Effects, cleanups and reports are these calls and do nothing else themselves, and locks are no
calls. -/
structure Made (host : EffectHost (Program Call Answer W ε) C K) : Prop where
  effect : ∀ token params (world : W), Contract.Does (host.effect token params) world
    fun exit _ own => own.filterMap Moment.made? = [calls.effect token params]
      ∧ own.flatMap calls.returned = exit.toList
  cleanup : ∀ token params (world : W), Contract.Does (host.cleanup token params) world
    fun _ _ own => own.filterMap Moment.made? = [calls.cleanup token params]
  newLock : ∀ world : W, Contract.Does host.newLock world fun _ _ own => own = []
  setLocked : ∀ lock closed (world : W), Contract.Does (host.setLocked lock closed) world
    fun _ _ own => own = []
  report : ∀ report (world : W), Contract.Does (host.report report) world
    fun _ _ own => own.filterMap Moment.made? = [calls.report report]
      ∧ own.flatMap calls.returned = []

/-- The call by which the effect of a name is run, or reported when it is not configured. -/
def takesUp [StateValue S] [Context C] (config : Config K) (state : MachineState S C)
    (handle : Handle) (name : String) : Call :=
  match config.effect? name with
  | some token => calls.effect token { event := state.event, context := state.context, handle }
  | none =>
    calls.report
      { diagnostic := .undefinedEffect name (StateValue.name state.value)
        details := [("Event", state.event.text), ("Context", Context.inspect state.context)] }

variable {calls} {host : EffectHost (Program Call Answer W ε) C K} {world : W}

/-- Cleanups are run one after the other. -/
theorem Made.does_runExits (h : calls.Made host) {params : EffectParams C} (exits : List K) :
  Contract.Does (host.runExits params exits) world fun _ _ own =>
    own.filterMap Moment.made? = exits.map fun exit => calls.cleanup exit params
  := by
  induction exits generalizing world with
  | nil =>
    apply Contract.does_pure
    rfl
  | cons exit rest ih =>
    apply Contract.does_bind (h.cleanup exit params world)
    intro _ world' own hfirst
    apply ih.mono
    intro _ world'' own' hrest
    rw [List.filterMap_append, hfirst, hrest]
    rfl

/-- When a state is left its cleanups are run with the event and the context of its exit. -/
theorem Made.does_leave (h : calls.Made host) {left : EffectCleanup K} {event : Event}
    {context : C} :
  Contract.Does (host.leave left event context) world fun _ _ own =>
    own.filterMap Moment.made?
      = left.exits.map fun exit => calls.cleanup exit { event, context, handle := left.handle }
  := by
  apply Contract.does_bind (h.setLocked left.handle.lock false world)
  rintro _ world' _ rfl
  apply Contract.does_bind (h.does_runExits left.exits)
  intro _ world'' own hexits
  apply (h.setLocked left.handle.lock left.sync world'').mono
  rintro _ _ _ rfl
  simpa using hexits

variable [StateValue S] [Context C] {config : Config K} {state : MachineState S C}

/-- Effects are taken up one after the other, and the cleanups that they return are kept. -/
theorem Made.does_runEffects (h : calls.Made host) {handle : Handle} (names : List String) :
  Contract.Does (host.runEffects config state handle names) world fun exits _ own =>
    own.filterMap Moment.made? = names.map (calls.takesUp config state handle)
      ∧ exits = own.flatMap calls.returned
  := by
  induction names generalizing world with
  | nil =>
    apply Contract.does_pure
    use rfl
    rfl
  | cons name rest ih =>
    rw [EffectHost.runEffects, List.map_cons, takesUp]
    cases config.effect? name with
    | none =>
      apply Contract.does_bind (h.report _ world)
      rintro _ world' own ⟨hmade, hreturned⟩
      apply ih.mono
      rintro exits world'' own' ⟨hmade', rfl⟩
      rw [List.filterMap_append, hmade, hmade', List.flatMap_append, hreturned]
      use rfl
      rfl
    | some token =>
      apply Contract.does_bind (h.effect token _ world)
      rintro exit world' own ⟨hmade, hreturned⟩
      apply Contract.does_bind ih
      rintro exits world'' own' ⟨hmade', rfl⟩
      apply Contract.does_pure
      rw [List.append_nil, List.filterMap_append, hmade, hmade', List.flatMap_append, hreturned]
      use rfl

variable [DecidableEq S]

/-- What entering a state does itself, and what it returns. -/
structure Entered (calls : EffectCalls Call Answer W C K) (definition : Definition S C)
    (config : Config K) (state : MachineState S C) (sync : Bool)
    (answer : Option (EffectCleanup K)) (own : List (Moment Call Answer W)) : Prop where
  /-- Nothing is returned just when the value of the state is not defined or has no effects. -/
  none_iff : answer = none ↔ definition.state? state.value = none
    ∨ ∃ entered, definition.state? state.value = some entered ∧ entered.effects = []
  /-- Then nothing is done. -/
  idle : answer = none → own = []
  /-- Otherwise all effects are taken up, and their cleanups are returned. -/
  taken : ∀ left, answer = some left → ∃ entered, definition.state? state.value = some entered
    ∧ own.filterMap Moment.made? = entered.effects.map (calls.takesUp config state left.handle)
    ∧ left.exits = own.flatMap calls.returned
    ∧ left.handle.state = StateValue.name state.value ∧ left.sync = sync

theorem Made.does_enter (h : calls.Made host) {definition : Definition S C} {sync : Bool} :
  Contract.Does (host.enter definition config state sync) world fun answer _ own =>
    calls.Entered definition config state sync answer own
  := by
  rw [EffectHost.enter]
  split
  · next hstate =>
    apply Contract.does_pure
    constructor
    · simp [hstate]
    · intro _
      rfl
    · rintro left ⟨⟩
  · next hstate =>
    apply Contract.does_pure
    constructor
    · simp [hstate]
    · intro _
      rfl
    · rintro left ⟨⟩
  · next on names hne hstate =>
    apply Contract.does_bind (h.newLock world)
    rintro lock world' _ rfl
    apply Contract.does_bind (h.does_runEffects names)
    rintro exits world'' own ⟨hmade, rfl⟩
    apply Contract.does_bind (h.setLocked lock sync world'')
    rintro _ _ _ rfl
    apply Contract.does_pure
    simp only [List.nil_append, List.append_nil]
    constructor
    · simpa [hstate] using hne
    · rintro ⟨⟩
    · rintro left ⟨⟩
      use { on, effects := names }, hstate, hmade

end EffectCalls

end GuardedMachine

import GuardedMachine.Proofs.Effect.Doing
import GuardedMachine.Proofs.Machine.Resolved
import GuardedMachine.Proofs.Synced.Owed

/-!
# What is run when effects are run anew

When the effects of a state are run anew, the cleanups that are stored are run first and then the
effects of the state, in order and whatever the callbacks ask of the machine meanwhile; what the
effects return is stored.  The cleanups get the event and the context of the state whose effects
follow (`RunsOwn`).
-/

namespace GuardedMachine.Synced

variable {S C K M ε α : Type}

/-! ### The calls that a call makes itself -/

/-- The cleanups that are stored are run, if there are any. -/
def leavings (world : World S C K M) : List (Call S C K) :=
  match world.exit with
  | none => []
  | some cleanup => [.leave cleanup world.state.event world.state.context]

/-- What a call does itself that is made in a world, as far as it runs effects and cleanups: the
calls that it makes, and what becomes of the cleanups that effects return. -/
def RunsOwn [DecidableEq S] [StateValue S] (machine : Machine S C K) (called world : World S C K M)
    (own : History S C K M) : (call : Call S C K) → call.Answer → Prop
  | .renew state, _ =>
    own.filterMap Moment.made? = leavings called ++ [.enter state]
      ∧ ∃ entered, own.getLast? = some (.answered (.enter state) world.exit entered)
  | .leave cleanup event context, _ =>
    own.filterMap Moment.made?
      = cleanup.exits.map fun exit => .cleanup exit { event, context, handle := cleanup.handle }
  | .enter state, exit =>
    (∃ handle, own.filterMap Moment.made?
      = (Visit.effectsOf machine state.value).map fun token =>
          .effect token { event := state.event, context := state.context, handle })
      ∧ stored exit = own.flatMap returnedAt
  | _, _ => True

/-- A call that has been answered did what it is to do itself. -/
def RanOwn [DecidableEq S] [StateValue S] (machine : Machine S C K) (world : World S C K M)
    (history : History S C K M) : Prop :=
  ∀ call answer later, history = .answered call answer world :: later →
    ∃ called before own, Moment.Nested (.called call called :: before) own later
      ∧ RunsOwn machine called world own call answer

/-! ### Bodies -/

/-- The calls of a synchronous machine for effects, cleanups and reports. -/
def effectCalls : EffectCalls (Call S C K) Call.Answer (World S C K M) C K where
  effect := .effect
  cleanup := .cleanup
  report := .report
  returned := returnedAt

theorem effectCalls_made :
  (effectCalls : EffectCalls (Call S C K) Call.Answer (World S C K M) C K).Made (ε := ε) effectHost
  where
  effect token params world := by
    apply (Contract.does_ask _).mono
    rintro exit world' _ rfl
    use rfl
    apply List.append_nil
  cleanup token params world := by
    apply (Contract.does_ask _).mono
    rintro _ world' _ rfl
    rfl
  newLock world := Contract.does_read_update
  setLocked lock closed world := Contract.does_update rfl
  report report world := by
    apply (Contract.does_ask _).mono
    rintro _ world' _ rfl
    use rfl
    rfl

variable {world : World S C K M}

/-- The cleanups that are stored are run. -/
theorem does_runExit :
  Contract.Does (runExit : Engine S C K M ε Unit) world fun _ _ own =>
    own.filterMap Moment.made? = leavings world
  := by
  apply Contract.does_world
  rw [leavings]
  cases world.exit with
  | none =>
    apply Contract.does_pure
    rfl
  | some cleanup =>
    have hemptied : Contract.Does
        (Program.update fun world : World S C K M => { world with exit := none } :
          Engine S C K M ε Unit)
        world fun _ _ own => own = [] := Contract.does_update rfl
    apply Contract.does_bind hemptied
    rintro _ world' _ rfl
    apply (Contract.does_ask _).mono
    rintro _ world'' _ rfl
    rfl

/-- The cleanups that are stored are run, and then the effects of a state. -/
theorem does_renew {state : MachineState S C} :
  Contract.Does (renew state : Engine S C K M ε Unit) world fun _ world' own =>
    own.filterMap Moment.made? = leavings world ++ [.enter state]
      ∧ ∃ entered, own.getLast? = some (.answered (.enter state) world'.exit entered)
  := by
  apply Contract.does_bind does_runExit
  intro _ world₁ own hleft
  have hentered : Contract.Does (ask (.enter state) : Engine S C K M ε (Option (EffectCleanup K)))
      world₁ fun exit world₂ own =>
        own = [.called (.enter state) world₁, .answered (.enter state) exit world₂] :=
    Contract.does_ask _
  apply Contract.does_bind hentered
  rintro exit world₂ _ rfl
  apply Contract.does_update
  constructor
  · rw [List.append_nil, List.filterMap_append, hleft]
    rfl
  · use world₂
    rw [List.append_nil, List.getLast?_append]
    rfl

variable [StateValue S] [Context C]

/-- Effects that are configured are run. -/
theorem map_takesUp {config : Config K} {state : MachineState S C} {handle : Handle}
    {names : List String} (hconfigured : ∀ name ∈ names, config.effect? name ≠ none) :
  names.map ((effectCalls : EffectCalls (Call S C K) Call.Answer (World S C K M) C K).takesUp config
      state handle)
    = (names.filterMap config.effect?).map fun token =>
        .effect token { event := state.event, context := state.context, handle }
  := by
  induction names with
  | nil => rfl
  | cons name rest ih =>
    obtain ⟨hname, hrest⟩ := List.forall_mem_cons.mp hconfigured
    obtain ⟨token, htoken⟩ := Option.ne_none_iff_exists'.mp hname
    rw [List.map_cons, ih hrest, List.filterMap_cons_some htoken, EffectCalls.takesUp, htoken]
    rfl

variable [DecidableEq S] {machine : Machine S C K}

/-- When a state is entered its effects are run, all of which are configured. -/
theorem runsOwn_of_entered {state : MachineState S C} {called world : World S C K M}
    {exit : Option (EffectCleanup K)} {own : History S C K M}
    (h : effectCalls.Entered machine.definition machine.config state true exit own) :
  RunsOwn machine called world own (.enter state) exit
  := by
  cases exit with
  | none =>
    obtain rfl := h.idle rfl
    refine ⟨⟨⟨0, ""⟩, ?_⟩, rfl⟩
    obtain hstate | ⟨entered, hstate, heffects⟩ := h.none_iff.mp rfl
    · rw [Visit.effectsOf, hstate]
      rfl
    · rw [Visit.effectsOf, hstate]
      dsimp only
      rw [heffects]
      rfl
  | some left =>
    obtain ⟨entered, hstate, hmade, hexits, -⟩ := h.taken left rfl
    refine ⟨⟨left.handle, ?_⟩, hexits⟩
    have hconfigured : ∀ name ∈ entered.effects, machine.config.effect? name ≠ none :=
      fun name hname => Machine.effect_configured hstate hname
    rw [hmade, map_takesUp hconfigured, Visit.effectsOf, hstate]

/-- Every body does what it is to do itself. -/
theorem does_body (machine : Machine S C K) (client : Client S C K M ε) (call : Call S C K)
    (world : World S C K M) :
  Contract.Does (body machine client call) world fun answer world' own =>
    RunsOwn machine world world' own call answer
  := by
  cases call with
  | renew state => exact does_renew
  | leave cleanup event context => exact effectCalls_made.does_leave
  | enter state =>
    apply (effectCalls_made.does_enter).mono
    intro exit world' own hentered
    apply runsOwn_of_entered hentered
  | _ => exact Contract.does_anything _

/-- In every run a call that has been answered did what it is to do itself. -/
theorem throughout_own (machine : Machine S C K) (client : Client S C K M ε)
    (code : Code S C K M ε α) (memory : M) (depth : Nat) :
  Moment.Throughout (RanOwn machine)
    (Synced.run machine client depth code
      (World.initial machine.initialState memory)).history
  := Contract.throughout_did (does_body machine client) (ofCode code) depth _

end GuardedMachine.Synced

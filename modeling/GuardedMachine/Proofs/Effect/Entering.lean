import GuardedMachine.Definition.Builder
import GuardedMachine.Proofs.Effect.Bodies
import GuardedMachine.Proofs.Effect.Doing
import GuardedMachine.Proofs.Effect.Running

/-!
# Owners that enter and leave states

An owner that runs the effects of its states itself may have callbacks that ask for anything, also
while effects and cleanups are run.  `effects_taken_in_order` says what it does to enter a state, what
it gets for it, and what it does with that to leave the state.
-/

namespace GuardedMachine.Runner

variable {S C K M ε α : Type}

/-- The calls of an owner for effects, cleanups and reports. -/
def effectCalls : EffectCalls (Call S C K) Call.Answer (World M) C K where
  effect := .effect
  cleanup := .cleanup
  report := .report
  returned
    | .answered (.effect _ _) exit _ => exit.toList
    | _ => []

theorem effectCalls_made :
  (effectCalls : EffectCalls (Call S C K) Call.Answer (World M) C K).Made (ε := ε) host
  where
  effect token params world := by
    apply (Contract.does_ask _).mono
    rintro exit world' _ rfl
    use rfl
    apply List.append_nil
  cleanup token params world := by
    apply (Contract.does_ask _).mono
    rintro _ world' _ rfl
    rfl
  newLock world := Contract.does_read_update
  setLocked lock closed world := Contract.does_update rfl
  report report world := by
    apply (Contract.does_ask _).mono
    rintro _ world' _ rfl
    use rfl
    rfl

variable [DecidableEq S] [StateValue S] [Context C]

/-- What a call does itself, as far as it runs effects and cleanups: entering a state takes up its
effects, and leaving it runs the cleanups that were returned for it. -/
def RunsOwn (definition : Definition S C) (config : Config K) :
    (call : Call S C K) → World M → call.Answer → World M → History S C K M → Prop
  | .request (.enter state sync), _, answer, _, own =>
    effectCalls.Entered definition config state sync answer own
  | .request (.leave left event context), _, _, _, own =>
    own.filterMap Moment.made?
      = left.exits.map fun exit => .cleanup exit { event, context, handle := left.handle }
  | _, _, _, _, _ => True

variable (definition : Definition S C) (config : Config K) (client : Client S C K M ε)

theorem does_body (call : Call S C K) (world : World M) :
  Contract.Does (body definition config client call) world (RunsOwn definition config call world)
  := by
  cases call with
  | request asked =>
    cases asked with
    | enter state sync => exact effectCalls_made.does_enter
    | leave left event context => exact effectCalls_made.does_leave
    | _ => exact Contract.does_anything _
  | _ => exact Contract.does_anything _

/-! ### Entries and exits that return -/

section Returning

variable {definition config client} {body : (call : Call S C K) → Engine S C K M ε call.Answer}

omit [DecidableEq S] [StateValue S] [Context C] in
/-- Locks are made and set without a failure. -/
theorem returning_setLocked (lock : Nat) (closed : Bool) :
  (Program.returning body fun _ => True).runs
    ((host : EffectHost _ C K).setLocked lock closed : Engine S C K M ε Unit)
  := by
  apply Program.returning_update
  intro _ _
  trivial

/-- Entering a state returns when the effects do. -/
theorem returning_enter {state : MachineState S C} {sync : Bool}
    (heffect : ∀ token params, (Program.returning body fun _ => True).runs
      (body (.effect token params)))
    (hreport : ∀ report, (Program.returning body fun _ => True).runs (body (.report report))) :
  (Program.returning body fun _ => True).runs
    (host.enter definition config state sync : Engine S C K M ε (Option (EffectCleanup K)))
  := by
  apply EffectHost.runs_enter
  · apply Judgement.runs_bind Program.returning_world
    intro _
    apply Judgement.runs_bind (Program.returning_update fun _ _ => trivial)
    intro _
    apply Judgement.runs_pure
  · intro lock closed
    apply returning_setLocked
  · intro token params
    apply Program.returning_ask (heffect token params)
  · intro _ _ _ _ _ _
    apply Program.returning_ask (hreport _)

omit [DecidableEq S] [StateValue S] [Context C] in
/-- Leaving a state returns when the cleanups do. -/
theorem returning_leave {left : EffectCleanup K} {event : Event} {context : C}
    (hcleanup : ∀ token params, (Program.returning body fun _ => True).runs
      (body (.cleanup token params))) :
  (Program.returning body fun _ => True).runs
    (host.leave left event context : Engine S C K M ε Unit)
  := by
  apply EffectHost.runs_leave
  · intro closed
    apply returning_setLocked
  · intro token params
    apply Program.returning_ask (hcleanup token params)

end Returning

/-- Effects are run in order, and so are the cleanups that they return.  Whatever the owner and its
callbacks ask for, when a state has been entered its effects have been taken up in order, with the
event and the context of the state, and the cleanups that they returned are the answer; when it has
been left these have been run in order, with the event and the context of the exit.  If effects
return, so does the entry of every state, and if cleanups return, so does its exit. -/
theorem effects_taken_in_order :
  (∀ (code : Code S C K M ε α) (depth : Nat) (world : World M),
      Moment.Throughout (Moment.Did (RunsOwn definition config))
        (Runner.run definition config client depth code world).history)
    ∧ ((∀ token params, (Program.returning (body definition config client) fun _ => True).runs
          (ofCode (client.effect token params))) →
        ∀ state sync world history, ∃ answer world' history' own,
          (host.enter definition config state sync).Ends (body definition config client)
              world history answer world' history'
            ∧ Moment.Nested history own history'
            ∧ effectCalls.Entered definition config state sync answer own)
    ∧ ((∀ token params, (Program.returning (body definition config client) fun _ => True).runs
          (ofCode (client.cleanup token params))) →
        ∀ left event context world history, ∃ world' history' own,
          (host.leave left event context).Ends (body definition config client)
              world history () world' history'
            ∧ Moment.Nested history own history'
            ∧ own.filterMap Moment.made?
              = left.exits.map fun exit => .cleanup exit { event, context, handle := left.handle })
  := by
  constructor
  · intro code depth world
    apply Contract.throughout_did (does_body definition config client)
  constructor
  · intro heffect state sync world history
    have hreport : ∀ report, (Program.returning (body definition config client) fun _ => True).runs
        (body definition config client (.report report)) := fun _ => Judgement.runs_pure _ ()
    apply (does_body definition config client (.request (.enter state sync)) world).of_runs
    apply returning_enter heffect hreport
  · intro hcleanup left event context world history
    obtain ⟨_, hleft⟩ :=
      (does_body definition config client (.request (.leave left event context)) world).of_runs
        (returning_leave hcleanup) history
    exact hleft

/-! ### Example -/

/-- A porch with an effect that is repeated and one that is not configured. -/
def porch : Definition String Int64 :=
  Definition.build "on" 0 [.state "on" [.effects ["lamp", "bell", "lamp", "timer"]]]

def porchConfig : Config String :=
  { (Config.default : Config String) with
    effects := Table.ofList [("lamp", "lamp"), ("timer", "timer")] }

/-- A lamp updates the context and is dimmed in the end, the timer does nothing.  The owner counts
the actions that it receives. -/
def porchClient : Client String Int64 String Int64 Empty where
  effect token params :=
    if token = "lamp" then do
      Program.ask (Request.setContext params.handle "brighter")
      return some "dim"
    else return none
  cleanup _ _ := return ()
  dispatch _ := Program.update fun received => received + 1

/-- The effects of the porch return. -/
theorem porchClient_returns (token : String) (params : EffectParams Int64) :
  (Program.returning (body porch porchConfig porchClient) fun _ => True).runs
    (ofCode (porchClient.effect token params))
  := by
  have hupdate : (Program.returning (body porch porchConfig porchClient) fun _ => True).runs
      (body porch porchConfig porchClient (.request (.setContext params.handle "brighter"))) := by
    apply EffectHost.runs_setContext
    · apply Judgement.runs_bind Program.returning_world
      intro _
      apply Judgement.runs_pure
    · intro report _
      apply Program.returning_ask
      apply Judgement.runs_pure
    · apply Program.returning_ask
      change (Program.returning (body porch porchConfig porchClient) fun _ => True).runs
        (Program.update fun world => { world with memory := world.memory + 1 })
      apply Program.returning_update
      intro _ _
      trivial
  rw [porchClient]
  dsimp only
  split
  · apply Judgement.runs_bind (Program.returning_ask hupdate)
    intro _
    apply Judgement.runs_pure
  · apply Judgement.runs_pure

/-- The owner enters the porch. -/
def porchEntry : Run (Call String Int64 String) Call.Answer (World Int64) Empty
    (Option (EffectCleanup String)) :=
  (host.enter porch porchConfig porch.initialState true).run (body porch porchConfig porchClient) 4
    (World.initial 0)

/-- The effects of the porch all get the context in which it was entered, although the lamps update
it, and the lamps are dimmed one after the other when it is left. -/
theorem porch_taken_in_order :
  let handle : Handle := { lock := 0, state := "on" }
  let params : EffectParams Int64 := { event := Event.init, context := 0, handle }
  let exit : EffectParams Int64 := { event := Event.ofKind "GO", context := 7, handle }
  let left : EffectCleanup String := { handle, exits := ["dim", "dim"], sync := true }
  porchEntry.ending = .returned (some left) ∧ porchEntry.world.memory = 2
    ∧ (∃ own, Moment.Nested [] own porchEntry.history
      ∧ own.filterMap Moment.made?
        = [.effect "lamp" params,
            .report
              { diagnostic := .undefinedEffect "bell" "on"
                details := [("Event", Event.init.text), ("Context", "0")] },
            .effect "lamp" params, .effect "timer" params])
    ∧ ∃ world history own,
      (host.leave left (Event.ofKind "GO") 7).Ends (body porch porchConfig porchClient)
          porchEntry.world porchEntry.history () world history
        ∧ Moment.Nested porchEntry.history own history
        ∧ own.filterMap Moment.made? = [.cleanup "dim" exit, .cleanup "dim" exit]
  := by
  intro handle params exit left
  have hending : porchEntry.ending = .returned (some left) := rfl
  have hentry : (host.enter porch porchConfig porch.initialState true).Ends
      (body porch porchConfig porchClient) (World.initial 0) [] (some left) porchEntry.world
      porchEntry.history := by
    use 4
    rfl
  obtain ⟨-, henter, hleave⟩ := effects_taken_in_order (α := Unit) porch porchConfig porchClient
  obtain ⟨answer, world, history, own, hends, hnested, hentered⟩ :=
    henter porchClient_returns porch.initialState true (World.initial 0) []
  obtain ⟨rfl, rfl, rfl⟩ := hentry.unique hends
  obtain ⟨entered, hstate, hmade, -⟩ := hentered.taken left rfl
  obtain rfl := Option.some.inj hstate
  use hending, rfl
  constructor
  · use own, hnested
    rw [hmade]
    rfl
  · apply hleave
    intro _ _
    apply Judgement.runs_pure

end GuardedMachine.Runner

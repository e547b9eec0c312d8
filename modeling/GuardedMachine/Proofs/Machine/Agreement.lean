import GuardedMachine.Proofs.Shared.Feeding
import GuardedMachine.Proofs.Synced.Feeding

/-!
# The ways to run a machine agree

Transitions one after the other, a synchronous machine that is fed the same actions in any way, and
a shared machine to which they are dispatched come to the same state: `Machine.runtimes_agree`.  The
callbacks of effects, cleanups and observers must leave the machine alone.  It is not enough that
they dispatch no actions: an effect may stop a synchronous machine, fail, or write what reducers
read (`runtimes_disagree`).
-/

namespace GuardedMachine

variable {S C K : Type} [DecidableEq S] [StateValue S] [Context C]

/-- Actions lead to one state: by transitions, in a synchronous machine however it is fed, and in a
shared machine, where each dispatch tells whether the step of its action is anything but
`unchanged`. -/
theorem Machine.runtimes_agree (machine : Machine S C K) (oracle : Oracle C K)
    (actions : List (Action K)) :
  ∃ state, machine.LeadsTo oracle actions state
    ∧ (∀ (M ε : Type) (client : Synced.Client S C K M ε), client.Tame oracle →
      ∀ feeds : List (Synced.Feed K), feeds.flatMap Synced.Feed.actions = actions →
        (∀ feed ∈ feeds, feed.Fits client) → ∀ memory : M,
          ∃ depth, ∀ deeper, depth ≤ deeper →
            (Synced.run machine client deeper (Synced.feedAll feeds)
                (Synced.World.initial machine.initialState memory)).ending = .returned ()
              ∧ (Synced.run machine client deeper (Synced.feedAll feeds)
                (Synced.World.initial machine.initialState memory)).world.state = state)
    ∧ ∀ (M ε : Type) (client : Shared.Client S C K M ε), client.Tame oracle →
      ∀ world : Shared.World S C K M, world.state = machine.initialState →
        ∃ answers depth, (∀ deeper, depth ≤ deeper →
            (Shared.run machine client deeper (Shared.dispatchAll actions) world).ending
                = .returned answers
              ∧ (Shared.run machine client deeper (Shared.dispatchAll actions) world).world.state
                = state)
          ∧ answers.length = actions.length
          ∧ ∀ index action, actions[index]? = some action →
            ∃ before outcome recorded, machine.LeadsTo oracle (actions.take index) before
              ∧ (machine.step (oracle.client : StepClient Unit Empty C K) before action).run
                  { memory := (), reports := [] } = .ok (outcome, recorded)
              ∧ answers[index]? = some (!outcome.isUnchanged)
  := by
  use machine.after oracle machine.initialState actions, machine.leadsTo_after actions
  constructor
  · intro M ε client htame feeds hfeeds hfits memory
    have hwaiting : Synced.Waiting machine.initialState
        (Synced.World.initial machine.initialState memory : Synced.World S C K M) :=
      ⟨rfl, rfl, rfl, rfl⟩
    have hreturns : (Synced.ofCode (Synced.feedAll feeds)).Returns (Synced.body machine client) _
        fun _ => Synced.Waiting _ := Synced.returns_feedAll htame feeds hfits hwaiting
    obtain ⟨_, world, history, ⟨depth, hends⟩, h⟩ := hreturns []
    use depth
    intro deeper hdeeper
    have hrun : Synced.run machine client deeper (Synced.feedAll feeds)
        (Synced.World.initial machine.initialState memory) = _ := hends.of_le hdeeper
    rw [hrun, ← hfeeds]
    exact ⟨rfl, h.state_eq⟩
  · intro M ε client htame world hworld
    have hreturns : (Shared.ofCode (Shared.dispatchAll actions)).Returns
        (Shared.body machine client) world fun answers world' => answers = _ ∧ world'.state = _ :=
      Shared.returns_dispatchAll htame actions hworld
    obtain ⟨_, world', history, ⟨depth, hends⟩, rfl, h⟩ := hreturns []
    use machine.changes oracle machine.initialState actions, depth
    refine ⟨?_, machine.length_changes _ actions, ?_⟩
    · intro deeper hdeeper
      have hrun : Shared.run machine client deeper (Shared.dispatchAll actions) world = _ :=
        hends.of_le hdeeper
      rw [hrun]
      exact ⟨rfl, h⟩
    · intro index action haction
      obtain ⟨recorded, hstep⟩ := machine.step_oracle oracle
        (machine.after oracle machine.initialState (actions.take index)) action
        { memory := (), reports := [] }
      exact ⟨_, _, recorded, machine.leadsTo_after _, hstep, machine.changes_getElem? _ haction⟩

/-! ### A relay -/

/-- A relay with an effect on the way, which counts. -/
def relay : Machine String Int64 String where
  definition := Definition.build "first" 0
    [.state "first" [.on "GO" (.guarded "second" (some (.leaf "fit")))],
      .state "second" [.on "GO" (.to "third"), .effects ["watch"]],
      .state "third" []]
  config :=
    { (Config.default : Config String) with
      guards := Table.ofList [("fit", "fit")]
      effects := Table.ofList [("watch", "watch")] }
  resolved := by decide +kernel

/-- Runners are fit, and updates count. -/
def relayOracle : Oracle Int64 String where
  guard _ _ _ := true
  reduce _ context := context + 1

/-- The events and the update of the relay. -/
def relayActions : List (Action String) :=
  [.send (Event.ofKind "GO"), .setContext "count", .send (Event.ofKind "GO")]

/-- The surroundings of the relay: its memory is a number, its effect runs a program, and a callback
passes on all but the first action. -/
def relayClient (watch : Synced.Code String Int64 String Int64 String Unit) :
    Synced.Client String Int64 String Int64 String where
  guard token event context := pure (relayOracle.guard token event context)
  reduce token context := pure (relayOracle.reduce token context)
  effect _ _ := do
    watch
    return some "rest"
  cleanup _ _ := return ()
  callback _ := Synced.requestAll .dispatch relayActions.tail

/-- What an effect does that makes one request. -/
def relayAsk (request : Synced.Request String) :
    Synced.Code String Int64 String Int64 String Unit := do
  let _ ← Synced.Code.ask request
  return ()

/-- The relay is started and fed one action and then the others. -/
def relayFeeds : List (Synced.Feed String) :=
  [.start, .single (.send (Event.ofKind "GO")), .batch "others" relayActions.tail]

/-- The run of the fed relay. -/
def relayRun (client : Synced.Client String Int64 String Int64 String) :
    Run (Synced.Call String Int64 String) Synced.Call.Answer
      (Synced.World String Int64 String Int64) String Unit :=
  Synced.run relay client 12 (Synced.feedAll relayFeeds)
    (Synced.World.initial relay.initialState 0)

theorem relayClient_tame :
  (relayClient (relayAsk .isMounted)).Tame relayOracle
  where
  guard _ _ _ := rfl
  reduce _ _ := rfl
  effect _ _ := .ask trivial fun _ => .done _
  cleanup _ _ := .done _

/-- The surroundings of a shared relay: its observers count in the memory and turn the second of them
away. -/
def relayObservers : Shared.Client String Int64 String Int64 String where
  guard token event context := pure (relayOracle.guard token event context)
  reduce token context := pure (relayOracle.reduce token context)
  observe _ _ := do
    Program.update (· + 1)
    let _ ← Program.ask (Shared.Request.unsubscribe 1)
    return ()

/-- The shared relay with two observers. -/
def relayShared : Shared.World String Int64 String Int64 where
  state := relay.initialState
  observers := [(0, "scorer"), (1, "guest")]
  nextId := 2
  released := false
  running := 0
  memory := 0

theorem relayObservers_tame :
  relayObservers.Tame relayOracle
  where
  guard _ _ _ := rfl
  reduce _ _ := rfl
  observe _ _ := fun _ => ⟨trivial, fun _ => trivial⟩

/-- If its effect only looks whether the machine is mounted, the relay leads where its actions lead,
and so does a shared relay whose observers count and turn one of them away. -/
theorem relay_agrees :
  ((relayClient (relayAsk .isMounted)).Tame relayOracle
      ∧ (∀ feed ∈ relayFeeds, feed.Fits (relayClient (relayAsk .isMounted)))
      ∧ relayFeeds.flatMap Synced.Feed.actions = relayActions)
    ∧ (relayObservers.Tame relayOracle ∧ relayShared.state = relay.initialState)
    ∧ ∃ state, relay.LeadsTo relayOracle relayActions state
      ∧ (∃ depth, ∀ deeper, depth ≤ deeper →
        (Synced.run relay (relayClient (relayAsk .isMounted)) deeper (Synced.feedAll relayFeeds)
            (Synced.World.initial relay.initialState 0)).ending = .returned ()
          ∧ (Synced.run relay (relayClient (relayAsk .isMounted)) deeper
            (Synced.feedAll relayFeeds) (Synced.World.initial relay.initialState 0)).world.state
              = state)
      ∧ ∃ answers depth, (∀ deeper, depth ≤ deeper →
          (Shared.run relay relayObservers deeper (Shared.dispatchAll relayActions)
              relayShared).ending = .returned answers
            ∧ (Shared.run relay relayObservers deeper (Shared.dispatchAll relayActions)
              relayShared).world.state = state)
        ∧ answers.length = 3
        ∧ ∀ index action, relayActions[index]? = some action →
          ∃ before outcome recorded, relay.LeadsTo relayOracle (relayActions.take index) before
            ∧ (relay.step (relayOracle.client : StepClient Unit Empty Int64 String) before
                action).run { memory := (), reports := [] } = .ok (outcome, recorded)
            ∧ answers[index]? = some (!outcome.isUnchanged)
  := by
  have hfits : ∀ feed ∈ relayFeeds, feed.Fits (relayClient (relayAsk .isMounted)) := by
    intro feed hfeed
    rcases List.mem_cons.mp hfeed with rfl | hfeed
    · trivial
    · rcases List.mem_cons.mp hfeed with rfl | hfeed
      · trivial
      · obtain rfl := List.mem_singleton.mp hfeed
        rfl
  use ⟨relayClient_tame, hfits, rfl⟩, ⟨relayObservers_tame, rfl⟩
  obtain ⟨state, hleads, hsynced, hshared⟩ := relay.runtimes_agree relayOracle relayActions
  use state, hleads
  constructor
  · apply hsynced Int64 String (relayClient (relayAsk .isMounted)) relayClient_tame relayFeeds rfl
      hfits
  · apply hshared Int64 String relayObservers relayObservers_tame relayShared rfl

/-! ### What the agreement needs -/

/-- The surroundings of a relay whose effect writes to the memory and whose reducer adds what the
memory holds. -/
def relayScribe : Synced.Client String Int64 String Int64 String where
  __ := relayClient (Program.update fun _ => 1)
  reduce _ context := do
    let memory ← Program.world
    return context + memory

/-- The same guard and reducer on their own. -/
def relayScribeStep : StepClient Int64 String Int64 String where
  guard _ _ _ := return true
  reduce _ context := do
    let memory ← get
    return context + memory

/-- Although its effects dispatch nothing, a synchronous machine may come to another state than
transitions do.  If the effect of the relay stops the machine, the actions that come later are
dropped, and if the effect fails, so does the feeding: the relay stays in its second state.  If the
reducer adds what the effect wrote, the context is another one than without effects. -/
theorem runtimes_disagree :
  (∃ state, relay.LeadsTo relayOracle relayActions state ∧ state.value = "third")
    ∧ ((∀ token params, ((relayClient (relayAsk .stop)).effect token params).Asks (· = .stop))
      ∧ (relayRun (relayClient (relayAsk .stop))).ending = .returned ()
      ∧ (relayRun (relayClient (relayAsk .stop))).world.state.value = "second")
    ∧ ((∀ token params,
        ((relayClient (.fail "worn out")).effect token params).Asks fun _ => False)
      ∧ (relayRun (relayClient (.fail "worn out"))).ending = .failed "worn out"
      ∧ (relayRun (relayClient (.fail "worn out"))).world.state.value = "second")
    ∧ ((∀ token params, (relayScribe.effect token params).Asks fun _ => False)
      ∧ (relayRun relayScribe).ending = .returned ()
      ∧ (relayRun relayScribe).world.state.context = 1
      ∧ ∃ state recorded,
        (relayActions.foldlM (relay.transition relayScribeStep) relay.initialState).run
            { memory := 0, reports := [] } = .ok (state, recorded)
          ∧ state.context = 0)
  := by
  refine ⟨?_, ⟨?_, rfl, ?_⟩, ⟨?_, rfl, ?_⟩, ⟨?_, rfl, ?_, ?_⟩⟩
  · use relay.after relayOracle relay.initialState relayActions, relay.leadsTo_after relayActions
    decide +kernel
  · intro token params
    exact ⟨rfl, fun _ => trivial⟩
  · decide +kernel
  · intro token params
    trivial
  · decide +kernel
  · intro token params _
    trivial
  · decide +kernel
  · exact ⟨_, _, rfl, rfl⟩

end GuardedMachine

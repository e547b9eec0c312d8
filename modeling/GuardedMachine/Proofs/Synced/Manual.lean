import GuardedMachine.Proofs.Synced.Cleanups
import GuardedMachine.Proofs.Synced.Order
import GuardedMachine.Proofs.Synced.Steady
import GuardedMachine.Proofs.Synced.Visits

/-!
# Draining and flushing by hand

The owner of a synchronous machine may run a callback that dispatches actions as an outermost call,
or enqueue the actions, drain the queue and flush by hand until nothing is pending.  If callbacks
open no outermost calls, both ways lead to the same world and to the same effects and cleanups
(`by_hand_agrees`).

A callback that does, by a request on the machine itself, makes a difference: by hand no outermost
call is running, so the request settles in the middle of a flush, and the flush then overwrites the
cleanups that were stored meanwhile (`cleanup_lost_by_hand`).
-/

namespace GuardedMachine.Synced

variable {S C K M ε α β : Type}

/-! ### By hand -/

/-- Make a request for each of some actions. -/
def requestAll (request : Action K → Request K) : List (Action K) → Code S C K M ε Unit
  | [] => return ()
  | action :: rest => do
    let _ ← Code.ask (request action)
    requestAll request rest

/-- Drain and flush until nothing is pending, but not more often than `rounds`, and tell whether
nothing is pending. -/
def drainAndFlush : (rounds : Nat) → Code S C K M ε Bool
  | 0 => return false
  | rounds + 1 => do
    let _ ← Code.ask .drain
    Code.ask .flush
    let pending ← Code.ask .pending
    if pending = 0 then return true
    else drainAndFlush rounds

/-- Enqueue actions and settle by hand. -/
def byHand (rounds : Nat) (actions : List (Action K)) : Code S C K M ε Bool := do
  requestAll .enqueue actions
  drainAndFlush rounds

/-! ### Programs of clients -/

theorem ofCode_bind (code : Code S C K M ε α) (f : α → Code S C K M ε β) :
  ofCode (code >>= f) = ofCode code >>= fun a => ofCode (f a)
  := Program.embed_bind code f

/-! ### What happens to effects and cleanups -/

theorem marksAt_mapWorld (f : World S C K M → World S C K M)
    (moment : Moment (Call S C K) Call.Answer (World S C K M)) :
  marksAt (moment.mapWorld f) = marksAt moment
  := by
  cases moment with
  | called call world => cases call <;> rfl
  | answered call answer world => cases call <;> rfl

section Performs

variable [DecidableEq S] [StateValue S] [Context C] {machine : Machine S C K}
  {client : Client S C K M ε} {world world' world'' : World S C K M}
  {marks marks' : List (Mark S C K)} {a : α} {b : β}

/-- Whatever happened before, a program returns, and `marks` happen to effects and cleanups. -/
def Performs (machine : Machine S C K) (client : Client S C K M ε) (program : Engine S C K M ε α)
    (world : World S C K M) (marks : List (Mark S C K)) (a : α) (world' : World S C K M) : Prop :=
  ∀ history, ∃ history', program.Ends (body machine client) world history a world' history'
    ∧ History.log history' = History.log history ++ marks

theorem performs_pure (a : α) (world : World S C K M) :
  Performs machine client (pure a) world [] a world
  := by
  intro history
  exact ⟨history, Program.ends_pure.mpr ⟨rfl, rfl, rfl⟩, (List.append_nil _).symm⟩

theorem Performs.bind {program : Engine S C K M ε α} {f : α → Engine S C K M ε β}
    (h : Performs machine client program world marks a world')
    (hf : Performs machine client (f a) world' marks' b world'') :
  Performs machine client (program >>= f) world (marks ++ marks') b world''
  := by
  intro history
  obtain ⟨history', hends, hlog⟩ := h history
  obtain ⟨history'', hends', hlog'⟩ := hf history'
  refine ⟨history'', Program.ends_bind.mpr ⟨a, world', history', hends, hends'⟩, ?_⟩
  rw [hlog', hlog, List.append_assoc]

theorem performs_world {f : World S C K M → Engine S C K M ε α}
    (h : Performs machine client (f world) world marks a world') :
  Performs machine client (Program.world >>= f) world marks a world'
  := h

theorem performs_update (change : World S C K M → World S C K M) (world : World S C K M) :
  Performs machine client (Program.update change) world [] () (change world)
  := fun history => ⟨history, Program.ends_update.mpr ⟨rfl, rfl⟩, (List.append_nil _).symm⟩

/-- A silent call performs what its body does. -/
theorem performs_ask {call : Call S C K} {answer : call.Answer} (hsilent : call.Silent)
    (h : Performs machine client (body machine client call) world marks answer world') :
  Performs machine client (ask call) world marks answer world'
  := by
  intro history
  obtain ⟨history', hends, hlog⟩ := h (.called call world :: history)
  refine ⟨_, Program.ends_ask.mpr ⟨history', hends, rfl⟩, ?_⟩
  rw [log_answered hsilent, hlog, log_called hsilent]

/-- What a steady program does is also performed when no outermost call is running. -/
theorem Steady.performs (hclient : client.Asks Request.Inner) {program : Engine S C K M ε α}
    (hsteady : Steady program) {history history' : History S C K M}
    (hends : program.Ends (body machine client) world history a world' history') :
  ∃ marks, history'.log = history.log ++ marks
    ∧ Performs machine client program world.idle marks a world'.idle
  := by
  obtain ⟨moments, rfl, hrepeats⟩ :=
    Program.Mirrors.ends (fun call hinner => steady_body hclient hinner) hsteady hends
  use Moment.collect marksAt moments
  constructor
  · apply Moment.collect_append
  · intro earlier
    refine ⟨_, hrepeats earlier, ?_⟩
    rw [History.log, Moment.collect_append, Moment.collect_mapWorld (marksAt_mapWorld _)]
    rfl

/-! ### Dispatching and enqueuing -/

/-- A request that queues its action. -/
def Queuing (machine : Machine S C K) (client : Client S C K M ε) (request : Action K → Request K) :
    Prop :=
  ∀ action (world : World S C K M), world.mounted = true →
    ∃ answer, Performs machine client (ask (.request (request action))) world [] answer
      { world with queue := world.queue ++ [action] }

theorem performs_push (action : Action K) (world : World S C K M) :
  Performs machine client (ask (.push action)) world [] ()
    { world with queue := world.queue ++ [action] }
  := by
  apply performs_ask
  · trivial
  · exact performs_update _ world

theorem queuing_enqueue :
  Queuing machine client .enqueue
  := by
  intro action world _
  use ()
  apply performs_ask
  · trivial
  · apply performs_push

theorem queuing_dispatch :
  Queuing machine client .dispatch
  := by
  intro action world hmounted
  use ()
  apply performs_ask
  · trivial
  · apply performs_world
    rw [if_pos hmounted]
    apply performs_push

/-- Requests that queue their actions queue them in order. -/
theorem performs_requestAll {request : Action K → Request K}
    (hqueuing : Queuing machine client request) (actions : List (Action K))
    (hmounted : world.mounted = true) :
  Performs machine client (ofCode (requestAll request actions)) world [] ()
    { world with queue := world.queue ++ actions }
  := by
  induction actions generalizing world with
  | nil =>
    rw [List.append_nil]
    apply performs_pure
  | cons action rest ih =>
    rw [requestAll, ofCode_bind]
    obtain ⟨answer, hrequest⟩ := hqueuing action world hmounted
    have hrest := hrequest.bind (f := fun _ => ofCode (requestAll request rest)) (ih hmounted)
    rw [List.append_assoc] at hrest
    apply hrest

/-! ### Settling -/

/-- Settling does nothing when nothing is queued. -/
theorem performs_settle_empty (hqueue : world.queue = []) :
  Performs machine client (ask .settle) world [] () world
  := by
  apply performs_ask
  · trivial
  · apply performs_world
    rw [hqueue]
    apply performs_pure

theorem performs_drain_empty (hqueue : world.queue = []) :
  Performs machine client (ask .drain) world [] 0 world
  := by
  apply performs_ask
  · trivial
  · apply performs_world
    rw [hqueue]
    apply performs_pure

/-- Flushing does nothing when the effects of the state were the last to run. -/
theorem performs_flush_entered (hentered : world.entered = some world.key) :
  Performs machine client flush world [] () world
  := by
  apply performs_world
  rw [if_pos hentered]
  apply performs_pure

/-- A round by hand drains and flushes, and there is another one if something is pending then. -/
theorem performs_round {applied rounds : Nat} {settled : Bool} {rest : List (Mark S C K)}
    {last : World S C K M} (hdrain : Performs machine client (ask .drain) world marks applied world')
    (hflush : Performs machine client flush world' marks' () world'')
    (hrest : Performs machine client
      (ofCode (if world''.queue.length = 0 then return true else drainAndFlush rounds)) world'' rest
      settled last) :
  Performs machine client (ofCode (drainAndFlush (rounds + 1))) world (marks ++ (marks' ++ rest))
    settled last
  := by
  have hpending : Performs machine client (ask (.request .pending)) world'' []
      world''.queue.length world'' := by
    apply performs_ask
    · trivial
    · apply performs_world
      apply performs_pure
  have hdrain' : Performs machine client (ask (.request .drain)) world marks applied world' := by
    apply performs_ask
    · trivial
    · apply hdrain
  have hflush' : Performs machine client (ask (.request .flush)) world' marks' () world'' := by
    apply performs_ask
    · trivial
    · apply hflush
  apply hdrain'.bind
  apply hflush'.bind
  exact hpending.bind hrest

/-- A machine that settles with something queued is settled by hand in the same way. -/
theorem performs_drainAndFlush (hclient : client.Asks Request.Inner) {depth : Nat}
    {history history' : History S C K M} (hqueue : world.queue ≠ [])
    (hsettle : Program.EndsAt (body machine client) depth (ask .settle) world history () world'
      history') :
  ∃ rounds marks, history'.log = history.log ++ marks
    ∧ Performs machine client (ofCode (drainAndFlush rounds)) world.idle marks true world'.idle
  := by
  -- The machine settles again one level deeper, and by hand that is the next round.
  induction depth generalizing world history history' with
  | zero => cases Program.not_endsAt_ask_zero hsettle
  | succ depth ih =>
    obtain ⟨history₁, hbody, rfl⟩ := Program.endsAt_ask.mp hsettle
    have hbody : Program.EndsAt (body machine client) depth
        (if world.queue.isEmpty then pure () else do
          let _ ← ask .drain
          flush
          ask .settle) world (.called .settle world :: history) () world' history₁ := hbody
    rw [if_neg (by simpa using hqueue)] at hbody
    obtain ⟨applied, world₂, history₂, hdrain, hbody⟩ := Program.endsAt_bind.mp hbody
    obtain ⟨_, world₃, history₃, hflush, hrest⟩ := Program.endsAt_bind.mp hbody
    have hsteady : Steady (ask .drain : Engine S C K M ε Nat) := steady_ask trivial
    obtain ⟨marks₁, hlog₁, hdrain⟩ := hsteady.performs hclient ⟨depth, hdrain⟩
    obtain ⟨marks₂, hlog₂, hflush⟩ := steady_flush.performs hclient ⟨depth, hflush⟩
    have hsilent : (Call.settle : Call S C K).Silent := trivial
    have hlog : History.log history₃ = History.log history ++ (marks₁ ++ marks₂) := by
      rw [hlog₂, hlog₁, List.append_assoc, log_called hsilent]
    by_cases hempty : world₃.queue = []
    · have hsettled : Performs machine client (ask .settle) world₃ [] () world₃ :=
        performs_settle_empty hempty
      obtain ⟨history₄, hends, hlog₄⟩ := hsettled history₃
      obtain ⟨-, rfl, rfl⟩ := Program.Ends.unique ⟨depth, hrest⟩ hends
      refine ⟨1, marks₁ ++ (marks₂ ++ []), ?_, ?_⟩
      · rw [log_answered hsilent, hlog₄, hlog]
        simp
      · apply performs_round hdrain hflush
        rw [if_pos (by simpa [World.idle] using hempty)]
        apply performs_pure
    · obtain ⟨rounds, marks₃, hlog₃, hmore⟩ := ih hempty hrest
      refine ⟨rounds + 1, marks₁ ++ (marks₂ ++ marks₃), ?_, ?_⟩
      · rw [log_answered hsilent, hlog₃, hlog]
        simp
      · apply performs_round hdrain hflush
        rw [if_neg (by simpa [World.idle] using hempty)]
        apply hmore

/-- So is one with nothing queued, if the effects of its state were the last to run. -/
theorem performs_drainAndFlush_of_entered (hclient : client.Asks Request.Inner)
    {history history' : History S C K M} (hentered : world.entered = some world.key)
    (hsettle : Program.Ends (body machine client) (ask .settle) world history () world' history') :
  ∃ rounds marks, history'.log = history.log ++ marks
    ∧ Performs machine client (ofCode (drainAndFlush rounds)) world.idle marks true world'.idle
  := by
  by_cases hqueue : world.queue = []
  · have hsettled : Performs machine client (ask .settle) world [] () world :=
      performs_settle_empty hqueue
    obtain ⟨history₁, hends, hlog⟩ := hsettled history
    obtain ⟨-, rfl, rfl⟩ := Program.Ends.unique hends hsettle
    have hidle : world'.idle.queue = [] := hqueue
    refine ⟨1, [] ++ ([] ++ []), hlog, ?_⟩
    apply performs_round (performs_drain_empty hidle) (performs_flush_entered hentered)
    rw [hidle]
    apply performs_pure
  · obtain ⟨depth, hsettle⟩ := hsettle
    apply performs_drainAndFlush hclient hqueue hsettle

/-! ### Agreement -/

/-- The owner may call the machine, and the effects of its state were the last to run. -/
structure Started (world : World S C K M) : Prop where
  acting_eq : world.acting = false
  mounted_eq : world.mounted = true
  entered_eq : world.entered = some world.key

/-- An outermost call that dispatches actions performs what enqueuing them and settling by hand
does. -/
theorem performs_byHand (hclient : client.Asks Request.Inner) {token : K}
    {actions : List (Action K)} (hcallback : client.callback token = requestAll .dispatch actions)
    (hstarted : Started world) {history history' : History S C K M}
    (hact : Program.Ends (body machine client) (ask (.request (.act token))) world history ()
      world' history') :
  ∃ rounds marks, history'.log = history.log ++ marks
    ∧ Performs machine client (ofCode (byHand rounds actions)) world marks true world'
  := by
  obtain ⟨history₁, hbody, rfl⟩ := Program.ends_ask.mp hact
  have hbody : Program.Ends (body machine client)
      (if world.acting then ask (.callback token) else do
        Program.update fun world => { world with acting := true }
        ask (.callback token)
        ask .settle
        Program.update fun world => { world with acting := false })
      world (.called (.request (.act token)) world :: history) () world' history₁ := hbody
  rw [if_neg (by simp [hstarted.acting_eq])] at hbody
  obtain ⟨_, world₂, history₂, hopen, hbody⟩ := Program.ends_bind.mp hbody
  obtain ⟨rfl, rfl⟩ := Program.ends_update.mp hopen
  obtain ⟨_, world₃, history₃, hcalled, hbody⟩ := Program.ends_bind.mp hbody
  obtain ⟨_, world₄, history₄, hsettle, hclose⟩ := Program.ends_bind.mp hbody
  obtain ⟨rfl, rfl⟩ := Program.ends_update.mp hclose
  have hdispatched : Performs machine client (ask (.callback token)) { world with acting := true }
      [] () { world with acting := true, queue := world.queue ++ actions } := by
    apply performs_ask
    · trivial
    · change Performs machine client (ofCode (client.callback token)) _ _ _ _
      rw [hcallback]
      exact performs_requestAll queuing_dispatch actions hstarted.mounted_eq
  obtain ⟨history₅, hends, hlog₅⟩ :=
    hdispatched (.called (.request (.act token)) world :: history)
  obtain ⟨-, rfl, rfl⟩ := Program.Ends.unique hends hcalled
  have hentered : World.entered { world with acting := true, queue := world.queue ++ actions }
      = some (World.key { world with acting := true, queue := world.queue ++ actions }) :=
    hstarted.entered_eq
  obtain ⟨rounds, marks, hlog, hsettled⟩ :=
    performs_drainAndFlush_of_entered hclient hentered hsettle
  have hrequest : (Call.request (.act token) : Call S C K).Silent := trivial
  use rounds, marks
  constructor
  · rw [log_answered hrequest, hlog, hlog₅, log_called hrequest, List.append_nil]
  · have henqueued : Performs machine client (ofCode (requestAll .enqueue actions)) world [] ()
        { world with queue := world.queue ++ actions } :=
      performs_requestAll queuing_enqueue actions hstarted.mounted_eq
    rw [byHand, ofCode_bind]
    apply henqueued.bind
    have hidle : World.idle { world with acting := true, queue := world.queue ++ actions }
        = { world with queue := world.queue ++ actions } := by
      rw [World.idle, ← hstarted.acting_eq]
    rw [← hidle]
    apply hsettled

/-- If an outermost call that dispatches actions returns, then enqueuing the actions and settling
by hand returns in the same world, and the same happens to effects and cleanups, provided that
callbacks open no outermost calls. -/
theorem by_hand_agrees (machine : Machine S C K) {client : Client S C K M ε}
    (hclient : client.Asks Request.Inner) {token : K} {actions : List (Action K)}
    (hcallback : client.callback token = requestAll .dispatch actions) {world : World S C K M}
    (hstarted : Started world) {depth : Nat}
    (hreturned : (Synced.run machine client depth (Code.ask (.act token)) world).ending
      = .returned ()) :
  ∃ rounds depth', (Synced.run machine client depth' (byHand rounds actions) world).ending
      = .returned true
    ∧ (Synced.run machine client depth' (byHand rounds actions) world).world
      = (Synced.run machine client depth (Code.ask (.act token)) world).world
    ∧ History.log (Synced.run machine client depth' (byHand rounds actions) world).history
      = History.log (Synced.run machine client depth (Code.ask (.act token)) world).history
  := by
  have hact : Program.Ends (body machine client) (ask (.request (.act token))) world [] ()
      (Synced.run machine client depth (Code.ask (.act token)) world).world
      (Synced.run machine client depth (Code.ask (.act token)) world).history := by
    use depth
    rw [Program.EndsAt, ← hreturned]
    rfl
  obtain ⟨rounds, marks, hlog, hperforms⟩ := performs_byHand hclient hcallback hstarted hact
  obtain ⟨history, ⟨depth', hends⟩, hlog'⟩ := hperforms []
  use rounds, depth'
  have hrun : Synced.run machine client depth' (byHand rounds actions) world = _ := hends
  rw [hrun]
  exact ⟨rfl, rfl, hlog'.trans hlog.symm⟩

end Performs

/-! ### A workshop -/

/-- A workshop that is busy from `GO` to `DONE` and then ready. -/
def workshop : Machine String Int64 String where
  definition := Definition.build "idle" 0
    [.state "idle" [.on "GO" (.to "busy")],
      .state "busy" [.on "DONE" (.to "ready"), .effects ["work"]],
      .state "ready" [.effects ["show"]]]
  config :=
    { (Config.default : Config String) with
      effects := Table.ofList [("work", "work"), ("show", "show")] }
  resolved := by decide +kernel

/-- Its work sends `DONE`, by one request or another, and what it shows is hidden again. -/
def workshopClient (request : Handle → Event → Request String) :
    Client String Int64 String Unit Empty where
  guard _ _ _ := return true
  reduce _ context := return context
  effect token params := do
    if token = "work" then
      let _ ← Code.ask (request params.handle (Event.ofKind "DONE"))
      return some "rest"
    else return some "hide"
  cleanup _ _ := return ()
  callback _ := requestAll .dispatch [.send (Event.ofKind "GO")]

/-- The workshop after it has been started. -/
def workshopWorld : World String Int64 String Unit :=
  { World.initial workshop.initialState () with entered := some { value := "idle", epoch := 0 } }

theorem workshopClient_asks :
  (workshopClient .handleSend).Asks Request.Inner
  where
  guard _ _ _ := trivial
  reduce _ _ := trivial
  effect token params := by
    change Program.Asks _ (if token = "work" then _ else _)
    split
    · exact ⟨trivial, fun _ => trivial⟩
    · trivial
  cleanup _ _ := trivial
  callback _ := ⟨trivial, fun _ => trivial⟩

/-- A run of the workshop. -/
def workshopRun {α : Type} (request : Handle → Event → Request String)
    (code : Code String Int64 String Unit Empty α) :
    Run (Call String Int64 String) Call.Answer (World String Int64 String Unit) Empty α :=
  Synced.run workshop (workshopClient request) 12 code workshopWorld

/-- If the work sends through its handle, the owner may settle by hand. -/
theorem workshop_by_hand_agrees :
  ((workshopClient .handleSend).Asks Request.Inner ∧ Started workshopWorld
      ∧ (workshopRun .handleSend (Code.ask (.act "go"))).ending = .returned ())
    ∧ ∃ rounds depth, (Synced.run workshop (workshopClient .handleSend) depth
          (byHand rounds [.send (Event.ofKind "GO")]) workshopWorld).ending = .returned true
      ∧ (Synced.run workshop (workshopClient .handleSend) depth
          (byHand rounds [.send (Event.ofKind "GO")]) workshopWorld).world
        = (workshopRun .handleSend (Code.ask (.act "go"))).world
      ∧ History.log (Synced.run workshop (workshopClient .handleSend) depth
          (byHand rounds [.send (Event.ofKind "GO")]) workshopWorld).history
        = History.log (workshopRun .handleSend (Code.ask (.act "go"))).history
  := by
  have hstarted : Started workshopWorld := ⟨rfl, rfl, by decide +kernel⟩
  have hreturned : (workshopRun .handleSend (Code.ask (.act "go"))).ending = .returned () := rfl
  use ⟨workshopClient_asks, hstarted, hreturned⟩
  apply by_hand_agrees workshop workshopClient_asks rfl hstarted hreturned

/-- If the work sends through a clone of the machine it makes a difference who settles: by hand
`ready` is flushed while `busy` is being flushed, whose cleanup then takes the place of the one that
`ready` returned.  The latter is never run, and the former is stored for the wrong state. -/
theorem cleanup_lost_by_hand :
  (workshopRun (fun _ => .send) (Code.ask (.act "go"))).ending = .returned ()
    ∧ stored (workshopRun (fun _ => .send) (Code.ask (.act "go"))).world.exit = ["hide"]
    ∧ (workshopRun (fun _ => .send) (byHand 2 [.send (Event.ofKind "GO")])).ending = .returned true
    ∧ stored (workshopRun (fun _ => .send) (byHand 2 [.send (Event.ofKind "GO")])).world.exit
      = ["rest"]
    ∧ History.returned (workshopRun (fun _ => .send)
        (byHand 2 [.send (Event.ofKind "GO")])).history = ["hide", "rest"]
    ∧ History.ran (workshopRun (fun _ => .send)
        (byHand 2 [.send (Event.ofKind "GO")])).history = []
  := by
  refine ⟨rfl, ?_, rfl, ?_, ?_, ?_⟩
  · decide +kernel
  · decide +kernel
  · decide +kernel
  · decide +kernel

end GuardedMachine.Synced

import GuardedMachine.Proofs.Dispatch.Oracle
import GuardedMachine.Proofs.Machine.Steps
import GuardedMachine.Proofs.Program.Returning
import GuardedMachine.Proofs.Synced.Manual

/-!
# Feeding a synchronous machine

The owner of a synchronous machine feeds it actions: one at a time, or several from a callback that
dispatches them, and starts it at any time.  If guards and reducers answer as an oracle does, and
effects and cleanups neither dispatch actions nor stop or unmount the machine, `Client.Tame`, then
every call returns, and the machine ends in the state to which the actions lead one after the other,
however they are fed (`returns_feedAll`).
-/

namespace GuardedMachine.Synced

variable {S C K M ε α : Type}

/-! ### Programs that leave the machine alone -/

/-- A request that neither dispatches an action nor stops or unmounts the machine, other than to run
a callback. -/
def Request.Idle : Request K → Prop
  | .send _ => False
  | .setContext _ => False
  | .dispatch _ => False
  | .enqueue _ => False
  | .handleSend _ _ => False
  | .handleSetContext _ _ => False
  | .act _ => False
  | .stop => False
  | .setMounted mounted => mounted = true
  | _ => True

/-- A program of a client that neither fails nor dispatches actions, and does not stop or unmount the
machine.  It may run callbacks that are such programs themselves. -/
inductive Tame (client : Client S C K M ε) : {α : Type} → Code S C K M ε α → Prop where
  | done {α : Type} (result : α) : Tame client (.done result)
  | read {α : Type} {next : M → Code S C K M ε α} :
    (∀ memory, Tame client (next memory)) → Tame client (.read next)
  | write {α : Type} {memory : M} {next : Code S C K M ε α} :
    Tame client next → Tame client (.write memory next)
  | ask {α : Type} {request : Request K} {next : request.Answer S C → Code S C K M ε α} :
    request.Idle → (∀ answer, Tame client (next answer)) → Tame client (.call request next)
  | act {α : Type} {token : K} {next : Unit → Code S C K M ε α} :
    Tame client (client.callback token) → (∀ answer, Tame client (next answer)) →
      Tame client (.call (.act token) next)

/-- Guards and reducers answer as an oracle does, and effects and cleanups leave the machine alone.

A guard or a reducer is the answer of the oracle and nothing else: it makes no requests and neither
reads nor writes the memory.  What effects may ask is too much for it, since a guard that drains the
queue applies later actions before its own. -/
structure Client.Tame (client : Client S C K M ε) (oracle : Oracle C K) : Prop where
  guard : ∀ token event context,
    client.guard token event context = pure (oracle.guard token event context)
  reduce : ∀ token context, client.reduce token context = pure (oracle.reduce token context)
  effect : ∀ token params, Synced.Tame client (client.effect token params)
  cleanup : ∀ token params, Synced.Tame client (client.cleanup token params)

/-! ### Feeds -/

/-- What the owner may do: start the machine, feed it one action, or feed it the actions that a
callback dispatches. -/
inductive Feed (K : Type) where
  | start
  | single (action : Action K)
  | batch (token : K) (actions : List (Action K))

namespace Feed

/-- The actions that the machine is fed. -/
def actions : Feed K → List (Action K)
  | .start => []
  | .single action => [action]
  | .batch _ actions => actions

/-- How the machine is fed. -/
def code : Feed K → Code S C K M ε Unit
  | .start => Code.ask .start
  | .single (.send event) => Code.ask (.send event)
  | .single (.setContext reducer) => Code.ask (.setContext reducer)
  | .batch token _ => Code.ask (.act token)

/-- The callback of a batch dispatches the actions of the batch. -/
def Fits (client : Client S C K M ε) : Feed K → Prop
  | .batch token actions => client.callback token = requestAll .dispatch actions
  | _ => True

end Feed

/-- Feed a machine. -/
def feedAll : List (Feed K) → Code S C K M ε Unit
  | [] => return ()
  | feed :: rest => do
    feed.code
    feedAll rest

/-! ### What the machine is doing -/

/-- An outermost call is running on a machine in a state with queued actions. -/
structure Loaded (state : MachineState S C) (queue : List (Action K)) (world : World S C K M) :
    Prop where
  state_eq : world.state = state
  queue_eq : world.queue = queue
  mounted_eq : world.mounted = true
  acting_eq : world.acting = true

/-- Nothing is queued, and the effects of the state were the last to run, or are running. -/
structure Flushed (state : MachineState S C) (world : World S C K M) : Prop
    extends Loaded state [] world where
  entered_eq : world.entered = some world.key

/-- No call is running, and nothing is queued. -/
structure Waiting (state : MachineState S C) (world : World S C K M) : Prop where
  state_eq : world.state = state
  queue_eq : world.queue = []
  mounted_eq : world.mounted = true
  acting_eq : world.acting = false

variable [DecidableEq S] [StateValue S] [Context C] {machine : Machine S C K}
  {client : Client S C K M ε} {oracle : Oracle C K} {state : MachineState S C}
  {queue : List (Action K)} {world : World S C K M}

/-! ### Effects and cleanups -/

theorem returns_flush_flushed (h : Flushed state world) :
  (flush : Engine S C K M ε Unit).Returns (body machine client) world fun _ => Flushed state
  := by
  apply Program.returns_world
  rw [if_pos h.entered_eq]
  exact Program.returns_pure h

/-- Requests that leave the machine alone do so while effects run. -/
theorem returns_idle {request : Request K} (hidle : request.Idle) (h : Flushed state world) :
  (ask (.request request) : Engine S C K M ε (request.Answer S C)).Returns (body machine client)
    world fun _ => Flushed state
  := by
  apply Program.returns_ask
  change (serveRequest request : Engine S C K M ε (request.Answer S C)).Returns _ _ _
  cases request with
  | send | setContext | dispatch | enqueue | act | stop | handleSend | handleSetContext =>
    cases hidle
  | start =>
    apply Program.returns_world
    rw [if_pos h.acting_eq]
    apply returns_flush_flushed h
  | drain =>
    apply Program.returns_ask
    apply Program.returns_world
    rw [h.queue_eq]
    exact Program.returns_pure h
  | flush => apply returns_flush_flushed h
  | setMounted mounted =>
    apply Program.returns_update
    obtain ⟨⟨hstate, hqueue, -, hacting⟩, hentered⟩ := h
    exact ⟨⟨hstate, hqueue, hidle, hacting⟩, hentered⟩
  | isMounted | pending | state | isLocked =>
    apply Program.returns_world
    exact Program.returns_pure h

/-- Programs that leave the machine alone return while effects run. -/
theorem returns_tame {code : Code S C K M ε α} (htame : Tame client code)
    (h : Flushed state world) :
  (ofCode code).Returns (body machine client) world fun _ => Flushed state
  := by
  induction htame generalizing world with
  | done result => exact Program.returns_pure h
  | read _ ih => exact ih world.memory h
  | @write _ memory next _ ih =>
    have hworld : Flushed state { world with memory } := by
      obtain ⟨⟨hstate, hqueue, hmounted, hacting⟩, hentered⟩ := h
      exact ⟨⟨hstate, hqueue, hmounted, hacting⟩, hentered⟩
    exact ih hworld
  | @ask _ request next hidle _ ih =>
    change (ask (.request request) >>= fun answer => ofCode (next answer)).Returns _ _ _
    apply (returns_idle hidle h).bind
    intro answer world' h'
    apply ih answer h'
  | @act _ token next _ _ ihcallback ih =>
    change (ask (.request (.act token)) >>= fun answer => ofCode (next answer)).Returns _ _ _
    have hact : (ask (.request (.act token)) : Engine S C K M ε Unit).Returns
        (body machine client) world fun _ => Flushed state := by
      apply Program.returns_ask
      apply Program.returns_world
      rw [if_pos h.acting_eq]
      apply Program.returns_ask
      apply ihcallback h
    apply hact.bind
    intro answer world' h'
    apply ih answer h'

/-! ### Dispatching -/

/-- Dispatching queues an action. -/
theorem returns_dispatch (action : Action K) (h : Loaded state queue world) :
  (dispatch action : Engine S C K M ε Unit).Returns (body machine client) world
    fun _ => Loaded state (queue ++ [action])
  := by
  obtain ⟨hstate, rfl, hmounted, hacting⟩ := h
  apply Program.returns_world
  rw [if_pos hmounted]
  apply Program.returns_ask
  apply Program.returns_update
  exact ⟨hstate, rfl, hmounted, hacting⟩

/-- Dispatching several actions queues them in order. -/
theorem returns_dispatchAll (actions : List (Action K)) (h : Loaded state queue world) :
  (ofCode (requestAll .dispatch actions) : Engine S C K M ε Unit).Returns (body machine client)
    world fun _ => Loaded state (queue ++ actions)
  := by
  induction actions generalizing queue world with
  | nil =>
    rw [List.append_nil]
    exact Program.returns_pure h
  | cons action rest ih =>
    rw [requestAll, ofCode_bind]
    apply (Program.returns_ask (returns_dispatch action h)).bind
    intro _ world' h'
    rw [List.append_cons]
    apply ih h'

/-! ### Entering and leaving states -/

/-- Opening or closing a lock concerns nothing else. -/
theorem returning_setLocked (lock : Nat) (closed : Bool) :
  (Program.returning (body machine client) (Flushed state)).runs
    (effectHost.setLocked lock closed : Engine S C K M ε Unit)
  := by
  apply Program.returning_update
  rintro world ⟨⟨hstate, hqueue, hmounted, hacting⟩, hentered⟩
  exact ⟨⟨hstate, hqueue, hmounted, hacting⟩, hentered⟩

variable (htame : client.Tame oracle)

include htame

/-- Leaving a state returns. -/
theorem returning_leave (cleanup : EffectCleanup K) (event : Event) (context : C) :
  (Program.returning (body machine client) (Flushed state)).runs
    (ask (.leave cleanup event context) : Engine S C K M ε Unit)
  := by
  apply Program.returning_ask
  apply EffectHost.runs_leave
  · apply returning_setLocked
  · intro token params
    apply Program.returning_ask
    intro world h
    apply (returns_tame (htame.cleanup token params) h).mono
    intro _ world' h'
    exact ⟨trivial, h'⟩

/-- So does entering one. -/
theorem returning_enter (entered : MachineState S C) :
  (Program.returning (body machine client) (Flushed state)).runs
    (ask (.enter entered) : Engine S C K M ε (Option (EffectCleanup K)))
  := by
  apply Program.returning_ask
  apply machine.runs_enter
  · apply Judgement.runs_bind Program.returning_world
    intro world
    apply Judgement.runs_bind
    · apply Program.returning_update
      rintro world ⟨⟨hstate, hqueue, hmounted, hacting⟩, hentered⟩
      exact ⟨⟨hstate, hqueue, hmounted, hacting⟩, hentered⟩
    · intro _
      apply Judgement.runs_pure
  · apply returning_setLocked
  · intro token params
    apply Program.returning_ask
    intro world h
    apply (returns_tame (htame.effect token params) h).mono
    intro _ world' h'
    exact ⟨trivial, h'⟩

/-- Running the stored cleanups and the effects of a state returns. -/
theorem returning_renew (entered : MachineState S C) :
  (Program.returning (body machine client) (Flushed state)).runs
    (ask (.renew entered) : Engine S C K M ε Unit)
  := by
  have hexit : ∀ exit, (Program.returning (body machine client) (Flushed state)).runs
      (Program.update fun world => { world with exit } : Engine S C K M ε Unit) := by
    intro exit
    apply Program.returning_update
    rintro world ⟨⟨hstate, hqueue, hmounted, hacting⟩, hentered⟩
    exact ⟨⟨hstate, hqueue, hmounted, hacting⟩, hentered⟩
  apply Program.returning_ask
  apply Judgement.runs_bind
  · apply Judgement.runs_bind Program.returning_world
    intro world
    split
    · apply Judgement.runs_pure
    · apply Judgement.runs_bind (hexit none)
      intro _
      apply returning_leave htame
  · intro _
    apply Judgement.runs_bind (returning_enter htame entered)
    intro exit
    apply hexit exit

/-! ### Settling -/

/-- Flushing returns, in the same state. -/
theorem returns_flush (h : Loaded state [] world) :
  (flush : Engine S C K M ε Unit).Returns (body machine client) world fun _ => Flushed state
  := by
  obtain ⟨hstate, hqueue, hmounted, hacting⟩ := h
  apply Program.returns_world
  split
  · next hentered =>
    exact Program.returns_pure ⟨⟨hstate, hqueue, hmounted, hacting⟩, hentered⟩
  · have hupdate : (Program.update fun world => { world with entered := some world.key } :
        Engine S C K M ε Unit).Returns (body machine client) world fun _ => Flushed state := by
      apply Program.returns_update
      exact ⟨⟨hstate, hqueue, hmounted, hacting⟩, rfl⟩
    apply hupdate.bind
    intro _ world' h'
    apply (returning_renew htame world.state world' h').mono
    rintro _ world'' ⟨-, h''⟩
    apply h''

/-- A step has the outcome that the oracle's has, and leaves the world as it is. -/
theorem returns_step (action : Action K) (world : World S C K M) :
  (stepHost.step machine.definition machine.config world.state action :
      Engine S C K M ε (Outcome S C)).Returns (body machine client) world fun outcome world' =>
    outcome = machine.outcome oracle world.state action ∧ world' = world
  := by
  have hstep : (Program.returning (body machine client) (· = world)).holds
      (· = machine.outcome oracle world.state action)
      (stepHost.step machine.definition machine.config world.state action :
        Engine S C K M ε (Outcome S C)) := by
    apply StepHost.holds_step_eq
    · intro token event context
      apply Program.returning_ask
      change (Program.returning _ _).holds _ (ofCode (client.guard token event context))
      rw [htame.guard]
      exact Judgement.holds_pure _ rfl
    · intro token context
      apply Program.returning_ask
      change (Program.returning _ _).holds _ (ofCode (client.reduce token context))
      rw [htame.reduce]
      exact Judgement.holds_pure _ rfl
    · intro report
      apply Program.returning_ask
      apply Judgement.runs_pure
  apply hstep world rfl

/-- Applying an action leads to the state to which it leads. -/
theorem returns_apply (action : Action K) (h : Loaded state queue world) :
  (ask (.apply action) : Engine S C K M ε Unit).Returns (body machine client) world
    fun _ => Loaded (machine.next oracle state action) queue
  := by
  obtain ⟨rfl, hqueue, hmounted, hacting⟩ := h
  apply Program.returns_ask
  apply Program.returns_world
  apply (returns_step htame action world).bind
  rintro outcome world' ⟨houtcome, rfl⟩
  have hnext : machine.next oracle world'.state action = outcome.stateFrom world'.state := by
    rw [Machine.next, houtcome]
  rw [hnext]
  cases outcome with
  | unchanged => exact Program.returns_pure ⟨rfl, hqueue, hmounted, hacting⟩
  | contextUpdated next => exact Program.returns_update ⟨rfl, hqueue, hmounted, hacting⟩
  | transitioned next => exact Program.returns_update ⟨rfl, hqueue, hmounted, hacting⟩

/-- Draining applies the queued actions one after the other. -/
theorem returns_drain (h : Loaded state queue world) :
  (ask .drain : Engine S C K M ε Nat).Returns (body machine client) world
    fun _ => Loaded (machine.after oracle state queue) []
  := by
  induction queue generalizing state world with
  | nil =>
    apply Program.returns_ask
    apply Program.returns_world
    rw [h.queue_eq]
    exact Program.returns_pure h
  | cons action queue ih =>
    obtain ⟨hstate, hqueue, hmounted, hacting⟩ := h
    have htaken : (Program.update fun world => { world with queue } :
        Engine S C K M ε Unit).Returns (body machine client) world
          fun _ => Loaded state queue := by
      apply Program.returns_update
      exact ⟨hstate, rfl, hmounted, hacting⟩
    apply Program.returns_ask
    apply Program.returns_world
    rw [hqueue]
    apply htaken.bind
    intro _ world₁ h₁
    apply (returns_apply htame action h₁).bind
    intro _ world₂ h₂
    apply (ih h₂).bind
    intro applied world₃ h₃
    exact Program.returns_pure h₃

/-- Settling applies the queued actions and nothing else. -/
theorem returns_settle (h : Loaded state queue world) :
  (ask .settle : Engine S C K M ε Unit).Returns (body machine client) world
    fun _ => Loaded (machine.after oracle state queue) []
  := by
  have hsettled : ∀ {state : MachineState S C} {world : World S C K M}, Loaded state [] world →
      (ask .settle : Engine S C K M ε Unit).Returns (body machine client) world
        fun _ => Loaded state [] := by
    intro state world h
    apply Program.returns_ask
    apply Program.returns_world
    rw [h.queue_eq]
    exact Program.returns_pure h
  cases queue with
  | nil => apply hsettled h
  | cons action queue =>
    apply Program.returns_ask
    apply Program.returns_world
    rw [h.queue_eq]
    apply (returns_drain htame h).bind
    intro _ world₁ h₁
    apply (returns_flush htame h₁).bind
    intro _ world₂ h₂
    apply hsettled h₂.toLoaded

/-- An outermost call that queues actions leads to the state to which they lead. -/
theorem returns_act {program : Engine S C K M ε Unit} {actions : List (Action K)}
    (hprogram : ∀ world, Loaded state [] world →
      program.Returns (body machine client) world fun _ => Loaded state actions)
    (h : Waiting state world) :
  (act program).Returns (body machine client) world
    fun _ => Waiting (machine.after oracle state actions)
  := by
  obtain ⟨hstate, hqueue, hmounted, hacting⟩ := h
  have hopened : (Program.update fun world => { world with acting := true } :
      Engine S C K M ε Unit).Returns (body machine client) world
        fun _ => Loaded state [] := by
    apply Program.returns_update
    exact ⟨hstate, hqueue, hmounted, rfl⟩
  apply Program.returns_world
  rw [if_neg (by simp [hacting])]
  apply hopened.bind
  intro _ world₁ h₁
  apply (hprogram world₁ h₁).bind
  intro _ world₂ h₂
  apply (returns_settle htame h₂).bind
  rintro _ world₃ ⟨hstate₃, hqueue₃, hmounted₃, -⟩
  apply Program.returns_update
  exact ⟨hstate₃, hqueue₃, hmounted₃, rfl⟩

/-! ### Feeding -/

/-- Feeding a machine leads to the state to which the actions lead. -/
theorem returns_feed {feed : Feed K} (hfits : feed.Fits client) (h : Waiting state world) :
  (ofCode feed.code : Engine S C K M ε Unit).Returns (body machine client) world
    fun _ => Waiting (machine.after oracle state feed.actions)
  := by
  cases feed with
  | start =>
    apply Program.returns_ask
    apply returns_act htame _ h
    intro world₁ h₁
    apply (returns_flush htame h₁).mono
    intro _ world₂ h₂
    apply h₂.toLoaded
  | single action =>
    cases action with
    | send event =>
      apply Program.returns_ask
      apply returns_act htame _ h
      intro world₁ h₁
      apply returns_dispatch _ h₁
    | setContext reducer =>
      apply Program.returns_ask
      apply returns_act htame _ h
      intro world₁ h₁
      apply returns_dispatch _ h₁
  | batch token actions =>
    apply Program.returns_ask
    apply returns_act htame _ h
    intro world₁ h₁
    apply Program.returns_ask
    change (ofCode (client.callback token) : Engine S C K M ε Unit).Returns _ _ _
    have hcallback : client.callback token = requestAll .dispatch actions := hfits
    rw [hcallback]
    apply returns_dispatchAll actions h₁

/-- However a machine is fed some actions, it returns in the state to which they lead one after the
other. -/
theorem returns_feedAll (feeds : List (Feed K)) (hfits : ∀ feed ∈ feeds, feed.Fits client)
    (h : Waiting state world) :
  (ofCode (feedAll feeds) : Engine S C K M ε Unit).Returns (body machine client) world
    fun _ => Waiting (machine.after oracle state (feeds.flatMap Feed.actions))
  := by
  induction feeds generalizing state world with
  | nil => exact Program.returns_pure h
  | cons feed rest ih =>
    rw [feedAll, ofCode_bind, List.flatMap_cons, Machine.after_append]
    apply (returns_feed htame (hfits feed List.mem_cons_self) h).bind
    intro _ world' h'
    apply ih _ h'
    intro other hother
    apply hfits other (List.mem_cons_of_mem _ hother)

end GuardedMachine.Synced

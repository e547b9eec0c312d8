import GuardedMachine.Definition.Builder
import GuardedMachine.Proofs.Synced.Bodies
import GuardedMachine.Proofs.Synced.Queue

/-!
# The order of actions

A synchronous machine applies the actions that are enqueued in their order, each once, and each to
the state that the previous one left, no matter which callbacks call the machine while it does so.
The contract of this module says what carries the induction: a part of an outermost call neither
applies actions nor changes the state.  So an action is applied to the state that was read before
its guards and reducers ran, and nothing is applied out of turn.
-/

namespace GuardedMachine.Synced

variable {S C K M ε α : Type} [DecidableEq S] [StateValue S] [Context C] {machine : Machine S C K}
  {oracle : Oracle C K} {world world' : World S C K M} {history history' : History S C K M}

/-! ### The contract -/

/-- Guards and reducers have only the results that an oracle has, whatever else they do. -/
structure Client.Follows (client : Client S C K M ε) (oracle : Oracle C K) : Prop where
  guard : ∀ token event context,
    (client.guard token event context).Yields (· = oracle.guard token event context)
  reduce : ∀ token context,
    (client.reduce token context).Yields (· = oracle.reduce token context)

/-- Guards and reducers answer as an oracle does. -/
def Answers (oracle : Oracle C K) : (call : Call S C K) → call.Answer → Prop
  | .guard token event context, answer => answer = oracle.guard token event context
  | .reduce token context, made => made = oracle.reduce token context
  | _, _ => True

/-- When calls may be made so that the order is kept, and what they keep. -/
def orderContract (machine : Machine S C K) (oracle : Oracle C K) :
    Contract (Call S C K) Call.Answer (World S C K M) where
  pre
    | .request request, world, history => request.Ordinary ∧ InOrder machine oracle world history
    | .settle, world, history => Ready machine oracle world history
    | .drain, world, history => Ready machine oracle world history
    | .apply action, world, history => Next machine oracle action world history
    | _, world, history => InOrder machine oracle world history
  post
    | .settle, _, _, _, world', history' =>
      InOrder machine oracle world' history' ∧ world'.acting = true
    | .drain, _, _, _, world', history' =>
      InOrder machine oracle world' history' ∧ world'.acting = true
    | .apply _, _, _, _, world', history' =>
      InOrder machine oracle world' history' ∧ world'.acting = true
    | call, world, history, answer, world', history' =>
      Answers oracle call answer ∧ Kept machine oracle world history world' history'

/-- A call that may be made whenever the order is kept. -/
def Call.Free : Call S C K → Prop
  | .request _ => False
  | .settle => False
  | .drain => False
  | .apply _ => False
  | _ => True

section Free

variable {call : Call S C K} (hfree : call.Free)

include hfree

theorem pre_of_free :
  (orderContract machine oracle).pre call = (InOrder machine oracle : Invariant S C K M)
  := by
  cases call with
  | request | settle | drain | apply => cases hfree
  | _ => rfl

theorem post_of_free {answer : call.Answer}
    (h : (orderContract machine oracle).post call world history answer world' history') :
  Answers oracle call answer ∧ Kept machine oracle world history world' history'
  := by
  cases call with
  | request | settle | drain | apply => cases hfree
  | _ => apply h

end Free

/-! ### Parts of a call -/

/-- What a part of a call keeps, from its beginning. -/
def Since (machine : Machine S C K) (oracle : Oracle C K) (world : World S C K M)
    (history : History S C K M) : Invariant S C K M :=
  fun world' history' =>
    Moment.Continues history history' ∧ Kept machine oracle world history world' history'

theorem since_refl (h : InOrder machine oracle world history) :
  Since machine oracle world history world history
  := ⟨Moment.Continues.refl history, Kept.refl h⟩

/-- A part of a call may change whatever the order does not depend on. -/
theorem Since.of_world_eq {world'' : World S C K M}
    (h : Since machine oracle world history world' history')
    (hqueue : world''.queue = world'.queue) (hstate : world''.state = world'.state)
    (hacting : world''.acting = world'.acting) :
  Since machine oracle world history world'' history'
  := by
  obtain ⟨hcontinues, hkept⟩ := h
  use hcontinues
  constructor
  · apply hkept.inOrder.of_world_eq hqueue hstate hacting
  · rw [hacting, hkept.acting_eq]
  · rw [hstate]
    apply hkept.state_eq
  · apply hkept.applied_eq

/-- Free calls are parts of a call. -/
theorem holds_ask_since {call : Call S C K} (hfree : call.Free) :
  ((orderContract machine oracle).judgement (Since machine oracle world history)).holds
    (Answers oracle call) (ask call : Engine S C K M ε call.Answer)
  := by
  intro world' history' hsince
  constructor
  · rw [pre_of_free hfree]
    apply hsince.2.inOrder
  · intro _ world'' history'' hcontinues hanswer
    obtain ⟨hanswers, hkept⟩ := post_of_free hfree hanswer
    exact ⟨hanswers, hsince.1.trans hcontinues, hsince.2.trans hkept⟩

theorem runs_ask_since {call : Call S C K} (hfree : call.Free) :
  ((orderContract machine oracle).judgement (Since machine oracle world history)).runs
    (ask call : Engine S C K M ε call.Answer)
  := Judgement.runs_of_holds (holds_ask_since hfree)

/-- So are ordinary requests. -/
theorem runs_request_since {request : Request K} (hordinary : request.Ordinary) :
  ((orderContract machine oracle).judgement (Since machine oracle world history)).runs
    (ask (.request request) : Engine S C K M ε (request.Answer S C))
  := by
  intro world' history' hsince
  use ⟨hordinary, hsince.2.inOrder⟩
  intro answer world'' history'' hcontinues hanswer
  exact ⟨trivial, hsince.1.trans hcontinues, hsince.2.trans hanswer.2⟩

theorem queues_since :
  Queues (orderContract machine oracle) (Since machine oracle world history) ε
  where
  mounted _ _ _ h := h.of_world_eq rfl rfl rfl
  push _ := runs_ask_since trivial
  report _ _ := runs_ask_since trivial

theorem runs_flush_since :
  ((orderContract machine oracle).judgement (Since machine oracle world history)).runs
    (flush : Engine S C K M ε Unit)
  := by
  apply runs_flush
  · intro world' history' entered hsince
    exact hsince.of_world_eq rfl rfl rfl
  · intro state
    exact runs_ask_since trivial

/-- The programs of a client are parts of a call. -/
theorem holds_ofCode_since {allowed : α → Prop} {code : Code S C K M ε α}
    (hasks : code.Asks Request.Ordinary) (hyields : code.Yields allowed) :
  ((orderContract machine oracle).judgement (Since machine oracle world history)).holds allowed
    (ofCode code)
  := by
  apply holds_ofCode _ _ hasks hyields
  · intro world' history' memory hsince
    exact hsince.of_world_eq rfl rfl rfl
  · intro request hordinary
    apply runs_request_since hordinary

/-! ### Outermost calls -/

/-- A call after which an outermost call is still running, and the order kept, keeps it that no
action is being applied. -/
theorem runs_ask_ready {call : Call S C K}
    (hpre : ∀ world history, Ready machine oracle world history →
      (orderContract machine oracle).pre call world (history : History S C K M))
    (hpost : ∀ world (history : History S C K M) answer world' history',
      Ready machine oracle world history →
        (orderContract machine oracle).post call world history answer world' history' →
          InOrder machine oracle world' history' ∧ world'.acting = true) :
  ((orderContract machine oracle).judgement (Ready machine oracle)).runs
    (ask call : Engine S C K M ε call.Answer)
  := by
  intro world history hready
  use hpre _ _ hready
  intro answer world' history' hcontinues hanswer
  obtain ⟨hinOrder, hacting⟩ := hpost _ _ _ _ _ hready hanswer
  exact ⟨trivial, hready.continued hcontinues hinOrder hacting⟩

theorem runs_free_ready {call : Call S C K} (hfree : call.Free) :
  ((orderContract machine oracle).judgement (Ready machine oracle)).runs
    (ask call : Engine S C K M ε call.Answer)
  := by
  apply runs_ask_ready
  · intro world history hready
    rw [pre_of_free hfree]
    apply hready.inOrder
  · intro world history answer world' history' hready hanswer
    obtain ⟨-, hkept⟩ := post_of_free hfree hanswer
    exact ⟨hkept.inOrder, hkept.acting_eq.trans hready.acting_eq⟩

theorem Ready.of_world_eq (h : Ready machine oracle world history)
    (hqueue : world'.queue = world.queue) (hstate : world'.state = world.state)
    (hacting : world'.acting = world.acting) :
  Ready machine oracle world' history
  := ⟨h.inOrder.of_world_eq hqueue hstate hacting, hacting.trans h.acting_eq, h.not_applying⟩

theorem queues_ready :
  Queues (orderContract machine oracle) (Ready machine oracle : Invariant S C K M) ε
  where
  mounted _ _ _ h := h.of_world_eq rfl rfl rfl
  push _ := runs_free_ready trivial
  report _ _ := runs_free_ready trivial

theorem runs_flush_ready :
  ((orderContract machine oracle).judgement (Ready machine oracle)).runs
    (flush : Engine S C K M ε Unit)
  := by
  apply runs_flush
  · intro world history entered hready
    exact hready.of_world_eq rfl rfl rfl
  · intro state
    exact runs_free_ready trivial

theorem runs_settle_ready :
  ((orderContract machine oracle).judgement (Ready machine oracle)).runs
    (ask .settle : Engine S C K M ε Unit)
  := runs_ask_ready (fun _ _ h => h) fun _ _ _ _ _ _ h => h

theorem runs_drain_ready :
  ((orderContract machine oracle).judgement (Ready machine oracle)).runs
    (ask .drain : Engine S C K M ε Nat)
  := runs_ask_ready (fun _ _ h => h) fun _ _ _ _ _ _ h => h

/-! ### The bodies -/

/-- A plain call is carried out when its body is a part of a call. -/
theorem carriesOut_of_since {call : Call S C K} (hplain : call.Plain)
    {body : Engine S C K M ε call.Answer}
    (hbody : ∀ world (history : History S C K M),
      ((orderContract machine oracle).judgement (Since machine oracle world history)).holds
        (Answers oracle call) body)
    (h : InOrder machine oracle world history) :
  (orderContract machine oracle).CarriesOut (InOrder machine oracle) call body
    (fun answer world' history' =>
      Answers oracle call answer ∧ Kept machine oracle world history world' history')
    world history
  := by
  have hcalled := h.called hplain
  use hcalled
  apply (hbody _ _ _ _ (since_refl hcalled)).mono
  rintro answer world' history' - ⟨hanswers, -, hkept⟩ hcontinues
  have hkept := hkept.answered hplain hcontinues answer
  exact ⟨hkept.inOrder, hanswers, hkept⟩

/-- A plain call is carried out when its body keeps it that no action is being applied. -/
theorem carriesOut_of_ready {call : Call S C K} (hplain : call.Plain)
    {body : Engine S C K M ε call.Answer}
    (hbody : ((orderContract machine oracle).judgement (Ready machine oracle)).runs body)
    (h : Ready machine oracle world history) :
  (orderContract machine oracle).CarriesOut (InOrder machine oracle) call body
    (fun _ world' history' => InOrder machine oracle world' history' ∧ world'.acting = true)
    world history
  := by
  have hcalled := h.inOrder.called hplain
  use hcalled
  apply (hbody _ _ ⟨hcalled, h.acting_eq, _⟩).mono
  · rintro answer world' history' - ⟨-, hready⟩ hcontinues
    have hanswered := hready.inOrder.answered hplain hcontinues answer
    exact ⟨hanswered, hanswered, hready.acting_eq⟩
  · intro action
    rw [applying_called hplain]
    apply h.not_applying

/-- A request that is ordinary is served as a part of a call, or as an outermost call that
settles. -/
theorem runs_serveRequest {request : Request K} (hordinary : request.Ordinary) :
  ((orderContract machine oracle).judgement (Since machine oracle world history)).runs
    (serveRequest request : Engine S C K M ε (request.Answer S C))
  := by
  have hqueues : Queues (orderContract machine oracle) (Since machine oracle world history) ε :=
    queues_since
  cases hacting : world.acting with
  | true =>
    apply hqueues.serveRequest hqueues _ runs_flush_since _ hordinary
    · intro program
      apply runs_act_of_acting
      rintro world' history' ⟨-, hkept⟩
      rw [hkept.acting_eq, hacting]
    · intro token
      exact runs_ask_since trivial
  | false =>
    have hready : Queues (orderContract machine oracle)
        (Ready machine oracle : Invariant S C K M) ε := queues_ready
    apply hqueues.serveRequest hready _ runs_flush_ready _ hordinary
    · intro program
      have hidle : ∀ world' history', Since machine oracle world history world' history' →
          world'.acting = false := by
        rintro world' history' ⟨-, hkept⟩
        rw [hkept.acting_eq, hacting]
      apply runs_act_of_idle hidle
      · intro world' history' hsince
        apply Ready.of_idle hsince.2.inOrder (hidle _ _ hsince)
      · intro world' history' world'' history'' hsince hcontinues hready
        use hsince.1.trans hcontinues, hready.inOrder_idle, hacting.symm
        · intro hacting'
          rw [hacting] at hacting'
          cases hacting'
        · intro hacting'
          rw [hacting] at hacting'
          cases hacting'
      · apply runs_settle_ready
    · intro token
      exact runs_free_ready trivial

/-- The queued actions are applied when no action is being applied. -/
theorem runs_drain_body_ready :
  ((orderContract machine oracle).judgement (Ready machine oracle)).runs
    (drain : Engine S C K M ε Nat)
  := by
  intro world history hready
  simp only [drain, Contract.ensures_bind, Contract.ensures_world]
  cases hqueue : world.queue with
  | nil => exact ⟨trivial, hready⟩
  | cons action queue =>
    simp only [Contract.ensures_bind, Contract.ensures_update]
    constructor
    · constructor
      · apply hready.acting_eq
      · apply hready.not_applying
      · rw [hready.inOrder.enqueued_eq, hqueue]
      · apply hready.inOrder.settled hready.not_applying
    · rintro _ world' history' hcontinues ⟨hinOrder, hacting⟩
      have hready' := hready.continued hcontinues hinOrder hacting
      apply (runs_drain_ready (ε := ε) _ _ hready').mono
      rintro applied world'' history'' - ⟨-, hready''⟩
      exact ⟨trivial, hready''⟩

/-- Applying an action leads where the oracle says, because guards and reducers neither apply
actions nor change the state. -/
theorem carriesOut_apply {action : Action K} (h : Next machine oracle action world history) :
  (orderContract machine oracle).CarriesOut (InOrder machine oracle) (.apply action)
    (apply machine action : Engine S C K M ε Unit)
    (fun _ world' history' => InOrder machine oracle world' history' ∧ world'.acting = true)
    world history
  := by
  have hstep : ((orderContract machine oracle).judgement
      (Since machine oracle world (.called (.apply action) world :: history))).holds
        (· = Id.run (oracle.host.step machine.definition machine.config world.state action))
        (stepHost.step machine.definition machine.config world.state action :
          Engine S C K M ε (Outcome S C)) := by
    apply StepHost.holds_step_eq
    · intro token event context
      exact holds_ask_since trivial
    · intro token context
      exact holds_ask_since trivial
    · intro report
      exact runs_ask_since trivial
  use h.called
  simp only [apply, Contract.ensures_bind, Contract.ensures_world]
  apply (hstep _ _ (since_refl h.called)).mono
  rintro outcome world' history' - ⟨houtcome, -, hkept⟩
  have hdone : ∀ world'' : World S C K M, world''.queue = world'.queue →
      world''.acting = world'.acting → world''.state = outcome.stateFrom world.state →
        Moment.Continues (.called (.apply action) world :: history) history' →
          InOrder machine oracle world'' (.answered (.apply action) () world'' :: history')
            ∧ InOrder machine oracle world'' (.answered (.apply action) () world'' :: history')
            ∧ world''.acting = true := by
    intro world'' hqueue hacting hstate hcontinues
    rw [houtcome] at hstate
    have hanswered := h.answered hcontinues hkept hqueue hstate
    rw [hacting, hkept.acting_eq]
    exact ⟨hanswered, hanswered, h.acting_eq⟩
  cases outcome with
  | unchanged => exact hdone _ rfl rfl (hkept.state_eq h.acting_eq)
  | contextUpdated state => exact hdone _ rfl rfl rfl
  | transitioned state => exact hdone _ rfl rfl rfl

variable {client : Client S C K M ε}

/-- The body of a call that may be made whenever the order is kept is a part of a call. -/
theorem holds_body (hasks : client.Asks Request.Ordinary)
    (hfollows : client.Follows oracle) {call : Call S C K} (hplain : call.Plain) (hfree : call.Free) :
  ((orderContract machine oracle).judgement (Since machine oracle world history)).holds
    (Answers oracle call) (body machine client call)
  := by
  have hlocks : ∀ world' history' locks, Since machine oracle world history world' history' →
      Since machine oracle world history { world' with locks } history' := by
    intro world' history' locks hsince
    exact hsince.of_world_eq rfl rfl rfl
  have hexit : ∀ world' history' exit, Since machine oracle world history world' history' →
      Since machine oracle world history { world' with exit } history' := by
    intro world' history' exit hsince
    exact hsince.of_world_eq rfl rfl rfl
  cases call with
  | request | settle | drain | apply => cases hfree
  | push => cases hplain
  | renew state =>
    apply runs_renew hexit
    · intro cleanup event context
      exact runs_ask_since trivial
    · exact runs_ask_since trivial
  | leave cleanup event context =>
    apply EffectHost.runs_leave
    · apply runs_setLocked hlocks
    · intro token params
      exact runs_ask_since trivial
  | enter state =>
    apply EffectHost.runs_enter
    · apply runs_newLock hlocks
    · apply runs_setLocked hlocks
    · intro token params
      exact runs_ask_since trivial
    · intro entered _ name _ _ details
      exact runs_ask_since trivial
  | guard token event context => apply holds_ofCode_since (hasks.guard _ _ _) (hfollows.guard _ _ _)
  | reduce token context => apply holds_ofCode_since (hasks.reduce _ _) (hfollows.reduce _ _)
  | effect token params => apply holds_ofCode_since (hasks.effect _ _) (Program.yields_true _)
  | cleanup token params => apply holds_ofCode_since (hasks.cleanup _ _) (Program.yields_true _)
  | callback token => apply holds_ofCode_since (hasks.callback _) (Program.yields_true _)
  | report report => apply Judgement.runs_pure

/-- Every body keeps the order. -/
theorem fulfils_order (hasks : client.Asks Request.Ordinary) (hfollows : client.Follows oracle) :
  (orderContract machine oracle).Fulfils (InOrder machine oracle) (body machine client)
  := by
  intro call world history hpre
  cases call with
  | request request =>
    apply carriesOut_of_since
    · trivial
    · intro world history
      apply runs_serveRequest hpre.1
    · apply hpre.2
  | settle =>
    apply carriesOut_of_ready
    · trivial
    · apply runs_settle runs_drain_ready runs_flush_ready runs_settle_ready
    · apply hpre
  | drain =>
    apply carriesOut_of_ready
    · trivial
    · apply runs_drain_body_ready
    · apply hpre
  | push action =>
    use hpre.pushing action
    intro _
    have hkept := hpre.pushed action
    exact ⟨hkept.inOrder, trivial, hkept⟩
  | apply action => apply carriesOut_apply hpre
  | _ =>
    apply carriesOut_of_since
    · trivial
    · intro world history
      apply holds_body hasks hfollows
      · trivial
      · trivial
    · apply hpre

/-- In every run of ordinary requests, at every moment and once it has returned, the actions are
applied in the order in which they were enqueued, each once and each to the state that the previous
one left. -/
theorem actions_in_order (machine : Machine S C K) (oracle : Oracle C K)
    (client : Client S C K M ε) (hasks : client.Asks Request.Ordinary)
    (hfollows : client.Follows oracle) (code : Code S C K M ε α)
    (hcode : code.Asks Request.Ordinary) (memory : M) (depth : Nat) :
  (Synced.run machine client depth code (World.initial machine.initialState memory)).Reaches
    (InOrder machine oracle) fun _ world history =>
      Moment.openCalls history = [] ∧ InOrder machine oracle world history
  := by
  have hstart : InOrder machine oracle (World.initial machine.initialState memory) [] := by
    constructor
    · rfl
    · intro _
      apply Machine.leadsTo_nil
    · rintro action ⟨⟩
  have hrun := Contract.reaches_run (fulfils_order hasks hfollows)
    (holds_ofCode_since hcode (Program.yields_true code)) (since_refl hstart) depth
  use hrun.1
  intro result hresult
  obtain ⟨-, hopen, -, hkept⟩ := hrun.2 result hresult
  exact ⟨hopen, hkept.inOrder⟩

/-! ### A machine whose callbacks call it -/

/-- A request as a program. -/
def Code.ask (request : Request K) : Code S C K M ε (request.Answer S C) :=
  Program.ask request

/-- A turnstile that counts what happens to it. -/
def turnstile : Machine String Int64 String where
  definition := Definition.build "locked" 0
    [.state "locked" [.on "COIN" (.guarded "unlocked" (some (.leaf "accepts")))],
      .state "unlocked" [.on "PUSH" (.to "locked"), .effects ["announce"]]]
  config :=
    { (Config.default : Config String) with
      guards := Table.ofList [("accepts", "accepts")]
      effects := Table.ofList [("announce", "announce")] }
  resolved := by decide +kernel

/-- Its guard and its cleanup enqueue updates, and its effect sends an event. -/
def turnstileClient : Client String Int64 String Unit Empty where
  guard _ _ _ := do
    Code.ask (.enqueue (.setContext "count"))
    return true
  reduce _ context := return context + 1
  effect _ _ := do
    Code.ask (.send (Event.ofKind "PUSH"))
    return some "retract"
  cleanup _ _ := Code.ask (.enqueue (.setContext "count"))
  callback _ := return ()

/-- What its guard answers and its reducer computes. -/
def turnstileOracle : Oracle Int64 String where
  guard _ _ _ := true
  reduce _ context := context + 1

/-- The owner starts it and inserts a coin. -/
def turnstileOwner : Code String Int64 String Unit Empty Unit := do
  Code.ask .start
  Code.ask (.send (Event.ofKind "COIN"))

theorem turnstileClient_asks :
  turnstileClient.Asks Request.Ordinary
  where
  guard _ _ _ := ⟨trivial, fun _ => trivial⟩
  reduce _ _ := trivial
  effect _ _ := ⟨trivial, fun _ => trivial⟩
  cleanup _ _ := ⟨trivial, fun _ => trivial⟩
  callback _ := trivial

theorem turnstileClient_follows :
  turnstileClient.Follows turnstileOracle
  where
  guard _ _ _ _ := rfl
  reduce _ _ := rfl

theorem turnstileOwner_asks :
  turnstileOwner.Asks Request.Ordinary
  := ⟨trivial, fun _ => ⟨trivial, fun _ => trivial⟩⟩

/-- The run of the turnstile. -/
def turnstileRun : Run (Call String Int64 String) Call.Answer (World String Int64 String Unit)
    Empty Unit :=
  Synced.run turnstile turnstileClient 12 turnstileOwner
    (World.initial turnstile.initialState ())

/-- The turnstile applies five actions, two of them enqueued by its guard, one by its effect and
one by its cleanup, and comes to rest. -/
theorem turnstile_in_order :
  (turnstileClient.Asks Request.Ordinary ∧ turnstileClient.Follows turnstileOracle
      ∧ turnstileOwner.Asks Request.Ordinary)
    ∧ (turnstileRun.ending = .returned () ∧ (History.applied turnstileRun.history).length = 5)
    ∧ turnstileRun.Reaches (InOrder turnstile turnstileOracle) fun _ world history =>
      Moment.openCalls history = [] ∧ InOrder turnstile turnstileOracle world history
  := by
  use ⟨turnstileClient_asks, turnstileClient_follows, turnstileOwner_asks⟩
  use ⟨rfl, by decide +kernel⟩
  apply actions_in_order turnstile turnstileOracle turnstileClient turnstileClient_asks
    turnstileClient_follows turnstileOwner turnstileOwner_asks

end GuardedMachine.Synced

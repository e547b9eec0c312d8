import GuardedMachine.Proofs.Program.Mirror
import GuardedMachine.Proofs.Synced.Bodies

/-!
# Calls inside an outermost call

Inside an outermost call a machine is acting, and only the requests that open outermost calls look
at that.  If callbacks make none of these, every body that opens no outermost call does the same
whether or not the machine is acting (`steady_body`).
-/

namespace GuardedMachine.Synced

variable {S C K M ε α : Type}

/-! ### Steady programs -/

/-- A request that does not open an outermost call. -/
def Request.Inner : Request K → Prop
  | .start => False
  | .send _ => False
  | .setContext _ => False
  | .act _ => False
  | _ => True

/-- A call that does not open an outermost call. -/
def Call.Inner : Call S C K → Prop
  | .request asked => asked.Inner
  | _ => True

/-- The world, when no outermost call is running. -/
def World.idle (world : World S C K M) : World S C K M :=
  { world with acting := false }

/-- A program that does the same whether or not an outermost call is running. -/
def Steady (program : Engine S C K M ε α) : Prop :=
  (Program.mirroring World.idle Call.Inner).runs program

theorem steady_ask {call : Call S C K} (hinner : call.Inner) :
  Steady (ask call : Engine S C K M ε call.Answer)
  := Program.mirroring_ask hinner

/-- A program that reads the world is steady if it does not look at whether an outermost call is
running. -/
theorem steady_world {f : World S C K M → Engine S C K M ε α}
    (hacting : ∀ world, f world.idle = f world) (h : ∀ world, Steady (f world)) :
  Steady (Program.world >>= f)
  := by
  apply Program.mirroring_world
  intro world
  rw [hacting]
  apply h

theorem steady_update {f : World S C K M → World S C K M}
    (h : ∀ world, f world.idle = (f world).idle) :
  Steady (Program.update f : Engine S C K M ε Unit)
  := Program.mirroring_update h

theorem Steady.bind {β : Type} {program : Engine S C K M ε α} {f : α → Engine S C K M ε β}
    (h : Steady program) (hf : ∀ a, Steady (f a)) :
  Steady (program >>= f)
  := Judgement.runs_bind h hf

theorem steady_pure (a : α) :
  Steady (pure a : Engine S C K M ε α)
  := Judgement.runs_pure _ a

/-! ### Steady bodies -/

theorem steady_ofCode {code : Code S C K M ε α} (hasks : code.Asks Request.Inner) :
  Steady (ofCode code)
  := by
  apply Program.mirroring_embed _ _ _ hasks
  · intro world
    rfl
  · intro memory world
    rfl
  · intro request hinner
    apply hinner

theorem steady_dispatch (action : Action K) :
  Steady (dispatch action : Engine S C K M ε Unit)
  := by
  apply steady_world (fun _ => rfl)
  intro world
  split
  · exact steady_ask trivial
  · exact steady_ask trivial

theorem steady_runExit :
  Steady (runExit : Engine S C K M ε Unit)
  := by
  apply steady_world (fun _ => rfl)
  intro world
  split
  · apply steady_pure
  · refine Steady.bind (steady_update fun _ => rfl) ?_
    intro _
    exact steady_ask trivial

theorem steady_isLocked (lock : Nat) :
  Steady (effectHost.isLocked lock : Engine S C K M ε Bool)
  := by
  apply steady_world (fun _ => rfl)
  intro world
  apply steady_pure

theorem steady_setLocked (lock : Nat) (closed : Bool) :
  Steady (effectHost.setLocked lock closed : Engine S C K M ε Unit)
  := steady_update fun _ => rfl

variable [DecidableEq S]

theorem steady_flush :
  Steady (flush : Engine S C K M ε Unit)
  := by
  apply steady_world (fun _ => rfl)
  intro world
  split
  · apply steady_pure
  · refine Steady.bind (steady_update fun _ => rfl) ?_
    intro _
    exact steady_ask trivial

theorem steady_serveRequest {request : Request K} (hinner : request.Inner) :
  Steady (serveRequest request : Engine S C K M ε (request.Answer S C))
  := by
  cases request with
  | start | send | setContext | act => cases hinner
  | dispatch action => apply steady_dispatch
  | enqueue action => exact steady_ask trivial
  | drain => exact steady_ask trivial
  | flush => apply steady_flush
  | stop =>
    refine Steady.bind (steady_update fun _ => rfl) ?_
    intro _
    apply Steady.bind steady_runExit
    intro _
    exact steady_update fun _ => rfl
  | setMounted mounted => exact steady_update fun _ => rfl
  | isMounted | pending | state =>
    apply steady_world (fun _ => rfl)
    intro world
    apply steady_pure
  | handleSend handle event =>
    apply EffectHost.runs_send (steady_isLocked _)
    · intro report _
      exact steady_ask trivial
    · apply steady_dispatch
  | handleSetContext handle reducer =>
    apply EffectHost.runs_setContext (steady_isLocked _)
    · intro report _
      exact steady_ask trivial
    · apply steady_dispatch
  | isLocked handle => apply steady_isLocked

variable [StateValue S] [Context C] {machine : Machine S C K} {client : Client S C K M ε}

theorem steady_apply (action : Action K) :
  Steady (apply machine action : Engine S C K M ε Unit)
  := by
  apply steady_world (fun _ => rfl)
  intro world
  apply Steady.bind
  · apply StepHost.runs_step
    · intro token event context
      exact steady_ask trivial
    · intro token context
      exact steady_ask trivial
    · intro report
      exact steady_ask trivial
  · intro outcome
    split
    · apply steady_pure
    · exact steady_update fun _ => rfl
    · exact steady_update fun _ => rfl

/-- If callbacks open no outermost calls, every body that opens none is steady. -/
theorem steady_body (hclient : client.Asks Request.Inner) {call : Call S C K}
    (hinner : call.Inner) :
  Steady (body machine client call)
  := by
  cases call with
  | request request => apply steady_serveRequest hinner
  | settle =>
    apply steady_world (fun _ => rfl)
    intro world
    split
    · apply steady_pure
    · refine Steady.bind (steady_ask trivial) ?_
      intro _
      apply Steady.bind steady_flush
      intro _
      exact steady_ask trivial
  | drain =>
    apply steady_world (fun _ => rfl)
    intro world
    split
    · apply steady_pure
    · refine Steady.bind (steady_update fun _ => rfl) ?_
      intro _
      refine Steady.bind (steady_ask trivial) ?_
      intro _
      refine Steady.bind (steady_ask trivial) ?_
      intro applied
      apply steady_pure
  | push action => exact steady_update fun _ => rfl
  | apply action => apply steady_apply
  | renew state =>
    apply Steady.bind steady_runExit
    intro _
    refine Steady.bind (steady_ask trivial) ?_
    intro exit
    exact steady_update fun _ => rfl
  | leave cleanup event context =>
    apply EffectHost.runs_leave
    · intro closed
      apply steady_setLocked
    · intro token params
      exact steady_ask trivial
  | enter state =>
    apply EffectHost.runs_enter
    · apply steady_world (fun _ => rfl)
      intro world
      refine Steady.bind (steady_update fun _ => rfl) ?_
      intro _
      apply steady_pure
    · intro lock closed
      apply steady_setLocked
    · intro token params
      exact steady_ask trivial
    · intro _ _ name _ _ details
      exact steady_ask trivial
  | guard token event context => apply steady_ofCode (hclient.guard token event context)
  | reduce token context => apply steady_ofCode (hclient.reduce token context)
  | effect token params => apply steady_ofCode (hclient.effect token params)
  | cleanup token params => apply steady_ofCode (hclient.cleanup token params)
  | callback token => apply steady_ofCode (hclient.callback token)
  | report report => apply steady_pure

end GuardedMachine.Synced

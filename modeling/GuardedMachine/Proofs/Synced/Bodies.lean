import GuardedMachine.Proofs.Effect.Running
import GuardedMachine.Proofs.Program.Code
import GuardedMachine.Synced.Run

/-!
# The bodies of calls of a synchronous machine

What the bodies of calls keep, whatever the contract: an invariant is kept by a body if it is kept
by the calls that the body makes and does not depend on the parts of the world that it changes.
The lemmas of this module say so for one body at a time, and each theorem about runs is assembled
from them.
-/

namespace GuardedMachine.Synced

variable {S C K M ε α : Type}

/-- Whether a request is one of those that queue and settle by themselves: it does not apply
actions or run effects out of turn, and does not stop the machine. -/
def Request.Ordinary : Request K → Prop
  | .drain => False
  | .flush => False
  | .stop => False
  | _ => True

/-- The callbacks make only requests of which `admits` holds. -/
structure Client.Asks (admits : Request K → Prop) (client : Client S C K M ε) : Prop where
  guard : ∀ token event context, (client.guard token event context).Asks admits
  reduce : ∀ token context, (client.reduce token context).Asks admits
  effect : ∀ token params, (client.effect token params).Asks admits
  cleanup : ∀ token params, (client.cleanup token params).Asks admits
  callback : ∀ token, (client.callback token).Asks admits

theorem Client.Asks.mono {admits admits' : Request K → Prop} {client : Client S C K M ε}
    (h : client.Asks admits) (himp : ∀ request, admits request → admits' request) :
  client.Asks admits'
  where
  guard token event context := (h.guard token event context).mono himp
  reduce token context := (h.reduce token context).mono himp
  effect token params := (h.effect token params).mono himp
  cleanup token params := (h.cleanup token params).mono himp
  callback token := (h.callback token).mono himp

/-- An invariant of runs. -/
abbrev Invariant (S C K M : Type) := World S C K M → History S C K M → Prop

variable {contract : Contract (Call S C K) Call.Answer (World S C K M)}
  {invariant inner : Invariant S C K M}

/-! ### Single operations -/

/-- A program of a client keeps what its memory and its requests keep. -/
theorem holds_ofCode {admits : Request K → Prop} {allowed : α → Prop} {code : Code S C K M ε α}
    (hmemory : ∀ world history memory, invariant world history →
      invariant { world with memory } history)
    (hrequest : ∀ request, admits request →
      (contract.judgement invariant).runs
        (ask (.request request) : Engine S C K M ε (request.Answer S C)))
    (hasks : code.Asks admits) (hyields : code.Yields allowed) :
  (contract.judgement invariant).holds allowed (ofCode code)
  := by
  apply Contract.holds_embed _ hrequest hasks hyields
  intro memory world history
  apply hmemory

/-- A program of a client runs when its requests do. -/
theorem runs_ofCode {admits : Request K → Prop} {code : Code S C K M ε α}
    (hmemory : ∀ world history memory, invariant world history →
      invariant { world with memory } history)
    (hrequest : ∀ request, admits request →
      (contract.judgement invariant).runs
        (ask (.request request) : Engine S C K M ε (request.Answer S C)))
    (hasks : code.Asks admits) :
  (contract.judgement invariant).runs (ofCode code)
  := holds_ofCode hmemory hrequest hasks (Program.yields_true code)

/-! ### Requests -/

/-- Whether a request settles when it is an outermost call. -/
def Request.settles : Request K → Bool
  | .start => true
  | .send _ => true
  | .setContext _ => true
  | .act _ => true
  | _ => false

/-- An ordinary request that does not settle runs when actions can be passed on. -/
theorem runs_serveRequest_aside [DecidableEq S] {request : Request K}
    (hordinary : request.Ordinary) (hsettles : request.settles = false)
    (hdispatch : ∀ action, (contract.judgement invariant).runs
      (dispatch action : Engine S C K M ε Unit))
    (hpush : ∀ action, request = .enqueue action → (contract.judgement invariant).runs
      (ask (.push action) : Engine S C K M ε Unit))
    (hreport : ∀ report : Report, report.diagnostic.isMisuse = true →
      (contract.judgement invariant).runs (ask (.report report) : Engine S C K M ε Unit))
    (hmounted : ∀ mounted, request = .setMounted mounted → ∀ world history,
      invariant world history → invariant { world with mounted } history) :
  (contract.judgement invariant).runs
    (serveRequest request : Engine S C K M ε (request.Answer S C))
  := by
  have hlocked : ∀ lock, (contract.judgement invariant).runs
      (effectHost.isLocked lock : Engine S C K M ε Bool) := by
    intro lock
    apply Judgement.runs_bind Contract.runs_world
    intro world
    apply Judgement.runs_pure
  cases request with
  | start | send | setContext | act => cases hsettles
  | drain | flush | stop => cases hordinary
  | dispatch action => apply hdispatch
  | enqueue action => apply hpush _ rfl
  | setMounted mounted =>
    apply Contract.runs_update
    apply hmounted _ rfl
  | isMounted =>
    apply Judgement.runs_bind Contract.runs_world
    intro world
    apply Judgement.runs_pure
  | pending =>
    apply Judgement.runs_bind Contract.runs_world
    intro world
    apply Judgement.runs_pure
  | state =>
    apply Judgement.runs_bind Contract.runs_world
    intro world
    apply Judgement.runs_pure
  | handleSend handle event => apply EffectHost.runs_send (hlocked _) hreport (hdispatch _)
  | handleSetContext handle reducer =>
    apply EffectHost.runs_setContext (hlocked _) hreport (hdispatch _)
  | isLocked handle => apply hlocked

/-- An ordinary request runs when events and updates can be passed on and the parts of an outermost
call run, possibly under another invariant. -/
theorem runs_serveRequest_of [DecidableEq S] {request : Request K} (hordinary : request.Ordinary)
    (hdispatch : ∀ action, (contract.judgement invariant).runs
      (dispatch action : Engine S C K M ε Unit))
    (hpush : ∀ action, request = .enqueue action → (contract.judgement invariant).runs
      (ask (.push action) : Engine S C K M ε Unit))
    (hreport : ∀ report : Report, report.diagnostic.isMisuse = true →
      (contract.judgement invariant).runs (ask (.report report) : Engine S C K M ε Unit))
    (hmounted : ∀ mounted, request = .setMounted mounted → ∀ world history,
      invariant world history → invariant { world with mounted } history)
    (hact : ∀ program : Engine S C K M ε Unit, (contract.judgement inner).runs program →
      (contract.judgement invariant).runs (act program))
    (hflush : (contract.judgement inner).runs (flush : Engine S C K M ε Unit))
    (hinner : ∀ action, (contract.judgement inner).runs
      (dispatch action : Engine S C K M ε Unit))
    (hcallback : ∀ token, (contract.judgement inner).runs
      (ask (.callback token) : Engine S C K M ε Unit)) :
  (contract.judgement invariant).runs
    (serveRequest request : Engine S C K M ε (request.Answer S C))
  := by
  cases request with
  | start => apply hact _ hflush
  | send event => apply hact _ (hinner _)
  | setContext reducer => apply hact _ (hinner _)
  | act callback => apply hact _ (hcallback callback)
  | _ => apply runs_serveRequest_aside hordinary rfl hdispatch hpush hreport hmounted

/-- Actions can be queued, and what is rejected be reported, under an invariant. -/
structure Queues (contract : Contract (Call S C K) Call.Answer (World S C K M))
    (invariant : Invariant S C K M) (ε : Type) : Prop where
  mounted : ∀ world history mounted, invariant world history →
    invariant { world with mounted } history
  push : ∀ action, (contract.judgement invariant).runs
    (ask (.push action) : Engine S C K M ε Unit)
  report : ∀ report : Report, report.diagnostic.isMisuse = true →
    (contract.judgement invariant).runs (ask (.report report) : Engine S C K M ε Unit)

variable (hqueues : Queues contract invariant ε)

include hqueues

theorem Queues.dispatch (action : Action K) :
  (contract.judgement invariant).runs (dispatch action : Engine S C K M ε Unit)
  := by
  apply Judgement.runs_bind Contract.runs_world
  intro world
  split
  · apply hqueues.push
  · apply hqueues.report _ rfl

/-- An ordinary request runs when actions can be queued. -/
theorem Queues.serveRequest [DecidableEq S] (hinner : Queues contract inner ε)
    (hact : ∀ program : Engine S C K M ε Unit, (contract.judgement inner).runs program →
      (contract.judgement invariant).runs (act program))
    (hflush : (contract.judgement inner).runs (flush : Engine S C K M ε Unit))
    (hcallback : ∀ token, (contract.judgement inner).runs
      (ask (.callback token) : Engine S C K M ε Unit))
    {request : Request K} (hordinary : request.Ordinary) :
  (contract.judgement invariant).runs
    (serveRequest request : Engine S C K M ε (request.Answer S C))
  := by
  apply runs_serveRequest_of hordinary hqueues.dispatch _ hqueues.report _ hact hflush
    hinner.dispatch hcallback
  · intro action _
    apply hqueues.push
  · intro mounted _ world history
    apply hqueues.mounted

omit hqueues

/-- A part of an outermost call runs without settling. -/
theorem runs_act_of_acting {program : Engine S C K M ε Unit}
    (hacting : ∀ world history, invariant world history → world.acting = true)
    (h : (contract.judgement invariant).runs program) :
  (contract.judgement invariant).runs (act program)
  := by
  intro world history hinvariant
  simp only [act, Contract.ensures_bind, Contract.ensures_world, hacting _ _ hinvariant, if_true]
  apply h world history hinvariant

/-- An outermost call runs if its program runs and then settles. -/
theorem runs_act_of_idle {program : Engine S C K M ε Unit}
    (hidle : ∀ world history, invariant world history → world.acting = false)
    (hopen : ∀ world history, invariant world history → inner { world with acting := true } history)
    (hclose : ∀ world history world' history', invariant world history →
      Moment.Continues history history' → inner world' history' →
        invariant { world' with acting := false } history')
    (hsettle : (contract.judgement inner).runs (ask .settle : Engine S C K M ε Unit))
    (h : (contract.judgement inner).runs program) :
  (contract.judgement invariant).runs (act program)
  := by
  intro world history hinvariant
  have hrest : (contract.judgement inner).runs (program >>= fun _ => ask .settle) := by
    apply Judgement.runs_bind h
    intro _
    apply hsettle
  simp only [act, Contract.ensures_bind, Contract.ensures_world, hidle _ _ hinvariant,
    Bool.false_eq_true, if_false, Contract.ensures_update]
  have hinner := hrest _ _ (hopen _ _ hinvariant)
  rw [Contract.ensures_bind] at hinner
  apply hinner.mono
  rintro _ world' history' hcontinues hsettles
  apply hsettles.mono
  rintro _ world'' history'' hcontinues' ⟨-, hinner'⟩
  exact ⟨trivial, hclose _ _ _ _ hinvariant (hcontinues.trans hcontinues') hinner'⟩

/-! ### The queue -/

/-- The machine settles when the queue is drained, effects run and it settles again. -/
theorem runs_settle [DecidableEq S]
    (hdrain : (contract.judgement invariant).runs (ask .drain : Engine S C K M ε Nat))
    (hflush : (contract.judgement invariant).runs (flush : Engine S C K M ε Unit))
    (hsettle : (contract.judgement invariant).runs (ask .settle : Engine S C K M ε Unit)) :
  (contract.judgement invariant).runs (settle : Engine S C K M ε Unit)
  := by
  apply Judgement.runs_bind Contract.runs_world
  intro world
  split
  · apply Judgement.runs_pure
  · apply Judgement.runs_bind hdrain
    intro _
    apply Judgement.runs_bind hflush
    intro _
    apply hsettle

/-- The queue is drained when an action may be taken off it and applied. -/
theorem runs_drain
    (hqueue : ∀ world history queue, invariant world history →
      invariant { world with queue } history)
    (happly : ∀ action, (contract.judgement invariant).runs
      (ask (.apply action) : Engine S C K M ε Unit))
    (hdrain : (contract.judgement invariant).runs (ask .drain : Engine S C K M ε Nat)) :
  (contract.judgement invariant).runs (drain : Engine S C K M ε Nat)
  := by
  apply Judgement.runs_bind Contract.runs_world
  intro world
  split
  · apply Judgement.runs_pure
  · apply Judgement.runs_bind
    · apply Contract.runs_update
      intro world history
      apply hqueue
    · intro _
      apply Judgement.runs_bind (happly _)
      intro _
      apply Judgement.runs_bind hdrain
      intro applied
      apply Judgement.runs_pure

/-! ### Effects -/

/-- Effects run unless the state was entered, when their running keeps the invariant. -/
theorem runs_flush [DecidableEq S]
    (hentered : ∀ world history entered, invariant world history →
      invariant { world with entered } history)
    (hrenew : ∀ state, (contract.judgement invariant).runs
      (ask (.renew state) : Engine S C K M ε Unit)) :
  (contract.judgement invariant).runs (flush : Engine S C K M ε Unit)
  := by
  apply Judgement.runs_bind Contract.runs_world
  intro world
  split
  · apply Judgement.runs_pure
  · apply Judgement.runs_bind
    · apply Contract.runs_update
      intro world history
      apply hentered
    · intro _
      apply hrenew

/-- The stored cleanups run when leaving runs. -/
theorem runs_runExit
    (hexit : ∀ world history exit, invariant world history →
      invariant { world with exit } history)
    (hleave : ∀ cleanup event context, (contract.judgement invariant).runs
      (ask (.leave cleanup event context) : Engine S C K M ε Unit)) :
  (contract.judgement invariant).runs (runExit : Engine S C K M ε Unit)
  := by
  apply Judgement.runs_bind Contract.runs_world
  intro world
  split
  · apply Judgement.runs_pure
  · apply Judgement.runs_bind
    · apply Contract.runs_update
      intro world history
      apply hexit
    · intro _
      apply hleave

/-- Effects are run anew when leaving and entering run. -/
theorem runs_renew
    (hexit : ∀ world history exit, invariant world history →
      invariant { world with exit } history)
    (hleave : ∀ cleanup event context, (contract.judgement invariant).runs
      (ask (.leave cleanup event context) : Engine S C K M ε Unit))
    (state : MachineState S C)
    (henter : (contract.judgement invariant).runs
      (ask (.enter state) : Engine S C K M ε (Option (EffectCleanup K)))) :
  (contract.judgement invariant).runs (renew state : Engine S C K M ε Unit)
  := by
  apply Judgement.runs_bind (runs_runExit hexit hleave)
  intro _
  apply Judgement.runs_bind henter
  intro exit
  apply Contract.runs_update
  intro world history
  apply hexit

/-- Locks are made and set under an invariant that does not depend on them. -/
theorem runs_newLock
    (hlocks : ∀ world history locks, invariant world history →
      invariant { world with locks } history) :
  (contract.judgement invariant).runs (effectHost.newLock : Engine S C K M ε Nat)
  := by
  apply Judgement.runs_bind Contract.runs_world
  intro world
  apply Judgement.runs_bind
  · apply Contract.runs_update
    intro world history
    apply hlocks
  · intro _
    apply Judgement.runs_pure

theorem runs_setLocked
    (hlocks : ∀ world history locks, invariant world history →
      invariant { world with locks } history) (lock : Nat) (closed : Bool) :
  (contract.judgement invariant).runs (effectHost.setLocked lock closed : Engine S C K M ε Unit)
  := by
  apply Contract.runs_update
  intro world history
  apply hlocks

end GuardedMachine.Synced

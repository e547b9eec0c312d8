import GuardedMachine.Proofs.Dispatch.Outcomes
import GuardedMachine.Proofs.Machine.Resolved
import GuardedMachine.Proofs.Program.Code
import GuardedMachine.Shared.Run

/-!
# The bodies of calls of a shared machine

What the bodies of calls keep, whatever the contract: an invariant is kept by a request if it is
kept by the actions that the request performs and by the changes that it makes to the observers, by
an action if it is kept by its step and by the observers, and by a program of a client if it is kept
by its requests.  An observer is found exactly when it is subscribed.
-/

namespace GuardedMachine.Shared

variable {S C K M ε α : Type}

/-- An invariant of runs. -/
abbrev Invariant (S C K M : Type) := World S C K M → History S C K M → Prop

/-! ### Observers -/

/-- The numbers of the observers, in the order of their subscriptions. -/
def World.ids (world : World S C K M) : List Nat :=
  world.observers.map fun observer => observer.1

/-- What is subscribed is found, and nothing else is. -/
theorem isSome_observer?_iff {world : World S C K M} {id : Nat} :
  (world.observer? id).isSome ↔ id ∈ world.ids
  := by
  have hfound : ((Table.mk world.observers).get? id).isSome
      ↔ id ∈ (Table.mk world.observers).keys :=
    ⟨Table.mem_keys_of_isSome, Table.isSome_of_mem_keys⟩
  exact hfound

/-- An observer that is subscribed is found. -/
theorem exists_observer? {world : World S C K M} {id : Nat} (h : id ∈ world.ids) :
  ∃ token, world.observer? id = some token
  := Option.isSome_iff_exists.mp (isSome_observer?_iff.mpr h)

/-! ### Requests -/

/-- The action that a request performs, if it performs one. -/
def Request.performs? : Request K → Option (Action K)
  | .send event => some (.send event)
  | .setContext reducer => some (.setContext reducer)
  | .dispatch action => some action
  | _ => none

variable {contract : Contract (Call S C K) Call.Answer (World S C K M)}
  {invariant : Invariant S C K M}

/-- A request runs when the action that it performs does and observers may come and go. -/
theorem runs_serveRequest_of (request : Request K)
    (hsubscribe : ∀ world history observer, invariant world history →
      invariant
        { world with
          observers := world.observers ++ [(world.nextId, observer)]
          nextId := world.nextId + 1 } history)
    (hunsubscribe : ∀ world history (id : Nat), invariant world history →
      invariant
        { world with observers := world.observers.filter fun observer => observer.1 ≠ id } history)
    (hrelease : ∀ world history, invariant world history →
      invariant { world with released := true } history)
    (hperform : ∀ action, request.performs? = some action →
      (contract.judgement invariant).runs (ask (.perform action) : Engine S C K M ε Bool)) :
  (contract.judgement invariant).runs
    (serveRequest request : Engine S C K M ε (request.Answer S C))
  := by
  cases request with
  | send event =>
    apply Judgement.runs_bind (hperform _ rfl)
    intro _
    apply Judgement.runs_pure
  | setContext reducer =>
    apply Judgement.runs_bind (hperform _ rfl)
    intro _
    apply Judgement.runs_pure
  | dispatch action => apply hperform _ rfl
  | subscribe observer =>
    apply Judgement.runs_bind Contract.runs_world
    intro world
    apply Judgement.runs_bind
    · apply Contract.runs_update
      intro world history
      apply hsubscribe
    · intro _
      apply Judgement.runs_pure
  | unsubscribe id =>
    apply Judgement.runs_bind Contract.runs_world
    intro world
    split
    · apply Judgement.runs_bind
      · apply Contract.runs_update
        intro world history
        apply hunsubscribe
      · intro _
        apply Judgement.runs_pure
    · apply Judgement.runs_pure
  | release => apply Contract.runs_update hrelease
  | observerCount =>
    apply Judgement.runs_bind Contract.runs_world
    intro world
    apply Judgement.runs_pure
  | state =>
    apply Judgement.runs_bind Contract.runs_world
    intro world
    apply Judgement.runs_pure

/-! ### Passes and actions -/

/-- A pass runs when the observers do. -/
theorem runs_notify_of
    (hobserve : ∀ id token state,
      (contract.judgement invariant).runs (ask (.observe id token state) : Engine S C K M ε Unit))
    (ids : List Nat) :
  (contract.judgement invariant).runs (notify ids : Engine S C K M ε Unit)
  := by
  induction ids with
  | nil => apply Judgement.runs_pure
  | cons id rest ih =>
    apply Judgement.runs_bind Contract.runs_world
    intro world
    split
    · apply ih
    · apply Judgement.runs_bind (hobserve _ _ _)
      intro _
      apply ih

/-- An action is performed when its step and the observers run, under an invariant that does not
depend on the state. -/
theorem runs_perform_of [DecidableEq S] [StateValue S] [Context C] (machine : Machine S C K)
    (hstate : ∀ world history state, invariant world history → invariant { world with state } history)
    (hrunning : ∀ world history running, invariant world history →
      invariant { world with running } history)
    (hguard : ∀ token event context, (contract.judgement invariant).runs
      (ask (.guard token event context) : Engine S C K M ε Bool))
    (hreduce : ∀ token context, (contract.judgement invariant).runs
      (ask (.reduce token context) : Engine S C K M ε C))
    (hreport : ∀ report, (contract.judgement invariant).runs
      (ask (.report report) : Engine S C K M ε Unit))
    (hobserve : ∀ id token state,
      (contract.judgement invariant).runs (ask (.observe id token state) : Engine S C K M ε Unit))
    (action : Action K) :
  (contract.judgement invariant).runs (perform machine action : Engine S C K M ε Bool)
  := by
  have hend : ∀ answer : Bool, (contract.judgement invariant).runs
      (Program.update (fun world => { world with running := world.running - 1 })
        >>= fun _ => pure answer : Engine S C K M ε Bool) := by
    intro answer
    apply Judgement.runs_bind (Contract.runs_update fun world history => hrunning world history _)
    intro _
    apply Judgement.runs_pure
  apply Judgement.runs_bind Contract.runs_world
  intro world
  apply Judgement.runs_bind (Contract.runs_update fun world history => hrunning world history _)
  intro _
  apply Judgement.runs_bind (StepHost.runs_step action hguard hreduce hreport)
  intro outcome
  split
  · apply hend
  · next state _ =>
    apply Judgement.runs_bind (Contract.runs_update fun world history => hstate world history state)
    intro _
    apply Judgement.runs_bind Contract.runs_world
    intro written
    apply Judgement.runs_bind (runs_notify_of hobserve _)
    intro _
    apply hend

/-! ### Programs of clients -/

/-- A program of a client keeps what its memory and its requests keep. -/
theorem holds_ofCode_of {admits : Request K → Prop} {allowed : α → Prop}
    {code : Code S C K M ε α}
    (hmemory : ∀ world history memory, invariant world history →
      invariant { world with memory } history)
    (hrequest : ∀ request, admits request →
      (contract.judgement invariant).runs
        (ask (.request request) : Engine S C K M ε (request.Answer S C)))
    (hasks : code.Asks admits) (hyields : code.Yields allowed) :
  (contract.judgement invariant).holds allowed (ofCode code)
  := by
  apply Contract.holds_embed _ hrequest hasks hyields
  intro memory world history
  apply hmemory

end GuardedMachine.Shared

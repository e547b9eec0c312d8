import GuardedMachine.Effect.Runner
import GuardedMachine.Proofs.Program.Code

/-!
# Bodies of an owner of effects

An owner that runs entry effects itself, and its callbacks, do nothing to the state of a run but
change their memory and make requests.
-/

namespace GuardedMachine.Runner

variable {S C K M ε α : Type}

/-- The history of a run. -/
abbrev History (S C K M : Type) := List (Moment (Call S C K) Call.Answer (World M))

/-- The handle through which a request is made, and the action that it passes on. -/
def Request.through? : Request S C K → Option (Handle × Action K)
  | .send handle event => some (handle, .send event)
  | .setContext handle reducer => some (handle, .setContext reducer)
  | _ => none

variable {contract : Contract (Call S C K) Call.Answer (World M)}
  {invariant : World M → History S C K M → Prop}

/-- The programs of the owner and of the callbacks keep what their memory and requests keep. -/
theorem runs_ofCode
    (hmemory : ∀ world history memory, invariant world history →
      invariant { world with memory } history)
    (hrequest : ∀ request, (contract.judgement invariant).runs
      (ask (.request request) : Engine S C K M ε request.Answer))
    (code : Code S C K M ε α) :
  (contract.judgement invariant).runs (ofCode code)
  := by
  apply Contract.holds_embed
  · intro memory world history hinvariant
    apply hmemory world history memory hinvariant
  · intro request _
    apply hrequest request
  · apply Program.asks_true code
  · apply Program.yields_true code

end GuardedMachine.Runner

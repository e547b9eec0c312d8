import GuardedMachine.Effect.Basic
import GuardedMachine.Proofs.Dispatch.Outcomes

/-!
# Running effects under a judgement

Entering and leaving a state, and the calls through a handle, do nothing but what they ask of
their surroundings.  A name of an effect that is not configured is reported, and nothing else is
reported as not defined.
-/

namespace GuardedMachine

/-- Whether a diagnostic says that an action was given to a closed handle or an unmounted machine. -/
def Diagnostic.isMisuse : Diagnostic → Bool
  | .sendLocked | .setContextLocked | .unmounted => true
  | _ => false

/-- That is defined. -/
theorem Diagnostic.isUndefined_of_isMisuse {diagnostic : Diagnostic}
    (h : diagnostic.isMisuse = true) :
  diagnostic.isUndefined = false
  := by
  cases diagnostic with
  | sendLocked | setContextLocked | unmounted => rfl
  | _ => cases h

namespace EffectHost

variable {m : Type → Type} [Monad m] {judgement : Judgement m} {S C K : Type}
  {host : EffectHost m C K}

/-- Sending through a handle runs when the lock can be read, the report of a closed lock be written
and the event be passed on. -/
theorem runs_send {handle : Handle} {event : Event}
    (hlocked : judgement.runs (host.isLocked handle.lock))
    (hreport : ∀ report, report.diagnostic.isMisuse = true →
      judgement.runs (host.report report))
    (hdispatch : judgement.runs (host.dispatch (.send event))) :
  judgement.runs (host.send handle event)
  := by
  apply judgement.runs_bind hlocked
  intro locked
  split
  · apply hreport _ rfl
  · apply hdispatch

/-- Updating the context through a handle runs under the same conditions. -/
theorem runs_setContext {handle : Handle} {reducer : K}
    (hlocked : judgement.runs (host.isLocked handle.lock))
    (hreport : ∀ report, report.diagnostic.isMisuse = true →
      judgement.runs (host.report report))
    (hdispatch : judgement.runs (host.dispatch (.setContext reducer))) :
  judgement.runs (host.setContext handle reducer)
  := by
  apply judgement.runs_bind hlocked
  intro locked
  split
  · apply hreport _ rfl
  · apply hdispatch

/-- Cleanups run in order when each of them runs. -/
theorem runs_runExits {params : EffectParams C}
    (hcleanup : ∀ token, judgement.runs (host.cleanup token params)) (exits : List K) :
  judgement.runs (host.runExits params exits)
  := by
  induction exits with
  | nil => apply judgement.runs_pure
  | cons exit rest ih =>
    apply judgement.runs_bind (hcleanup exit)
    intro _
    apply ih

/-- Leaving a state runs when its cleanups do. -/
theorem runs_leave {cleanup : EffectCleanup K} {event : Event} {context : C}
    (hset : ∀ closed, judgement.runs (host.setLocked cleanup.handle.lock closed))
    (hcleanup : ∀ token params, judgement.runs (host.cleanup token params)) :
  judgement.runs (host.leave cleanup event context)
  := by
  apply judgement.runs_bind (hset false)
  intro _
  apply judgement.runs_bind (runs_runExits (fun token => hcleanup token _) cleanup.exits)
  intro _
  apply hset

variable [StateValue S] [Context C] {config : Config K} {state : MachineState S C}

/-- Effects run in order when those that are configured run with the given handle and the others can
be reported. -/
theorem runs_runEffects_with {handle : Handle} (names : List String)
    (heffect : ∀ token params, params.handle = handle → judgement.runs (host.effect token params))
    (hundefined : ∀ name ∈ names, config.effect? name = none → ∀ details, judgement.runs
      (host.report
        { diagnostic := .undefinedEffect name (StateValue.name state.value), details })) :
  judgement.runs (host.runEffects config state handle names)
  := by
  induction names with
  | nil => apply judgement.runs_pure
  | cons name rest ih =>
    have hrest := ih fun name hn => hundefined name (List.mem_cons_of_mem _ hn)
    rw [runEffects]
    split
    · next hnone =>
      apply judgement.runs_bind (hundefined name List.mem_cons_self hnone _)
      intro _
      apply hrest
    · apply judgement.runs_bind (heffect _ _ rfl)
      intro exit
      apply judgement.runs_bind hrest
      intro exits
      apply judgement.runs_pure

/-- They run with any handle when they run with all. -/
theorem runs_runEffects {handle : Handle} (names : List String)
    (heffect : ∀ token params, judgement.runs (host.effect token params))
    (hundefined : ∀ name ∈ names, config.effect? name = none → ∀ details, judgement.runs
      (host.report
        { diagnostic := .undefinedEffect name (StateValue.name state.value), details })) :
  judgement.runs (host.runEffects config state handle names)
  := runs_runEffects_with names (fun token params _ => heffect token params) hundefined

/-- Entering a state runs when its effects do. -/
theorem runs_enter [DecidableEq S] {definition : Definition S C} {sync : Bool}
    (hnew : judgement.runs host.newLock)
    (hset : ∀ lock closed, judgement.runs (host.setLocked lock closed))
    (heffect : ∀ token params, judgement.runs (host.effect token params))
    (hundefined : ∀ entered, definition.state? state.value = some entered →
      ∀ name ∈ entered.effects, config.effect? name = none → ∀ details, judgement.runs
        (host.report
          { diagnostic := .undefinedEffect name (StateValue.name state.value), details })) :
  judgement.runs (host.enter definition config state sync)
  := by
  rw [enter]
  split
  · apply judgement.runs_pure
  · apply judgement.runs_pure
  · next on effects _ hentered =>
    apply judgement.runs_bind hnew
    intro lock
    apply judgement.runs_bind (runs_runEffects effects heffect (hundefined _ hentered))
    intro exits
    apply judgement.runs_bind (hset _ _)
    intro _
    apply judgement.runs_pure

end EffectHost

end GuardedMachine

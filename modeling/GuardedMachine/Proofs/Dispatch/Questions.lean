import GuardedMachine.Proofs.Dispatch.Oracle
import GuardedMachine.Proofs.Guard.Parity

/-!
# The questions of a step

Deciding a guard asks some of its names in order, `Guard.asked`, up to the one that settles the
answer.  `Consults` says of a program which predicates it asks.  `consults_send` shows that the
delivery of an event asks what its row asks and nothing else, and what it then does.
-/

namespace GuardedMachine

namespace Guard

variable (answers : String → Except GuardError Bool)

mutual

/-- The names that are asked when a guard is decided, in order. -/
def asked : Guard → List String
  | .leaf name => [name]
  | .not inner => asked inner
  | .and children => askedAll children
  | .or children => askedAny children

/-- The names that are asked in a conjunction: its members are decided up to the first that does
not hold. -/
def askedAll : List Guard → List String
  | [] => []
  | child :: rest =>
    asked child ++ match child.evaluate answers with
      | .ok true => askedAll rest
      | _ => []

/-- The names that are asked in a disjunction: its members are decided up to the first that
holds. -/
def askedAny : List Guard → List String
  | [] => []
  | child :: rest =>
    asked child ++ match child.evaluate answers with
      | .ok false => askedAny rest
      | _ => []

end

end Guard

/-! ### Programs that ask -/

variable {σ ε S C K α β : Type} {ask : K → σ → σ} {tokens tokens' : List K}

/-- A program returns a result of which `P` holds, and all it does to the memory is to ask some
predicates, one after the other. -/
def Consults (ask : K → σ → σ) (tokens : List K) (P : α → Prop) (program : Recording σ ε α) :
    Prop :=
  ∀ recorded, ∃ a recorded', program.run recorded = .ok (a, recorded') ∧ P a
    ∧ recorded'.memory = tokens.foldl (fun memory token => ask token memory) recorded.memory

namespace Consults

variable {P : α → Prop} {Q : β → Prop} {program : Recording σ ε α} {f : α → Recording σ ε β}

theorem of_pure {a : α} (h : P a) :
  Consults ask [] P (pure a : Recording σ ε α)
  := fun recorded => ⟨a, recorded, rfl, h, rfl⟩

theorem bind (h : Consults ask tokens P program) (hf : ∀ a, P a → Consults ask tokens' Q (f a)) :
  Consults ask (tokens ++ tokens') Q (program >>= f)
  := by
  intro recorded
  obtain ⟨a, recorded', hrun, ha, hmemory⟩ := h recorded
  obtain ⟨b, recorded'', hrun', hb, hmemory'⟩ := hf a ha recorded'
  use b, recorded''
  rw [StateT.run_bind, hrun]
  use hrun', hb
  rw [hmemory', hmemory, List.foldl_append]

/-- A program that asks nothing is followed by one that asks. -/
theorem after (h : Consults ask [] P program) (hf : ∀ a, P a → Consults ask tokens Q (f a)) :
  Consults ask tokens Q (program >>= f)
  := h.bind hf

/-- A program that asks is followed by one that asks nothing. -/
theorem before (h : Consults ask tokens P program) (hf : ∀ a, P a → Consults ask [] Q (f a)) :
  Consults ask tokens Q (program >>= f)
  := by
  rw [← List.append_nil tokens]
  apply h.bind hf

end Consults

/-! ### Guards -/

namespace Guard

variable {check : String → ExceptT GuardError (Recording σ ε) Bool}
  {answers : String → Except GuardError Bool} {token? : String → Option K}

mutual

/-- Deciding a guard asks its names up to the one that settles the answer. -/
theorem consults_evaluate
    (h : ∀ name, Consults ask (token? name).toList (· = answers name) (check name).run) :
    ∀ guard : Guard,
  Consults ask ((guard.asked answers).filterMap token?) (· = guard.evaluate answers)
    (guard.evaluate check).run
  | .leaf name => by
      have htokens : [name].filterMap token? = (token? name).toList := by
        cases hname : token? name with
        | none => rw [List.filterMap_cons_none hname]; rfl
        | some token => rw [List.filterMap_cons_some hname]; rfl
      rw [asked, htokens]
      apply h
  | .not inner => by
      apply Consults.before (consults_evaluate h inner)
      rintro _ rfl
      rw [evaluate]
      cases inner.evaluate answers with
      | error error => exact Consults.of_pure rfl
      | ok allow => exact Consults.of_pure rfl
  | .and children => consults_evaluateAll h children
  | .or children => consults_evaluateAny h children

theorem consults_evaluateAll
    (h : ∀ name, Consults ask (token? name).toList (· = answers name) (check name).run) :
    ∀ children : List Guard,
  Consults ask ((askedAll answers children).filterMap token?) (· = evaluateAll answers children)
    (evaluateAll check children).run
  | [] => Consults.of_pure rfl
  | child :: rest => by
      rw [askedAll, List.filterMap_append]
      apply Consults.bind (consults_evaluate h child)
      rintro _ rfl
      rw [evaluateAll]
      cases child.evaluate answers with
      | error error => exact Consults.of_pure rfl
      | ok allow =>
        cases allow with
        | false => exact Consults.of_pure rfl
        | true => exact consults_evaluateAll h rest

theorem consults_evaluateAny
    (h : ∀ name, Consults ask (token? name).toList (· = answers name) (check name).run) :
    ∀ children : List Guard,
  Consults ask ((askedAny answers children).filterMap token?) (· = evaluateAny answers children)
    (evaluateAny check children).run
  | [] => Consults.of_pure rfl
  | child :: rest => by
      rw [askedAny, List.filterMap_append]
      apply Consults.bind (consults_evaluate h child)
      rintro _ rfl
      rw [evaluateAny]
      cases child.evaluate answers with
      | error error => exact Consults.of_pure rfl
      | ok allow =>
        cases allow with
        | false => exact consults_evaluateAny h rest
        | true => exact Consults.of_pure rfl

end

/-- Tracing a guard asks what deciding it asks. -/
theorem consults_trace {P : Except GuardError Bool → Prop} {guard : Guard}
    (h : Consults ask tokens P (guard.evaluate check).run) :
  Consults ask tokens (fun _ => True) (guard.trace check).run
  := by
  intro recorded
  obtain ⟨answer, recorded', hrun, -, hmemory⟩ := h recorded
  have htrace : ((Trace.allow <$> guard.trace check).run).run recorded
      = .ok (answer.map some, recorded') := by
    rw [allow_trace, ExceptT.run_map, StateT.run_map, hrun]
    rfl
  rw [ExceptT.run_map, StateT.run_map] at htrace
  cases hfirst : (guard.trace check).run.run recorded with
  | error error =>
    rw [hfirst] at htrace
    cases htrace
  | ok first =>
    rw [hfirst] at htrace
    obtain ⟨-, rfl⟩ := Prod.mk.inj (Except.ok.inj htrace)
    use first.1, first.2, rfl, trivial, hmemory

end Guard

/-! ### Steps -/

/-- The predicates that are asked when a guard is decided. -/
def Oracle.asked (oracle : Oracle C K) (config : Config K) (context : C) (event : Event)
    (guard : Guard) : List K :=
  (guard.asked (oracle.answer config event context)).filterMap config.guard?

/-- The predicates that are asked when a row is selected: those of its guard, and in development
mode the same once more. -/
def Oracle.questions (oracle : Oracle C K) (config : Config K) (context : C) (event : Event)
    (row : Target S) : List K :=
  match row.guard with
  | none => []
  | some guard =>
    let asked := oracle.asked config context event guard
    asked ++ if config.development then asked else []

/-- A row has a guard that does not hold. -/
def Oracle.Denies (oracle : Oracle C K) (config : Config K) (context : C) (event : Event)
    (row : Target S) : Prop :=
  ∃ guard, row.guard = some guard ∧
    guard.evaluate (oracle.answer config event context) = .ok false

/-- Guards answer as an oracle does, and note that they were asked. -/
def StepClient.Notes (client : StepClient σ ε C K) (oracle : Oracle C K)
    (note : K → Event → C → σ → σ) : Prop :=
  ∀ token event context memory,
    client.guard token event context memory
      = .ok (oracle.guard token event context, note token event context memory)

namespace StepClient

variable {client : StepClient σ ε C K}

/-- An event without a row asks nothing and changes nothing. -/
theorem consults_send_none [DecidableEq S] [StateValue S] [Context C]
    {definition : Definition S C} {config : Config K} {state : MachineState S C} {event : Event}
    (hrow : definition.transition? state.value event.kind = none) :
  Consults ask [] (· = .unchanged) (client.host.send definition config state event)
  := by
  rw [StepHost.send]
  dsimp only
  split
  · apply Consults.after (leavingJudgement_report _)
    intro _ _
    exact Consults.of_pure rfl
  · rw [hrow]
    apply Consults.after (leavingJudgement_report _)
    intro _ _
    exact Consults.of_pure rfl

end StepClient

namespace StepClient.Notes

variable {client : StepClient σ ε C K} {oracle : Oracle C K} {note : K → Event → C → σ → σ}
  (h : client.Notes oracle note) {config : Config K} {event : Event} {context : C}

include h

/-- Asking a name asks its predicate, if there is one. -/
theorem consults_check (name : String) :
  Consults (fun token => note token event context) (config.guard? name).toList
    (· = oracle.answer config event context name)
    (client.host.check config event context name).run
  := by
  rw [StepHost.check, Oracle.answer]
  cases config.guard? name with
  | none => exact Consults.of_pure rfl
  | some token =>
    intro recorded
    use .ok (oracle.guard token event context),
      { recorded with memory := note token event context recorded.memory }
    refine ⟨?_, rfl, rfl⟩
    change (client.guard token event context recorded.memory >>= fun result => _) >>= _ = _
    rw [h]
    rfl

theorem consults_evaluate (guard : Guard) :
  Consults (fun token => note token event context) (oracle.asked config context event guard)
    (· = guard.evaluate (oracle.answer config event context))
    (guard.evaluate (client.host.check config event context)).run
  := Guard.consults_evaluate h.consults_check guard

/-- In development mode a guard is asked once more. -/
theorem consults_traced (guard : Guard) :
  Consults (fun token => note token event context)
    (if config.development then oracle.asked config context event guard else []) (fun _ => True)
    (client.host.traced? config guard event context)
  := by
  rw [StepHost.traced?]
  split
  · apply Consults.before (Guard.consults_trace (h.consults_evaluate guard))
    rintro (error | trace) -
    · exact Consults.of_pure trivial
    · exact Consults.of_pure trivial
  · exact Consults.of_pure trivial

variable [StateValue S] [Context C] {state : MachineState S C} {target : S}

/-- A guard that can be decided is asked, and its answer is the decision. -/
theorem consults_allows {guard : Guard} {allow : Bool}
    (hdecided : guard.evaluate (oracle.answer config event state.context) = .ok allow) :
  Consults (fun token => note token event state.context)
    (oracle.asked config state.context event guard
      ++ if config.development then oracle.asked config state.context event guard else [])
    (· = allow) (client.host.allows config guard state target event)
  := by
  rw [StepHost.allows_eq]
  apply Consults.bind (h.consults_evaluate guard)
  rintro _ rfl
  rw [hdecided]
  apply Consults.before (h.consults_traced guard)
  intro traced _
  have hexplained : leavingJudgement.holds (· = allow)
      (client.host.explained guard state target event allow traced) :=
    StepHost.holds_explained fun report _ => leavingJudgement_report report
  exact hexplained

variable [DecidableEq S] {definition : Definition S C}

/-- An event with a row asks what the row asks, and leads to the target of the row, unless the row
denies it. -/
theorem consults_send {row : Target S} (hsome : (definition.state? state.value).isSome)
    (hrow : definition.transition? state.value event.kind = some row)
    (hdecided : ∀ guard, row.guard = some guard →
      ∃ allow, guard.evaluate (oracle.answer config event state.context) = .ok allow) :
  Consults (fun token => note token event state.context)
    (oracle.questions config state.context event row)
    (fun outcome => (oracle.Denies config state.context event row → outcome = .unchanged)
      ∧ (¬ oracle.Denies config state.context event row → outcome = .transitioned
        { value := row.target
          context := state.context
          event
          nextEvents := definition.nextEvents row.target }))
    (client.host.send definition config state event)
  := by
  rw [StepHost.send]
  dsimp only
  split
  · next hnone =>
    rw [Option.isNone_iff_eq_none.mp hnone] at hsome
    cases hsome
  · rw [hrow]
    dsimp only
    rw [Oracle.questions]
    cases hguard : row.guard with
    | none =>
      have hpermits : ¬ oracle.Denies config state.context event row := by
        rintro ⟨guard, hguard', -⟩
        cases hguard.symm.trans hguard'
      apply Consults.of_pure
      exact ⟨fun hdenies => absurd hdenies hpermits, fun _ => rfl⟩
    | some guard =>
      obtain ⟨allow, hallow⟩ := hdecided guard hguard
      apply Consults.before (h.consults_allows hallow)
      rintro allow rfl
      have hdenies : oracle.Denies config state.context event row ↔ allow = false := by
        constructor
        · rintro ⟨guard', hguard', hdenied⟩
          obtain rfl := Option.some.inj (hguard.symm.trans hguard')
          apply Except.ok.inj (hallow.symm.trans hdenied)
        · rintro rfl
          exact ⟨guard, hguard, hallow⟩
      rw [hdenies]
      cases allow with
      | false => exact Consults.of_pure ⟨fun _ => rfl, fun hpermits => absurd rfl hpermits⟩
      | true =>
        apply Consults.of_pure
        constructor
        · rintro ⟨⟩
        · intro _
          rfl

end StepClient.Notes

end GuardedMachine

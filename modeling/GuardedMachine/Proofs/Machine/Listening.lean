import GuardedMachine.Proofs.Dispatch.Questions
import GuardedMachine.Proofs.Machine.NextEvents
import GuardedMachine.Proofs.Machine.Steps

/-!
# What states listen to

A state tells from its list of events whether it listens to an event, and a step looks the event up
in the rows of the value and then in those of the root.  `Machine.can_exact` shows that the two agree
in every state that a machine comes to: an event that the state does not listen to changes nothing,
and any other selects one row, whose guard alone is asked and decides.
-/

namespace GuardedMachine

/-! ### Guards that can be decided -/

/-- The judgement on programs that may fail and do not. -/
def okJudgement {ε : Type} : Judgement (Except ε) where
  holds P program := ∃ a, program = .ok a ∧ P a
  holds_pure h := ⟨_, rfl, h⟩
  holds_bind := by
    rintro α β P Q _ f ⟨a, rfl, ha⟩ hf
    apply hf a ha
  holds_map := by
    rintro α β P Q _ f ⟨a, rfl, ha⟩ hf
    exact ⟨f a, rfl, hf a ha⟩
  holds_mono := by
    rintro α P Q _ ⟨a, rfl, ha⟩ himp
    exact ⟨a, rfl, himp a ha⟩

/-- A guard is decided when its names are configured. -/
theorem Oracle.evaluate_answer {C K : Type} (oracle : Oracle C K) {config : Config K} {guard : Guard}
    (hnames : ∀ name ∈ guard.names, config.guard? name ≠ none) (event : Event) (context : C) :
  ∃ allow, guard.evaluate (oracle.answer config event context) = .ok allow
  := by
  have hruns : okJudgement.runs (guard.evaluate (oracle.answer config event context)) := by
    apply Guard.runs_evaluate
    intro name hname
    obtain ⟨token, htoken⟩ := Option.ne_none_iff_exists'.mp (hnames name hname)
    use oracle.guard token event context
    rw [Oracle.answer, htoken]
    exact ⟨rfl, trivial⟩
  obtain ⟨allow, hallow, -⟩ := hruns
  exact ⟨allow, hallow⟩

/-! ### Rows -/

variable {S C K : Type} [DecidableEq S]

namespace Definition

/-- The row for events of a kind at a value that is defined: its own row, or the root row if it has
none of its own. -/
def Selects (definition : Definition S C) (value : S) (kind : String) (row : Target S) : Prop :=
  ∃ entered, definition.state? value = some entered ∧
    (entered.on.get? kind = some row
      ∨ entered.on.get? kind = none ∧ definition.on.get? kind = some row)

/-- A defined value selects the row that is looked up. -/
theorem selects_of_transition? {definition : Definition S C} {value : S} {kind : String}
    {row : Target S} (hsome : (definition.state? value).isSome)
    (hrow : definition.transition? value kind = some row) :
  definition.Selects value kind row
  := by
  obtain ⟨entered, hentered⟩ := Option.isSome_iff_exists.mp hsome
  use entered, hentered
  rw [transition?, hentered, Option.bind_some] at hrow
  cases hown : entered.on.get? kind with
  | none =>
    rw [hown] at hrow
    right
    exact ⟨rfl, hrow⟩
  | some own =>
    rw [hown] at hrow
    left
    exact hrow

/-- The kinds of events that a value listens to are those that it has a row for. -/
theorem mem_nextEvents_iff {definition : Definition S C} {value : S} {kind : String} :
  kind ∈ definition.nextEvents value ↔ (definition.transition? value kind).isSome
  := by
  have hkeys : ∀ rows : Transitions S, kind ∈ rows.keys ↔ (rows.get? kind).isSome := by
    intro rows
    constructor
    · exact Table.isSome_of_mem_keys
    · exact Table.mem_keys_of_isSome
  rw [nextEvents, transition?]
  cases definition.state? value with
  | none => simp [hkeys]
  | some entered =>
    cases hown : entered.on.get? kind with
    | none => simp [hkeys, hown]
    | some own => simp [hkeys, hown]

end Definition

/-! ### States that a machine comes to -/

namespace Machine

variable {σ ε : Type} [StateValue S] [Context C]

/-- In a state that a machine comes to, an event that the state does not listen to asks nothing and
changes nothing.  An event that it listens to selects one row, its own or else that of the root; it
asks what the guard of that row asks and leads to the target of that row, unless its guard does not
hold. -/
theorem can_exact (machine : Machine S C K) {oracle : Oracle C K}
    {note : K → Event → C → σ → σ} {client : StepClient σ ε C K}
    (hnotes : client.Notes oracle note) {actions : List (Action K)} {memory : σ}
    {state : MachineState S C} {recorded : Recorded σ}
    (hrun : (actions.foldlM (machine.transition client) machine.initialState).run
      { memory, reports := [] } = .ok (state, recorded))
    (event : Event) :
  (state.can event.kind = false →
      Consults (fun token => note token event state.context) [] (· = .unchanged)
        (machine.step client state (.send event)))
    ∧ (state.can event.kind = true →
      ∃ row, machine.definition.Selects state.value event.kind row
        ∧ Consults (fun token => note token event state.context)
          (oracle.questions machine.config state.context event row)
          (fun outcome =>
            (oracle.Denies machine.config state.context event row → outcome = .unchanged)
            ∧ (¬ oracle.Denies machine.config state.context event row → outcome = .transitioned
              { value := row.target
                context := state.context
                event
                nextEvents := machine.definition.nextEvents row.target }))
          (machine.step client state (.send event)))
  := by
  obtain ⟨hdefined, -⟩ := machine.transitions_sane client actions memory hrun
  have hsome := Table.isSome_of_mem_keys hdefined
  have hlists : machine.definition.Lists state :=
    machine.definition.keeps_lists.transitions machine.definition.lists_initialState hrun
  have hcan : state.can event.kind = true
      ↔ (machine.definition.transition? state.value event.kind).isSome := by
    rw [MachineState.can, List.contains_iff_mem, hlists, Definition.mem_nextEvents_iff]
  cases hrow : machine.definition.transition? state.value event.kind with
  | none =>
    constructor
    · intro _
      exact StepClient.consults_send_none hrow
    · intro hlistens
      rw [hcan, hrow] at hlistens
      cases hlistens
  | some row =>
    constructor
    · intro hdeaf
      rw [hcan.mpr (by rw [hrow]; rfl)] at hdeaf
      cases hdeaf
    · intro _
      use row, Definition.selects_of_transition? hsome hrow
      apply hnotes.consults_send hsome hrow
      intro guard hguard
      apply oracle.evaluate_answer
      intro name hname
      apply guard_configured hrow hguard hname

end Machine

/-- A door that opens to a knock unless it is late, and whose root row for a knock is hidden. -/
def door : Machine String Int64 String where
  definition := Definition.build "shut" 0
    [.on "KNOCK" (.guarded "shut" (some (.leaf "loud"))),
      .state "shut" [.on "KNOCK" (.guarded "open" (some (.not (.leaf "late"))))],
      .state "open" []]
  config :=
    { (Config.default : Config String) with
      guards := Table.ofList [("late", "late"), ("loud", "loud")] }
  resolved := by decide +kernel

/-- It is late, and every knock is loud. -/
def doorOracle : Oracle Int64 String where
  guard _ _ _ := true
  reduce _ context := context

/-- The guards of the door write down that they were asked. -/
def doorClient : StepClient (List String) Empty Int64 String where
  guard token _ _ := fun asked => .ok (true, asked ++ [token])
  reduce _ context := return context

/-- The door asks twice, in development mode, whether it is late and stays shut.  It never asks
whether the knock is loud. -/
theorem door_exact :
  (doorClient.Notes doorOracle fun token _ _ asked => asked ++ [token])
    ∧ door.initialState.can "KNOCK" = true
    ∧ Consults (fun token asked => asked ++ [token]) ["late", "late"] (· = .unchanged)
      (door.step doorClient door.initialState (.send (Event.ofKind "KNOCK")))
  := by
  have hnotes : doorClient.Notes doorOracle fun token _ _ asked => asked ++ [token] :=
    fun _ _ _ _ => rfl
  use hnotes, by decide +kernel
  have hreach : (([] : List (Action String)).foldlM (door.transition doorClient)
      door.initialState).run { memory := [], reports := [] }
        = .ok (door.initialState, { memory := [], reports := [] }) := rfl
  obtain ⟨row, ⟨entered, hentered, hrow⟩, hconsults⟩ :=
    (door.can_exact hnotes hreach (Event.ofKind "KNOCK")).2 (by decide +kernel)
  have hown : (door.definition.state? "shut").bind (fun entered => entered.on.get? "KNOCK")
      = some (.guarded "open" (some (.not (.leaf "late")))) := by decide +kernel
  change door.definition.state? "shut" = some entered at hentered
  change entered.on.get? "KNOCK" = _ ∨ entered.on.get? "KNOCK" = none ∧ _ at hrow
  rw [hentered, Option.bind_some] at hown
  obtain hrow | ⟨hnone, -⟩ := hrow
  · obtain rfl := Option.some.inj (hown.symm.trans hrow)
    intro recorded
    obtain ⟨outcome, recorded', hstep, ⟨hdenied, -⟩, hmemory⟩ := hconsults recorded
    use outcome, recorded', hstep
    constructor
    · apply hdenied
      use .not (.leaf "late"), rfl
      rfl
    · apply hmemory
  · cases hown.symm.trans hnone

end GuardedMachine

import GuardedMachine.Definition.Builder
import GuardedMachine.MachineState
import GuardedMachine.Proofs.Dispatch.Recordings
import GuardedMachine.Proofs.Wire.Events

/-!
# Machine states as JSON

A machine state can be read from JSON values of several shapes, but it is written in one.  It reads
back as it is exactly if its event does (`MachineState.stable_iff`), so that a state that was read is
stable: it is written as an object of its four parts and read from it again.  Events that were read
and updates of the context keep it so, and `MachineState.states_restored` says this of all types of
states and contexts.
-/

namespace GuardedMachine

namespace MachineState

variable {S C K σ ε : Type} [StateValue S] [Context C]

/-- A state is stable when it is written as an object of its four parts, is read back from that
object as it is, and then is written in the same way again. -/
structure Stable (state : MachineState S C) : Prop where
  keys : state.toJson.members?.map (fun members => members.map Prod.fst)
    = some ["context", "event", "nextEvents", "value"]
  read : ofJson? state.toJson = some state
  again : (ofJson? state.toJson : Option (MachineState S C)).map toJson = some state.toJson

/-- A state is stable if and only if its event has no key `type` in its payload. -/
theorem stable_iff [LawfulStateValue S] [LawfulContext C] {state : MachineState S C} :
  state.Stable ↔ state.event.get? "type" = none
  := by
  constructor
  · intro hstable
    obtain ⟨json, hevent⟩ := event_of_ofJson? hstable.read
    apply Event.get?_type_of_ofJson? hevent
  · intro htype
    have hread : ofJson? state.toJson = some state :=
      ofJson?_toJson (Event.ofJson?_toJson_iff.mpr htype)
    constructor
    · rfl
    · exact hread
    · rw [hread, Option.map_some]

/-- The event of a state that is read has no key `type` in its payload. -/
theorem get?_type_of_ofJson? {json : Json} {state : MachineState S C} (h : ofJson? json = some state) :
  state.event.get? "type" = none
  := by
  obtain ⟨event, hevent⟩ := event_of_ofJson? h
  apply Event.get?_type_of_ofJson? hevent

variable [DecidableEq S]

/-- Actions whose events have no key `type` lead from a state whose event has none to another. -/
theorem get?_type_of_transitions {definition : Definition S C} {config : Config K}
    {client : StepClient σ ε C K} {actions : List (Action K)}
    (hactions : ∀ event, .send event ∈ actions → event.get? "type" = none)
    {start state : MachineState S C} {recorded recorded' : Recorded σ}
    (hstart : start.event.get? "type" = none)
    (hrun : (actions.foldlM (definition.transition config client) start).run recorded
      = .ok (state, recorded')) :
  state.event.get? "type" = none
  := by
  have hkeep : ∀ action ∈ actions, ∀ current : MachineState S C,
      current.event.get? "type" = none →
      (reportJudgement fun _ => True).holds (fun next => next.event.get? "type" = none)
        (definition.transition config client current action) := by
    intro action haction current hcurrent
    apply Judgement.holds_mono _ (definition.holds_transition_leads config client current action)
    rintro _ ⟨outcome, hleads, rfl⟩
    cases hleads with
    | undefined | unknown | denied | updated => exact hcurrent
    | accepted => exact hactions _ haction
  have hholds := Judgement.holds_foldlM_of_mem hkeep hstart
  apply (hholds recorded trivial state recorded' hrun).1

variable (S C)

/-- States with values in `S` and contexts in `C` are restored from their JSON values: whatever is
read is stable, and so is every state that is reached from it by events that are read and by updates
of the context. -/
def Restored : Prop :=
  ∀ (json : Json) (state : MachineState S C), ofJson? json = some state →
    state.Stable
      ∧ ∀ (K σ ε : Type) (definition : Definition S C) (config : Config K)
        (client : StepClient σ ε C K) (actions : List (Action K)) (next : MachineState S C)
        (recorded recorded' : Recorded σ),
        (∀ event, .send event ∈ actions → ∃ json, Event.ofJson? json = some event) →
          (actions.foldlM (definition.transition config client) state).run recorded
            = .ok (next, recorded') →
          next.Stable

theorem restored [LawfulStateValue S] [LawfulContext C] :
  Restored S C
  := by
  intro json state hread
  have htype := get?_type_of_ofJson? hread
  constructor
  · apply stable_iff.mpr htype
  · intro K σ ε definition config client actions next recorded recorded' hactions hrun
    apply stable_iff.mpr
    apply get?_type_of_transitions _ htype hrun
    intro event hevent
    obtain ⟨json', hjson'⟩ := hactions event hevent
    apply Event.get?_type_of_ofJson? hjson'

/-- States are restored from their JSON values, whether their values are strings or the variants of
an enumeration and whether their contexts are 64-bit integers, JSON values or nothing at all. -/
theorem states_restored :
  (Restored String Int64 ∧ Restored String Json ∧ Restored String Unit)
    ∧ ∀ names : List String,
      Restored (Variant names) Int64 ∧ Restored (Variant names) Json ∧ Restored (Variant names) Unit
  := by
  constructor
  · exact ⟨restored _ _, restored _ _, restored _ _⟩
  · intro names
    exact ⟨restored _ _, restored _ _, restored _ _⟩

/-- A beacon that is red or green. -/
def beacon : Definition (Variant ["Green", "Red"]) Int64 :=
  .build ⟨"Red", by decide⟩ 0
    [.state ⟨"Red", by decide⟩ [.on "GO" (.to ⟨"Green", by decide⟩)],
      .state ⟨"Green", by decide⟩ [.on "STOP" (.to ⟨"Red", by decide⟩)]]

/-- Its updates count. -/
def beaconClient : StepClient Unit Empty Int64 String where
  guard _ _ _ := return true
  reduce _ context := return context + 1

/-- It is sent an event, and its context is updated. -/
def beaconActions : List (Action String) :=
  [.send { kind := "GO", payload := [("n", .int 2)] }, .setContext "count"]

/-- A red beacon is read from an array of its four parts, the value being the key of an object.  It is
restored, and so is the green beacon that it becomes. -/
theorem beacon_restored :
  ∃ red green : MachineState (Variant ["Green", "Red"]) Int64, ∃ recorded,
    (ofJson? (.arr [.obj [("Red", .null)], .int 3, .obj [("n", .int 1), ("type", .str "STOP")],
        .arr [.str "GO"]]) = some red
      ∧ (∀ event, .send event ∈ beaconActions → ∃ json, Event.ofJson? json = some event)
      ∧ (beaconActions.foldlM (beacon.transition Config.default beaconClient) red).run
          { memory := (), reports := [] } = .ok (green, recorded))
    ∧ (red.value.name = "Red" ∧ red.Stable)
    ∧ green.value.name = "Green" ∧ green.context = 4 ∧ green.Stable
  := by
  have hevents : ∀ event, .send event ∈ beaconActions →
      ∃ json, Event.ofJson? json = some event := by
    intro event hevent
    simp only [beaconActions, List.mem_cons, Action.send.injEq, reduceCtorEq, List.not_mem_nil,
      or_false] at hevent
    use .obj [("n", .int 2), ("type", .str "GO")]
    rw [hevent]
    rfl
  obtain ⟨-, henumerations⟩ := states_restored
  obtain ⟨hintegers, -, -⟩ := henumerations ["Green", "Red"]
  obtain ⟨hred, hreached⟩ := hintegers (.arr [.obj [("Red", .null)], .int 3,
    .obj [("n", .int 1), ("type", .str "STOP")], .arr [.str "GO"]]) _ rfl
  have hgreen := hreached String Unit Empty beacon Config.default beaconClient beaconActions _
    { memory := (), reports := [] } _ hevents rfl
  exact ⟨_, _, _, ⟨rfl, hevents, rfl⟩, ⟨rfl, hred⟩, rfl, rfl, hgreen⟩

/-- An array of four parts and an object with one part too many, and what they are written as. -/
example :
  let canonical := Json.obj [("context", .null), ("event", .obj [("n", .int 1), ("type", .str "GO")]),
    ("nextEvents", .arr [.str "STOP"]), ("value", .str "Red")]
  let read (json : Json) : Option (MachineState (Variant ["Green", "Red"]) Unit) := ofJson? json
  (read (.arr [.obj [("Red", .null)], .null, .obj [("n", .int 1), ("type", .str "GO")],
      .arr [.str "STOP"]])).map toJson = some canonical
    ∧ (read (.obj [("context", .null), ("event", .obj [("n", .int 1), ("type", .str "GO")]),
      ("nextEvents", .arr [.str "STOP"]), ("saved", .bool true), ("value", .str "Red")])).map toJson
        = some canonical
  := by decide +kernel

end MachineState

end GuardedMachine

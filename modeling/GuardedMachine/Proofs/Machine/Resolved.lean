import GuardedMachine.Machine.Basic
import Mathlib.Tactic.Use

/-!
# Resolved references

What validation establishes.  The initial value of a machine is defined (`initial_mem`), every row
that an event can select leads to a defined value (`target_mem`) and has a guard whose names are
all configured (`guard_configured`), and so are the effects of every state (`effect_configured`).
-/

namespace GuardedMachine

/-! ### Looking up keys -/

namespace Table

variable {K V : Type} [DecidableEq K] {table : Table K V} {key : K} {value : V}

/-- What is looked up is an entry. -/
theorem mem_of_get? (h : table.get? key = some value) :
  (key, value) ∈ table.entries
  := by
  obtain ⟨entries⟩ := table
  simp only [get?] at h
  induction entries with
  | nil => cases h
  | cons entry rest ih =>
    obtain ⟨k, v⟩ := entry
    simp only [find?] at h
    split at h
    · next heq =>
      obtain rfl := heq
      cases h
      apply List.mem_cons_self
    · apply List.mem_cons_of_mem _ (ih h)

theorem mem_keys_of_isSome (h : (table.get? key).isSome) :
  key ∈ table.keys
  := by
  obtain ⟨value, hvalue⟩ := Option.isSome_iff_exists.mp h
  apply List.mem_map.mpr
  exact ⟨(key, value), mem_of_get? hvalue, rfl⟩

theorem isSome_of_mem_keys (h : key ∈ table.keys) :
  (table.get? key).isSome
  := by
  obtain ⟨entries⟩ := table
  simp only [get?, keys] at h ⊢
  induction entries with
  | nil => cases h
  | cons entry rest ih =>
    obtain ⟨k, v⟩ := entry
    simp only [find?]
    split
    · rfl
    · next hne =>
      rcases List.mem_cons.mp h with rfl | hrest
      · cases hne rfl
      · apply ih hrest

/-- An entry is looked up if its key stands in the table once. -/
theorem get?_of_mem (hkeys : table.keys.Nodup) (h : (key, value) ∈ table.entries) :
  table.get? key = some value
  := by
  obtain ⟨entries⟩ := table
  simp only [get?, keys] at h hkeys ⊢
  induction entries with
  | nil => cases h
  | cons entry rest ih =>
    obtain ⟨k, v⟩ := entry
    obtain ⟨hfirst, hrest⟩ := List.nodup_cons.mp hkeys
    simp only [find?]
    rcases List.mem_cons.mp h with heq | hmem
    · cases heq
      apply if_pos rfl
    · rw [if_neg, ih hrest hmem]
      rintro rfl
      exact hfirst (List.mem_map.mpr ⟨_, hmem, rfl⟩)

/-- In a table without repeated keys the entries are what is looked up. -/
theorem get?_eq_some_iff (hkeys : table.keys.Nodup) :
  table.get? key = some value ↔ (key, value) ∈ table.entries
  := ⟨mem_of_get?, get?_of_mem hkeys⟩

end Table

/-! ### Rows -/

/-- Nothing is left out of the first occurrences of names. -/
theorem eq_nil_of_firstOccurrences {names : List String} (h : firstOccurrences names = []) :
  names = []
  := by
  cases names with
  | nil => rfl
  | cons name rest => cases h

namespace Definition

variable {S C K : Type} [DecidableEq S] [StateValue S] {definition : Definition S C}
  {config : Config K} {source : Option String} {row : String × Target S}

/-- The target of a resolved row is defined. -/
theorem target_of_resolved (h : definition.unresolvedRow config source row = []) :
  row.2.target ∈ definition.states.keys
  := by
  rw [unresolvedRow] at h
  have htarget := (List.append_eq_nil_iff.mp h).1
  split at htarget
  · next hsome => apply Table.mem_keys_of_isSome hsome
  · cases htarget

/-- The names of the guard of a resolved row are configured. -/
theorem guard_of_resolved (h : definition.unresolvedRow config source row = []) {guard : Guard}
    (hguard : row.2.guard = some guard) {name : String} (hname : name ∈ guard.names) :
  config.guard? name ≠ none
  := by
  intro hnone
  rw [unresolvedRow, hguard] at h
  have hnames := (List.append_eq_nil_iff.mp h).2
  have hnames := eq_nil_of_firstOccurrences (List.map_eq_nil_iff.mp hnames)
  have hmem : name ∈ guard.names.filter fun name => (config.guard? name).isNone := by
    apply List.mem_filter.mpr
    simp [hname, hnone]
  rw [hnames] at hmem
  cases hmem

end Definition

/-! ### Machines -/

namespace Machine

variable {S C K : Type} [DecidableEq S] [StateValue S] (machine : Machine S C K)

/-- The initial value is defined. -/
theorem initial_mem :
  machine.initialState.value ∈ machine.definition.states.keys
  := by
  have hresolved := machine.resolved
  rw [Definition.validate] at hresolved
  have hinitial := (List.append_eq_nil_iff.mp (List.append_eq_nil_iff.mp hresolved).1).1
  rw [Definition.unresolvedInitial] at hinitial
  split at hinitial
  · next hsome => apply Table.mem_keys_of_isSome hsome
  · cases hinitial

variable {machine} {value : S} {kind : String} {row : Target S}

/-- The references of a defined state are resolved. -/
theorem state_resolved {entered : StateDef S}
    (h : machine.definition.state? value = some entered) :
  machine.definition.unresolvedState machine.config (value, entered) = []
  := by
  have hresolved := machine.resolved
  rw [Definition.validate] at hresolved
  have hstates := (List.append_eq_nil_iff.mp (List.append_eq_nil_iff.mp hresolved).1).2
  apply List.flatMap_eq_nil_iff.mp hstates
  apply mem_sortBy.mpr
  apply Table.mem_of_get? h

/-- The references of a row that an event can select are resolved. -/
theorem row_resolved (h : machine.definition.transition? value kind = some row) :
  ∃ source, machine.definition.unresolvedRow machine.config source (kind, row) = []
  := by
  rw [Definition.transition?] at h
  split at h
  · next own hown =>
    obtain rfl := Option.some.inj h
    obtain ⟨entered, hentered, hrow⟩ := Option.bind_eq_some_iff.mp hown
    have hstate := state_resolved hentered
    rw [Definition.unresolvedState] at hstate
    have hrows := (List.append_eq_nil_iff.mp hstate).1
    exact ⟨_, List.flatMap_eq_nil_iff.mp hrows _ (Table.mem_of_get? hrow)⟩
  · have hresolved := machine.resolved
    rw [Definition.validate] at hresolved
    have hrows := (List.append_eq_nil_iff.mp hresolved).2
    exact ⟨_, List.flatMap_eq_nil_iff.mp hrows _ (Table.mem_of_get? h)⟩

/-- An event leads to a defined value. -/
theorem target_mem (h : machine.definition.transition? value kind = some row) :
  row.target ∈ machine.definition.states.keys
  := by
  obtain ⟨source, hrow⟩ := row_resolved h
  apply Definition.target_of_resolved hrow

/-- The names of the guard of an event are configured. -/
theorem guard_configured (h : machine.definition.transition? value kind = some row)
    {guard : Guard} (hguard : row.guard = some guard) {name : String}
    (hname : name ∈ guard.names) :
  machine.config.guard? name ≠ none
  := by
  obtain ⟨source, hrow⟩ := row_resolved h
  apply Definition.guard_of_resolved hrow hguard hname

/-- The effects of a state are configured. -/
theorem effect_configured {entered : StateDef S}
    (h : machine.definition.state? value = some entered) {name : String}
    (hname : name ∈ entered.effects) :
  machine.config.effect? name ≠ none
  := by
  intro hnone
  have hstate := state_resolved h
  rw [Definition.unresolvedState] at hstate
  have heffects := List.map_eq_nil_iff.mp (List.append_eq_nil_iff.mp hstate).2
  have hmem : name ∈ entered.effects.filter fun name =>
      (machine.config.effect? name).isNone := by
    apply List.mem_filter.mpr
    simp [hname, hnone]
  rw [heffects] at hmem
  cases hmem

end Machine

end GuardedMachine

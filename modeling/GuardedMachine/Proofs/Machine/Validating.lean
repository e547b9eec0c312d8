import GuardedMachine.Proofs.Machine.References

/-!
# Validation is exact

A definition whose states have different names is a machine exactly when everything it refers to is
there.  Otherwise the errors are what is missing, in the order of the places, and the order in which
the states were defined does not count (`build_exact`).
-/

namespace GuardedMachine

namespace Definition

variable {S C K : Type} [DecidableEq S] [StateValue S] {definition other : Definition S C}
  {config : Config K}

open Reference (Precedes precedes_of_part)

/-! ### All errors -/

/-- The states in the order of their names. -/
theorem states_enumerates (h : (definition.states.keys.map StateValue.name).Nodup) :
  Enumerates (fun a b => StateValue.name a < StateValue.name b)
    (fun value state => state.1 = value ∧ definition.state? value = some state.2)
    (sortBy (fun state => StateValue.name state.1) definition.states.entries)
  := by
  have hkeys : definition.states.keys.Nodup := h.of_map _
  have hnames : (definition.states.entries.map fun state => StateValue.name state.1).Nodup := by
    rwa [Table.keys, List.map_map] at h
  refine ⟨(sortBy (fun state => StateValue.name state.1) definition.states.entries).map
    fun state => (state.1, state), ?_, ?_, ?_⟩
  · rw [List.pairwise_map]
    exact pairwise_lt_sortBy hnames
  · rintro value ⟨key, entered⟩
    beta_reduce
    rw [state?, Table.get?_eq_some_iff hkeys]
    simp only [List.mem_map, mem_sortBy, Prod.mk.injEq, Prod.exists]
    constructor
    · rintro ⟨_, _, hmem, rfl, rfl, rfl⟩
      exact ⟨rfl, hmem⟩
    · rintro ⟨rfl, hmem⟩
      exact ⟨_, _, hmem, rfl, rfl, rfl⟩
  · rw [List.map_map]
    apply List.map_id

/-- What is missing is missed at the head, in a state or in the root rows. -/
theorem misses_iff {reference : Reference S} {error : Unresolved} :
  definition.Misses config reference error
    ↔ ((reference = .initial
          ∧ error = .initialState (StateValue.name definition.initial)
          ∧ definition.state? definition.initial = none)
        ∨ ∃ (value : S) (state : S × StateDef S),
            (state.1 = value ∧ definition.state? value = some state.2)
              ∧ definition.StateMisses config state.1 state.2 reference error)
      ∨ ∃ (row : Nat) (item : String × Target S), definition.on.entries[row]? = some item
          ∧ definition.RowMisses config none row item.1 item.2 reference error
  := by
  constructor
  · rintro (hmissing | @⟨source, row, kind, target, _, _, hrow, hmissing⟩
      | @⟨state, entered, index, name, hstate, heffect, hmissing⟩)
    · exact .inl (.inl ⟨rfl, rfl, hmissing⟩)
    · cases source with
      | none => exact .inr ⟨row, (kind, target), hrow, hmissing⟩
      | some state =>
        cases hstate : definition.state? state with
        | none => simp [rowsAt, hstate] at hrow
        | some entered =>
          rw [rowsAt, hstate] at hrow
          exact .inl (.inr ⟨state, (state, entered), ⟨rfl, hstate⟩,
            .inl ⟨row, (kind, target), hrow, hmissing⟩⟩)
    · exact .inl (.inr ⟨state, (state, entered), ⟨rfl, hstate⟩,
        .inr ⟨index, name, ⟨heffect, by simp [hmissing]⟩, rfl, rfl⟩⟩)
  · rintro ((⟨rfl, rfl, hmissing⟩ | ⟨_, ⟨state, entered⟩, ⟨rfl, hstate⟩, hmissing⟩)
      | ⟨row, ⟨kind, target⟩, hrow, hmissing⟩)
    · exact .initial hmissing
    · rcases hmissing with ⟨row, ⟨kind, target⟩, hrow, hmissing⟩
        | ⟨index, name, ⟨heffect, hmissing⟩, rfl, rfl⟩
      · have hrow : (definition.rowsAt (some state))[row]? = some (kind, target) := by
          rw [rowsAt, hstate]
          exact hrow
        exact .row hrow hmissing
      · exact .effect hstate heffect (Option.isNone_iff_eq_none.mp hmissing)
    · have hrow : (definition.rowsAt none)[row]? = some (kind, target) := hrow
      exact .row hrow hmissing

/-- Validation lists what is missing in the order of the places. -/
theorem validate_enumerates (h : (definition.states.keys.map StateValue.name).Nodup) :
  Enumerates Precedes (definition.Misses config) (definition.validate config)
  := by
  have hinitial : Enumerates (@Precedes S _)
      (fun reference error => reference = .initial
        ∧ error = .initialState (StateValue.name definition.initial)
        ∧ definition.state? definition.initial = none)
      definition.unresolvedInitial := by
    rw [unresolvedInitial]
    cases hdefined : definition.state? definition.initial with
    | none =>
      apply (Enumerates.singleton Reference.initial _).congr
      simp
    | some entered =>
      apply Enumerates.of_none
      simp
  have hstates : Enumerates (@Precedes S _)
      (fun reference error => ∃ (value : S) (state : S × StateDef S),
        (state.1 = value ∧ definition.state? value = some state.2)
          ∧ definition.StateMisses config state.1 state.2 reference error)
      ((sortBy (fun state => StateValue.name state.1) definition.states.entries).flatMap
        (definition.unresolvedState config)) := by
    apply (states_enumerates h).flatMap
    · intro _ state _
      apply unresolvedState_enumerates
    · rintro _ _ hab ⟨state, _⟩ ⟨state', _⟩ a b r s ⟨rfl, -⟩ ⟨rfl, -⟩ ha hb
      apply precedes_of_part
      rw [ha.part_eq, hb.part_eq]
      exact .right _ hab
  have hroot := definition.unresolvedRows_enumerates config none definition.on
  apply ((hinitial.append hstates _).append hroot _).congr
  · intro reference error
    exact misses_iff.symm
  · rintro _ b _ _ ⟨rfl, -, -⟩ ⟨_, state, -, hb⟩
    apply precedes_of_part
    rw [hb.part_eq]
    exact .left _ _ Nat.zero_lt_one
  · rintro a b _ _ ha ⟨_, _, -, hb⟩
    apply precedes_of_part
    rw [hb.part_eq]
    rcases ha with ⟨rfl, -, -⟩ | ⟨_, state, -, ha⟩
    · exact .left _ _ Nat.two_pos
    · rw [ha.part_eq]
      exact .left _ _ Nat.one_lt_two

/-! ### No errors -/

/-- Nothing is missing if everything that is referred to is there. -/
theorem resolves_iff :
  definition.Resolves config ↔ ∀ reference error, ¬ definition.Misses config reference error
  := by
  constructor
  · rintro h _ _ (hmissing | @⟨source, row, kind, target, _, _, hrow, hmissing⟩
      | ⟨hstate, heffect, hmissing⟩)
    · simpa [hmissing] using h.initial
    · have hmem := List.mem_of_getElem? hrow
      cases hmissing with
      | target hmissing => simpa [hmissing] using h.target source kind target hmem
      | guard hguard hleaf hmissing _ =>
        simpa [hmissing] using h.guard source kind target _ _ _ hmem hguard hleaf
    · simpa [hmissing] using h.effect _ _ _ hstate (List.mem_of_getElem? heffect)
  · intro h
    constructor
    · by_contra hnone
      exact h _ _ (.initial (Option.not_isSome_iff_eq_none.mp hnone))
    · intro source kind target hmem
      by_contra hnone
      obtain ⟨row, hrow⟩ := List.getElem?_of_mem hmem
      exact h _ _ (.row hrow (.target (Option.not_isSome_iff_eq_none.mp hnone)))
    · intro source kind target guard place name hmem hguard hleaf
      by_contra hnone
      obtain ⟨row, hrow⟩ := List.getElem?_of_mem hmem
      obtain ⟨first, ⟨guard', hguard', hfirst⟩, hearlier⟩ :=
        target.names_enumerates.exists_first ⟨guard, hguard, hleaf⟩
      apply h _ _ (.row hrow (.guard hguard' hfirst (Option.not_isSome_iff_eq_none.mp hnone) _))
      intro other hother
      exact hearlier other ⟨guard', hguard', hother⟩
    · intro state entered name hstate hmem
      by_contra hnone
      obtain ⟨index, heffect⟩ := List.getElem?_of_mem hmem
      exact h _ _ (.effect hstate heffect (Option.not_isSome_iff_eq_none.mp hnone))

/-! ### The order of the states -/

/-- What is missing depends on the initial state, the definitions of the states and the root rows. -/
theorem Misses.of_alike (hinitial : other.initial = definition.initial)
    (hstate : other.state? = definition.state?) (hon : other.on = definition.on)
    {reference : Reference S} {error : Unresolved} (h : other.Misses config reference error) :
  definition.Misses config reference error
  := by
  have hrows : other.rowsAt = definition.rowsAt := by
    funext source
    cases source with
    | none => simp [rowsAt, hon]
    | some state => simp [rowsAt, hstate]
  cases h with
  | initial hmissing =>
    rw [hinitial] at hmissing ⊢
    rw [hstate] at hmissing
    exact .initial hmissing
  | row hrow hmissing =>
    rw [hrows] at hrow
    apply Misses.row hrow
    cases hmissing with
    | target hmissing =>
      rw [hstate] at hmissing
      exact .target hmissing
    | guard hguard hleaf hmissing hfirst => exact .guard hguard hleaf hmissing hfirst
  | effect hentered heffect hmissing =>
    rw [hstate] at hentered
    exact .effect hentered heffect hmissing

/-- Validation does not look at the order in which the states stand in the table. -/
theorem validate_of_perm (h : (definition.states.keys.map StateValue.name).Nodup)
    (hinitial : other.initial = definition.initial) (hon : other.on = definition.on)
    (hperm : other.states.entries.Perm definition.states.entries) :
  other.validate config = definition.validate config
  := by
  have hkeys : other.states.keys.Perm definition.states.keys := hperm.map _
  have h' : (other.states.keys.map StateValue.name).Nodup := (hkeys.map _).nodup_iff.mpr h
  have hstate : other.state? = definition.state? := by
    funext value
    apply Option.ext
    intro entered
    rw [state?, state?, Table.get?_eq_some_iff (h'.of_map _), Table.get?_eq_some_iff (h.of_map _),
      hperm.mem_iff]
  apply ((validate_enumerates h').congr _).unique (validate_enumerates h)
  intro reference error
  constructor
  · exact Misses.of_alike hinitial hstate hon
  · exact Misses.of_alike hinitial.symm hstate.symm hon.symm

end Definition

namespace Machine

variable {S C K : Type} [DecidableEq S] [StateValue S]

/-- A definition without errors is a machine. -/
theorem build_eq_ok_iff {definition : Definition S C} {config : Config K} :
  (∃ machine, build definition config = .ok machine) ↔ definition.validate config = []
  := by
  rw [build]
  split
  · next h => simp [h]
  · next h => simp [h]

/-- A definition with errors is rejected with all of them. -/
theorem build_eq_error_iff {definition : Definition S C} {config : Config K}
    {errors : List Unresolved} :
  build definition config = .error errors ↔ definition.validate config = errors ∧ errors ≠ []
  := by
  rw [build]
  split
  · next h =>
    simp only [h, reduceCtorEq, false_iff, not_and, not_not]
    exact Eq.symm
  · next h =>
    simp only [h, Except.error.injEq]
    constructor
    · rintro rfl
      simp
    · exact And.left

/-- Validation reports exactly what is not resolved.  A definition whose states have different names
is a machine if and only if everything it refers to is there.  If it is not, the errors are what is
missing: at the head, then in the states in the order of their names, then in the root rows; row by
row, the target before the guards and each guard name at its first leaf, and the rows of a state
before its effects.  The errors are the same for every order of the states. -/
theorem build_exact (definition : Definition S C) (config : Config K)
    (hnames : (definition.states.keys.map StateValue.name).Nodup) :
  ((∃ machine, build definition config = .ok machine) ↔ definition.Resolves config)
    ∧ (¬ definition.Resolves config → ∃ errors, build definition config = .error errors
        ∧ Enumerates Reference.Precedes (definition.Misses config) errors)
    ∧ ∀ other : Definition S C, other.initial = definition.initial →
        other.on = definition.on → other.states.entries.Perm definition.states.entries →
        ∀ errors, build other config = .error errors ↔ build definition config = .error errors
  := by
  have henumerates : Enumerates Reference.Precedes (definition.Misses config)
      (definition.validate config) := Definition.validate_enumerates hnames
  have hnil : definition.validate config = [] ↔ definition.Resolves config := by
    rw [henumerates.eq_nil_iff, Definition.resolves_iff]
  refine ⟨?_, ?_, ?_⟩
  · rw [build_eq_ok_iff, hnil]
  · intro hmissing
    exact ⟨definition.validate config,
      build_eq_error_iff.mpr ⟨rfl, mt hnil.mp hmissing⟩, henumerates⟩
  · intro other hinitial hon hperm errors
    rw [build_eq_error_iff, build_eq_error_iff,
      Definition.validate_of_perm hnames hinitial hon hperm]

end Machine

/-! ### Example -/

/-- A ship at sea without a harbour: no state has the initial value, the row at sea leads nowhere
and asks for guards that nobody configured, one of them twice. -/
def voyage : Definition String Unit where
  initial := "harbour"
  states := Table.ofList
    [("sea", { on := Table.ofList [("LAND", .guarded "island" (some (.and [.leaf "calm",
        .not (.leaf "storm"), .leaf "calm"])))], effects := ["sail", "watch"] }),
      ("bay", { on := Table.empty, effects := ["anchor"] })]
  on := Table.ofList [("ABORT", .to "harbour")]
  context := ()

/-- Everything that is missing on the voyage is reported, the bay before the sea. -/
theorem voyage_exact :
  (voyage.states.keys.map StateValue.name).Nodup
    ∧ ∃ errors, Machine.build voyage (Config.default : Config Unit) = .error errors
        ∧ Enumerates Reference.Precedes (voyage.Misses (Config.default : Config Unit)) errors
        ∧ errors = [.initialState "harbour", .effect "anchor" "bay",
            .target (some "sea") "LAND" "island", .guard "calm" (some "sea") "LAND",
            .guard "storm" (some "sea") "LAND", .effect "sail" "sea", .effect "watch" "sea",
            .target none "ABORT" "harbour"]
  := by
  have hnames : (voyage.states.keys.map StateValue.name).Nodup := by decide
  have hmissing : ¬ voyage.Resolves (Config.default : Config Unit) := by
    intro h
    cases h.initial
  obtain ⟨errors, hbuild, henumerates⟩ :=
    (Machine.build_exact voyage Config.default hnames).2.1 hmissing
  refine ⟨hnames, errors, hbuild, henumerates, ?_⟩
  rw [← (Machine.build_eq_error_iff.mp hbuild).1]
  decide

end GuardedMachine

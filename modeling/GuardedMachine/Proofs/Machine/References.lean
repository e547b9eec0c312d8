import GuardedMachine.Machine.Basic
import GuardedMachine.Proofs.Enumeration
import GuardedMachine.Proofs.Guard.Leaves
import GuardedMachine.Proofs.Machine.Resolved
import Mathlib.Data.Prod.Lex

/-!
# References

A definition refers to states, guards and effects at certain places (`Reference`), and the places
are ordered as one reads the definition with its states in the order of their names
(`Reference.Precedes`).  `Definition.Misses` tells what is not resolved, place by place, and
`Definition.Resolves` that everything is.  Validation lists what is missing in the order of the
places (`validate_enumerates`).
-/

namespace GuardedMachine

/-! ### Places -/

/-- A place where a definition refers to something by value or by name.  The source of a row is the
state it belongs to, or nothing for a root row. -/
inductive Reference (S : Type) where
  | initial
  | target (source : Option S) (row : Nat)
  | guard (source : Option S) (row : Nat) (place : List Nat)
  | effect (state : S) (index : Nat)

namespace Reference

variable {S : Type} [StateValue S]

/-- The part of a definition that belongs to a source: the states come in the order of their names,
before the root rows. -/
def partOf : Option S → Nat × String
  | some state => (1, StateValue.name state)
  | none => (2, "")

/-- The part of a definition that a reference stands in.  The initial state comes first. -/
def part : Reference S → Nat × String
  | .initial => (0, "")
  | .target source _ => partOf source
  | .guard source _ _ => partOf source
  | .effect state _ => partOf (some state)

/-- Where in its part a reference stands: rows come before effects, and the target of a row comes
before the leaves of its guard. -/
def within : Reference S → List Nat
  | .initial => []
  | .target _ row => [0, row]
  | .guard _ row place => 0 :: row :: 0 :: place
  | .effect _ index => [1, index]

/-- The order of the references: part by part, and within a part from front to back. -/
def Precedes (a b : Reference S) : Prop :=
  Prod.Lex (Prod.Lex (· < ·) (· < ·)) (· < ·) (a.part, a.within) (b.part, b.within)

theorem precedes_of_part {a b : Reference S} (h : Prod.Lex (· < ·) (· < ·) a.part b.part) :
  a.Precedes b
  := .left _ _ h

theorem precedes_of_within {a b : Reference S} (hpart : a.part = b.part)
    (h : a.within < b.within) :
  a.Precedes b
  := by
  rw [Precedes, hpart]
  exact .right _ h

/-- No two references precede each other. -/
instance : Std.Asymm (@Precedes S _) where
  asymm a b := Std.Asymm.asymm (a.part, a.within) (b.part, b.within)

end Reference

/-- The names in the guard of a row are those of its leaves. -/
theorem Target.names_enumerates {S : Type} (target : Target S) :
  Enumerates (· < ·)
    (fun place name => ∃ guard, target.guard = some guard ∧ guard.node? place = some (.leaf name))
    (match target.guard with
      | some guard => guard.names
      | none => [])
  := by
  cases hguard : target.guard with
  | none =>
    apply Enumerates.of_none
    simp
  | some guard =>
    refine ⟨guard.leaves, guard.pairwise_leaves, ?_, guard.map_snd_leaves⟩
    intro place name
    simp [Guard.mem_leaves]

/-! ### What is missing -/

namespace Definition

variable {S C K : Type} [DecidableEq S] [StateValue S]

/-- The rows of a source. -/
def rowsAt (definition : Definition S C) : Option S → List (String × Target S)
  | some state =>
    match definition.state? state with
    | some entered => entered.on.entries
    | none => []
  | none => definition.on.entries

/-- What is not resolved in a row: the target, and each name in the guard that is not configured, at
the first leaf with this name. -/
inductive RowMisses (definition : Definition S C) (config : Config K) (source : Option S)
    (row : Nat) (kind : String) (target : Target S) : Reference S → Unresolved → Prop where
  | target (hmissing : definition.state? target.target = none) :
    RowMisses definition config source row kind target (.target source row)
      (.target (source.map StateValue.name) kind (StateValue.name target.target))
  | guard {guard : Guard} {place : List Nat} {name : String} (hguard : target.guard = some guard)
      (hleaf : guard.node? place = some (.leaf name)) (hmissing : config.guard? name = none)
      (hfirst : ∀ other, guard.node? other = some (.leaf name) → ¬ other < place) :
    RowMisses definition config source row kind target (.guard source row place)
      (.guard name (source.map StateValue.name) kind)

/-- What is not resolved in a definition, and where. -/
inductive Misses (definition : Definition S C) (config : Config K) :
    Reference S → Unresolved → Prop where
  | initial (hmissing : definition.state? definition.initial = none) :
    Misses definition config .initial (.initialState (StateValue.name definition.initial))
  | row {source : Option S} {row : Nat} {kind : String} {target : Target S}
      {reference : Reference S} {error : Unresolved}
      (hrow : (definition.rowsAt source)[row]? = some (kind, target))
      (hmissing : definition.RowMisses config source row kind target reference error) :
    Misses definition config reference error
  | effect {state : S} {entered : StateDef S} {index : Nat} {name : String}
      (hstate : definition.state? state = some entered)
      (heffect : entered.effects[index]? = some name) (hmissing : config.effect? name = none) :
    Misses definition config (.effect state index) (.effect name (StateValue.name state))

/-- Everything that a definition refers to is there: the initial state, the targets of all rows, the
guards named anywhere in the guard of a row, and the effects. -/
structure Resolves (definition : Definition S C) (config : Config K) : Prop where
  initial : (definition.state? definition.initial).isSome
  target : ∀ source kind target, (kind, target) ∈ definition.rowsAt source →
    (definition.state? target.target).isSome
  guard : ∀ source kind target guard place name, (kind, target) ∈ definition.rowsAt source →
    target.guard = some guard → guard.node? place = some (.leaf name) →
    (config.guard? name).isSome
  effect : ∀ state entered name, definition.state? state = some entered →
    name ∈ entered.effects → (config.effect? name).isSome

variable {definition : Definition S C} {config : Config K}

/-! ### Rows -/

open Reference (Precedes partOf precedes_of_part precedes_of_within)

variable {source : Option S} {row : Nat} {kind : String} {target : Target S}
  {reference : Reference S} {error : Unresolved}

/-- What a row misses stands in the part of its source. -/
theorem RowMisses.part_eq (h : definition.RowMisses config source row kind target reference error) :
  reference.part = partOf source
  := by cases h <;> rfl

/-- What a row misses stands in the row. -/
theorem RowMisses.within_eq
    (h : definition.RowMisses config source row kind target reference error) :
  ∃ place, reference.within = 0 :: row :: place
  := by cases h <;> exact ⟨_, rfl⟩

variable (definition config)

/-- The target of a row is listed if it is not defined. -/
theorem unresolvedTarget_enumerates (source : Option S) (row : Nat) (kind : String)
    (target : Target S) :
  Enumerates (@Precedes S _)
    (fun (reference : Reference S) (error : Unresolved) =>
      definition.state? target.target = none
      ∧ reference = .target source row
      ∧ error = .target (source.map StateValue.name) kind (StateValue.name target.target))
    (if (definition.state? target.target).isSome then []
      else [Unresolved.target (source.map StateValue.name) kind (StateValue.name target.target)])
  := by
  cases h : definition.state? target.target with
  | none =>
    apply (Enumerates.singleton (.target source row) _).congr
    simp
  | some entered =>
    apply Enumerates.of_none
    simp

omit [DecidableEq S] in
/-- The guards of a row are listed if they are not configured, each name once. -/
theorem unresolvedGuards_enumerates (source : Option S) (row : Nat) (kind : String)
    (target : Target S) :
  Enumerates (@Precedes S _)
    (fun (reference : Reference S) (error : Unresolved) => ∃ guard place name,
      target.guard = some guard ∧ guard.node? place = some (.leaf name)
      ∧ config.guard? name = none
      ∧ (∀ other, guard.node? other = some (.leaf name) → ¬ other < place)
      ∧ reference = .guard source row place
      ∧ error = .guard name (source.map StateValue.name) kind)
    ((firstOccurrences ((match target.guard with
      | some guard => guard.names
      | none => []).filter fun name => (config.guard? name).isNone)).map fun name =>
        Unresolved.guard name (source.map StateValue.name) kind)
  := by
  have hmissing := target.names_enumerates.filter fun name => (config.guard? name).isNone
  have horder (a b : List Nat) (hab : a < b) :
      (Reference.guard source row a).Precedes (.guard source row b) := by
    refine precedes_of_within rfl ?_
    simpa [Reference.within, List.cons_lt_cons_iff] using hab
  apply (hmissing.firsts.map (Reference.guard source row) _ horder).congr
  intro reference error
  constructor
  · rintro ⟨place, name, ⟨⟨⟨guard, hguard, hleaf⟩, hnone⟩, hfirst⟩, rfl, rfl⟩
    refine ⟨guard, place, name, hguard, hleaf, Option.isNone_iff_eq_none.mp hnone, ?_, rfl, rfl⟩
    intro other hother
    exact hfirst other ⟨⟨guard, hguard, hother⟩, hnone⟩
  · rintro ⟨guard, place, name, hguard, hleaf, hnone, hfirst, rfl, rfl⟩
    refine ⟨place, name, ⟨⟨⟨guard, hguard, hleaf⟩, by simp [hnone]⟩, ?_⟩, rfl, rfl⟩
    rintro other ⟨⟨guard', hguard', hother⟩, -⟩
    obtain rfl := Option.some.inj (hguard.symm.trans hguard')
    exact hfirst other hother

/-- What a row misses is listed, the target before the guards. -/
theorem unresolvedRow_enumerates (source : Option S) (row : Nat) (item : String × Target S) :
  Enumerates Precedes (definition.RowMisses config source row item.1 item.2)
    (definition.unresolvedRow config (source.map StateValue.name) item)
  := by
  obtain ⟨kind, target⟩ := item
  apply ((definition.unresolvedTarget_enumerates source row kind target).append
    (unresolvedGuards_enumerates config source row kind target) _).congr
  · intro reference error
    constructor
    · rintro (⟨hmissing, rfl, rfl⟩
        | ⟨guard, place, name, hguard, hleaf, hmissing, hfirst, rfl, rfl⟩)
      · exact .target hmissing
      · exact .guard hguard hleaf hmissing hfirst
    · rintro (hmissing | ⟨hguard, hleaf, hmissing, hfirst⟩)
      · exact .inl ⟨hmissing, rfl, rfl⟩
      · exact .inr ⟨_, _, _, hguard, hleaf, hmissing, hfirst, rfl, rfl⟩
  · rintro _ _ _ _ ⟨-, rfl, -⟩ ⟨_, _, _, -, -, -, -, rfl, -⟩
    refine precedes_of_within rfl ?_
    simp [Reference.within]

/-- What the rows of a source miss is listed row by row. -/
theorem unresolvedRows_enumerates (source : Option S) (rows : Transitions S) :
  Enumerates Precedes
    (fun reference error => ∃ (row : Nat) (item : String × Target S),
      rows.entries[row]? = some item
        ∧ definition.RowMisses config source row item.1 item.2 reference error)
    (definition.unresolvedRows config (source.map StateValue.name) rows)
  := by
  apply (enumerates_getElem? rows.entries).flatMap
  · intro row item _
    apply unresolvedRow_enumerates
  · intro i j hij _ _ a b r s _ _ ha hb
    obtain ⟨place, hplace⟩ := ha.within_eq
    obtain ⟨place', hplace'⟩ := hb.within_eq
    apply precedes_of_within
    · rw [ha.part_eq, hb.part_eq]
    · rw [hplace, hplace']
      simp [List.cons_lt_cons_iff, hij]

/-! ### States -/

omit [DecidableEq S] in
/-- The effects of a state are listed if they are not configured. -/
theorem unresolvedEffects_enumerates (state : S) (effects : List String) :
  Enumerates Precedes
    (fun (reference : Reference S) (error : Unresolved) => ∃ (index : Nat) (name : String),
      (effects[index]? = some name ∧ (config.effect? name).isNone)
      ∧ reference = .effect state index ∧ error = .effect name (StateValue.name state))
    ((effects.filter fun name => (config.effect? name).isNone).map fun name =>
      Unresolved.effect name (StateValue.name state))
  := by
  apply ((enumerates_getElem? effects).filter _).map
  intro i j hij
  refine precedes_of_within rfl ?_
  simp [Reference.within, List.cons_lt_cons_iff, hij]

/-- What is not resolved in a state with the given definition. -/
def StateMisses (state : S) (entered : StateDef S) (reference : Reference S)
    (error : Unresolved) : Prop :=
  (∃ (row : Nat) (item : String × Target S), entered.on.entries[row]? = some item
    ∧ definition.RowMisses config (some state) row item.1 item.2 reference error)
  ∨ ∃ (index : Nat) (name : String), (entered.effects[index]? = some name
      ∧ (config.effect? name).isNone) ∧ reference = .effect state index
      ∧ error = .effect name (StateValue.name state)

/-- What a state misses is listed, its rows before its effects. -/
theorem unresolvedState_enumerates (state : S × StateDef S) :
  Enumerates Precedes (definition.StateMisses config state.1 state.2)
    (definition.unresolvedState config state)
  := by
  apply (definition.unresolvedRows_enumerates config (some state.1) state.2.on).append
    (unresolvedEffects_enumerates config state.1 state.2.effects)
  rintro _ _ r s ⟨row, item, -, ha⟩ ⟨index, name, -, rfl, -⟩
  obtain ⟨place, hplace⟩ := ha.within_eq
  apply precedes_of_within ha.part_eq
  rw [hplace]
  simp [Reference.within, List.cons_lt_cons_iff]

variable {definition config}

/-- What a state misses stands in the part of the state. -/
theorem StateMisses.part_eq {state : S} {entered : StateDef S}
    (h : definition.StateMisses config state entered reference error) :
  reference.part = partOf (some state)
  := by
  rcases h with ⟨_, _, -, h⟩ | ⟨_, _, -, rfl, -⟩
  · exact h.part_eq
  · rfl

end Definition

end GuardedMachine

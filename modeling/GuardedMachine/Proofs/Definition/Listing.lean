import GuardedMachine.Definition.Builder
import GuardedMachine.Machine.Validation
import Mathlib.Data.List.Induction

/-!
# The events of built definitions

A definition that is built from clauses lists the kinds of events of a value in the order of their
first occurrence: first those of the rows of the last clause that defines the value, then those of
the root rows (`nextEvents_build`).  A row that is written again changes its target and keeps its
place, and it does not matter where among the clauses the root rows stand.
-/

namespace GuardedMachine

/-! ### First occurrences -/

theorem nodup_firstOccurrences (names : List String) :
  (firstOccurrences names).Nodup
  := by
  induction names with
  | nil => apply List.nodup_nil
  | cons first rest ih =>
    rw [firstOccurrences, List.nodup_cons]
    constructor
    · simp
    · apply ih.filter

/-- What occurs first in a list followed by another is what occurs first in the list, and then what
occurs first in the other and does not occur in the list. -/
theorem firstOccurrences_append (names others : List String) :
  firstOccurrences (names ++ others)
    = firstOccurrences names
      ++ (firstOccurrences others).filter fun other => !(firstOccurrences names).contains other
  := by
  induction names with
  | nil => exact (List.filter_eq_self.mpr fun _ _ => rfl).symm
  | cons first rest ih =>
    rw [List.cons_append, firstOccurrences, ih, firstOccurrences, List.filter_append,
      List.filter_filter, List.cons_append]
    congr 2
    apply List.filter_congr
    intro other _
    by_cases h : other = first
    · simp [h]
    · simp [h]

/-- One more name occurs first if it does not occur before. -/
theorem firstOccurrences_concat (names : List String) (name : String) :
  firstOccurrences (names ++ [name])
    = if name ∈ firstOccurrences names then firstOccurrences names
      else firstOccurrences names ++ [name]
  := by
  rw [firstOccurrences_append]
  by_cases h : name ∈ firstOccurrences names
  · simp [h, firstOccurrences]
  · simp [h, firstOccurrences]

/-! ### Rows -/

variable {S C : Type}

/-- The kind of event of a row that is a transition. -/
def StateRow.kind? : StateRow S → Option String
  | .on kind _ => some kind
  | .effects _ => none

/-- The kind of event of a clause that adds a root row. -/
def Clause.rootKind? : Clause S C → Option String
  | .on kind _ => some kind
  | _ => none

/-- The keys of a table that lists the first occurrences of some kinds, with one more row. -/
theorem Table.keys_put_of_firstOccurrences {rows : Transitions S} {kinds : List String}
    (h : rows.keys = firstOccurrences kinds) (kind : String) (target : Target S) :
  (rows.put kind target).keys = firstOccurrences (kinds ++ [kind])
  := by rw [keys_put, h, firstOccurrences_concat]

theorem StateDef.ofRows_concat (rows : List (StateRow S)) (row : StateRow S) :
  ofRows (rows ++ [row]) = (ofRows rows).add row
  := by
  rw [ofRows, List.foldl_append]
  rfl

/-- The rows of a state are those of its transitions, in the order of their first occurrence. -/
theorem StateDef.keys_ofRows (rows : List (StateRow S)) :
  (StateDef.ofRows rows).on.keys = firstOccurrences (rows.filterMap StateRow.kind?)
  := by
  induction rows using List.reverseRecOn with
  | nil => rfl
  | append_singleton rows row ih =>
    rw [ofRows_concat, List.filterMap_append]
    cases row with
    | on kind target => apply Table.keys_put_of_firstOccurrences ih
    | effects names =>
      rw [List.filterMap_cons_none rfl, List.filterMap_nil, List.append_nil]
      apply ih

/-! ### Clauses -/

/-- The rows of a clause that defines a value. -/
def Clause.rowsOf? [DecidableEq S] (value : S) : Clause S C → Option (List (StateRow S))
  | .state other rows => if other = value then some rows else none
  | _ => none

variable [DecidableEq S]

/-- The rows of the last clause that defines a value, or none if it is not defined. -/
def lastRows (clauses : List (Clause S C)) (value : S) : List (StateRow S) :=
  ((clauses.filterMap (Clause.rowsOf? value)).getLast?).getD []

/-- The kinds of the rows that count at a value, with repetitions: those of the last clause that
defines the value and those of the root rows. -/
def writtenKinds (clauses : List (Clause S C)) (value : S) : List String :=
  (lastRows clauses value).filterMap StateRow.kind? ++ clauses.filterMap Clause.rootKind?

namespace Definition

variable (initial : S) (context : C) (clauses : List (Clause S C))

theorem build_concat (clause : Clause S C) :
  build initial context (clauses ++ [clause]) = (build initial context clauses).add clause
  := by
  rw [build, List.foldl_append]
  rfl

/-- A value is defined by the last clause that defines it. -/
theorem state?_build (value : S) :
  (build initial context clauses).state? value
    = ((clauses.filterMap (Clause.rowsOf? value)).getLast?).map StateDef.ofRows
  := by
  induction clauses using List.reverseRecOn with
  | nil => rfl
  | append_singleton clauses clause ih =>
    rw [build_concat, List.filterMap_append]
    cases clause with
    | state other rows =>
      by_cases h : other = value
      · have hrows : Clause.rowsOf? value (.state other rows : Clause S C) = some rows := if_pos h
        rw [List.filterMap_cons_some hrows, List.filterMap_nil, List.getLast?_concat,
          ← h]
        apply Table.get?_put_self
      · have hrows : Clause.rowsOf? value (.state other rows : Clause S C) = none := if_neg h
        rw [List.filterMap_cons_none hrows, List.filterMap_nil, List.append_nil, ← ih]
        apply Table.get?_put_of_ne _ h
    | on kind target =>
      rw [List.filterMap_cons_none rfl, List.filterMap_nil, List.append_nil, ← ih]
      rfl
    | context context =>
      rw [List.filterMap_cons_none rfl, List.filterMap_nil, List.append_nil, ← ih]
      rfl

/-- The root rows are listed in the order of their first occurrence. -/
theorem keys_on_build :
  (build initial context clauses).on.keys = firstOccurrences (clauses.filterMap Clause.rootKind?)
  := by
  induction clauses using List.reverseRecOn with
  | nil => rfl
  | append_singleton clauses clause ih =>
    rw [build_concat, List.filterMap_append]
    cases clause with
    | on kind target => apply Table.keys_put_of_firstOccurrences ih
    | state value rows =>
      rw [List.filterMap_cons_none rfl, List.filterMap_nil, List.append_nil]
      apply ih
    | context context =>
      rw [List.filterMap_cons_none rfl, List.filterMap_nil, List.append_nil]
      apply ih

/-- A built definition lists the kinds of the rows that count at a value in the order of their first
occurrence. -/
theorem nextEvents_build (value : S) :
  (build initial context clauses).nextEvents value
    = firstOccurrences (writtenKinds clauses value)
  := by
  rw [nextEvents, state?_build, keys_on_build, writtenKinds, firstOccurrences_append, lastRows]
  cases (clauses.filterMap (Clause.rowsOf? value)).getLast? with
  | none => rfl
  | some rows =>
    simp only [Option.map_some, Option.getD_some]
    rw [StateDef.keys_ofRows]

end Definition

end GuardedMachine

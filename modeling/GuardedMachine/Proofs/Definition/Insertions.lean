import GuardedMachine.Proofs.Definition.Listing
import GuardedMachine.Proofs.Machine.Resolved
import Mathlib.Data.Finset.Card

/-!
# Rows put one after the other

A table is made by putting entries into the empty one, one after the other.  It remembers of every
key the place of the first entry and the value of the last one: `Table.get?_ofList` reads the values
and `Table.keys_ofList` the places, and `Table.put_at` shows that putting a key that is there touches
one entry and no place.  `Transitions.insertion_ordered` puts this together for the rows of a state.
-/

namespace GuardedMachine

namespace Table

variable {K V : Type} [DecidableEq K]

/-- The last value that is given for a key. -/
def lastValue? (key : K) (entries : List (K × V)) : Option V :=
  ((entries.filter fun entry => entry.1 = key).getLast?).map Prod.snd

theorem lastValue?_concat_self (entries : List (K × V)) (key : K) (value : V) :
  lastValue? key (entries ++ [(key, value)]) = some value
  := by simp [lastValue?]

theorem lastValue?_concat_of_ne (entries : List (K × V)) {key other : K} (h : other ≠ key)
    (value : V) :
  lastValue? key (entries ++ [(other, value)]) = lastValue? key entries
  := by simp [lastValue?, h]

theorem ofList_concat (entries : List (K × V)) (entry : K × V) :
  ofList (entries ++ [entry]) = (ofList entries).put entry.1 entry.2
  := by
  rw [ofList, List.foldl_append]
  rfl

/-- The value of a key is the last one that was put. -/
theorem get?_ofList (entries : List (K × V)) (key : K) :
  (ofList entries).get? key = lastValue? key entries
  := by
  induction entries using List.reverseRecOn with
  | nil => rfl
  | append_singleton entries entry ih =>
    obtain ⟨other, value⟩ := entry
    rw [ofList_concat]
    by_cases h : other = key
    · rw [h, get?_put_self, lastValue?_concat_self]
    · rw [get?_put_of_ne _ h, lastValue?_concat_of_ne _ h, ih]

/-- The keys stand in the order in which they were first put. -/
theorem keys_ofList (entries : List (String × V)) :
  (ofList entries).keys = firstOccurrences (entries.map Prod.fst)
  := by
  induction entries using List.reverseRecOn with
  | nil => rfl
  | append_singleton entries entry ih =>
    rw [ofList_concat, keys_put, ih, List.map_append]
    symm
    apply firstOccurrences_concat

/-- There are as many keys as were put, each counted once. -/
theorem size_ofList (entries : List (String × V)) :
  (ofList entries).size = (entries.map Prod.fst).toFinset.card
  := by
  have hsize : (ofList entries).size = (ofList entries).keys.length := by simp [size, keys]
  rw [hsize, keys_ofList, ← List.toFinset_card_of_nodup (nodup_firstOccurrences _)]
  congr 1
  ext key
  simp [mem_firstOccurrences]

/-- Putting a key that is there replaces its value and leaves the other entries and all places. -/
theorem put_at {table : Table K V} {key : K} (h : key ∈ table.keys) (value : V) :
  ∃ before old after, table.entries = before ++ (key, old) :: after
    ∧ (table.put key value).entries = before ++ (key, value) :: after
  := by
  obtain ⟨entries⟩ := table
  simp only [keys, put] at h ⊢
  induction entries with
  | nil => cases h
  | cons entry rest ih =>
    obtain ⟨first, old⟩ := entry
    rw [replace]
    by_cases hfirst : first = key
    · obtain rfl := hfirst
      use [], old, rest
      simp
    · rw [if_neg hfirst]
      have hrest : key ∈ rest.map fun entry => entry.1 := by
        apply List.mem_of_ne_of_mem _ h
        intro heq
        exact hfirst heq.symm
      obtain ⟨before, old', after, hentries, hput⟩ := ih hrest
      use (first, old) :: before, old', after
      rw [hput, hentries]
      simp

end Table

/-- Rows that are put one after the other are kept in the order of the first row of each kind of
event, without repetitions, and each kind leads to the target of its last row.  There are as many
rows as there are kinds, and a row for a kind that is there changes the target of that kind and
leaves the other rows and all places. -/
theorem Transitions.insertion_ordered {S : Type} (rows : List (String × Target S)) :
  (Table.ofList rows).keys = firstOccurrences (rows.map Prod.fst)
    ∧ (Table.ofList rows).keys.Nodup
    ∧ (∀ kind, (Table.ofList rows).get? kind = Table.lastValue? kind rows)
    ∧ (∀ kind target, (kind, target) ∈ (Table.ofList rows).entries
        ↔ Table.lastValue? kind rows = some target)
    ∧ (Table.ofList rows).size = (rows.map Prod.fst).toFinset.card
    ∧ ∀ kind ∈ (Table.ofList rows).keys, ∀ target, ∃ before old after,
        (Table.ofList rows).entries = before ++ (kind, old) :: after
          ∧ ((Table.ofList rows).put kind target).entries = before ++ (kind, target) :: after
  := by
  have hnodup : (Table.ofList rows).keys.Nodup := by
    rw [Table.keys_ofList]
    apply nodup_firstOccurrences
  use Table.keys_ofList rows, hnodup, Table.get?_ofList rows
  constructor
  · intro kind target
    rw [← Table.get?_ofList, Table.get?_eq_some_iff hnodup]
  · use Table.size_ofList rows
    intro kind hkind target
    apply Table.put_at hkind

end GuardedMachine

/-!
# Sorting by name

`sortBy name` puts the elements of a list into increasing order of their names and keeps the
order of elements with the same name.
-/

namespace GuardedMachine

variable {α : Type}

/-- The list with `a` before the first element whose name is not smaller. -/
def insertBy (name : α → String) (a : α) : List α → List α
  | [] => [a]
  | b :: rest => if name b < name a then b :: insertBy name a rest else a :: b :: rest

/-- The elements in increasing order of their names. -/
def sortBy (name : α → String) : List α → List α
  | [] => []
  | a :: rest => insertBy name a (sortBy name rest)

theorem mem_insertBy {name : α → String} {a b : α} {elements : List α} :
  b ∈ insertBy name a elements ↔ b = a ∨ b ∈ elements
  := by
  induction elements with
  | nil => simp [insertBy]
  | cons c rest ih =>
    simp only [insertBy]
    split
    · simp only [List.mem_cons, ih]
      exact or_left_comm
    · simp

/-- Sorting keeps the elements. -/
@[simp]
theorem mem_sortBy {name : α → String} {b : α} {elements : List α} :
  b ∈ sortBy name elements ↔ b ∈ elements
  := by
  induction elements with
  | nil => simp [sortBy]
  | cons c rest ih => simp [sortBy, mem_insertBy, ih]

/-- An element keeps a sorted list sorted. -/
theorem pairwise_insertBy {name : α → String} {a : α} {elements : List α}
    (h : elements.Pairwise fun b c => name b ≤ name c) :
  (insertBy name a elements).Pairwise fun b c => name b ≤ name c
  := by
  induction elements with
  | nil => apply List.pairwise_singleton
  | cons b rest ih =>
    obtain ⟨hfirst, hrest⟩ := List.pairwise_cons.mp h
    simp only [insertBy]
    split
    · next hlt =>
      rw [List.pairwise_cons]
      refine ⟨?_, ih hrest⟩
      intro c hc
      rcases mem_insertBy.mp hc with rfl | hc
      · apply Std.le_of_lt hlt
      · apply hfirst c hc
    · next hge =>
      have hle : name a ≤ name b := Std.not_lt.mp hge
      rw [List.pairwise_cons]
      refine ⟨?_, h⟩
      intro c hc
      rcases List.mem_cons.mp hc with rfl | hc
      · exact hle
      · exact Std.le_trans hle (hfirst c hc)

/-- The names increase in a sorted list. -/
theorem pairwise_sortBy (name : α → String) (elements : List α) :
  (sortBy name elements).Pairwise fun a b => name a ≤ name b
  := by
  induction elements with
  | nil => exact .nil
  | cons a rest ih => exact pairwise_insertBy ih

theorem perm_insertBy (name : α → String) (a : α) (elements : List α) :
  (insertBy name a elements).Perm (a :: elements)
  := by
  induction elements with
  | nil => exact .refl _
  | cons b rest ih =>
    simp only [insertBy]
    split
    · exact (ih.cons b).trans (.swap a b rest)
    · exact .refl _

/-- Sorting keeps the elements with their multiplicities. -/
theorem perm_sortBy (name : α → String) (elements : List α) :
  (sortBy name elements).Perm elements
  := by
  induction elements with
  | nil => exact .refl _
  | cons a rest ih => exact (perm_insertBy name a _).trans (ih.cons a)

/-- Elements with different names have strictly increasing names when they are sorted. -/
theorem pairwise_lt_sortBy {name : α → String} {elements : List α}
    (h : (elements.map name).Nodup) :
  (sortBy name elements).Pairwise fun a b => name a < name b
  := by
  have hnodup : ((sortBy name elements).map name).Nodup :=
    ((perm_sortBy name elements).map name).nodup_iff.mpr h
  apply ((pairwise_sortBy name elements).and (List.pairwise_map.mp hnodup)).imp
  rintro a b ⟨hle, hne⟩
  apply Std.lt_of_le_of_ne hle hne

end GuardedMachine

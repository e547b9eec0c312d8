import GuardedMachine.Proofs.Guard.Places
import Mathlib.Data.List.Basic
import Mathlib.Order.Basic

/-!
# Leaves of guards

`Guard.leaves` lists the leaves of a guard, each with its place, from left to right.  Its names are
`Guard.names` (`map_snd_leaves`), it has the leaves at all places (`mem_leaves`), and the places
increase in the order of words (`pairwise_leaves`).
-/

namespace GuardedMachine

namespace Guard

mutual

/-- The leaves with their places, from left to right. -/
def leaves : Guard → List (List Nat × String)
  | .leaf name => [([], name)]
  | .not inner => (leaves inner).map fun leaf => (0 :: leaf.1, leaf.2)
  | .and children => leavesFrom 0 children
  | .or children => leavesFrom 0 children

/-- The leaves of several guards, the first of which is the child with the given number. -/
def leavesFrom (index : Nat) : List Guard → List (List Nat × String)
  | [] => []
  | child :: rest =>
    ((leaves child).map fun leaf => (index :: leaf.1, leaf.2)) ++ leavesFrom (index + 1) rest

end

example :
  (and [leaf "a", not (or [leaf "b", leaf "a"])]).leaves
    = [([0], "a"), ([1, 0, 0], "b"), ([1, 0, 1], "a")]
  := by rfl

/-! ### Names -/

mutual

/-- The leaves have the names of the guard, in the same order. -/
theorem map_snd_leaves : ∀ guard : Guard,
  guard.leaves.map Prod.snd = guard.names
  | .leaf _ => rfl
  | .not inner => by rw [leaves, List.map_map, names, ← map_snd_leaves inner]; rfl
  | .and children => map_snd_leavesFrom 0 children
  | .or children => map_snd_leavesFrom 0 children

theorem map_snd_leavesFrom : ∀ (index : Nat) (children : List Guard),
  (leavesFrom index children).map Prod.snd = namesOf children
  | _, [] => rfl
  | index, child :: rest => by
    rw [leavesFrom, List.map_append, List.map_map, namesOf, ← map_snd_leaves child,
      ← map_snd_leavesFrom (index + 1) rest]
    rfl

end

/-! ### Places -/

/-- Below a child stand the leaves of the child. -/
theorem mem_map_below {index : Nat} {leaves : List (List Nat × String)} {place : List Nat}
    {name : String} :
  (place, name) ∈ leaves.map (fun leaf => (index :: leaf.1, leaf.2))
    ↔ ∃ inner, place = index :: inner ∧ (inner, name) ∈ leaves
  := by
  simp only [List.mem_map, Prod.mk.injEq, Prod.exists]
  constructor
  · rintro ⟨inner, _, hmem, rfl, rfl⟩
    exact ⟨inner, rfl, hmem⟩
  · rintro ⟨inner, rfl, hmem⟩
    exact ⟨inner, name, hmem, rfl, rfl⟩

mutual

/-- The leaves are what stands at the places of leaves. -/
theorem mem_leaves : ∀ {guard : Guard} {place : List Nat} {name : String},
  (place, name) ∈ guard.leaves ↔ guard.node? place = some (.leaf name)
  | .leaf _, [], _ => by simp [leaves, eq_comm]
  | .leaf _, _ :: _, _ => by simp [leaves, children]
  | .not inner, [], _ => by simp [leaves]
  | .not inner, i :: place, name => by
    rw [leaves, mem_map_below]
    cases i with
    | zero => simp [children, @mem_leaves inner]
    | succ i => simp [children]
  | .and children, [], _ => by simp [mem_leavesFrom, leaves]
  | .and _, _ :: _, _ => by simp [mem_leavesFrom, leaves, children]
  | .or children, [], _ => by simp [mem_leavesFrom, leaves]
  | .or _, _ :: _, _ => by simp [mem_leavesFrom, leaves, children]

theorem mem_leavesFrom : ∀ {children : List Guard} {index : Nat} {place : List Nat} {name : String},
  (place, name) ∈ leavesFrom index children
    ↔ ∃ i inner, place = (index + i) :: inner
      ∧ (children[i]?.bind fun child => child.node? inner) = some (.leaf name)
  | [], _, _, _ => by simp [leavesFrom]
  | child :: rest, index, place, name => by
    rw [leavesFrom, List.mem_append, mem_map_below, mem_leavesFrom]
    constructor
    · rintro (⟨inner, rfl, hmem⟩ | ⟨i, inner, rfl, hnode⟩)
      · exact ⟨0, inner, rfl, mem_leaves.mp hmem⟩
      · exact ⟨i + 1, inner, by rw [Nat.add_assoc, Nat.add_comm 1], hnode⟩
    · rintro ⟨i, inner, rfl, hnode⟩
      cases i with
      | zero => exact .inl ⟨inner, rfl, mem_leaves.mpr hnode⟩
      | succ i => exact .inr ⟨i, inner, by rw [Nat.add_assoc, Nat.add_comm 1], hnode⟩

end

/-! ### Order -/

/-- The leaves below a child keep their order. -/
theorem pairwise_map_below {index : Nat} {leaves : List (List Nat × String)}
    (h : leaves.Pairwise fun a b => a.1 < b.1) :
  (leaves.map fun leaf => (index :: leaf.1, leaf.2)).Pairwise fun a b => a.1 < b.1
  := by
  rw [List.pairwise_map]
  apply h.imp
  intro a b hab
  exact List.cons_lt_cons_iff.mpr (.inr ⟨rfl, hab⟩)

mutual

/-- The places of the leaves increase from left to right. -/
theorem pairwise_leaves : ∀ guard : Guard,
  guard.leaves.Pairwise fun a b => a.1 < b.1
  | .leaf _ => List.pairwise_singleton ..
  | .not inner => pairwise_map_below (pairwise_leaves inner)
  | .and children => pairwise_leavesFrom 0 children
  | .or children => pairwise_leavesFrom 0 children

theorem pairwise_leavesFrom : ∀ (index : Nat) (children : List Guard),
  (leavesFrom index children).Pairwise fun a b => a.1 < b.1
  | _, [] => .nil
  | index, child :: rest => by
    rw [leavesFrom, List.pairwise_append]
    refine ⟨pairwise_map_below (pairwise_leaves child), pairwise_leavesFrom (index + 1) rest, ?_⟩
    rintro ⟨place, name⟩ hbelow ⟨other, _⟩ hlater
    obtain ⟨inner, rfl, _⟩ := mem_map_below.mp hbelow
    obtain ⟨i, later, rfl, _⟩ := mem_leavesFrom.mp hlater
    exact List.cons_lt_cons_iff.mpr (.inl (by omega))

end

end Guard

end GuardedMachine

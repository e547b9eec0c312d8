import GuardedMachine.Proofs.Guard.Fixed
import GuardedMachine.Proofs.Guard.Places

/-!
# Traces mirror guards

In the trace of a guard whose predicates have fixed answers, every node holds the answer of the
guard at its place, except in the children after one that decides the guard around them: nothing is
asked there.  `trace_mirrors` states this for all nodes, together with the calls: they are the
leaves that have an answer, from left to right.
-/

namespace GuardedMachine

namespace Guard

variable (truth : String → Bool)

/-- The child that decides a guard: the first that does not hold in a conjunction, the first that
holds in a disjunction. -/
def decider? : Guard → Option Nat
  | .leaf _ => none
  | .not _ => none
  | .and children => children.findIdx? fun child => !child.holds truth
  | .or children => children.findIdx? (holds truth)

/-- The child number `i` stands after the one that decides the guard. -/
def DecidedBefore (guard : Guard) (i : Nat) : Prop :=
  ∃ decider, guard.decider? truth = some decider ∧ decider < i

/-- What the children of a guard inherit: only conjunctions enclose them if the guard is one and
only conjunctions enclose it. -/
def forwards (blame : Bool) : Guard → Bool
  | .and _ => blame
  | _ => false

/-! ### Skipped nodes -/

theorem skippedAll_eq_map (children : List Guard) :
  skippedAll children = children.map skipped
  := by
  induction children with
  | nil => rfl
  | cons child rest ih => rw [skippedAll, ih, List.map_cons]

@[simp]
theorem mark_skipped (guard : Guard) :
  guard.skipped.mark = skippedMark
  := by
  cases guard <;> rfl

theorem children_skipped (guard : Guard) :
  guard.skipped.children = guard.children.map skipped
  := by
  cases guard with
  | leaf name => rfl
  | not inner => rfl
  | and children => exact skippedAll_eq_map children
  | or children => exact skippedAll_eq_map children

/-- The nodes of a skipped guard are skipped guards. -/
theorem node?_skipped (guard : Guard) (place : List Nat) :
  guard.skipped.node? place = (guard.node? place).map skipped
  := by
  induction place generalizing guard with
  | nil => rfl
  | cons i place ih =>
    rw [Trace.node?_cons, node?_cons, children_skipped, List.getElem?_map]
    cases guard.children[i]? with
    | none => rfl
    | some child => exact ih child

/-- No node of a skipped guard has an answer or is a cause. -/
theorem mark_of_node?_skipped {guard : Guard} {place : List Nat} {node : Trace}
    (h : guard.skipped.node? place = some node) :
  node.mark = skippedMark
  := by
  rw [node?_skipped, Option.map_eq_some_iff] at h
  obtain ⟨part, -, rfl⟩ := h
  apply mark_skipped

mutual

/-- Skipping a guard keeps its form. -/
@[simp]
theorem guard_skipped : ∀ guard : Guard,
  guard.skipped.guard = guard
  | .leaf _ => rfl
  | .not inner => by rw [skipped, Trace.guard, guard_skipped inner]
  | .and children => by rw [skipped, Trace.guard, guards_skippedAll children]
  | .or children => by rw [skipped, Trace.guard, guards_skippedAll children]

theorem guards_skippedAll : ∀ children : List Guard,
  Trace.guards (skippedAll children) = children
  | [] => rfl
  | child :: rest => by
      rw [skippedAll, Trace.guards, guard_skipped child, guards_skippedAll rest]

end

mutual

/-- Tracing a guard keeps its form. -/
@[simp]
theorem guard_marked : ∀ (guard : Guard) (blame : Bool),
  (guard.marked truth blame).guard = guard
  | .leaf _, _ => rfl
  | .not inner, _ => by rw [marked, Trace.guard, guard_marked inner]
  | .and children, blame => by rw [marked, Trace.guard, guards_markedUntil false children blame]
  | .or children, _ => by rw [marked, Trace.guard, guards_markedUntil true children false]

theorem guards_markedUntil (stop : Bool) : ∀ (children : List Guard) (blame : Bool),
  Trace.guards (markedUntil truth stop children blame) = children
  | [], _ => rfl
  | child :: rest, blame => by
      rw [markedUntil, Trace.guards, guard_marked child]
      split
      · rw [guards_skippedAll]
      · rw [guards_markedUntil stop rest]

end

/-! ### Nodes of a trace -/

/-- Of several guards, those after the first that answers `stop` are skipped. -/
theorem getElem?_markedUntil (stop : Bool) (children : List Guard) (blame : Bool) (i : Nat) :
  (markedUntil truth stop children blame)[i]? = children[i]?.map fun child =>
    if (children.findIdx? fun child => child.holds truth == stop).any (· < i) then child.skipped
    else child.marked truth blame
  := by
  induction children generalizing i with
  | nil => rfl
  | cons child rest ih =>
    rw [markedUntil, List.findIdx?_cons]
    cases i with
    | zero => simp
    | succ i =>
      by_cases hstop : child.holds truth = stop
      · simp [hstop, skippedAll_eq_map]
      · simp [hstop, ih, Option.any_map]

/-- In the trace of a guard, a child that stands after the one that decides the guard is skipped,
and any other one is traced. -/
theorem child_marked {guard : Guard} {blame : Bool} {i : Nat} {child : Trace}
    (h : (guard.marked truth blame).children[i]? = some child) :
  ∃ part, guard.children[i]? = some part
    ∧ (guard.DecidedBefore truth i ∧ child = part.skipped
      ∨ ¬ guard.DecidedBefore truth i ∧ child = part.marked truth (guard.forwards blame))
  := by
  have hchildren : (guard.marked truth blame).children[i]? = guard.children[i]?.map fun child =>
      if (guard.decider? truth).any (· < i) then child.skipped
      else child.marked truth (guard.forwards blame) := by
    cases guard with
    | leaf name => rfl
    | not inner => cases i <;> rfl
    | and children =>
      simp only [marked, Trace.children, Guard.children, decider?, getElem?_markedUntil, beq_false]
      rfl
    | or children =>
      simp only [marked, Trace.children, Guard.children, decider?, getElem?_markedUntil, beq_true]
      rfl
  rw [hchildren, Option.map_eq_some_iff] at h
  obtain ⟨part, hpart, rfl⟩ := h
  use part, hpart
  have hdecided : (guard.decider? truth).any (· < i) = true ↔ guard.DecidedBefore truth i := by
    simp only [DecidedBefore, Option.any_eq_true, decide_eq_true_eq]
  rw [← hdecided]
  split
  next hbefore => exact Or.inl ⟨hbefore, rfl⟩
  next hbefore => exact Or.inr ⟨hbefore, rfl⟩

end Guard

namespace Trace

variable (truth : String → Bool)

/-- The place is inside a child that stands after the one that decides an evaluated guard around
it. -/
def PassedOver (trace : Trace) (place : List Nat) : Prop :=
  ∃ above i below enclosing, place = above ++ i :: below ∧ trace.node? above = some enclosing
    ∧ enclosing.allow ≠ none ∧ enclosing.guard.DecidedBefore truth i

theorem not_passedOver_nil (trace : Trace) :
  ¬ trace.PassedOver truth []
  := by
  rintro ⟨above, i, below, _, hplace, -⟩
  cases above <;> cases hplace

/-- A place below the root is passed over by the root itself or inside a child. -/
theorem passedOver_cons {trace : Trace} {i : Nat} {place : List Nat} :
  trace.PassedOver truth (i :: place)
    ↔ (trace.allow ≠ none ∧ trace.guard.DecidedBefore truth i)
      ∨ ∃ child, trace.children[i]? = some child ∧ child.PassedOver truth place
  := by
  constructor
  · rintro ⟨above, j, below, enclosing, hplace, habove, hallow, hdecided⟩
    cases above with
    | nil =>
      obtain ⟨rfl, rfl⟩ := List.cons.inj hplace
      obtain rfl := Option.some.inj habove
      exact Or.inl ⟨hallow, hdecided⟩
    | cons k above =>
      obtain ⟨rfl, rfl⟩ := List.cons.inj hplace
      obtain ⟨child, hchild, habove⟩ := node?_cons_eq_some.mp habove
      right
      exact ⟨child, hchild, above, j, below, enclosing, rfl, habove, hallow, hdecided⟩
  · rintro (⟨hallow, hdecided⟩ | ⟨child, hchild, above, j, below, enclosing, rfl, habove, hallow,
      hdecided⟩)
    · exact ⟨[], i, place, trace, rfl, rfl, hallow, hdecided⟩
    · use i :: above, j, below, enclosing, rfl
      use node?_cons_eq_some.mpr ⟨child, hchild, habove⟩

end Trace

namespace Guard

variable (truth : String → Bool)

/-- A node of a trace is the trace of a guard that was evaluated, or it is passed over and
skipped. -/
theorem marked_or_skipped {guard : Guard} {blame : Bool} {place : List Nat} {node : Trace}
    (h : (guard.marked truth blame).node? place = some node) :
  (¬ (guard.marked truth blame).PassedOver truth place
      ∧ ∃ part blame', node = marked truth part blame')
    ∨ ((guard.marked truth blame).PassedOver truth place ∧ ∃ part : Guard, node = part.skipped)
  := by
  induction place generalizing guard blame with
  | nil =>
    left
    exact ⟨Trace.not_passedOver_nil truth _, guard, blame, (Option.some.inj h).symm⟩
  | cons i place ih =>
    obtain ⟨child, hchild, hnode⟩ := Trace.node?_cons_eq_some.mp h
    obtain ⟨part, -, ⟨hpassed, rfl⟩ | ⟨hpassed, rfl⟩⟩ := child_marked truth hchild
    · right
      constructor
      · rw [Trace.passedOver_cons, allow_marked, guard_marked]
        exact Or.inl ⟨Option.some_ne_none _, hpassed⟩
      · rw [node?_skipped, Option.map_eq_some_iff] at hnode
        obtain ⟨inner, -, rfl⟩ := hnode
        exact ⟨inner, rfl⟩
    · -- a child that is traced is passed over only inside
      have hover : (guard.marked truth blame).PassedOver truth (i :: place)
          ↔ (part.marked truth (guard.forwards blame)).PassedOver truth place := by
        rw [Trace.passedOver_cons, guard_marked, hchild]
        constructor
        · rintro (⟨-, hdecided⟩ | ⟨child, hchild, hover⟩)
          · exact absurd hdecided hpassed
          · obtain rfl := Option.some.inj hchild
            exact hover
        · intro hover
          exact Or.inr ⟨_, rfl, hover⟩
      rw [hover]
      exact ih hnode

variable {truth} {σ : Type} {source : String → σ → Except GuardError Bool × σ}

/-- The trace of a guard whose predicates have fixed answers is the guard with marks.  A node that
has an answer has that of the guard at its place.  A node has none if and only if it is passed over,
and then no node below it has one.  The predicates are asked the leaves that have an answer, from
left to right. -/
theorem trace_mirrors (guard : Guard) (fixed : Fixed source truth guard.names) (state : σ) :
  ∃ trace left, (guard.trace (recordCalls source)).run (state, []) = (.ok trace, left)
    ∧ trace.guard = guard
    ∧ (∀ place node, trace.node? place = some node →
        guard.node? place = some node.guard
        ∧ (∀ answer, node.allow = some answer → node.guard.holds truth = answer)
        ∧ (node.allow = none ↔ trace.PassedOver truth place)
        ∧ (node.allow = none →
            ∀ below node', node.node? below = some node' → node'.allow = none))
    ∧ left.2 = trace.answered
  := by
  obtain ⟨hresult, hcalls⟩ := answers_trace fixed (state, [])
  use guard.marked truth true, ((guard.trace (recordCalls source)).run (state, [])).2
  use Prod.ext hresult rfl, guard_marked truth guard true
  use ?_, hcalls
  intro place node hnode
  have hplace : guard.node? place = some node.guard := by
    rw [← guard_marked truth guard true, Trace.node?_guard, hnode, Option.map_some]
  use hplace
  obtain ⟨hover, part, blame, rfl⟩ | ⟨hover, part, rfl⟩ := marked_or_skipped truth hnode
  · rw [allow_marked, guard_marked]
    use fun answer hanswer => Option.some.inj hanswer
    use iff_of_false (Option.some_ne_none _) hover
    intro hnone
    cases hnone
  · rw [allow_skipped]
    use fun answer hanswer => nomatch hanswer
    use iff_of_true rfl hover
    intro _ below node' hbelow
    rw [Trace.allow, mark_of_node?_skipped hbelow]
    rfl

/-- When everything is true, three leaves of `ticket` are asked.  Two of the others stand after a
member that decides, the one at `[1, 1]` in a disjunction and the one at `[3]` in a conjunction. -/
theorem ticket_mirrored :
  Fixed (counting fun _ => true) (fun _ => true) ticket.names
    ∧ ∃ trace, (ticket.trace (recordCalls (counting fun _ => true))).run (0, [])
        = (.ok trace, 3, trace.answered)
      ∧ trace.answered = ["ticket", "open", "late"]
      ∧ trace.PassedOver (fun _ => true) [1, 1] ∧ trace.PassedOver (fun _ => true) [3]
  := by
  have hfixed := fixed_counting (fun _ => true) ticket.names
  use hfixed
  obtain ⟨trace, left, hrun, -, hnodes, hcalls⟩ := ticket.trace_mirrors hfixed 0
  obtain ⟨hresult, hleft⟩ := Prod.mk.inj hrun
  obtain rfl : left = (3, ["ticket", "open", "late"]) := hleft.symm
  obtain rfl : ticket.marked (fun _ => true) true = trace := Except.ok.inj hresult
  refine ⟨_, hrun.trans ?_, hcalls.symm, ?_, ?_⟩
  · rw [← hcalls]
  · exact (hnodes [1, 1] _ rfl).2.2.1.mp rfl
  · exact (hnodes [3] _ rfl).2.2.1.mp rfl

end Guard

end GuardedMachine

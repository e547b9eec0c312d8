import GuardedMachine.Proofs.Guard.Conjuncts

/-!
# The cause of a denial

A denied guard has one cause: the first of its conjuncts that does not hold.  `cause_iff` finds it
among the nodes of the trace, `pairwise_skipped` shows that the conjuncts after it are skipped, and
`run_evaluateAll_until` that evaluating the conjuncts up to it asks all that is asked.
`denial_attributed` puts these together.
-/

namespace GuardedMachine.Guard

variable (truth : String → Bool)

/-! ### The node that is a cause -/

/-- No node below a disjunction or a negation is a cause. -/
theorem cause_of_not_blamed {guard : Guard} {place : List Nat} {node : Trace}
    (h : (guard.marked truth false).node? place = some node) :
  node.mark.cause = false
  := by
  induction place generalizing guard with
  | nil =>
    obtain rfl := Option.some.inj h
    cases guard <;> rfl
  | cons i place ih =>
    obtain ⟨child, hchild, hnode⟩ := Trace.node?_cons_eq_some.mp h
    obtain ⟨part, -, ⟨-, rfl⟩ | ⟨-, rfl⟩⟩ := child_marked truth hchild
    · rw [mark_of_node?_skipped hnode]
      rfl
    · have hforwards : guard.forwards false = false := by cases guard <;> rfl
      rw [hforwards] at hnode
      exact ih hnode

/-- The root of a trace is a cause if the guard is its own culprit. -/
theorem cause_root_iff (guard : Guard) :
  (guard.marked truth true).mark.cause = true ↔ (guard.culprit? truth).map Part.place = some []
  := by
  by_cases hand : ∃ children, guard = .and children
  · obtain ⟨children, rfl⟩ := hand
    rw [culprit?_and]
    simp [marked, Trace.mark, Part.under, Option.bind_eq_some_iff]
  · rw [culprit?_of_not_and truth (not_exists.mp hand)]
    have hcause : (guard.marked truth true).mark.cause = !guard.holds truth := by
      cases guard with
      | and children => exact absurd ⟨children, rfl⟩ hand
      | leaf name => simp [marked, Trace.mark, Scope.mark]
      | not inner => simp [marked, Trace.mark, Scope.mark]
      | or children => simp [marked, Trace.mark, Scope.mark]
    rw [hcause]
    cases guard.holds truth <;> simp

/-- The culprit stands below the root if the guard is a conjunction, and then in the member that
decides it. -/
theorem culprit_place_cons {guard : Guard} {i : Nat} {place : List Nat} :
  (guard.culprit? truth).map Part.place = some (i :: place)
    ↔ (∃ children, guard = .and children) ∧ guard.decider? truth = some i
      ∧ ∃ child, guard.children[i]? = some child
        ∧ (child.culprit? truth).map Part.place = some place
  := by
  by_cases hand : ∃ children, guard = .and children
  · obtain ⟨children, rfl⟩ := hand
    rw [culprit?_and]
    simp only [Option.map_eq_some_iff, Option.bind_eq_some_iff]
    constructor
    · rintro ⟨_, ⟨j, hdecider, child, hchild, culprit, hculprit, rfl⟩, hplace⟩
      obtain ⟨rfl, rfl⟩ := List.cons.inj hplace
      exact ⟨⟨children, rfl⟩, hdecider, child, hchild, culprit, hculprit, rfl⟩
    · rintro ⟨-, hdecider, child, hchild, culprit, hculprit, rfl⟩
      exact ⟨_, ⟨i, hdecider, child, hchild, culprit, hculprit, rfl⟩, rfl⟩
  · rw [culprit?_of_not_and truth (not_exists.mp hand)]
    constructor
    · intro hplace
      cases hholds : guard.holds truth <;> simp [hholds] at hplace
    · rintro ⟨hexists, -⟩
      exact absurd hexists hand

/-- A member of a conjunction that does not hold decides it, unless an earlier one does. -/
theorem exists_decider {children : List Guard} {child : Guard} {i : Nat}
    (hchild : children[i]? = some child) (hholds : child.holds truth = false) :
  ∃ decider, (and children).decider? truth = some decider ∧ decider ≤ i
  := by
  rw [decider?]
  cases hdecider : children.findIdx? fun child => !child.holds truth with
  | none =>
    have hall := List.findIdx?_eq_none_iff.mp hdecider child (List.mem_of_getElem? hchild)
    rw [hholds] at hall
    cases hall
  | some decider =>
    use decider, rfl
    obtain ⟨_, -, hbefore⟩ := List.findIdx?_eq_some_iff_getElem.mp hdecider
    obtain ⟨hlt, hget⟩ := List.getElem?_eq_some_iff.mp hchild
    apply Nat.le_of_not_lt
    intro hi
    apply hbefore i hi
    rw [hget, hholds]
    rfl

/-- A node is a cause if it stands at the place of the first conjunct that fails. -/
theorem cause_iff {guard : Guard} {place : List Nat} {node : Trace}
    (h : (guard.marked truth true).node? place = some node) :
  node.mark.cause = true ↔ (guard.culprit? truth).map Part.place = some place
  := by
  induction place generalizing guard with
  | nil =>
    obtain rfl := Option.some.inj h
    exact cause_root_iff truth guard
  | cons i place ih =>
    obtain ⟨child, hchild, hnode⟩ := Trace.node?_cons_eq_some.mp h
    rw [culprit_place_cons]
    obtain ⟨part, hpart, ⟨⟨decider, hdecider, hlt⟩, rfl⟩ | ⟨hpassed, rfl⟩⟩ :=
      child_marked truth hchild
    · -- the node is skipped, and the culprit stands in the member that decides
      apply iff_of_false
      · rw [mark_of_node?_skipped hnode]
        exact Bool.false_ne_true
      · rintro ⟨-, hdecider', -⟩
        rw [hdecider] at hdecider'
        exact absurd (Option.some.inj hdecider') (Nat.ne_of_lt hlt)
    · by_cases hand : ∃ children, guard = .and children
      · obtain ⟨children, rfl⟩ := hand
        rw [ih hnode]
        constructor
        · intro hplace
          have hholds : part.holds truth = false := by
            obtain ⟨culprit, hculprit, -⟩ := Option.map_eq_some_iff.mp hplace
            exact (exists_culprit_iff truth).mp ⟨culprit, hculprit⟩
          have hmember : children[i]? = some part := hpart
          -- no member before the child fails, since the child is not skipped
          obtain ⟨decider, hdecider, hle⟩ := exists_decider truth hmember hholds
          obtain rfl := Nat.le_antisymm hle
            (Nat.le_of_not_lt fun hlt => hpassed ⟨decider, hdecider, hlt⟩)
          exact ⟨⟨children, rfl⟩, hdecider, part, hpart, hplace⟩
        · rintro ⟨-, -, part', hpart', hplace⟩
          rw [hpart] at hpart'
          obtain rfl := Option.some.inj hpart'
          exact hplace
      · have hforwards : guard.forwards true = false := by
          cases guard with
          | and children => exact absurd ⟨children, rfl⟩ hand
          | _ => rfl
        rw [hforwards] at hnode
        apply iff_of_false
        · rw [cause_of_not_blamed truth hnode]
          exact Bool.false_ne_true
        · exact fun hculprit => hand hculprit.1

/-- The trace has a node at the place of each conjunct. -/
theorem node_of_mem_conjuncts {guard : Guard} {part : Part} (h : part ∈ guard.conjuncts)
    (blame : Bool) :
  ∃ node, (guard.marked truth blame).node? part.place = some node ∧ node.guard = part.guard
  := by
  have hnode := (mem_conjuncts_iff.mp h).1
  rw [← guard_marked truth guard blame, Trace.node?_guard] at hnode
  exact Option.map_eq_some_iff.mp hnode

/-! ### The conjuncts after the culprit -/

/-- The conjuncts of the members after one that does not hold are skipped. -/
theorem node?_after_failure {child : Guard} {rest : List Guard} {blame : Bool} {start : Nat}
    {later : Part} (hfails : child.holds truth = false)
    (hlater : later ∈ conjunctsFrom (start + 1) rest) :
  ∃ i place, later.place = (start + i) :: place
    ∧ (markedUntil truth false (child :: rest) blame)[i]?.bind (·.node? place)
      = some later.guard.skipped
  := by
  obtain ⟨i, part, hpart, inner, hinner, rfl⟩ := mem_conjunctsFrom.mp hlater
  use i + 1, inner.place
  rw [Part.under, Nat.add_right_comm, Nat.add_assoc]
  use rfl
  rw [markedUntil, if_pos hfails, List.getElem?_cons_succ, skippedAll_eq_map, List.getElem?_map,
    hpart, Option.map_some, Option.bind_some, node?_skipped, (mem_conjuncts_iff.mp hinner).1]
  rfl

mutual

/-- In the trace of a guard, the conjuncts after one that fails are skipped. -/
theorem pairwise_skipped : ∀ (guard : Guard) (blame : Bool),
  guard.conjuncts.Pairwise fun first later => first.guard.holds truth = false →
    (guard.marked truth blame).node? later.place = some later.guard.skipped
  | .leaf _, _ => List.pairwise_singleton _ _
  | .not _, _ => List.pairwise_singleton _ _
  | .and children, blame => by
      apply (pairwise_skippedFrom 0 children blame).imp
      intro first later h hfails
      obtain ⟨i, place, hplace, hnode⟩ := h hfails
      rw [hplace, Nat.zero_add]
      exact hnode
  | .or _, _ => List.pairwise_singleton _ _

theorem pairwise_skippedFrom (start : Nat) : ∀ (children : List Guard) (blame : Bool),
  (conjunctsFrom start children).Pairwise fun first later => first.guard.holds truth = false →
    ∃ i place, later.place = (start + i) :: place
      ∧ (markedUntil truth false children blame)[i]?.bind (·.node? place)
        = some later.guard.skipped
  | [], _ => List.Pairwise.nil
  | child :: rest, blame => by
      rw [conjunctsFrom, List.pairwise_append, List.pairwise_map]
      refine ⟨?within, ?after, ?between⟩
      case within =>
        apply (pairwise_skipped child blame).imp
        intro first later h hfails
        exact ⟨0, later.place, rfl, h hfails⟩
      case after =>
        -- when the child fails all that follows is skipped, whatever holds there
        cases hchild : child.holds truth with
        | false =>
          apply List.pairwise_of_forall_mem_list
          intro _ _ later hlater _
          exact node?_after_failure truth hchild hlater
        | true =>
          apply (pairwise_skippedFrom (start + 1) rest blame).imp
          intro first later h hfails
          obtain ⟨i, place, hplace, hnode⟩ := h hfails
          use i + 1, place
          rw [hplace, Nat.add_right_comm, Nat.add_assoc, markedUntil, hchild,
            if_neg (by decide), List.getElem?_cons_succ]
          exact ⟨rfl, hnode⟩
      case between =>
        -- a child with a conjunct that fails does not hold
        intro first hfirst later hlater hfails
        obtain ⟨inner, hinner, rfl⟩ := List.mem_map.mp hfirst
        apply node?_after_failure truth _ hlater
        rw [holds_eq_all_conjuncts, List.all_eq_false]
        exact ⟨inner, hinner, by simpa [Part.under] using hfails⟩

end

/-! ### What is asked -/

variable {truth} {σ : Type} {source : String → σ → Except GuardError Bool × σ}

/-- Deciding guards up to the first that does not hold leaves the predicates as evaluating each of
them does. -/
theorem run_evaluateAll_until {before : List Guard} {culprit : Guard} (after : List Guard)
    (hbefore : ∀ guard ∈ before, Fixed source truth guard.names ∧ guard.holds truth = true)
    (hculprit : Fixed source truth culprit.names ∧ culprit.holds truth = false)
    (seen : σ × List String) :
  ((evaluateAll (recordCalls source) (before ++ culprit :: after)).run seen).2
    = (((before ++ [culprit]).mapM (evaluate (recordCalls source))).run seen).2
  := by
  induction before generalizing seen with
  | nil =>
    have hresult := run_evaluate hculprit.1 seen
    rw [hculprit.2] at hresult
    rw [List.nil_append, List.nil_append, evaluateAll, List.mapM_cons, run_bind_of_ok hresult,
      run_bind_of_ok hresult]
    rfl
  | cons guard before ih =>
    obtain ⟨⟨hfixed, hholds⟩, hbefore⟩ := List.forall_mem_cons.mp hbefore
    have hresult := run_evaluate hfixed seen
    rw [hholds] at hresult
    rw [List.cons_append, List.cons_append, evaluateAll, List.mapM_cons, run_bind_of_ok hresult,
      run_bind_of_ok hresult, if_pos rfl, ih hbefore, bind_pure_comp, run_map_result]

/-- Tracing a guard that does not hold leaves the predicates as evaluating each conjunct up to the
first that fails does. -/
theorem run_trace_until {guard : Guard} (fixed : Fixed source truth guard.names)
    {before after : List Part} {culprit : Part}
    (hconjuncts : guard.conjuncts = before ++ culprit :: after)
    (hbefore : ∀ part ∈ before, part.guard.holds truth = true)
    (hculprit : culprit.guard.holds truth = false) (seen : σ × List String) :
  ((guard.trace (recordCalls source)).run seen).2
    = ((((before ++ [culprit]).map Part.guard).mapM (evaluate (recordCalls source))).run seen).2
  := by
  have hfixed : ∀ part ∈ guard.conjuncts, Fixed source truth part.guard.names :=
    fun part hpart => fixed.mono (names_of_node? (mem_conjuncts_iff.mp hpart).1)
  rw [hconjuncts, List.forall_mem_append, List.forall_mem_cons] at hfixed
  have hbefore' : ∀ part ∈ before.map Part.guard,
      Fixed source truth part.names ∧ part.holds truth = true := by
    rw [List.forall_mem_map]
    exact fun part hpart => ⟨hfixed.1 part hpart, hbefore part hpart⟩
  calc ((guard.trace (recordCalls source)).run seen).2
    _ = ((guard.evaluate (recordCalls source)).run seen).2
      := congrArg Prod.snd (run_trace_eq (recordCalls source) guard seen)
    _ = ((evaluateAll (recordCalls source)
          (before.map Part.guard ++ culprit.guard :: after.map Part.guard)).run seen).2
      := by rw [evaluate_conjuncts, hconjuncts, List.map_append, List.map_cons]
    _ = (((before.map Part.guard ++ [culprit.guard]).mapM
          (evaluate (recordCalls source))).run seen).2
      := run_evaluateAll_until _ hbefore' ⟨hfixed.2.1, hculprit⟩ seen
    _ = _
      := by rw [List.map_append, List.map_singleton]

/-- The cause of a denial.  If the guard holds, no node of its trace is a cause.  If it does not,
one of its conjuncts is the first that does not hold, and the node at its place is the only cause.
The conjuncts after it are skipped, and what is asked is what evaluating the conjuncts up to it
asks.  The guard does not hold either when other predicates make that conjunct fail. -/
theorem denial_attributed (guard : Guard) (fixed : Fixed source truth guard.names) (state : σ) :
  ∃ trace left, (guard.trace (recordCalls source)).run (state, []) = (.ok trace, left)
    ∧ trace.allow = some (guard.holds truth)
    ∧ (trace.allow = some true →
        ∀ place node, trace.node? place = some node → node.mark.cause = false)
    ∧ (trace.allow = some false →
        ∃ before culprit after, guard.conjuncts = before ++ culprit :: after
          ∧ (∀ part ∈ before, part.guard.holds truth = true)
          ∧ culprit.guard.holds truth = false
          ∧ (∃ node, trace.node? culprit.place = some node ∧ node.guard = culprit.guard)
          ∧ (∀ place node, trace.node? place = some node →
              (node.mark.cause = true ↔ place = culprit.place))
          ∧ (∀ part ∈ after, trace.node? part.place = some part.guard.skipped)
          ∧ left = ((((before ++ [culprit]).map Part.guard).mapM
              (evaluate (recordCalls source))).run (state, [])).2
          ∧ ∀ truth' : String → Bool,
              culprit.guard.holds truth' = false → guard.holds truth' = false)
  := by
  obtain ⟨hresult, -⟩ := answers_trace fixed (state, [])
  use guard.marked truth true, ((guard.trace (recordCalls source)).run (state, [])).2
  use Prod.ext hresult rfl, allow_marked truth guard true
  rw [allow_marked, Option.some.injEq, Option.some.injEq]
  constructor
  · intro hholds place node hnode
    rw [← Bool.not_eq_true, cause_iff truth hnode, (culprit?_eq_none truth).mpr hholds]
    exact nofun
  · intro hfails
    obtain ⟨culprit, hculprit⟩ := (exists_culprit_iff truth).mpr hfails
    obtain ⟨hnot, before, after, hconjuncts, hbefore⟩ := List.find?_eq_some_iff_append.mp hculprit
    rw [Bool.not_eq_true'] at hnot
    have hbefore : ∀ part ∈ before, part.guard.holds truth = true := by simpa using hbefore
    use before, culprit, after, hconjuncts, hbefore, hnot
    refine ⟨?node, ?only, ?skipped, ?asked, ?others⟩
    case node => exact node_of_mem_conjuncts truth (by simp [hconjuncts]) true
    case only =>
      intro place node hnode
      rw [cause_iff truth hnode, hculprit, Option.map_some, Option.some.injEq, eq_comm]
    case skipped =>
      intro part hpart
      have hpairwise := pairwise_skipped truth guard true
      rw [hconjuncts, List.pairwise_append, List.pairwise_cons] at hpairwise
      exact hpairwise.2.1.1 part hpart hnot
    case asked => exact run_trace_until fixed hconjuncts hbefore hnot (state, [])
    case others =>
      intro truth' hculprit'
      rw [holds_eq_all_conjuncts, hconjuncts, List.all_eq_false]
      exact ⟨culprit, by simp, by simpa using hculprit'⟩

/-- When everything is true, the only cause of the denial of `ticket` is the negation at the place
`[2, 0]`, and three names are asked. -/
theorem ticket_attributed :
  Fixed (counting fun _ => true) (fun _ => true) ticket.names
    ∧ ∃ trace, (ticket.trace (recordCalls (counting fun _ => true))).run (0, [])
        = (.ok trace, 3, ["ticket", "open", "late"])
      ∧ ∀ place node, trace.node? place = some node → (node.mark.cause = true ↔ place = [2, 0])
  := by
  have hfixed := fixed_counting (fun _ => true) ticket.names
  use hfixed
  obtain ⟨trace, left, hrun, hallow, -, hdenied⟩ := ticket.denial_attributed hfixed 0
  obtain ⟨-, culprit, -, -, -, -, -, hcause, -⟩ := hdenied (hallow.trans rfl)
  obtain ⟨hresult, hleft⟩ := Prod.mk.inj hrun
  obtain rfl : left = (3, ["ticket", "open", "late"]) := hleft.symm
  use trace, hrun
  have htrace : trace = ticket.marked (fun _ => true) true := (Except.ok.inj hresult).symm
  have hplace : [2, 0] = culprit.place := by
    apply (hcause [2, 0] _ (congrArg (·.node? [2, 0]) htrace)).mp
    rfl
  rw [hplace]
  exact hcause

end GuardedMachine.Guard

import GuardedMachine.Proofs.Guard.Carets
import GuardedMachine.Proofs.Guard.Causes

/-!
# Denials are explained

In the trace of a denied guard the carets stand in the span of the first conjunct that fails
(`lit_marked_iff`).  So the explanation of a denial has a line of carets (`denial_explained`),
unless that conjunct is a predicate without a name, which has no character to put a caret below
(`nameless_unexplained`).
-/

namespace GuardedMachine.Guard

variable {truth : String → Bool}

/-- Only a predicate without a name has an infix form without characters. -/
theorem width_eq_zero_iff {guard : Guard} :
  guard.width = 0 ↔ guard = .leaf ""
  := by
  cases guard with
  | leaf name => simp [width, symbols]
  | not inner => simp [width, symbols]
  | and children => simp [width, symbols]
  | or children => simp [width, symbols]

/-- The characters that are lit are those of the first conjunct that fails. -/
theorem lit_marked_iff {guard : Guard} {i : Nat} :
  (guard.marked truth true).Lit i
    ↔ ∃ culprit, guard.culprit? truth = some culprit ∧ guard.start culprit.place ≤ i
      ∧ i < guard.start culprit.place + culprit.guard.width
  := by
  have hplace : ∀ {culprit : Part}, guard.culprit? truth = some culprit →
      ∃ node, (guard.marked truth true).node? culprit.place = some node
        ∧ node.guard = culprit.guard :=
    fun hculprit => node_of_mem_conjuncts truth (List.mem_of_find?_eq_some hculprit) true
  rw [Trace.Lit, guard_marked]
  constructor
  · rintro ⟨place, node, hnode, hcause, hspan⟩
    rw [cause_iff truth hnode, Option.map_eq_some_iff] at hcause
    obtain ⟨culprit, hculprit, rfl⟩ := hcause
    obtain ⟨node', hnode', hguard⟩ := hplace hculprit
    obtain rfl := Option.some.inj (hnode.symm.trans hnode')
    rw [hguard] at hspan
    exact ⟨culprit, hculprit, hspan⟩
  · rintro ⟨culprit, hculprit, hspan⟩
    obtain ⟨node, hnode, hguard⟩ := hplace hculprit
    rw [← hguard] at hspan
    use culprit.place, node, hnode, ?_, hspan.1, hspan.2
    rw [cause_iff truth hnode, hculprit, Option.map_some]

/-- Some character is lit if the guard does not hold, unless its culprit has no name. -/
theorem exists_lit_marked_iff {guard : Guard} :
  (∃ i, (guard.marked truth true).Lit i)
    ↔ ∃ culprit, guard.culprit? truth = some culprit ∧ culprit.guard ≠ .leaf ""
  := by
  simp only [lit_marked_iff]
  constructor
  · rintro ⟨i, culprit, hculprit, hstart, hend⟩
    use culprit, hculprit
    rw [ne_eq, ← width_eq_zero_iff]
    omega
  · rintro ⟨culprit, hculprit, hname⟩
    rw [ne_eq, ← width_eq_zero_iff] at hname
    use guard.start culprit.place, culprit, hculprit
    omega

variable {σ : Type} {source : String → σ → Except GuardError Bool × σ}

/-- The explanation of a guard that holds is its infix form alone.  That of a guard that does not
hold is its infix form and a line with a caret, unless the first conjunct that fails is a predicate
without a name; then it is the infix form alone. -/
theorem denial_explained (guard : Guard) (fixed : Fixed source truth guard.names) (state : σ) :
  ∃ trace, ((guard.trace (recordCalls source)).run (state, [])).1 = .ok trace
    ∧ ((guard.evaluate (recordCalls source)).run (state, [])).1 = .ok (guard.holds truth)
    ∧ (guard.holds truth = true → trace.explanation = guard.render)
    ∧ (guard.holds truth = false → ∃ culprit, guard.culprit? truth = some culprit
      ∧ (culprit.guard ≠ .leaf "" → ∃ line : String, '^' ∈ line.toList
        ∧ trace.explanation = guard.render ++ "\n" ++ line)
      ∧ (culprit.guard = .leaf "" → trace.explanation = guard.render))
  := by
  use guard.marked truth true, (answers_trace fixed (state, [])).1, run_evaluate fixed (state, [])
  have hunlit : (∀ culprit, guard.culprit? truth = some culprit → culprit.guard = .leaf "") →
      (guard.marked truth true).explanation = guard.render := by
    intro hnameless
    rw [Trace.explanation_of_not_lit, guard_marked]
    rw [exists_lit_marked_iff]
    rintro ⟨culprit, hculprit, hname⟩
    exact hname (hnameless culprit hculprit)
  constructor
  · intro hholds
    apply hunlit
    intro culprit hculprit
    rw [(culprit?_eq_none truth).mpr hholds] at hculprit
    cases hculprit
  · intro hfails
    obtain ⟨culprit, hculprit⟩ := (exists_culprit_iff truth).mpr hfails
    use culprit, hculprit
    constructor
    · intro hname
      obtain ⟨i, hlit⟩ := exists_lit_marked_iff.mpr ⟨culprit, hculprit, hname⟩
      have hcaret := (Trace.getElem?_carets (Trace.lt_width_of_lit hlit)).1 hlit
      use String.ofList (Trace.carets (Trace.cells false (guard.marked truth true)))
      rw [Trace.explanation_of_lit ⟨i, hlit⟩, guard_marked, String.toList_ofList]
      exact ⟨List.mem_of_getElem? hcaret, rfl⟩
    · intro hname
      apply hunlit
      intro culprit' hculprit'
      obtain rfl := Option.some.inj (hculprit.symm.trans hculprit')
      exact hname

/-- The denial of `ticket` is explained by a line of carets. -/
theorem ticket_explained :
  Fixed (counting fun _ => true) (fun _ => true) ticket.names
    ∧ ∃ trace, ((ticket.trace (recordCalls (counting fun _ => true))).run (0, [])).1 = .ok trace
      ∧ ∃ line : String, '^' ∈ line.toList ∧ trace.explanation = ticket.render ++ "\n" ++ line
  := by
  have hfixed := fixed_counting (fun _ => true) ticket.names
  use hfixed
  obtain ⟨trace, hrun, -, -, hdenied⟩ := ticket.denial_explained hfixed 0
  use trace, hrun
  obtain ⟨culprit, hculprit, hexplained, -⟩ := hdenied rfl
  apply hexplained
  obtain rfl : { place := [2, 0], guard := .not (.leaf "late") } = culprit :=
    Option.some.inj hculprit
  exact nofun

/-- When a predicate without a name does not hold, the trace has a cause, and yet the explanation is
the infix form alone, without a line of carets. -/
theorem nameless_unexplained :
  ((leaf "").evaluate (recordCalls (counting fun _ => false))).run (0, []) = (.ok false, 1, [""])
    ∧ ∃ trace, ((leaf "").trace (recordCalls (counting fun _ => false))).run (0, [])
        = (.ok trace, 1, [""])
      ∧ trace.hasCause = true ∧ trace.explanation = (leaf "").render
      ∧ ¬ ∃ line : String, '^' ∈ line.toList
        ∧ trace.explanation = (leaf "").render ++ "\n" ++ line
  := by
  have hexplanation : (Trace.leaf { allow := some false, cause := true } "").explanation
      = (leaf "").render := rfl
  use rfl, .leaf { allow := some false, cause := true } "", rfl, rfl, hexplanation
  rintro ⟨line, -, hline⟩
  have hlength := congrArg String.length (hexplanation.symm.trans hline)
  rw [String.length_append, String.length_append] at hlength
  change _ = _ + 1 + _ at hlength
  omega

end GuardedMachine.Guard

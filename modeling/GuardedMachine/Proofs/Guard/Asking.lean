import GuardedMachine.Guard.Evaluate
import GuardedMachine.Guard.Trace
import GuardedMachine.Proofs.Judgement

/-!
# What guards ask

Evaluating or tracing a guard asks the names of its leaves and does nothing else.  So it runs when
all these names can be asked (`runs_evaluate`, `runs_trace`), and when every name has a single
answer the evaluation has the answer that plain evaluation has (`holds_evaluate_eq`).
-/

namespace GuardedMachine.Guard

variable {m : Type → Type} [Monad m] {judgement : Judgement m} {check : String → m Bool}

/-! ### Names that can be asked -/

mutual

/-- A guard can be decided when its names can be asked. -/
theorem runs_evaluate : ∀ guard : Guard,
  (∀ name ∈ guard.names, judgement.runs (check name)) → judgement.runs (guard.evaluate check)
  | .leaf name, h => h name (by simp [names])
  | .not inner, h => by
      apply Judgement.runs_bind (runs_evaluate inner h)
      intro allow
      apply judgement.runs_pure
  | .and children, h => runs_evaluateAll children h
  | .or children, h => runs_evaluateAny children h

theorem runs_evaluateAll : ∀ children : List Guard,
  (∀ name ∈ namesOf children, judgement.runs (check name)) →
    judgement.runs (evaluateAll check children)
  | [], _ => judgement.runs_pure true
  | child :: rest, h => by
      apply Judgement.runs_bind (runs_evaluate child fun name hn => h name (by simp [namesOf, hn]))
      rintro (_ | _)
      · apply judgement.runs_pure
      · apply runs_evaluateAll rest fun name hn => h name (by simp [namesOf, hn])

theorem runs_evaluateAny : ∀ children : List Guard,
  (∀ name ∈ namesOf children, judgement.runs (check name)) →
    judgement.runs (evaluateAny check children)
  | [], _ => judgement.runs_pure false
  | child :: rest, h => by
      apply Judgement.runs_bind (runs_evaluate child fun name hn => h name (by simp [namesOf, hn]))
      rintro (_ | _)
      · apply runs_evaluateAny rest fun name hn => h name (by simp [namesOf, hn])
      · apply judgement.runs_pure

end

mutual

/-- A guard can be traced in any scope when its names can be asked. -/
theorem runs_traceIn : ∀ (guard : Guard) (scope : Scope),
  (∀ name ∈ guard.names, judgement.runs (check name)) →
    judgement.runs (guard.traceIn check scope)
  | .leaf name, scope, h => by
      rw [traceIn]
      split
      · apply judgement.runs_pure
      · apply Judgement.runs_bind (h name (by simp [names]))
        intro allow
        apply judgement.runs_pure
  | .not inner, scope, h => by
      apply Judgement.runs_bind (runs_traceIn inner _ h)
      intro inner
      apply judgement.runs_pure
  | .and children, scope, h => by
      apply Judgement.runs_bind (runs_traceAllIn false children _ h)
      intro children
      apply judgement.runs_pure
  | .or children, scope, h => by
      apply Judgement.runs_bind (runs_traceAllIn true children _ h)
      intro children
      apply judgement.runs_pure

theorem runs_traceAllIn (stop : Bool) : ∀ (children : List Guard) (scope : Scope),
  (∀ name ∈ namesOf children, judgement.runs (check name)) →
    judgement.runs (traceAllIn check stop children scope)
  | [], _, _ => judgement.runs_pure _
  | child :: rest, scope, h => by
      apply Judgement.runs_bind
        (runs_traceIn child scope fun name hn => h name (by simp [namesOf, hn]))
      intro node
      apply Judgement.runs_bind
        (runs_traceAllIn stop rest _ fun name hn => h name (by simp [namesOf, hn]))
      intro nodes
      apply judgement.runs_pure

end

/-- A guard can be traced when its names can be asked. -/
theorem runs_trace (guard : Guard) (h : ∀ name ∈ guard.names, judgement.runs (check name)) :
  judgement.runs (guard.trace check)
  := runs_traceIn guard Scope.root h

/-! ### Names with a single answer -/

variable {check : String → ExceptT GuardError m Bool} {answers : String → Except GuardError Bool}

mutual

/-- If every name has a single answer, deciding a guard has the answer that follows from them. -/
theorem holds_evaluate_eq (h : ∀ name, judgement.holds (· = answers name) (check name).run) :
    ∀ guard : Guard,
  judgement.holds (· = guard.evaluate answers) (guard.evaluate check).run
  | .leaf name => h name
  | .not inner => by
      apply Judgement.holds_eq_bind (holds_evaluate_eq h inner)
      intro allow
      apply judgement.holds_eq_pure
  | .and children => holds_evaluateAll_eq h children
  | .or children => holds_evaluateAny_eq h children

theorem holds_evaluateAll_eq (h : ∀ name, judgement.holds (· = answers name) (check name).run) :
    ∀ children : List Guard,
  judgement.holds (· = evaluateAll answers children) (evaluateAll check children).run
  | [] => judgement.holds_eq_pure _
  | child :: rest => by
      apply Judgement.holds_eq_bind (holds_evaluate_eq h child)
      rintro (_ | _)
      · apply judgement.holds_eq_pure
      · apply holds_evaluateAll_eq h rest

theorem holds_evaluateAny_eq (h : ∀ name, judgement.holds (· = answers name) (check name).run) :
    ∀ children : List Guard,
  judgement.holds (· = evaluateAny answers children) (evaluateAny check children).run
  | [] => judgement.holds_eq_pure _
  | child :: rest => by
      apply Judgement.holds_eq_bind (holds_evaluate_eq h child)
      rintro (_ | _)
      · apply holds_evaluateAny_eq h rest
      · apply judgement.holds_eq_pure

end

end GuardedMachine.Guard

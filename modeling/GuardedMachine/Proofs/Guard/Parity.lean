import GuardedMachine.Guard.Evaluate
import GuardedMachine.Guard.Trace
import Mathlib.Tactic.Use

/-!
# Tracing and evaluating agree

Tracing a guard asks the predicates that evaluating it asks, in the same order, and the root of
the trace holds the answer of the evaluation.  `allow_trace` states this as one equation in every
monad.  For predicates that keep a state and may be undefined, `trace_agrees_evaluate` spells it
out: the calls, the state that is left, and the answer or the error are the same.
-/

namespace GuardedMachine.Guard

/-! ### Skipped guards -/

/-- The mark of a node that is skipped. -/
def skippedMark : Mark :=
  { allow := none, cause := false }

mutual

/-- The trace of a guard of which nothing is asked. -/
def skipped : Guard → Trace
  | .leaf name => .leaf skippedMark name
  | .not inner => .not skippedMark (skipped inner)
  | .and children => .and skippedMark (skippedAll children)
  | .or children => .or skippedMark (skippedAll children)

/-- The traces of several guards of which nothing is asked. -/
def skippedAll : List Guard → List Trace
  | [] => []
  | child :: rest => skipped child :: skippedAll rest

end

@[simp]
theorem allow_skipped (guard : Guard) :
  guard.skipped.allow = none
  := by
  cases guard <;> rfl

@[simp]
theorem mark_none (scope : Scope) :
  scope.mark none = skippedMark
  := by
  simp [Scope.mark, skippedMark]

variable {m : Type → Type} [Monad m] [LawfulMonad m] (check : String → m Bool)

mutual

/-- In a scope that is skipped no predicate is asked. -/
theorem traceIn_skip : ∀ (guard : Guard) (blame : Bool),
  guard.traceIn check { skip := true, blame } = pure guard.skipped
  | .leaf _, _ => by simp [traceIn, skipped]
  | .not inner, _ => by simp [traceIn, skipped, traceIn_skip inner]
  | .and children, blame => by
      simp [traceIn, skipped, traceAllIn_skip false children blame, skippedMark]
  | .or children, _ => by simp [traceIn, skipped, traceAllIn_skip true children]

/-- In a scope that is skipped none of several guards stops the others. -/
theorem traceAllIn_skip (stop : Bool) : ∀ (children : List Guard) (blame : Bool),
  traceAllIn check stop children { skip := true, blame } = pure (skippedAll children, false)
  | [], _ => by simp [traceAllIn, skippedAll]
  | child :: rest, blame => by
      simp [traceAllIn, skippedAll, traceIn_skip child blame, traceAllIn_skip stop rest blame]

end

/-! ### Guards that are decided -/

/-- Whether one of several guards answers `stop` is told by the answer of the first of them and,
if that is another answer, by the rest. -/
theorem snd_traceAllIn_cons (stop : Bool) (child : Guard) (rest : List Guard) (blame : Bool) :
  Prod.snd <$> traceAllIn check stop (child :: rest) { skip := false, blame }
    = (Trace.allow <$> child.traceIn check { skip := false, blame }) >>= fun allow =>
        if allow = some stop then pure true
        else Prod.snd <$> traceAllIn check stop rest { skip := false, blame }
  := by
  simp only [traceAllIn, map_bind, map_pure, bind_map_left, Bool.false_or]
  congr 1
  funext node
  by_cases h : node.allow = some stop
  · simp [h, traceAllIn_skip]
  · have hne : (node.allow == some stop) = false := by simp [h]
    simp [h, hne]

mutual

/-- The root of a trace holds the answer of the evaluation. -/
theorem allow_traceIn : ∀ (guard : Guard) (blame : Bool),
  Trace.allow <$> guard.traceIn check { skip := false, blame } = some <$> guard.evaluate check
  | .leaf name, blame => by
      simp [traceIn, evaluate, Trace.allow, Trace.mark, Scope.mark]
  | .not inner, blame => by
      have ih := allow_traceIn inner false
      calc Trace.allow <$> (Guard.not inner).traceIn check { skip := false, blame }
        _ = Option.map (!·) <$> Trace.allow <$> inner.traceIn check { skip := false, blame := false }
          := by simp [traceIn, Trace.allow, Trace.mark, Scope.mark]
        _ = some <$> (Guard.not inner).evaluate check
          := by simp [ih, evaluate]
  | .and children, blame => by
      have ih := snd_traceAllIn_false children blame
      calc Trace.allow <$> (Guard.and children).traceIn check { skip := false, blame }
        _ = (fun stopped => some !stopped) <$> Prod.snd <$>
              traceAllIn check false children { skip := false, blame }
          := by simp [traceIn, Trace.allow, Trace.mark]
        _ = some <$> (Guard.and children).evaluate check
          := by simp [ih, evaluate]
  | .or children, blame => by
      have ih := snd_traceAllIn_true children false
      calc Trace.allow <$> (Guard.or children).traceIn check { skip := false, blame }
        _ = some <$> Prod.snd <$>
              traceAllIn check true children { skip := false, blame := false }
          := by simp [traceIn, Trace.allow, Trace.mark, Scope.mark]
        _ = some <$> (Guard.or children).evaluate check
          := by simp [ih, evaluate]

/-- One of several guards stops a conjunction when not all of them hold. -/
theorem snd_traceAllIn_false : ∀ (children : List Guard) (blame : Bool),
  Prod.snd <$> traceAllIn check false children { skip := false, blame }
    = (!·) <$> evaluateAll check children
  | [], _ => by simp [traceAllIn, evaluateAll]
  | child :: rest, blame => by
      rw [snd_traceAllIn_cons, allow_traceIn child blame, snd_traceAllIn_false rest blame,
        evaluateAll, bind_map_left, map_bind]
      congr 1
      funext allow
      cases allow <;> simp

/-- One of several guards stops a disjunction when any of them holds. -/
theorem snd_traceAllIn_true : ∀ (children : List Guard) (blame : Bool),
  Prod.snd <$> traceAllIn check true children { skip := false, blame }
    = evaluateAny check children
  | [], _ => by simp [traceAllIn, evaluateAny]
  | child :: rest, blame => by
      rw [snd_traceAllIn_cons, allow_traceIn child blame, snd_traceAllIn_true rest blame,
        evaluateAny, bind_map_left]
      congr 1
      funext allow
      cases allow <;> simp

end

/-- Tracing a guard and evaluating it are the same computation, up to the record that the trace
keeps: the root of the trace holds the answer. -/
theorem allow_trace (guard : Guard) :
  Trace.allow <$> guard.trace check = some <$> guard.evaluate check
  := allow_traceIn check guard true

/-! ### Predicates with a state -/

variable {σ : Type}

/-- Predicates that keep a state of type `σ`, with a list of the names that they were asked, in
order.  An undefined name leaves a state as well. -/
def recordCalls (source : String → σ → Except GuardError Bool × σ) (name : String) :
    ExceptT GuardError (StateM (σ × List String)) Bool :=
  fun (state, calls) =>
    let (answer, state) := source name state
    (answer, state, calls ++ [name])

/-- A map of the result of predicates with a state leaves the state alone. -/
theorem run_map_result {α β τ : Type} (f : α → β) (program : ExceptT GuardError (StateM τ) α)
    (state : τ) :
  (f <$> program).run state = ((program.run state).1.map f, (program.run state).2)
  := by
  rw [ExceptT.run_map]
  rfl

/-- Tracing a guard and evaluating it from the same state of the predicates ask the same names in
the same order and leave the same state.  Both end with the same error, or the evaluation answers
and the root of the trace holds the answer. -/
theorem trace_agrees_evaluate (source : String → σ → Except GuardError Bool × σ) (guard : Guard)
    (state : σ) :
  let evaluated := (guard.evaluate (recordCalls source)).run (state, [])
  let traced := (guard.trace (recordCalls source)).run (state, [])
  traced.2 = evaluated.2 ∧
    ((∃ error, evaluated.1 = .error error ∧ traced.1 = .error error) ∨
      ∃ answer trace, evaluated.1 = .ok answer ∧ traced.1 = .ok trace ∧ trace.allow = some answer)
  := by
  intro evaluated traced
  have h : (traced.1.map Trace.allow, traced.2) = (evaluated.1.map some, evaluated.2) := by
    rw [← run_map_result, ← run_map_result, allow_trace]
  obtain ⟨hanswer, hstate⟩ := Prod.mk.inj h
  use hstate
  match he : evaluated.1, ht : traced.1 with
  | .error error, .error error' =>
    rw [he, ht] at hanswer
    left
    use error, rfl
    apply congrArg Except.error (Except.error.inj hanswer)
  | .ok answer, .ok trace =>
    rw [he, ht] at hanswer
    right
    use answer, trace, rfl, rfl
    apply Except.ok.inj hanswer
  | .error _, .ok _ => rw [he, ht] at hanswer; cases hanswer
  | .ok _, .error _ => rw [he, ht] at hanswer; cases hanswer

end GuardedMachine.Guard

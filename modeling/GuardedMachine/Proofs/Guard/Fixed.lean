import GuardedMachine.Proofs.Guard.Parity

/-!
# Predicates with fixed answers

Predicates may keep a state and still give every name one answer (`Fixed`).  Then a guard has one
answer, `Guard.holds`, and one trace, `Guard.marked`, that are computed without asking anything:
`answers_trace` shows that tracing returns this trace from every state and asks the names of the
leaves that have an answer in it, and `run_evaluate` that evaluating returns the answer.
-/

namespace GuardedMachine

namespace Guard

/-! ### The answer of a guard -/

/-- The answer of a guard when its names answer as `truth` tells. -/
def holds (truth : String → Bool) (guard : Guard) : Bool :=
  Id.run (guard.evaluate fun name => pure (truth name))

variable (truth : String → Bool)

@[simp]
theorem holds_leaf (name : String) :
  (leaf name).holds truth = truth name
  := rfl

@[simp]
theorem holds_not (inner : Guard) :
  (not inner).holds truth = !inner.holds truth
  := rfl

/-- A conjunction holds when all its members do. -/
@[simp]
theorem holds_and (children : List Guard) :
  (and children).holds truth = children.all (holds truth)
  := by
  induction children with
  | nil => rfl
  | cons child rest ih =>
    have hcons : (and (child :: rest)).holds truth
        = if child.holds truth then (and rest).holds truth else false := by
      rw [holds, evaluate, evaluateAll, Id.run_bind, apply_ite Id.run]
      rfl
    rw [hcons, ih, List.all_cons]
    cases child.holds truth <;> rfl

/-- A disjunction holds when one of its members does. -/
@[simp]
theorem holds_or (children : List Guard) :
  (or children).holds truth = children.any (holds truth)
  := by
  induction children with
  | nil => rfl
  | cons child rest ih =>
    have hcons : (or (child :: rest)).holds truth
        = if child.holds truth then true else (or rest).holds truth := by
      rw [holds, evaluate, evaluateAny, Id.run_bind, apply_ite Id.run]
      rfl
    rw [hcons, ih, List.any_cons]
    cases child.holds truth <;> rfl

/-! ### The trace of a guard -/

mutual

/-- The trace of a guard when its names answer as `truth` tells, in a scope that is not skipped. -/
def marked : Guard → Bool → Trace
  | .leaf name, blame => .leaf (Scope.mark { skip := false, blame } (some (truth name))) name
  | .not inner, blame =>
    .not (Scope.mark { skip := false, blame } (some !inner.holds truth)) (marked inner false)
  | .and children, blame =>
    .and { allow := some (children.all (holds truth)), cause := false }
      (markedUntil false children blame)
  | .or children, blame =>
    .or (Scope.mark { skip := false, blame } (some (children.any (holds truth))))
      (markedUntil true children false)

/-- The traces of several guards, those after the first that answers `stop` being skipped. -/
def markedUntil (stop : Bool) : List Guard → Bool → List Trace
  | [], _ => []
  | child :: rest, blame =>
    marked child blame
      :: if child.holds truth = stop then skippedAll rest else markedUntil stop rest blame

end

@[simp]
theorem allow_marked (guard : Guard) (blame : Bool) :
  (guard.marked truth blame).allow = some (guard.holds truth)
  := by
  cases guard <;> simp [marked, Trace.allow, Trace.mark, Scope.mark]

end Guard

namespace Trace

mutual

/-- The names of the leaves that have an answer, from left to right. -/
def answered : Trace → List String
  | .leaf mark name => if mark.allow.isSome then [name] else []
  | .not _ inner => answered inner
  | .and _ children => answeredOf children
  | .or _ children => answeredOf children

/-- The names of the leaves of several traces that have an answer. -/
def answeredOf : List Trace → List String
  | [] => []
  | child :: rest => answered child ++ answeredOf rest

end

end Trace

namespace Guard

mutual

/-- In a skipped guard no leaf has an answer. -/
@[simp]
theorem answered_skipped : ∀ guard : Guard,
  guard.skipped.answered = []
  | .leaf _ => rfl
  | .not inner => answered_skipped inner
  | .and children => answeredOf_skippedAll children
  | .or children => answeredOf_skippedAll children

@[simp]
theorem answeredOf_skippedAll : ∀ children : List Guard,
  Trace.answeredOf (skippedAll children) = []
  | [] => rfl
  | child :: rest => by
      rw [skippedAll, Trace.answeredOf, answered_skipped child, answeredOf_skippedAll rest,
        List.append_nil]

end

/-! ### Programs with one result -/

variable {σ α β : Type}

/-- From every state of the predicates the program returns `a`, and asks `names` on the way. -/
def Answers (names : List String) (a : α)
    (program : ExceptT GuardError (StateM (σ × List String)) α) : Prop :=
  ∀ seen, (program.run seen).1 = .ok a ∧ (program.run seen).2.2 = seen.2 ++ names

/-- The run of a program that returns continues with what follows it. -/
theorem run_bind_of_ok {τ : Type} {program : ExceptT GuardError (StateM τ) α}
    {f : α → ExceptT GuardError (StateM τ) β} {seen : τ} {a : α}
    (h : (program.run seen).1 = .ok a) :
  (program >>= f).run seen = (f a).run (program.run seen).2
  := by
  change ExceptT.bindCont f (program.run seen).1 (program.run seen).2 = _
  rw [h]
  rfl

namespace Answers

variable {names names' : List String} {a : α} {b : β}
  {program : ExceptT GuardError (StateM (σ × List String)) α}
  {f : α → ExceptT GuardError (StateM (σ × List String)) β}

theorem of_pure :
  Answers [] a (pure a : ExceptT GuardError (StateM (σ × List String)) α)
  := fun seen => ⟨rfl, (List.append_nil seen.2).symm⟩

theorem bind (h : Answers names a program) (hf : Answers names' b (f a)) :
  Answers (names ++ names') b (program >>= f)
  := by
  intro seen
  obtain ⟨hresult, hcalls⟩ := h seen
  obtain ⟨hresult', hcalls'⟩ := hf (program.run seen).2
  rw [run_bind_of_ok hresult]
  use hresult'
  rw [hcalls', hcalls, List.append_assoc]

/-- What follows a program may ask nothing more. -/
theorem finish (h : Answers names a program) (hf : Answers [] b (f a)) :
  Answers names b (program >>= f)
  := by
  rw [← List.append_nil names]
  apply h.bind hf

end Answers

/-! ### Tracing and evaluating -/

variable {source : String → σ → Except GuardError Bool × σ} {truth : String → Bool}

/-- Each of `names` has the answer that `truth` tells, whatever the state of the predicates is. -/
def Fixed (source : String → σ → Except GuardError Bool × σ) (truth : String → Bool)
    (names : List String) : Prop :=
  ∀ name ∈ names, ∀ state, (source name state).1 = .ok (truth name)

theorem Fixed.mono {names names' : List String} (h : Fixed source truth names)
    (hsub : ∀ name ∈ names', name ∈ names) :
  Fixed source truth names'
  := fun name hname => h name (hsub name hname)

/-- Asking a name with a fixed answer returns the answer. -/
theorem answers_recordCalls {name : String}
    (h : ∀ state, (source name state).1 = .ok (truth name)) :
  Answers [name] (truth name) (recordCalls source name)
  := fun seen => ⟨h seen.1, rfl⟩

mutual

/-- In a scope that is not skipped, tracing a guard with fixed answers returns one trace and asks
the leaves that have an answer in it. -/
theorem answers_traceIn : ∀ (guard : Guard) (blame : Bool), Fixed source truth guard.names →
  Answers (guard.marked truth blame).answered (guard.marked truth blame)
    (guard.traceIn (recordCalls source) { skip := false, blame })
  | .leaf name, blame, h => by
      rw [traceIn]
      apply (answers_recordCalls (h name (by simp [names]))).finish
      exact Answers.of_pure
  | .not inner, blame, h => by
      rw [traceIn]
      apply (answers_traceIn inner false h).finish
      rw [allow_marked]
      exact Answers.of_pure
  | .and children, blame, h => by
      rw [traceIn]
      apply (answers_traceAllIn false children blame h).finish
      have hall : (!children.any fun child => child.holds truth == false)
          = children.all (holds truth) := by simp [List.not_any_eq_all_not]
      simp only [hall]
      exact Answers.of_pure
  | .or children, blame, h => by
      rw [traceIn]
      apply (answers_traceAllIn true children false h).finish
      have hany : (children.any fun child => child.holds truth == true)
          = children.any (holds truth) := by simp
      rw [hany]
      exact Answers.of_pure

/-- Tracing several guards with fixed answers returns one list of traces and tells whether one of
the guards answers `stop`. -/
theorem answers_traceAllIn (stop : Bool) : ∀ (children : List Guard) (blame : Bool),
    Fixed source truth (namesOf children) →
  Answers (Trace.answeredOf (markedUntil truth stop children blame))
    (markedUntil truth stop children blame, children.any fun child => child.holds truth == stop)
    (traceAllIn (recordCalls source) stop children { skip := false, blame })
  | [], blame, _ => Answers.of_pure
  | child :: rest, blame, h => by
      rw [traceAllIn, markedUntil, Trace.answeredOf, List.any_cons]
      apply (answers_traceIn child blame (h.mono (by simp +contextual [namesOf]))).bind
      rw [allow_marked]
      by_cases hstop : child.holds truth = stop
      · simp only [hstop, if_true, beq_self_eq_true, Bool.true_or, Bool.or_true, traceAllIn_skip,
          answeredOf_skippedAll, pure_bind]
        exact Answers.of_pure
      · have hsome : (some (child.holds truth) == some stop) = false := by simp [hstop]
        have hany : (child.holds truth == stop) = false := by simp [hstop]
        simp only [hsome, hany, if_neg hstop, Bool.false_or]
        apply (answers_traceAllIn stop rest blame (h.mono (by simp +contextual [namesOf]))).finish
        exact Answers.of_pure

end

/-- Tracing a guard with fixed answers returns one trace and asks the leaves that have an answer in
it. -/
theorem answers_trace {guard : Guard} (h : Fixed source truth guard.names) :
  Answers (guard.marked truth true).answered (guard.marked truth true)
    (guard.trace (recordCalls source))
  := answers_traceIn guard true h

/-- Tracing a guard leaves the predicates as evaluating it does, and its result tells that of the
evaluation. -/
theorem run_trace_eq {τ : Type} (check : String → ExceptT GuardError (StateM τ) Bool)
    (guard : Guard) (seen : τ) :
  (((guard.trace check).run seen).1.map Trace.allow, ((guard.trace check).run seen).2)
    = (((guard.evaluate check).run seen).1.map some, ((guard.evaluate check).run seen).2)
  := by
  rw [← run_map_result, ← run_map_result, allow_trace]

/-- Evaluating a guard with fixed answers returns its answer. -/
theorem run_evaluate {guard : Guard} (h : Fixed source truth guard.names)
    (seen : σ × List String) :
  ((guard.evaluate (recordCalls source)).run seen).1 = .ok (guard.holds truth)
  := by
  have heq := congrArg Prod.fst (run_trace_eq (recordCalls source) guard seen)
  simp only [(answers_trace h seen).1, Except.map, allow_marked] at heq
  cases hresult : ((guard.evaluate (recordCalls source)).run seen).1 with
  | error error =>
    rw [hresult] at heq
    cases heq
  | ok answer =>
    rw [hresult] at heq
    rw [Option.some.inj (Except.ok.inj heq)]

/-! ### An example -/

/-- Predicates that answer as `truth` tells and count how often they are asked. -/
def counting (truth : String → Bool) (name : String) (count : Nat) : Except GuardError Bool × Nat :=
  (.ok (truth name), count + 1)

theorem fixed_counting (truth : String → Bool) (names : List String) :
  Fixed (counting truth) truth names
  := fun _ _ _ => rfl

/-- Who has a ticket enters an open hall, or any hall if staff, unless late or noisy, and alone. -/
def ticket : Guard :=
  .and [.leaf "ticket", .or [.leaf "open", .leaf "staff"],
    .and [.not (.leaf "late"), .leaf "quiet"], .leaf "alone"]

end Guard

end GuardedMachine

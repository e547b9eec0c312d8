import GuardedMachine.Proofs.Guard.Mirror

/-!
# The calls of a guard

Evaluating or tracing a guard asks some of the names of the guard, in their order and each leaf once
at most, and goes on as long as they are answered: the first error ends it and is its result
(`names_bound_calls`).  The leaves that are asked are those that have an answer in the trace.  Hence
nothing fails if all names are defined, whatever state the predicates keep.

`Asks` is the statement about programs that is carried through the guard.
-/

namespace GuardedMachine.Guard

variable {σ α β : Type}

/-! ### Calls and their results -/

/-- A name that was asked, and what was answered. -/
abbrev Asked : Type :=
  String × Except GuardError Bool

/-- Predicates that keep a state of type `σ`, with a list of the names that they were asked and of
what they answered, in order. -/
def recordAnswers (source : String → σ → Except GuardError Bool × σ) (name : String) :
    ExceptT GuardError (StateM (σ × List Asked)) Bool :=
  fun (state, calls) =>
    let (answer, state) := source name state
    (answer, state, calls ++ [(name, answer)])

/-- All calls were answered without an error. -/
def Succeeded (calls : List Asked) : Prop :=
  ∀ call ∈ calls, ∃ answer, call.2 = .ok answer

/-- Each of `names` is defined, whatever the state of the predicates is. -/
def Defined (source : String → σ → Except GuardError Bool × σ) (names : List String) : Prop :=
  ∀ name ∈ names, ∀ state, ∃ answer, (source name state).1 = .ok answer

/-- The calls that lead to a result ask some of the names, in their order. -/
structure LeadTo (source : String → σ → Except GuardError Bool × σ) (names : List String)
    (calls : List Asked) (result : Except GuardError α) : Prop where
  /-- No name is asked more often than it stands among the names. -/
  sublist : (calls.map Prod.fst).Sublist names
  answered : ∀ call ∈ calls, ∃ state, call.2 = (source call.1 state).1
  succeeded : ∀ a, result = .ok a → Succeeded calls
  /-- An error is the answer to the last call. -/
  failed : ∀ error, result = .error error →
    ∃ earlier name, calls = earlier ++ [(name, .error error)] ∧ Succeeded earlier

variable {source : String → σ → Except GuardError Bool × σ} {names names' : List String}
  {calls calls' : List Asked}

theorem Succeeded.append (h : Succeeded calls) (h' : Succeeded calls') :
  Succeeded (calls ++ calls')
  := by
  intro call hcall
  rcases List.mem_append.mp hcall with hcall | hcall
  · apply h call hcall
  · apply h' call hcall

/-- If no call is made there is no error. -/
theorem leadTo_nil (source : String → σ → Except GuardError Bool × σ) (names : List String)
    (a : α) :
  LeadTo source names [] (.ok a)
  where
  sublist := List.nil_sublist names
  answered := by rintro _ ⟨⟩
  succeeded := by rintro _ _ _ ⟨⟩
  failed := by rintro _ ⟨⟩

/-- An error is the result whatever would have followed. -/
theorem LeadTo.error {error : GuardError}
    (h : LeadTo source names calls (.error error : Except _ α)) :
  LeadTo source (names ++ names') calls (.error error : Except _ β)
  where
  sublist := h.sublist.trans (List.sublist_append_left names names')
  answered := h.answered
  succeeded := by rintro _ ⟨⟩
  failed := by
    rintro _ ⟨⟩
    apply h.failed _ rfl

/-- Calls without an error are followed by others. -/
theorem LeadTo.append {a : α} {result : Except GuardError β}
    (h : LeadTo source names calls (.ok a)) (h' : LeadTo source names' calls' result) :
  LeadTo source (names ++ names') (calls ++ calls') result
  where
  sublist := by
    rw [List.map_append]
    apply h.sublist.append h'.sublist
  answered call hcall := by
    rcases List.mem_append.mp hcall with hcall | hcall
    · apply h.answered call hcall
    · apply h'.answered call hcall
  succeeded b hb := (h.succeeded a rfl).append (h'.succeeded b hb)
  failed error herror := by
    obtain ⟨earlier, name, rfl, hearlier⟩ := h'.failed error herror
    use calls ++ earlier, name, (List.append_assoc _ _ _).symm
    apply (h.succeeded a rfl).append hearlier

/-- What leads to a result leads to any other that tells the same. -/
theorem LeadTo.of_map_eq {γ : Type} {f : α → γ} {g : β → γ} {result : Except GuardError α}
    {result' : Except GuardError β} (h : LeadTo source names calls result)
    (heq : result.map f = result'.map g) :
  LeadTo source names calls result'
  := by
  cases result with
  | error error =>
    cases result' with
    | error error' =>
      obtain rfl := Except.error.inj heq
      rw [← List.append_nil names]
      exact h.error
    | ok b => cases heq
  | ok a =>
    cases result' with
    | error error' => cases heq
    | ok b =>
      use h.sublist, h.answered
      · intro _ _
        apply h.succeeded a rfl
      · rintro _ ⟨⟩

/-- Calls of names that are defined lead to a result. -/
theorem LeadTo.exists_ok {result : Except GuardError α} (h : LeadTo source names calls result)
    (hdefined : Defined source names) :
  ∃ a, result = .ok a
  := by
  cases hresult : result with
  | ok a => use a
  | error error =>
    obtain ⟨earlier, name, rfl, -⟩ := h.failed error hresult
    have hlast : (name, .error error) ∈ earlier ++ [(name, .error error)] := by
      apply List.mem_append_right _ (List.mem_singleton_self _)
    have hname : name ∈ names := by
      apply h.sublist.subset
      apply List.mem_map.mpr ⟨_, hlast, rfl⟩
    obtain ⟨state, hstate⟩ := h.answered _ hlast
    obtain ⟨answer, hanswer⟩ := hdefined name hname state
    cases hstate.trans hanswer

/-! ### Programs that ask names -/

/-- From every state of the predicates the program makes calls that lead to its result, and if that
is no error, `tells` holds of the names that were asked and of the result. -/
def Asks (source : String → σ → Except GuardError Bool × σ) (names : List String)
    (tells : List String → α → Prop)
    (program : ExceptT GuardError (StateM (σ × List Asked)) α) : Prop :=
  ∀ seen, ∃ calls, (program.run seen).2.2 = seen.2 ++ calls
    ∧ LeadTo source names calls (program.run seen).1
    ∧ ∀ a, (program.run seen).1 = .ok a → tells (calls.map Prod.fst) a

/-- The run of a program that fails ends with the error. -/
theorem run_bind_of_error {τ : Type} {program : ExceptT GuardError (StateM τ) α}
    {f : α → ExceptT GuardError (StateM τ) β} {seen : τ} {error : GuardError}
    (h : (program.run seen).1 = .error error) :
  (program >>= f).run seen = (.error error, (program.run seen).2)
  := by
  change ExceptT.bindCont f (program.run seen).1 (program.run seen).2 = _
  rw [h]
  rfl

namespace Asks

variable {tells : List String → α → Prop} {tells' : List String → β → Prop}
  {program : ExceptT GuardError (StateM (σ × List Asked)) α}
  {f : α → ExceptT GuardError (StateM (σ × List Asked)) β}

theorem of_pure {a : α} (h : tells [] a) :
  Asks source names tells (pure a)
  := by
  intro seen
  use [], (List.append_nil _).symm, leadTo_nil source names a
  rintro _ ⟨⟩
  exact h

theorem bind (h : Asks source names tells program)
    (hf : ∀ asked a, tells asked a →
      Asks source names' (fun further b => tells' (asked ++ further) b) (f a)) :
  Asks source (names ++ names') tells' (program >>= f)
  := by
  intro seen
  obtain ⟨calls, hcalls, hleads, htells⟩ := h seen
  cases hresult : (program.run seen).1 with
  | error error =>
    rw [run_bind_of_error hresult]
    rw [hresult] at hleads
    use calls, hcalls, hleads.error
    rintro _ ⟨⟩
  | ok a =>
    rw [run_bind_of_ok hresult]
    rw [hresult] at hleads
    obtain ⟨further, hfurther, hleads', htells'⟩ := hf _ a (htells a hresult) (program.run seen).2
    use calls ++ further
    refine ⟨?_, hleads.append hleads', ?_⟩
    · rw [hfurther, hcalls, List.append_assoc]
    · rw [List.map_append]
      exact htells'

/-- What follows a program may ask nothing more. -/
theorem finish (h : Asks source names tells program)
    (hf : ∀ asked a, tells asked a → Asks source [] (fun further b => tells' (asked ++ further) b)
      (f a)) :
  Asks source names tells' (program >>= f)
  := by
  rw [← List.append_nil names]
  apply h.bind hf

end Asks

/-- Asking a name is a call. -/
theorem asks_recordAnswers (name : String) :
  Asks source [name] (fun asked _ => asked = [name]) (recordAnswers source name)
  := by
  intro seen
  use [(name, (source name seen.1).1)], rfl
  constructor
  · constructor
    · exact List.Sublist.refl _
    · intro call hcall
      obtain rfl := List.mem_singleton.mp hcall
      exact ⟨seen.1, rfl⟩
    · intro answer hanswer call hcall
      obtain rfl := List.mem_singleton.mp hcall
      exact ⟨answer, hanswer⟩
    · intro error herror
      use [], name
      constructor
      · exact congrArg (fun answer => [(name, answer)]) herror
      · rintro _ ⟨⟩
  · intro _ _
    rfl

/-! ### Guards -/

mutual

/-- In a scope that is not skipped, tracing a guard asks the leaves that have an answer in the
trace. -/
theorem asks_traceIn : ∀ (guard : Guard) (blame : Bool),
  Asks source guard.names (fun asked trace => asked = trace.answered ∧ trace.guard = guard)
    (guard.traceIn (recordAnswers source) { skip := false, blame })
  | .leaf name, blame => by
      rw [traceIn]
      apply (asks_recordAnswers name).finish
      rintro _ allow rfl
      exact Asks.of_pure ⟨rfl, rfl⟩
  | .not inner, blame => by
      rw [traceIn]
      apply (asks_traceIn inner false).finish
      rintro _ trace ⟨rfl, rfl⟩
      exact Asks.of_pure ⟨List.append_nil _, rfl⟩
  | .and children, blame => by
      rw [traceIn]
      apply (asks_traceAllIn false children blame).finish
      rintro _ traces ⟨rfl, rfl⟩
      exact Asks.of_pure ⟨List.append_nil _, rfl⟩
  | .or children, blame => by
      rw [traceIn]
      apply (asks_traceAllIn true children false).finish
      rintro _ traces ⟨rfl, rfl⟩
      exact Asks.of_pure ⟨List.append_nil _, rfl⟩

/-- Tracing several guards asks the leaves that have an answer in the traces. -/
theorem asks_traceAllIn (stop : Bool) : ∀ (children : List Guard) (blame : Bool),
  Asks source (namesOf children)
    (fun asked traces => asked = Trace.answeredOf traces.1 ∧ Trace.guards traces.1 = children)
    (traceAllIn (recordAnswers source) stop children { skip := false, blame })
  | [], blame => Asks.of_pure ⟨rfl, rfl⟩
  | child :: rest, blame => by
      rw [traceAllIn]
      apply (asks_traceIn child blame).bind
      rintro _ trace ⟨rfl, hguard⟩
      cases hstops : trace.allow == some stop with
      | true =>
        -- The rest is skipped, and nothing more is asked.
        simp only [Bool.or_true, traceAllIn_skip, pure_bind]
        apply Asks.of_pure
        rw [Trace.answeredOf, answeredOf_skippedAll, Trace.guards, guards_skippedAll, hguard]
        exact ⟨rfl, rfl⟩
      | false =>
        apply (asks_traceAllIn stop rest blame).finish
        rintro _ traces ⟨rfl, hguards⟩
        apply Asks.of_pure
        rw [List.append_nil, Trace.answeredOf, Trace.guards, hguard, hguards]
        exact ⟨rfl, rfl⟩

end

/-- The names of a guard bound the calls of evaluating and of tracing it: they are asked in their
order, each leaf once at most, and an error is the answer to the last call and to no other.  What is
asked when a trace is returned are the leaves of the guard that have an answer in the trace.  If all
names are defined neither fails. -/
theorem names_bound_calls (source : String → σ → Except GuardError Bool × σ) (guard : Guard)
    (state : σ) :
  let evaluated := (guard.evaluate (recordAnswers source)).run (state, [])
  let traced := (guard.trace (recordAnswers source)).run (state, [])
  LeadTo source guard.names evaluated.2.2 evaluated.1
    ∧ LeadTo source guard.names traced.2.2 traced.1
    ∧ (∀ trace, traced.1 = .ok trace →
      traced.2.2.map Prod.fst = trace.answered ∧ trace.guard = guard)
    ∧ (Defined source guard.names →
      (∃ answer, evaluated.1 = .ok answer) ∧ ∃ trace, traced.1 = .ok trace)
  := by
  intro evaluated traced
  have hasks : Asks source guard.names _ (guard.trace (recordAnswers source)) :=
    asks_traceIn guard true
  obtain ⟨calls, hcalls, htraced, htells⟩ := hasks (state, [])
  have hcalls : traced.2.2 = calls := hcalls
  have htraced : LeadTo source guard.names traced.2.2 traced.1 := hcalls ▸ htraced
  obtain ⟨hresult, hseen⟩ := Prod.mk.inj (run_trace_eq (recordAnswers source) guard (state, []))
  have hevaluated : LeadTo source guard.names evaluated.2.2 evaluated.1 := by
    rw [← hseen]
    exact htraced.of_map_eq hresult
  refine ⟨hevaluated, htraced, ?_, ?_⟩
  · rw [hcalls]
    exact htells
  · intro hdefined
    use hevaluated.exists_ok hdefined
    exact htraced.exists_ok hdefined

/-- When everything is true, all names of `ticket` are defined.  Tracing it asks the three leaves
that have an answer in the trace. -/
theorem ticket_calls_bounded :
  Defined (counting fun _ => true) ticket.names
    ∧ ∃ trace, ((ticket.trace (recordAnswers (counting fun _ => true))).run (0, [])).1 = .ok trace
      ∧ trace.answered = ["ticket", "open", "late"] ∧ trace.guard = ticket
  := by
  have hdefined : Defined (counting fun _ => true) ticket.names := fun _ _ _ => ⟨true, rfl⟩
  obtain ⟨-, -, htrace, hreturns⟩ := names_bound_calls (counting fun _ => true) ticket 0
  obtain ⟨-, trace, hresult⟩ := hreturns hdefined
  obtain ⟨hcalls, hguard⟩ := htrace trace hresult
  exact ⟨hdefined, trace, hresult, hcalls.symm, hguard⟩

end GuardedMachine.Guard

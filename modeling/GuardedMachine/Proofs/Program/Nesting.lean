import GuardedMachine.Proofs.Judgement

/-!
# Nested calls

The calls of a run are nested: a call is answered before the call that made it.
`Moment.Nested` says so of two moments of a run, and tells what the call that is open at both did
itself in between: which calls it made, and when they were answered.  Calls made while these were
open are not among its own moments.

Every contract may be strengthened by what is known of nesting (`Contract.nested`), and is fulfilled
then by bodies that would fulfil it anyway (`Contract.fulfils_nested`).
-/

namespace GuardedMachine

variable {Call : Type} {Answer : Call → Type} {W ε α : Type}

namespace Moment

/-- The call that is made or answered at a moment. -/
def call : Moment Call Answer W → Call
  | .called c _ => c
  | .answered c _ _ => c

/-- The calls that have been made and not answered, each with the world in which it was made, the
innermost first. -/
def opened : List (Moment Call Answer W) → List (Call × W)
  | [] => []
  | .called c world :: earlier => (c, world) :: opened earlier
  | .answered _ _ _ :: earlier => (opened earlier).tail

theorem openCalls_eq_map (history : List (Moment Call Answer W)) :
  openCalls history = (opened history).map Prod.fst
  := by
  induction history with
  | nil => rfl
  | cons moment earlier ih =>
    cases moment with
    | called c world => rw [openCalls, opened, List.map_cons, ih]
    | answered c answer world => rw [openCalls, opened, List.map_tail, ih]

/-- One history continues another with the given moments, each call made and then answered, and
with whatever happened while these calls were open. -/
inductive Nested : List (Moment Call Answer W) → List (Moment Call Answer W) →
    List (Moment Call Answer W) → Prop where
  | refl (history : List (Moment Call Answer W)) : Nested history [] history
  | call {history moments before inner later : List (Moment Call Answer W)} {c : Call}
      {answer : Answer c} {world world' : W} :
    Nested history moments before → Nested (.called c world :: before) inner later →
      Nested history (moments ++ [.called c world, .answered c answer world'])
        (.answered c answer world' :: later)

variable {history history' history'' moments moments' : List (Moment Call Answer W)}

theorem Nested.trans (h : Nested history moments history')
    (h' : Nested history' moments' history'') :
  Nested history (moments ++ moments') history''
  := by
  induction h' with
  | refl => rwa [List.append_nil]
  | call _ hinner ih _ =>
    rw [← List.append_assoc]
    apply Nested.call (ih h) hinner

/-- The same calls are open at both ends. -/
theorem Nested.opened_eq (h : Nested history moments history') :
  opened history' = opened history
  := by
  induction h with
  | refl => rfl
  | call _ _ ih ihinner => rw [opened, ihinner, opened, List.tail_cons, ih]

theorem Nested.openCalls_eq (h : Nested history moments history') :
  openCalls history' = openCalls history
  := by rw [openCalls_eq_map, openCalls_eq_map, h.opened_eq]

/-- What happens while calls are made and answered comes after what happened before. -/
theorem Nested.suffix (h : Nested history moments history') :
  history <:+ history'
  := by
  induction h with
  | refl => apply List.suffix_refl
  | @call history moments before inner later c answer world world' _ _ ih ihinner =>
    have hcalled : history <:+ .called c world :: before := ih.trans (List.suffix_cons _ _)
    apply (hcalled.trans ihinner).trans (List.suffix_cons _ _)

end Moment

namespace Contract

/-- A contract, and that a call has been answered after all that happened while it was open. -/
def nested (contract : Contract Call Answer W) : Contract Call Answer W where
  pre := contract.pre
  post c world history answer world' history' :=
    contract.post c world history answer world' history' ∧
      ∃ moments later, Moment.Nested (.called c world :: history) moments later
        ∧ history' = .answered c answer world' :: later

variable {contract : Contract Call Answer W} {good : W → List (Moment Call Answer W) → Prop}
  {goal : α → W → List (Moment Call Answer W) → Prop} {world : W}
  {history : List (Moment Call Answer W)}

/-- The calls that a program makes are nested. -/
theorem Ensures.nested {program : Program Call Answer W ε α}
    (h : contract.nested.Ensures program goal world history) :
  contract.nested.Ensures program
    (fun result world' history' =>
      goal result world' history' ∧ ∃ moments, Moment.Nested history moments history')
    world history
  := by
  induction program generalizing world history with
  | done result => exact ⟨h, [], .refl history⟩
  | fail error => trivial
  | read next ih => apply ih _ h
  | write world' next ih => apply ih h
  | call c next ih =>
    use h.1
    intro answer world' history' hcontinues hanswer
    obtain ⟨moments, later, hinner, rfl⟩ := hanswer.2
    apply (ih answer (h.2 _ _ _ hcontinues hanswer)).mono
    rintro result world'' history'' - ⟨hgoal, moments', hrest⟩
    exact ⟨hgoal, _, (Moment.Nested.call (.refl history) hinner).trans hrest⟩

/-- Bodies that carry out what a contract promises, given that the calls that they make are nested,
are nested themselves. -/
theorem fulfils_nested {body : (c : Call) → Program Call Answer W ε (Answer c)}
    (h : ∀ c world history, contract.pre c world history →
      contract.nested.CarriesOut good c (body c) (contract.post c world history) world history) :
  contract.nested.Fulfils good body
  := by
  intro c world history hpre
  obtain ⟨hcalled, hbody⟩ := h c world history hpre
  use hcalled
  apply hbody.nested.mono
  rintro answer world' history' - ⟨hgoal, moments, hnested⟩ hcontinues
  obtain ⟨hgood, hpost⟩ := hgoal hcontinues
  exact ⟨hgood, hpost, moments, history', hnested, rfl⟩

end Contract

end GuardedMachine

import GuardedMachine.Proofs.Program.Contract

/-!
# Promises that rest on others

Once a contract is known to be fulfilled, more may be promised of the same calls, and what the
contract promises need not be proved again: `Contract.given` is the contract under which the bodies
are then looked at, which allows every call and promises both, and `Contract.Fulfils.and_given` puts
the two together.
-/

namespace GuardedMachine.Contract

variable {Call : Type} {Answer : Call → Type} {W ε α : Type}

/-- What is promised of the answer to a call, given the world and the history when it was called. -/
abbrev Promise (Call : Type) (Answer : Call → Type) (W : Type) : Type :=
  (c : Call) → W → List (Moment Call Answer W) → Answer c → W → List (Moment Call Answer W) → Prop

/-- A contract that promises more. -/
def promising (contract : Contract Call Answer W) (promise : Promise Call Answer W) :
    Contract Call Answer W where
  pre := contract.pre
  post c world history answer world' history' :=
    contract.post c world history answer world' history'
      ∧ promise c world history answer world' history'

/-- The same promises, of calls that may be made at any time. -/
def given (contract : Contract Call Answer W) (promise : Promise Call Answer W) :
    Contract Call Answer W where
  pre _ _ _ := True
  post := (contract.promising promise).post

variable {contract : Contract Call Answer W} {promise : Promise Call Answer W}
  {good good' : W → List (Moment Call Answer W) → Prop}
  {goal goal' : α → W → List (Moment Call Answer W) → Prop} {world : W}
  {history : List (Moment Call Answer W)}

/-- A program that keeps to a contract keeps to it when more is promised, and reaches both goals. -/
theorem Ensures.and_given {program : Program Call Answer W ε α}
    (h : contract.Ensures program goal world history)
    (h' : (contract.given promise).Ensures program goal' world history) :
  (contract.promising promise).Ensures program
    (fun a world' history' => goal a world' history' ∧ goal' a world' history') world history
  := by
  induction program generalizing world history with
  | done result => exact ⟨h, h'⟩
  | fail error => trivial
  | read next ih => apply ih _ h h'
  | write world' next ih => apply ih h h'
  | call c next ih =>
    use h.1
    rintro answer world' history' hcontinues ⟨hpost, hpromise⟩
    apply ih answer (h.2 _ _ _ hcontinues hpost) (h'.2 _ _ _ hcontinues ⟨hpost, hpromise⟩)

/-- Nothing need be known of a program that may make any call. -/
theorem ensures_given (program : Program Call Answer W ε α)
    (h : ∀ a world' history', goal a world' history') :
  (contract.given promise).Ensures program goal world history
  := by
  apply (ensures_of_pre (fun _ _ _ => trivial) program).mono
  intro a world' history' _ _
  apply h

/-- A program reaches the same goals when more is promised. -/
theorem Ensures.promising {program : Program Call Answer W ε α}
    (h : contract.Ensures program goal world history) :
  (contract.promising promise).Ensures program goal world history
  := by
  have hany : (contract.given promise).Ensures program (fun _ _ _ => True) world history :=
    ensures_given program fun _ _ _ => trivial
  apply (h.and_given hany).mono
  rintro a world' history' - ⟨hgoal, -⟩
  exact hgoal

/-- Where a contract is fulfilled every call is made when the contract allows it. -/
theorem Fulfils.allowed {body : (c : Call) → Program Call Answer W ε (Answer c)}
    (h : contract.Fulfils good body) :
  contract.Fulfils
    (fun world history =>
      ∀ c earlier, history = .called c world :: earlier → contract.pre c world earlier)
    body
  := by
  intro c world history hpre
  constructor
  · rintro _ _ ⟨⟩
    exact hpre
  apply (h c world history hpre).2.mono
  rintro answer world' history' - hgoal hcontinues
  refine ⟨?_, (hgoal hcontinues).2⟩
  rintro _ _ ⟨⟩

/-- Bodies that fulfil a contract keep more promises if they do so given that all calls keep both. -/
theorem Fulfils.and_given {body : (c : Call) → Program Call Answer W ε (Answer c)}
    (h : contract.Fulfils good body)
    (h' : ∀ c world history, contract.pre c world history →
      good' world (.called c world :: history) ∧
        (contract.given promise).Ensures (body c)
          (fun answer world' history' =>
            contract.post c world history answer world' (.answered c answer world' :: history') →
              good' world' (.answered c answer world' :: history')
                ∧ promise c world history answer world' (.answered c answer world' :: history'))
          world (.called c world :: history)) :
  (contract.promising promise).Fulfils
    (fun world history => good world history ∧ good' world history) body
  := by
  intro c world history hpre
  obtain ⟨hcalled, hbody⟩ := h c world history hpre
  obtain ⟨hcalled', hbody'⟩ := h' c world history hpre
  use ⟨hcalled, hcalled'⟩
  apply (hbody.and_given hbody').mono
  rintro answer world' history' - ⟨hgoal, hgoal'⟩ hcontinues
  obtain ⟨hgood, hpost⟩ := hgoal hcontinues
  obtain ⟨hgood', hpromise⟩ := hgoal' hpost
  exact ⟨⟨hgood, hgood'⟩, hpost, hpromise⟩

end GuardedMachine.Contract

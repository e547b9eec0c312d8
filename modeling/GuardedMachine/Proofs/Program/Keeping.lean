import GuardedMachine.Proofs.Judgement

/-!
# Invariants of runs

An invariant that every body keeps holds at every moment of a run, whatever is called.  The
contract `Contract.keeping` allows calls of which some property holds, whenever the invariant
holds, and promises that the invariant holds again.
-/

namespace GuardedMachine

variable {Call : Type} {Answer : Call → Type} {W ε α : Type}

namespace Contract

/-- The contract that allows some calls and keeps an invariant. -/
def keeping (allowed : Call → Prop) (invariant : W → List (Moment Call Answer W) → Prop) :
    Contract Call Answer W where
  pre c world history := allowed c ∧ invariant world history
  post _ _ _ _ world' history' := invariant world' history'

variable {allowed : Call → Prop} {invariant : W → List (Moment Call Answer W) → Prop}

theorem runs_ask_keeping {c : Call} (hallowed : allowed c) :
  ((keeping allowed invariant).judgement invariant).runs
    (Program.ask c : Program Call Answer W ε (Answer c))
  := by
  intro world history hinvariant
  use ⟨hallowed, hinvariant⟩
  intro answer world' history' _ hinvariant'
  exact ⟨trivial, hinvariant'⟩

/-- An invariant that all bodies keep, and that making and answering a call keeps, holds at every
moment of a run and once it has returned. -/
theorem reaches_run_keeping {body : (c : Call) → Program Call Answer W ε (Answer c)}
    (hcalled : ∀ c world history, allowed c → invariant world history →
      invariant world (.called c world :: history))
    (hanswered : ∀ c answer world history, allowed c → invariant world history →
      invariant world (.answered c answer world :: history))
    (hbody : ∀ c, allowed c →
      ((keeping allowed invariant).judgement invariant).runs (body c))
    {program : Program Call Answer W ε α}
    (h : ((keeping allowed invariant).judgement invariant).runs program) {world : W}
    (hstart : invariant world []) (depth : Nat) :
  (program.run body depth world).Reaches invariant fun _ => invariant
  := by
  have hfulfils : (keeping allowed invariant).Fulfils invariant body := by
    rintro c world history ⟨hallowed, hinvariant⟩
    have hinvariant := hcalled c world history hallowed hinvariant
    use hinvariant
    apply (hbody c hallowed world _ hinvariant).mono
    rintro answer world' history' - ⟨-, hinvariant'⟩ _
    have hinvariant' := hanswered c answer world' history' hallowed hinvariant'
    exact ⟨hinvariant', hinvariant'⟩
  obtain ⟨hthroughout, hreturned⟩ := reaches_run hfulfils h hstart depth
  use hthroughout
  intro result hresult
  apply (hreturned result hresult).2.2

end Contract

end GuardedMachine

import GuardedMachine.Proofs.Program.Contract

/-!
# Judgements

Steps, guards and effects are programs in any monad, which differ in what callbacks may do.  A
judgement says of a program in a monad that all its results have a property, and what else it says
(an invariant of the world, say) is its own affair.  What follows for results and for sequences of
programs alone holds of every judgement, and so a fact about steps is proved once for all the ways
in which steps are run.
-/

namespace GuardedMachine

/-- A judgement on the programs of a monad: `holds P program` says that the program has only
results of which `P` holds. -/
structure Judgement (m : Type → Type) [Monad m] where
  holds : {α : Type} → (α → Prop) → m α → Prop
  holds_pure : ∀ {α : Type} {P : α → Prop} {a : α}, P a → holds P (pure a)
  holds_bind : ∀ {α β : Type} {P : α → Prop} {Q : β → Prop} {program : m α} {f : α → m β},
    holds P program → (∀ a, P a → holds Q (f a)) → holds Q (program >>= f)
  holds_map : ∀ {α β : Type} {P : α → Prop} {Q : β → Prop} {program : m α} {f : α → β},
    holds P program → (∀ a, P a → Q (f a)) → holds Q (f <$> program)
  holds_mono : ∀ {α : Type} {P Q : α → Prop} {program : m α},
    holds P program → (∀ a, P a → Q a) → holds Q program

namespace Judgement

variable {m : Type → Type} [Monad m] {ε α β : Type}

/-- The program has some result, about which nothing is said. -/
def runs (judgement : Judgement m) (program : m α) : Prop :=
  judgement.holds (fun _ => True) program

theorem runs_pure (judgement : Judgement m) (a : α) :
  judgement.runs (pure a)
  := judgement.holds_pure trivial

/-- A program all of whose results have a property runs. -/
theorem runs_of_holds {judgement : Judgement m} {P : α → Prop} {program : m α}
    (h : judgement.holds P program) :
  judgement.runs program
  := judgement.holds_mono h fun _ _ => trivial

theorem runs_bind {judgement : Judgement m} {program : m α} {f : α → m β}
    (h : judgement.runs program) (hf : ∀ a, judgement.runs (f a)) :
  judgement.runs (program >>= f)
  := judgement.holds_bind h fun a _ => hf a

/-- What each of some steps keeps is kept by these steps taken one after the other. -/
theorem holds_foldlM_of_mem {judgement : Judgement m} {P : α → Prop} {f : α → β → m α}
    {steps : List β} (hstep : ∀ b ∈ steps, ∀ a, P a → judgement.holds P (f a b)) {a : α}
    (ha : P a) :
  judgement.holds P (steps.foldlM f a)
  := by
  induction steps generalizing a with
  | nil => apply judgement.holds_pure ha
  | cons b rest ih =>
    obtain ⟨hfirst, hrest⟩ := List.forall_mem_cons.mp hstep
    rw [List.foldlM_cons]
    apply judgement.holds_bind (hfirst a ha)
    intro a' ha'
    apply ih hrest ha'

/-- What every step keeps is kept by steps taken one after the other. -/
theorem holds_foldlM {judgement : Judgement m} {P : α → Prop} {f : α → β → m α}
    (hstep : ∀ a b, P a → judgement.holds P (f a b)) (steps : List β) {a : α} (ha : P a) :
  judgement.holds P (steps.foldlM f a)
  := holds_foldlM_of_mem (fun b _ a => hstep a b) ha

/-- The judgement on plain values. -/
def value : Judgement Id where
  holds P a := P a
  holds_pure h := h
  holds_bind h hf := hf _ h
  holds_map h hf := hf _ h
  holds_mono h himp := himp _ h

/-- The judgement on programs that may fail with errors of which `failure` holds. -/
def orError (judgement : Judgement m) (failure : ε → Prop) : Judgement (ExceptT ε m) where
  holds P program := judgement.holds
    (fun | .ok a => P a | .error error => failure error) program.run
  holds_pure h := judgement.holds_pure h
  holds_bind {α β P Q program f} h hf := by
    apply judgement.holds_bind h
    rintro (error | a) hresult
    · apply judgement.holds_pure
      apply hresult
    · apply hf a hresult
  holds_map h hf := by
    apply judgement.holds_bind h
    rintro (error | a) hresult
    · apply judgement.holds_pure
      apply hresult
    · apply judgement.holds_pure
      apply hf a hresult
  holds_mono h himp := by
    apply judgement.holds_mono h
    rintro (error | a) hresult
    · apply hresult
    · apply himp a hresult

/-- A program that may fail but does not has a single result. -/
theorem holds_eq_pure (judgement : Judgement m) (a : α) :
  judgement.holds (· = (pure a : Except ε α)) (pure a : ExceptT ε m α).run
  := by
  apply judgement.holds_pure
  rfl

/-- A program that may fail and has a single result is continued by the result, if it is not an
error. -/
theorem holds_eq_bind {judgement : Judgement m} {program : ExceptT ε m α} {result : Except ε α}
    {f : α → ExceptT ε m β} {g : α → Except ε β}
    (h : judgement.holds (· = result) program.run)
    (hf : ∀ a, judgement.holds (· = g a) (f a).run) :
  judgement.holds (· = result >>= g) (program >>= f).run
  := by
  apply judgement.holds_bind h
  rintro (error | a) rfl
  · apply judgement.holds_pure
    rfl
  · apply hf a

end Judgement

variable {Call : Type} {Answer : Call → Type} {W ε : Type}

/-- The judgement on programs with calls that keep to a contract and keep an invariant. -/
def Contract.judgement (contract : Contract Call Answer W)
    (invariant : W → List (Moment Call Answer W) → Prop) :
    Judgement (Program Call Answer W ε) where
  holds P program := ∀ world history, invariant world history →
    contract.Ensures program
      (fun a world' history' => P a ∧ invariant world' history') world history
  holds_pure h _ _ hinvariant := ⟨h, hinvariant⟩
  holds_bind h hf world history hinvariant := by
    apply Contract.ensures_bind _ _ |>.mpr
    apply (h world history hinvariant).mono
    rintro a world' history' - ⟨ha, hinvariant'⟩
    apply hf a ha _ _ hinvariant'
  holds_map h hf world history hinvariant := by
    apply Contract.ensures_bind _ _ |>.mpr
    apply (h world history hinvariant).mono
    rintro a world' history' - ⟨ha, hinvariant'⟩
    exact ⟨hf a ha, hinvariant'⟩
  holds_mono h himp world history hinvariant := by
    apply (h world history hinvariant).mono
    rintro a world' history' - ⟨ha, hinvariant'⟩
    exact ⟨himp a ha, hinvariant'⟩

section Invariant

variable {contract : Contract Call Answer W} {invariant : W → List (Moment Call Answer W) → Prop}

/-- Reading the world changes nothing. -/
theorem Contract.runs_world :
  (contract.judgement invariant).runs (Program.world : Program Call Answer W ε W)
  := fun _ _ hinvariant => ⟨trivial, hinvariant⟩

/-- A change of the world runs if it keeps the invariant. -/
theorem Contract.runs_update {f : W → W}
    (h : ∀ world history, invariant world history → invariant (f world) history) :
  (contract.judgement invariant).runs (Program.update f : Program Call Answer W ε Unit)
  := fun world history hinvariant => ⟨trivial, h world history hinvariant⟩

end Invariant

/-- In a run of a program that keeps an invariant every moment is good, and once it has returned
the invariant holds and no call is open. -/
theorem Contract.reaches_run {contract : Contract Call Answer W}
    {good invariant : W → List (Moment Call Answer W) → Prop}
    {body : (c : Call) → Program Call Answer W ε (Answer c)}
    (hbody : contract.Fulfils good body) {α : Type} {P : α → Prop}
    {program : Program Call Answer W ε α} (h : (contract.judgement invariant).holds P program)
    {world : W} (hstart : invariant world []) (depth : Nat) :
  (program.run body depth world).Reaches good fun result world' history' =>
    P result ∧ Moment.openCalls history' = [] ∧ invariant world' history'
  := by
  have hserves := Contract.serves_of_bodies hbody depth
  obtain ⟨hgood, hgoal⟩ :=
    Contract.reaches_runWith hserves Moment.throughout_nil (h world [] hstart)
  use hgood
  intro result hresult
  obtain ⟨hcontinues, hP, hinvariant⟩ := hgoal result hresult
  exact ⟨hP, hcontinues.openCalls_eq, hinvariant⟩

end GuardedMachine

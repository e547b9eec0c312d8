import GuardedMachine.Proofs.Program.History

/-!
# Contracts

A contract says of every call when it may be made and what is promised once it is answered.
`Contract.Ensures program goal` is the condition under which a program makes only calls that the
contract allows and reaches its goal, provided that the promises are kept; it is computed from the
program alone.  `Contract.serves_of_bodies` is the induction on the depth of a run: if the body of
every call ensures what is promised of it, the promises are kept in every run, at every depth and
at every moment, whether or not the run comes to an end.
-/

namespace GuardedMachine

variable {Call : Type} {Answer : Call → Type} {W ε α β : Type}

/-- When calls may be made and what is promised of their answers. -/
structure Contract (Call : Type) (Answer : Call → Type) (W : Type) where
  /-- When a call may be made. -/
  pre : Call → W → List (Moment Call Answer W) → Prop
  /-- What holds, given the world and the history when the call was made, of the answer and of the
  world and the history once it is answered. -/
  post : (c : Call) → W → List (Moment Call Answer W) → Answer c → W →
    List (Moment Call Answer W) → Prop

/-- Every moment of a run is good, and a run that returns reaches the goal. -/
def Run.Reaches (good : W → List (Moment Call Answer W) → Prop)
    (goal : α → W → List (Moment Call Answer W) → Prop) (run : Run Call Answer W ε α) : Prop :=
  Moment.Throughout good run.history
    ∧ ∀ result, run.ending = .returned result → goal result run.world run.history

/-- What is good and what is reached may be replaced by what follows from both. -/
theorem Run.Reaches.mono {run : Run Call Answer W ε α}
    {good good' : W → List (Moment Call Answer W) → Prop}
    {goal goal' : α → W → List (Moment Call Answer W) → Prop} (h : run.Reaches good goal)
    (hgood : ∀ world history, good world history → good' world history)
    (hgoal : ∀ a world history, goal a world history → goal' a world history) :
  run.Reaches good' goal'
  := by
  use fun moment earlier hmoment => hgood _ _ (h.1 moment earlier hmoment)
  intro result hresult
  apply hgoal _ _ _ (h.2 result hresult)

/-- A run that does two things does both. -/
theorem Run.Reaches.and {run : Run Call Answer W ε α}
    {good good' : W → List (Moment Call Answer W) → Prop}
    {goal goal' : α → W → List (Moment Call Answer W) → Prop} (h : run.Reaches good goal)
    (h' : run.Reaches good' goal') :
  run.Reaches (fun world history => good world history ∧ good' world history)
    fun a world history => goal a world history ∧ goal' a world history
  := by
  use fun moment earlier hmoment => ⟨h.1 moment earlier hmoment, h'.1 moment earlier hmoment⟩
  intro result hresult
  exact ⟨h.2 result hresult, h'.2 result hresult⟩

namespace Contract

variable (contract : Contract Call Answer W)

/-- The condition under which a program keeps to the contract and reaches a goal. -/
def Ensures : Program Call Answer W ε α → (α → W → List (Moment Call Answer W) → Prop) →
    W → List (Moment Call Answer W) → Prop
  | .done result, goal, world, history => goal result world history
  | .fail _, _, _, _ => True
  | .read next, goal, world, history => Ensures (next world) goal world history
  | .write world next, goal, _, history => Ensures next goal world history
  | .call c next, goal, world, history =>
    contract.pre c world history ∧ ∀ answer world' history',
      Moment.Continues history history' →
        contract.post c world history answer world' history' →
          Ensures (next answer) goal world' history'

/-! ### Rules -/

section Rules

variable {contract} {goal : α → W → List (Moment Call Answer W) → Prop}
  {world : W} {history : List (Moment Call Answer W)}

@[simp]
theorem ensures_pure {result : α} :
  contract.Ensures (pure result : Program Call Answer W ε α) goal world history
    ↔ goal result world history
  := Iff.rfl

@[simp]
theorem ensures_world {goal : W → W → List (Moment Call Answer W) → Prop} :
  contract.Ensures (Program.world : Program Call Answer W ε W) goal world history
    ↔ goal world world history
  := Iff.rfl

@[simp]
theorem ensures_update {f : W → W} {goal : Unit → W → List (Moment Call Answer W) → Prop} :
  contract.Ensures (Program.update f : Program Call Answer W ε Unit) goal world history
    ↔ goal () (f world) history
  := Iff.rfl

@[simp]
theorem ensures_bind (program : Program Call Answer W ε α) (f : α → Program Call Answer W ε β)
    {goal : β → W → List (Moment Call Answer W) → Prop} :
  contract.Ensures (program >>= f) goal world history
    ↔ contract.Ensures program (fun a => contract.Ensures (f a) goal) world history
  := by
  change contract.Ensures (program.bind f) goal world history ↔ _
  induction program generalizing world history with
  | done result => apply Iff.rfl
  | fail error => apply Iff.rfl
  | read next ih => apply ih
  | write world' next ih => apply ih
  | call c next ih => simp only [Program.bind, Ensures, ih]

/-- A goal may be replaced by one that follows from it in every continued history. -/
theorem Ensures.mono {program : Program Call Answer W ε α}
    {goal' : α → W → List (Moment Call Answer W) → Prop}
    (h : contract.Ensures program goal world history)
    (himp : ∀ a world' history', Moment.Continues history history' → goal a world' history' →
      goal' a world' history') :
  contract.Ensures program goal' world history
  := by
  induction program generalizing world history with
  | done result => apply himp _ _ _ (Moment.Continues.refl _) h
  | fail error => trivial
  | read next ih => apply ih _ h himp
  | write world' next ih => apply ih h himp
  | call c next ih =>
    use h.1
    intro answer world' history' hc hpost
    apply ih _ (h.2 _ _ _ hc hpost)
    intro a world'' history'' hc' hgoal
    apply himp _ _ _ (hc.trans hc') hgoal

/-- A program keeps to a contract that allows every call at any time. -/
theorem ensures_of_pre (h : ∀ c world history, contract.pre c world history)
    (program : Program Call Answer W ε α) :
  contract.Ensures program (fun _ _ _ => True) world history
  := by
  induction program generalizing world history with
  | done result => trivial
  | fail error => trivial
  | read next ih => apply ih
  | write world' next ih => apply ih
  | call c next ih =>
    use h c world history
    intro answer world' history' _ _
    apply ih

end Rules

/-! ### Soundness -/

/-- Calls are served as a contract promises, from histories of which every moment is good. -/
def Serves (good : W → List (Moment Call Answer W) → Prop)
    (serve : (c : Call) → W → List (Moment Call Answer W) → Run Call Answer W ε (Answer c)) :
    Prop :=
  ∀ c world history, contract.pre c world history → Moment.Throughout good history →
    (serve c world history).Reaches good fun answer world' history' =>
      Moment.Continues history history' ∧ contract.post c world history answer world' history'

variable {contract} {good : W → List (Moment Call Answer W) → Prop}
  {body : (c : Call) → Program Call Answer W ε (Answer c)}

/-- A program whose calls are served as promised reaches what it ensures. -/
theorem reaches_runWith
    {serve : (c : Call) → W → List (Moment Call Answer W) → Run Call Answer W ε (Answer c)}
    (hserve : contract.Serves good serve) {program : Program Call Answer W ε α}
    {goal : α → W → List (Moment Call Answer W) → Prop} {world : W}
    {history : List (Moment Call Answer W)} (hgood : Moment.Throughout good history)
    (h : contract.Ensures program goal world history) :
  (program.runWith serve world history).Reaches good fun result world' history' =>
    Moment.Continues history history' ∧ goal result world' history'
  := by
  induction program generalizing world history with
  | done result =>
    use hgood
    rintro _ ⟨⟩
    exact ⟨Moment.Continues.refl _, h⟩
  | fail error =>
    use hgood
    rintro _ ⟨⟩
  | read next ih => apply ih _ hgood h
  | write world' next ih => apply ih hgood h
  | call c next ih =>
    have hrun := hserve c world history h.1 hgood
    simp only [Program.runWith]
    split
    · next answer world' history' heq =>
      rw [heq] at hrun
      obtain ⟨hcontinues, hpost⟩ := hrun.2 answer rfl
      obtain ⟨hgood', hgoal⟩ := ih answer hrun.1 (h.2 _ _ _ hcontinues hpost)
      use hgood'
      intro result hresult
      obtain ⟨hcontinues', hgoal⟩ := hgoal result hresult
      exact ⟨hcontinues.trans hcontinues', hgoal⟩
    · next heq =>
      rw [heq] at hrun
      use hrun.1
      rintro _ ⟨⟩
    · next heq =>
      rw [heq] at hrun
      use hrun.1
      rintro _ ⟨⟩

/-- A program carries out a call: it keeps to the contract, the moments at which the call is made
and answered are good, and the goal is reached once it is answered. -/
def CarriesOut (contract : Contract Call Answer W) (good : W → List (Moment Call Answer W) → Prop)
    (c : Call) (program : Program Call Answer W ε (Answer c))
    (goal : Answer c → W → List (Moment Call Answer W) → Prop) (world : W)
    (history : List (Moment Call Answer W)) : Prop :=
  good world (.called c world :: history) ∧
    contract.Ensures program
      (fun answer world' history' =>
        Moment.Continues (.called c world :: history) history' →
          good world' (.answered c answer world' :: history') ∧
            goal answer world' (.answered c answer world' :: history'))
      world (.called c world :: history)

/-- The body of every call carries out what the contract promises of the call. -/
def Fulfils (contract : Contract Call Answer W) (good : W → List (Moment Call Answer W) → Prop)
    (body : (c : Call) → Program Call Answer W ε (Answer c)) : Prop :=
  ∀ c world history, contract.pre c world history →
    contract.CarriesOut good c (body c) (contract.post c world history) world history

/-- If the calls that bodies make are served as promised, so are the calls with these bodies. -/
theorem serves_succ {depth : Nat} (hserve : contract.Serves good (Program.serve body depth))
    (hbody : contract.Fulfils good body) :
  contract.Serves good (Program.serve body (depth + 1))
  := by
  intro c world history hpre hgood
  obtain ⟨hcalled, hensures⟩ := hbody c world history hpre
  have hrun := reaches_runWith hserve (Moment.throughout_cons (.called c world) hcalled hgood)
    hensures
  simp only [Program.serve]
  split
  · next answer world' history' heq =>
    rw [heq] at hrun
    obtain ⟨hcontinues, hgoal⟩ := hrun.2 answer rfl
    obtain ⟨hanswered, hpost⟩ := hgoal hcontinues
    use Moment.throughout_cons (.answered c answer world') hanswered hrun.1
    rintro _ ⟨⟩
    exact ⟨hcontinues.answered _ _, hpost⟩
  · next hother =>
    use hrun.1
    intro result hresult
    cases hother _ _ _ (by rw [← hresult])

/-- Bodies that fulfil a contract keep its promises at every depth. -/
theorem serves_of_bodies (hbody : contract.Fulfils good body) (depth : Nat) :
  contract.Serves good (Program.serve body depth)
  := by
  induction depth with
  | zero =>
    intro c world history _ hgood
    use hgood
    rintro _ ⟨⟩
  | succ depth ih => apply serves_succ ih hbody

end Contract

end GuardedMachine

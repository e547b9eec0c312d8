import GuardedMachine.Proofs.Program.Nesting
import GuardedMachine.Proofs.Program.Returning

/-!
# What programs do themselves

`Contract.Does` says what a program does itself, whatever happened before and whatever happens while
the calls that it makes are open: what its result is, in which world it ends, and which moments are
its own.  The moments of programs that are run one after the other are put together
(`Contract.does_bind`).  When calls may be made at any time, what their bodies do themselves is done
in every run before they are answered (`Contract.throughout_did`).
-/

namespace GuardedMachine

variable {Call : Type} {Answer : Call → Type} {W ε α β : Type}

/-- A call that has just been answered did itself what `goal` says, given the world in which it was
made. -/
def Moment.Did
    (goal : (c : Call) → W → Answer c → W → List (Moment Call Answer W) → Prop)
    (world : W) (history : List (Moment Call Answer W)) : Prop :=
  ∀ c answer later, history = .answered c answer world :: later →
    ∃ called before own, Moment.Nested (.called c called :: before) own later
      ∧ goal c called answer world own

namespace Contract

/-- Any call may be made at any time, and nothing is promised. -/
def free : Contract Call Answer W where
  pre _ _ _ := True
  post _ _ _ _ _ _ := True

/-- What a program does itself from a world: what holds of its result, of the world that it leaves
and of its own moments. -/
def Does (program : Program Call Answer W ε α) (world : W)
    (goal : α → W → List (Moment Call Answer W) → Prop) : Prop :=
  ∀ history, free.nested.Ensures program
    (fun a world' history' => ∃ own, Moment.Nested history own history' ∧ goal a world' own)
    world history

variable {program : Program Call Answer W ε α} {f : α → Program Call Answer W ε β} {world : W}
  {goal goal' : α → W → List (Moment Call Answer W) → Prop}
  {next : β → W → List (Moment Call Answer W) → Prop}

theorem does_pure {a : α} (h : goal a world []) :
  Does (pure a : Program Call Answer W ε α) world goal
  := fun history => ⟨[], .refl history, h⟩

/-- What two programs do one after the other. -/
theorem does_bind (h : Does program world goal)
    (hf : ∀ a world' own, goal a world' own →
      Does (f a) world' fun b world'' own' => next b world'' (own ++ own')) :
  Does (program >>= f) world next
  := by
  intro history
  apply (ensures_bind _ _).mpr
  apply (h history).mono
  rintro a world' history' - ⟨own, hnested, ha⟩
  apply (hf a world' own ha history').mono
  rintro b world'' history'' - ⟨own', hnested', hb⟩
  use own ++ own', hnested.trans hnested'

theorem Does.mono (h : Does program world goal)
    (himp : ∀ a world' own, goal a world' own → goal' a world' own) :
  Does program world goal'
  := by
  intro history
  apply (h history).mono
  rintro a world' history' - ⟨own, hnested, ha⟩
  use own, hnested, himp a world' own ha

theorem does_world {f : W → Program Call Answer W ε α} (h : Does (f world) world goal) :
  Does (Program.world >>= f) world goal
  := h

theorem does_update {change : W → W} {goal : Unit → W → List (Moment Call Answer W) → Prop}
    (h : goal () (change world) []) :
  Does (Program.update change : Program Call Answer W ε Unit) world goal
  := fun history => ⟨[], .refl history, h⟩

/-- Reading and changing the world is no call. -/
theorem does_read_update {read : W → α} {change : W → W} :
  Does
    (do
      let world ← Program.world
      Program.update change
      return read world : Program Call Answer W ε α)
    world fun _ _ own => own = []
  := fun history => ⟨[], .refl history, rfl⟩

/-- A call is made and answered. -/
theorem does_ask (c : Call) :
  Does (Program.ask c : Program Call Answer W ε (Answer c)) world fun answer world' own =>
    own = [.called c world, .answered c answer world']
  := by
  intro history
  use trivial
  rintro answer world' history' - ⟨-, moments, later, hinner, rfl⟩
  exact ⟨_, .call (.refl history) hinner, rfl⟩

/-- Any program does something. -/
theorem does_anything (program : Program Call Answer W ε α) :
  Does program world fun _ _ _ => True
  := by
  intro history
  apply (ensures_of_pre (fun _ _ _ => trivial) program).nested.mono
  rintro a world' history' - ⟨-, own, hnested⟩
  use own, hnested

/-! ### Runs -/

variable {body : (c : Call) → Program Call Answer W ε (Answer c)}
  {done : (c : Call) → W → Answer c → W → List (Moment Call Answer W) → Prop}

/-- The calls of every run are nested. -/
theorem fulfils_free (body : (c : Call) → Program Call Answer W ε (Answer c)) :
  free.nested.Fulfils (fun _ _ => True) body
  := by
  apply fulfils_nested
  intro c world history _
  use trivial
  apply (ensures_of_pre (fun _ _ _ => trivial) _).mono
  intro _ _ _ _ _ _
  exact ⟨trivial, trivial⟩

/-- A program that returns has done what it does itself. -/
theorem Does.of_ends (h : Does program world goal) {history history' : List (Moment Call Answer W)}
    {a : α} {world' : W} (hends : program.Ends body world history a world' history') :
  ∃ own, Moment.Nested history own history' ∧ goal a world' own
  := by
  obtain ⟨depth, hrun⟩ := hends
  have hserves := serves_of_bodies (fulfils_free body) depth
  have hthroughout : Moment.Throughout (fun _ _ => True) history := by
    intro _ _ _
    trivial
  obtain ⟨-, hreached⟩ := reaches_runWith hserves hthroughout (h history)
  rw [hrun] at hreached
  obtain ⟨-, hdone⟩ := hreached a rfl
  apply hdone

/-- A program that returns from every world returns and does what it does itself. -/
theorem Does.of_runs (h : Does program world goal)
    (hruns : (Program.returning body fun _ => True).runs program)
    (history : List (Moment Call Answer W)) :
  ∃ a world' history' own, program.Ends body world history a world' history'
    ∧ Moment.Nested history own history' ∧ goal a world' own
  := by
  obtain ⟨a, world', history', hends, -⟩ := hruns world trivial history
  obtain ⟨own, hnested, hown⟩ := h.of_ends hends
  use a, world', history', own

/-- Bodies that do something themselves have done so when their calls are answered. -/
theorem fulfils_did (h : ∀ c world, Does (body c) world (done c world)) :
  free.nested.Fulfils (Moment.Did done) body
  := by
  apply fulfils_nested
  intro c world history _
  constructor
  · rintro c answer later ⟨⟩
  apply (h c world _).mono
  rintro answer world' history' - ⟨own, hnested, hown⟩ -
  refine ⟨?_, trivial⟩
  rintro _ _ _ ⟨⟩
  exact ⟨world, history, own, hnested, hown⟩

/-- In every run a call that has been answered has done what its body does itself. -/
theorem throughout_did (h : ∀ c world, Does (body c) world (done c world))
    (program : Program Call Answer W ε α) (depth : Nat) (world : W) :
  Moment.Throughout (Moment.Did done) (program.run body depth world).history
  := by
  have hruns : (free.nested.judgement fun _ _ => True).runs program := by
    intro world history _
    apply (ensures_of_pre (fun _ _ _ => trivial) _).mono
    intro _ _ _ _ _
    use trivial
  apply (reaches_run (fulfils_did h) hruns trivial depth).1

end Contract

end GuardedMachine

import GuardedMachine.Proofs.Program.Ends
import GuardedMachine.Proofs.Program.Nesting

/-!
# Programs that run alike

Two programs run alike, `Program.Alike`, when their runs end in the same way and in the same world,
and differ in nothing but the moments of calls that are hidden.  If the bodies of every call run
alike when all calls do, then so does every call at every depth (`alike_ask`), and so does every
program (`alike_self`), from the beginning of a run to its end (`only_run`).

A part of a program that asks hidden calls alone may be left out: `Calm` says that it returns from
every world and changes nothing that is visible.
-/

namespace GuardedMachine

variable {Call : Type} {Answer : Call → Type} {W ε α β : Type}

/-- The moments of visible calls. -/
def Moment.only (visible : Call → Bool) (history : List (Moment Call Answer W)) :
    List (Moment Call Answer W) :=
  history.filter fun moment => visible moment.call

/-- A run without the moments of hidden calls. -/
def Run.only (visible : Call → Bool) (run : Run Call Answer W ε α) : Run Call Answer W ε α :=
  { run with history := Moment.only visible run.history }

namespace Program

theorem bind_done (program : Program Call Answer W ε α) :
  program.bind .done = program
  := by
  induction program with
  | done | fail => rfl
  | read next ih => simp only [bind, ih]
  | write world next ih => simp only [bind, ih]
  | call c next ih => simp only [bind, ih]

theorem bind_bind {γ : Type} (program : Program Call Answer W ε α)
    (f : α → Program Call Answer W ε β) (g : β → Program Call Answer W ε γ) :
  (program.bind f).bind g = program.bind fun a => (f a).bind g
  := by
  induction program with
  | done | fail => rfl
  | read next ih => simp only [bind, ih]
  | write world next ih => simp only [bind, ih]
  | call c next ih => simp only [bind, ih]

instance : LawfulMonad (Program Call Answer W ε) :=
  LawfulMonad.mk' _ bind_done (fun _ _ => rfl) bind_bind

/-- A bind is run by running the first program and then the second on its result. -/
theorem runWith_bind
    {serve : (c : Call) → W → List (Moment Call Answer W) → Run Call Answer W ε (Answer c)}
    {program : Program Call Answer W ε α} {f : α → Program Call Answer W ε β} {world : W}
    {history : List (Moment Call Answer W)} :
  (program >>= f).runWith serve world history
    = match program.runWith serve world history with
      | { ending := .returned a, world, history } => (f a).runWith serve world history
      | { ending := .failed error, world, history } => { ending := .failed error, world, history }
      | { ending := .exhausted, world, history } => { ending := .exhausted, world, history }
  := by
  change (program.bind f).runWith serve world history = _
  induction program generalizing world history with
  | done | fail => rfl
  | read next ih => apply ih
  | write world next ih => apply ih
  | call c next ih =>
    simp only [bind, runWith]
    cases serve c world history with
    | mk ending served servedHistory =>
      cases ending with
      | returned answer => apply ih
      | failed | exhausted => rfl

/-- At some depth, and with bodies of their own for the calls, two programs run alike. -/
def Alike (visible : Call → Bool) (body body' : (c : Call) → Program Call Answer W ε (Answer c))
    (depth : Nat) (program program' : Program Call Answer W ε α) : Prop :=
  ∀ world history history', Moment.only visible history = Moment.only visible history' →
    (program.runWith (serve body depth) world history).only visible
      = (program'.runWith (serve body' depth) world history').only visible

section Rules

variable {visible : Call → Bool} {body body' : (c : Call) → Program Call Answer W ε (Answer c)}
  {depth : Nat} {program program' : Program Call Answer W ε α}
  {f f' : α → Program Call Answer W ε β}

theorem alike_done (a : α) :
  Alike visible body body' depth (.done a) (.done a)
  := by
  intro world history history' hhistory
  simp only [runWith, Run.only, hhistory]

/-- What follows needs to run alike only after results with which the programs can return. -/
theorem Alike.bind (h : Alike visible body body' depth program program')
    (hf : ∀ a,
      (∃ world history world' history',
        program.EndsAt body depth world history a world' history') →
      (∃ world history world' history',
        program'.EndsAt body' depth world history a world' history') →
      Alike visible body body' depth (f a) (f' a)) :
  Alike visible body body' depth (program >>= f) (program' >>= f')
  := by
  intro world history history' hhistory
  have hsame := h world history history' hhistory
  rw [runWith_bind, runWith_bind]
  cases hrun : program.runWith (serve body depth) world history with
  | mk ending left leftHistory =>
    cases hrun' : program'.runWith (serve body' depth) world history' with
    | mk ending' left' leftHistory' =>
      rw [hrun, hrun'] at hsame
      obtain ⟨rfl, rfl, hleft⟩ := Run.mk.inj hsame
      cases ending with
      | returned a =>
        exact hf a ⟨world, history, _, _, hrun⟩ ⟨world, history', _, _, hrun'⟩ _ _ _ hleft
      | failed error => simp only [Run.only, hleft]
      | exhausted => simp only [Run.only, hleft]

/-- If all calls run alike, so does any program. -/
theorem alike_self (hask : ∀ c, Alike visible body body' depth (ask c) (ask c))
    (program : Program Call Answer W ε α) :
  Alike visible body body' depth program program
  := by
  induction program with
  | done a => apply alike_done
  | fail error =>
    intro world history history' hhistory
    simp only [runWith, Run.only, hhistory]
  | read next ih =>
    intro world
    apply ih world world
  | write world next ih =>
    intro _
    apply ih world
  | call c next ih =>
    change Alike visible body body' depth (ask c >>= next) (ask c >>= next)
    apply (hask c).bind
    intro answer _ _
    apply ih answer

/-- If bodies run alike when the calls that they make do, all calls run alike. -/
theorem alike_ask
    (hbody : ∀ depth, (∀ c, Alike visible body body' depth (ask c) (ask c)) →
      ∀ c, Alike visible body body' depth (body c) (body' c))
    (depth : Nat) (c : Call) :
  Alike visible body body' depth (ask c) (ask c)
  := by
  induction depth generalizing c with
  | zero =>
    intro world history history' hhistory
    simp only [ask, runWith, serve, Run.only, hhistory]
  | succ depth ih =>
    intro world history history' hhistory
    have hcalled : Moment.only visible (.called c world :: history)
        = Moment.only visible (.called c world :: history') := by
      rw [Moment.only, Moment.only, List.filter_cons, List.filter_cons]
      rw [Moment.only, Moment.only] at hhistory
      rw [hhistory]
    have hsame := hbody depth ih c world _ _ hcalled
    simp only [ask, runWith, serve]
    cases hrun : (body c).runWith (serve body depth) world (.called c world :: history) with
    | mk ending left leftHistory =>
      cases hrun' : (body' c).runWith (serve body' depth) world (.called c world :: history') with
      | mk ending' left' leftHistory' =>
        rw [hrun, hrun'] at hsame
        obtain ⟨rfl, rfl, hleft⟩ := Run.mk.inj hsame
        cases ending with
        | returned answer =>
          simp only [Run.only, Moment.only, List.filter_cons] at hleft ⊢
          rw [hleft]
        | failed error => simp only [Run.only, hleft]
        | exhausted => simp only [Run.only, hleft]

/-- Runs are the same, but for what is hidden, if bodies run alike when the calls that they make do. -/
theorem only_run
    (hbody : ∀ depth, (∀ c, Alike visible body body' depth (ask c) (ask c)) →
      ∀ c, Alike visible body body' depth (body c) (body' c))
    (program : Program Call Answer W ε α) (depth : Nat) (world : W) :
  (program.run body depth world).only visible = (program.run body' depth world).only visible
  := alike_self (alike_ask hbody depth) program world [] [] rfl

end Rules

/-! ### Programs that are not seen -/

section Calm

variable {visible : Call → Bool} {body body' : (c : Call) → Program Call Answer W ε (Answer c)}
  {depth : Nat} {program : Program Call Answer W ε α} {P : α → Prop}

/-- At some depth a program returns from everywhere, with a result of which `P` holds, and changes
nothing that is visible. -/
def Calm (visible : Call → Bool) (body : (c : Call) → Program Call Answer W ε (Answer c))
    (depth : Nat) (P : α → Prop) (program : Program Call Answer W ε α) : Prop :=
  ∀ world history, ∃ a history', program.EndsAt body depth world history a world history'
    ∧ Moment.only visible history' = Moment.only visible history ∧ P a

theorem calm_pure {a : α} (h : P a) :
  Calm visible body depth P (pure a)
  := fun _ history => ⟨a, history, rfl, rfl, h⟩

theorem Calm.bind {Q : β → Prop} {f : α → Program Call Answer W ε β}
    (h : Calm visible body depth P program)
    (hf : ∀ a, P a → Calm visible body depth Q (f a)) :
  Calm visible body depth Q (program >>= f)
  := by
  intro world history
  obtain ⟨a, history₁, hends, hsame, ha⟩ := h world history
  obtain ⟨b, history₂, hends', hsame', hb⟩ := hf a ha world history₁
  use b, history₂
  use endsAt_bind.mpr ⟨a, world, history₁, hends, hends'⟩, hsame'.trans hsame

/-- What is not seen may be left out of two programs that run alike. -/
theorem Calm.alike {γ : Type} {program' : Program Call Answer W ε γ} {P' : γ → Prop}
    {f : α → Program Call Answer W ε β} {f' : γ → Program Call Answer W ε β}
    (h : Calm visible body depth P program) (h' : Calm visible body' depth P' program')
    (hf : ∀ a a', P a → P' a' → Alike visible body body' depth (f a) (f' a')) :
  Alike visible body body' depth (program >>= f) (program' >>= f')
  := by
  intro world history history' hhistory
  obtain ⟨a, left, hends, hleft, ha⟩ := h world history
  obtain ⟨a', left', hends', hleft', ha'⟩ := h' world history'
  rw [runWith_bind, runWith_bind, hends, hends']
  apply hf a a' ha ha' world left left'
  rw [hleft, hleft', hhistory]

/-- The judgement on programs that are not seen at some depth if they return there at all: they then
return from everywhere with the same result. -/
def steady (visible : Call → Bool) (body : (c : Call) → Program Call Answer W ε (Answer c))
    (depth : Nat) : Judgement (Program Call Answer W ε) where
  holds P program := ∀ world history a world' history',
    program.EndsAt body depth world history a world' history' →
      P a ∧ Calm visible body depth (· = a) program
  holds_pure h world history a world' history' hends := by
    obtain ⟨rfl, -, -⟩ := endsAt_pure.mp hends
    exact ⟨h, calm_pure rfl⟩
  holds_bind h hf world history b world' history' hends := by
    obtain ⟨a, world₁, history₁, hfirst, hrest⟩ := endsAt_bind.mp hends
    obtain ⟨ha, hcalm⟩ := h _ _ _ _ _ hfirst
    obtain ⟨hb, hcalm'⟩ := hf a ha _ _ _ _ _ hrest
    use hb
    apply hcalm.bind
    rintro _ rfl
    apply hcalm'
  holds_map h hf world history b world' history' hends := by
    obtain ⟨a, hfirst, rfl⟩ := endsAt_map.mp hends
    obtain ⟨ha, hcalm⟩ := h _ _ _ _ _ hfirst
    use hf a ha
    apply hcalm.bind
    rintro _ rfl
    exact calm_pure rfl
  holds_mono h himp world history a world' history' hends := by
    obtain ⟨ha, hcalm⟩ := h _ _ _ _ _ hends
    exact ⟨himp a ha, hcalm⟩

/-! ### Hidden calls -/

section Hidden

variable {c c' : Call} {answer : Answer c} {answer' : Answer c'}

/-- A hidden call whose body does nothing is not seen. -/
theorem calm_ask (hhidden : visible c = false) (hbody : body c = pure answer) :
  Calm visible body (depth + 1) (· = answer) (ask c)
  := by
  intro world history
  use answer, .answered c answer world :: .called c world :: history
  refine ⟨?_, ?_, rfl⟩
  · apply endsAt_ask.mpr
    rw [hbody]
    exact ⟨_, rfl, rfl⟩
  · simp [Moment.only, Moment.call, hhidden]

theorem steady_ask (hhidden : visible c = false) (hbody : body c = pure answer) :
  (steady visible body depth).runs (ask c)
  := by
  intro world history answer₁ world' history' hends
  use trivial
  cases depth with
  | zero => cases not_endsAt_ask_zero hends
  | succ depth =>
    have hcalm : Calm visible body (depth + 1) (· = answer) (ask c : Program Call Answer W ε _) :=
      calm_ask hhidden hbody
    obtain ⟨_, history₁, hends', -, rfl⟩ := hcalm world history
    rw [EndsAt, hends] at hends'
    cases hends'
    apply hcalm

/-- What follows hidden calls whose bodies do nothing runs alike if it does without them. -/
theorem alike_hidden {next : Answer c → Program Call Answer W ε α}
    {next' : Answer c' → Program Call Answer W ε α} (hhidden : visible c = false)
    (hhidden' : visible c' = false) (hbody : body c = pure answer)
    (hbody' : body' c' = pure answer')
    (h : Alike visible body body' depth (next answer) (next' answer')) :
  Alike visible body body' depth (ask c >>= next) (ask c' >>= next')
  := by
  cases depth with
  | zero =>
    intro world history history' hhistory
    simp only [runWith_bind, ask, runWith, serve, Run.only, hhistory]
  | succ depth =>
    apply (calm_ask hhidden hbody).alike (calm_ask hhidden' hbody')
    rintro _ _ rfl rfl
    apply h

end Hidden

end Calm

end Program

end GuardedMachine

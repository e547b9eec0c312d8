import GuardedMachine.Program.Run
import Mathlib.Tactic.Use

/-!
# Runs that return

`Program.Ends` says that a program returns from a world and a history, with a result, a world and a
history, when its calls are followed deeply enough.  A run that returns at some depth returns in the
same way at any greater depth (`EndsAt.of_le`), so the parts of a program may be followed to
different depths: it returns exactly when each of its parts does (`ends_bind`), and a call when its
body does (`ends_ask`).
-/

namespace GuardedMachine.Program

variable {Call : Type} {Answer : Call → Type} {W ε α β : Type}

/-- A program returns when its calls are followed to the given depth. -/
def EndsAt (body : (c : Call) → Program Call Answer W ε (Answer c)) (depth : Nat)
    (program : Program Call Answer W ε α) (world : W) (history : List (Moment Call Answer W))
    (result : α) (world' : W) (history' : List (Moment Call Answer W)) : Prop :=
  program.runWith (serve body depth) world history
    = { ending := .returned result, world := world', history := history' }

/-- A program returns when its calls are followed deeply enough. -/
def Ends (body : (c : Call) → Program Call Answer W ε (Answer c))
    (program : Program Call Answer W ε α) (world : W) (history : List (Moment Call Answer W))
    (result : α) (world' : W) (history' : List (Moment Call Answer W)) : Prop :=
  ∃ depth, program.EndsAt body depth world history result world' history'

variable {body : (c : Call) → Program Call Answer W ε (Answer c)} {depth depth' : Nat}
  {program : Program Call Answer W ε α} {world world' : W}
  {history history' : List (Moment Call Answer W)} {result : α}

/-! ### The depth of a run -/

section Server

variable {serve₁ serve₂ :
  (c : Call) → W → List (Moment Call Answer W) → Run Call Answer W ε (Answer c)}

/-- What returns with one server returns with another that returns whenever the first does. -/
theorem runWith_returned
    (hserve : ∀ c world history answer world' history',
      serve₁ c world history = { ending := .returned answer, world := world', history := history' } →
        serve₂ c world history
          = { ending := .returned answer, world := world', history := history' })
    (h : program.runWith serve₁ world history
      = { ending := .returned result, world := world', history := history' }) :
  program.runWith serve₂ world history
    = { ending := .returned result, world := world', history := history' }
  := by
  induction program generalizing world history with
  | done | fail => apply h
  | read next ih => apply ih _ h
  | write world next ih => apply ih h
  | call c next ih =>
    simp only [runWith] at h ⊢
    cases hrun : serve₁ c world history with
    | mk ending served servedHistory =>
      rw [hrun] at h
      cases ending with
      | returned answer =>
        rw [hserve _ _ _ _ _ _ hrun]
        apply ih _ h
      | failed | exhausted => cases h

end Server

/-- A call that returns at some depth returns in the same way one level deeper. -/
theorem serve_returned_succ {c : Call} {answer : Answer c}
    (h : serve body depth c world history
      = { ending := .returned answer, world := world', history := history' }) :
  serve body (depth + 1) c world history
    = { ending := .returned answer, world := world', history := history' }
  := by
  induction depth generalizing c world history answer world' history' with
  | zero => cases h
  | succ depth ih =>
    rw [serve] at h
    cases hrun : (body c).runWith (serve body depth) world (.called c world :: history) with
    | mk ending served servedHistory =>
      rw [hrun] at h
      cases ending with
      | returned answer =>
        rw [serve, runWith_returned (fun _ _ _ _ _ _ => ih) hrun]
        apply h
      | failed | exhausted => cases h

theorem EndsAt.of_le (h : program.EndsAt body depth world history result world' history')
    (hle : depth ≤ depth') :
  program.EndsAt body depth' world history result world' history'
  := by
  induction hle with
  | refl => apply h
  | step _ ih => apply runWith_returned (fun _ _ _ _ _ _ => serve_returned_succ) ih

/-- A program returns in one way only. -/
theorem Ends.unique {result' : α} {world₁ : W} {history₁ : List (Moment Call Answer W)}
    (h : program.Ends body world history result world' history')
    (h' : program.Ends body world history result' world₁ history₁) :
  result' = result ∧ world₁ = world' ∧ history₁ = history'
  := by
  obtain ⟨depth, h⟩ := h
  obtain ⟨depth', h'⟩ := h'
  have hrun := h.of_le (Nat.le_max_left depth depth')
  have hrun' := h'.of_le (Nat.le_max_right depth depth')
  rw [EndsAt, hrun] at hrun'
  cases hrun'
  exact ⟨rfl, rfl, rfl⟩

/-! ### Rules -/

section Rules

@[simp]
theorem endsAt_pure {result' : α} :
  (pure result : Program Call Answer W ε α).EndsAt body depth world history result' world' history'
    ↔ result' = result ∧ world' = world ∧ history' = history
  := by
  constructor
  · rintro ⟨⟩
    exact ⟨rfl, rfl, rfl⟩
  · rintro ⟨rfl, rfl, rfl⟩
    rfl

@[simp]
theorem endsAt_update {f : W → W} :
  (update f : Program Call Answer W ε Unit).EndsAt body depth world history () world' history'
    ↔ world' = f world ∧ history' = history
  := by
  change (pure () : Program Call Answer W ε Unit).EndsAt body depth (f world) history _ _ _ ↔ _
  rw [endsAt_pure]
  exact ⟨fun h => h.2, fun h => ⟨rfl, h⟩⟩

theorem endsAt_bind {f : α → Program Call Answer W ε β} {result : β} :
  (program >>= f).EndsAt body depth world history result world' history'
    ↔ ∃ a world₁ history₁, program.EndsAt body depth world history a world₁ history₁
      ∧ (f a).EndsAt body depth world₁ history₁ result world' history'
  := by
  change (program.bind f).EndsAt body depth world history result world' history' ↔ _
  induction program generalizing world history with
  | done a =>
    constructor
    · intro h
      exact ⟨a, world, history, rfl, h⟩
    · rintro ⟨_, _, _, ⟨⟩, h⟩
      apply h
  | fail error =>
    constructor
    · rintro ⟨⟩
    · rintro ⟨_, _, _, ⟨⟩, _⟩
  | read next ih => apply ih
  | write world next ih => apply ih
  | call c next ih =>
    simp only [EndsAt, bind, runWith]
    split
    · apply ih
    · simp
    · simp

theorem endsAt_map {f : α → β} {result : β} :
  (f <$> program).EndsAt body depth world history result world' history'
    ↔ ∃ a, program.EndsAt body depth world history a world' history' ∧ result = f a
  := by
  change (program >>= fun a => pure (f a)).EndsAt body depth world history result _ _ ↔ _
  rw [endsAt_bind]
  constructor
  · rintro ⟨a, _, _, h, hpure⟩
    obtain ⟨rfl, rfl, rfl⟩ := endsAt_pure.mp hpure
    exact ⟨a, h, rfl⟩
  · rintro ⟨a, h, rfl⟩
    exact ⟨a, world', history', h, rfl⟩

theorem endsAt_call {c : Call} {next : Answer c → Program Call Answer W ε α} :
  (call c next).EndsAt body depth world history result world' history'
    ↔ ∃ answer world₁ history₁, (ask c).EndsAt body depth world history answer world₁ history₁
      ∧ (next answer).EndsAt body depth world₁ history₁ result world' history'
  := by
  change (ask c >>= next).EndsAt body depth world history result world' history' ↔ _
  apply endsAt_bind

/-- A call returns when its body does, one level less deep. -/
theorem endsAt_ask {c : Call} {answer : Answer c} :
  (ask c : Program Call Answer W ε (Answer c)).EndsAt body (depth + 1) world history answer world'
      history'
    ↔ ∃ history₁, (body c).EndsAt body depth world (.called c world :: history) answer world' history₁
      ∧ history' = .answered c answer world' :: history₁
  := by
  simp only [EndsAt, ask, runWith, serve]
  cases (body c).runWith (serve body depth) world (.called c world :: history) with
  | mk ending served servedHistory =>
    cases ending with
    | returned answer' =>
      constructor
      · rintro ⟨⟩
        exact ⟨_, rfl, rfl⟩
      · rintro ⟨_, ⟨⟩, rfl⟩
        rfl
    | failed error =>
      constructor
      · rintro ⟨⟩
      · rintro ⟨_, ⟨⟩, _⟩
    | exhausted =>
      constructor
      · rintro ⟨⟩
      · rintro ⟨_, ⟨⟩, _⟩

/-- No call returns at depth zero. -/
theorem not_endsAt_ask_zero {c : Call} {answer : Answer c} :
  ¬(ask c : Program Call Answer W ε (Answer c)).EndsAt body 0 world history answer world' history'
  := by rintro ⟨⟩

@[simp]
theorem ends_pure {result' : α} :
  (pure result : Program Call Answer W ε α).Ends body world history result' world' history'
    ↔ result' = result ∧ world' = world ∧ history' = history
  := by simp [Ends]

@[simp]
theorem ends_update {f : W → W} :
  (update f : Program Call Answer W ε Unit).Ends body world history () world' history'
    ↔ world' = f world ∧ history' = history
  := by simp [Ends]

theorem ends_bind {f : α → Program Call Answer W ε β} {result : β} :
  (program >>= f).Ends body world history result world' history'
    ↔ ∃ a world₁ history₁, program.Ends body world history a world₁ history₁
      ∧ (f a).Ends body world₁ history₁ result world' history'
  := by
  constructor
  · rintro ⟨depth, h⟩
    obtain ⟨a, world₁, history₁, h₁, h₂⟩ := endsAt_bind.mp h
    exact ⟨a, world₁, history₁, ⟨depth, h₁⟩, ⟨depth, h₂⟩⟩
  · rintro ⟨a, world₁, history₁, ⟨depth, h₁⟩, ⟨depth', h₂⟩⟩
    use max depth depth'
    apply endsAt_bind.mpr
    exact ⟨a, world₁, history₁, h₁.of_le (Nat.le_max_left _ _), h₂.of_le (Nat.le_max_right _ _)⟩

/-- A call returns when its body does. -/
theorem ends_ask {c : Call} {answer : Answer c} :
  (ask c : Program Call Answer W ε (Answer c)).Ends body world history answer world' history'
    ↔ ∃ history₁, (body c).Ends body world (.called c world :: history) answer world' history₁
      ∧ history' = .answered c answer world' :: history₁
  := by
  constructor
  · rintro ⟨depth, h⟩
    cases depth with
    | zero => cases not_endsAt_ask_zero h
    | succ depth =>
      obtain ⟨history₁, hbody, hhistory⟩ := endsAt_ask.mp h
      exact ⟨history₁, ⟨depth, hbody⟩, hhistory⟩
  · rintro ⟨history₁, ⟨depth, hbody⟩, hhistory⟩
    exact ⟨depth + 1, endsAt_ask.mpr ⟨history₁, hbody, hhistory⟩⟩

end Rules

end GuardedMachine.Program

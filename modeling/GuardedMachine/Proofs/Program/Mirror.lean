import GuardedMachine.Proofs.Judgement
import GuardedMachine.Proofs.Program.Code
import GuardedMachine.Proofs.Program.Ends

/-!
# Programs that mirror each other

A change `f` of worlds may concern parts that a program does not look at.  `Program.Mirrors` relates
two programs that do the same, step by step, when one reads and writes worlds and the other their
images under `f`.  If every body mirrors itself, two programs that mirror each other make the same
moments, up to `f`, whatever happened before (`Mirrors.ends`).
-/

namespace GuardedMachine

variable {Call : Type} {Answer : Call → Type} {W ε α β : Type}

/-- A moment, with the world replaced by its image. -/
def Moment.mapWorld (f : W → W) : Moment Call Answer W → Moment Call Answer W
  | .called c world => .called c (f world)
  | .answered c answer world => .answered c answer (f world)

/-- What is picked from some moments comes after what is picked from earlier ones. -/
theorem Moment.collect_append (pick : Moment Call Answer W → List β)
    (moments earlier : List (Moment Call Answer W)) :
  Moment.collect pick (moments ++ earlier)
    = Moment.collect pick earlier ++ Moment.collect pick moments
  := by
  induction moments with
  | nil => exact (List.append_nil _).symm
  | cons moment rest ih =>
    rw [List.cons_append, collect, ih, List.append_assoc]
    rfl

/-- What is picked from moments regardless of the world is picked from their images. -/
theorem Moment.collect_mapWorld {f : W → W} {pick : Moment Call Answer W → List β}
    (hpick : ∀ moment : Moment Call Answer W, pick (moment.mapWorld f) = pick moment)
    (moments : List (Moment Call Answer W)) :
  Moment.collect pick (moments.map (Moment.mapWorld f)) = Moment.collect pick moments
  := by
  induction moments with
  | nil => rfl
  | cons moment rest ih => rw [List.map_cons, collect, collect, ih, hpick]

namespace Program

/-- Two programs do the same, the second one with the images of worlds, make only calls of which
`admits` holds, and have only results of which `allowed` holds. -/
inductive Mirrors (f : W → W) (admits : Call → Prop) (allowed : α → Prop) :
    Program Call Answer W ε α → Program Call Answer W ε α → Prop where
  | done {result : α} :
    allowed result → Mirrors f admits allowed (.done result) (.done result)
  | fail (error : ε) : Mirrors f admits allowed (.fail error) (.fail error)
  | read {next next' : W → Program Call Answer W ε α} :
    (∀ world, Mirrors f admits allowed (next world) (next' (f world))) →
      Mirrors f admits allowed (.read next) (.read next')
  | write {world : W} {next next' : Program Call Answer W ε α} :
    Mirrors f admits allowed next next' →
      Mirrors f admits allowed (.write world next) (.write (f world) next')
  | call {c : Call} {next next' : Answer c → Program Call Answer W ε α} :
    admits c → (∀ answer, Mirrors f admits allowed (next answer) (next' answer)) →
      Mirrors f admits allowed (.call c next) (.call c next')

variable {f : W → W} {admits : Call → Prop} {allowed allowed' : α → Prop}
  {program program' : Program Call Answer W ε α}

/-! ### Rules -/

theorem Mirrors.bind {allowed' : β → Prop} {g g' : α → Program Call Answer W ε β}
    (h : program.Mirrors f admits allowed program')
    (hg : ∀ a, allowed a → (g a).Mirrors f admits allowed' (g' a)) :
  (program >>= g).Mirrors f admits allowed' (program' >>= g')
  := by
  change (program.bind g).Mirrors f admits allowed' (program'.bind g')
  induction h with
  | done hresult => apply hg _ hresult
  | fail error => apply Mirrors.fail
  | read _ ih => apply Mirrors.read ih
  | write _ ih => apply Mirrors.write ih
  | call hadmits _ ih => apply Mirrors.call hadmits ih

theorem Mirrors.mono (h : program.Mirrors f admits allowed program')
    (himp : ∀ a, allowed a → allowed' a) :
  program.Mirrors f admits allowed' program'
  := by
  induction h with
  | done hresult => apply Mirrors.done (himp _ hresult)
  | fail error => apply Mirrors.fail
  | read _ ih => apply Mirrors.read ih
  | write _ ih => apply Mirrors.write ih
  | call hadmits _ ih => apply Mirrors.call hadmits ih

/-- The judgement on programs that mirror themselves. -/
def mirroring (f : W → W) (admits : Call → Prop) : Judgement (Program Call Answer W ε) where
  holds allowed program := program.Mirrors f admits allowed program
  holds_pure := .done
  holds_bind := .bind
  holds_map h himp := h.bind fun a ha => .done (himp a ha)
  holds_mono := .mono

/-- A program that reads the world mirrors itself if what it does next depends only on what `f`
does not change. -/
theorem mirroring_world {g : W → Program Call Answer W ε α}
    (hg : ∀ world, (g world).Mirrors f admits allowed (g (f world))) :
  (mirroring f admits).holds allowed (Program.world >>= g)
  := Mirrors.read hg

/-- So does a change of the world that commutes with `f`. -/
theorem mirroring_update {change : W → W} (h : ∀ world, change (f world) = f (change world)) :
  (mirroring f admits).runs (update change : Program Call Answer W ε Unit)
  := by
  apply Mirrors.read
  intro world
  rw [h]
  apply Mirrors.write
  apply Mirrors.done trivial

theorem mirroring_ask {c : Call} (hadmits : admits c) :
  (mirroring f admits).runs (ask c : Program Call Answer W ε (Answer c))
  := Mirrors.call hadmits fun _ => .done trivial

/-- Foreign code mirrors itself if its memory is a part that `f` does not change. -/
theorem mirroring_embed {Call₁ : Type} {Answer₁ : Call₁ → Type} {W₁ : Type}
    {place : Embedding Call₁ Answer₁ W₁ Call Answer W} {admits₁ : Call₁ → Prop}
    (hget : ∀ world, place.get (f world) = place.get world)
    (hput : ∀ part world, place.put part (f world) = f (place.put part world))
    (hcall : ∀ c, admits₁ c → admits (place.call c)) {code : Program Call₁ Answer₁ W₁ ε α}
    (hasks : code.Asks admits₁) :
  (mirroring f admits).runs (code.embed place)
  := by
  induction code with
  | done result => apply Mirrors.done trivial
  | fail error => apply Mirrors.fail
  | read next ih =>
    apply Mirrors.read
    intro world
    rw [hget]
    apply ih _ (hasks _)
  | write part next ih =>
    apply Mirrors.read
    intro world
    rw [hput]
    apply Mirrors.write (ih hasks)
  | call c next ih =>
    apply Mirrors.call (hcall c hasks.1)
    intro answer
    apply ih _ (hasks.2 _)

/-! ### Runs -/

/-- Whenever a program returns, so does another from the image of the world, and the same moments
happen, up to `f`. -/
def Repeats (f : W → W) (body : (c : Call) → Program Call Answer W ε (Answer c)) (depth : Nat)
    (program program' : Program Call Answer W ε α) : Prop :=
  ∀ world history result world' history',
    program.EndsAt body depth world history result world' history' →
      ∃ moments, history' = moments ++ history ∧ ∀ earlier,
        program'.EndsAt body depth (f world) earlier result (f world')
          (moments.map (Moment.mapWorld f) ++ earlier)

variable {body : (c : Call) → Program Call Answer W ε (Answer c)} {depth : Nat}

/-- Programs that mirror each other repeat each other if the calls that they make do. -/
theorem Mirrors.repeats (hask : ∀ c, admits c → Repeats f body depth (ask c) (ask c))
    (h : program.Mirrors f admits allowed program') :
  Repeats f body depth program program'
  := by
  induction h with
  | @done result hresult =>
    intro world history result' world' history' hends
    obtain ⟨rfl, rfl, rfl⟩ := endsAt_pure.mp hends
    exact ⟨[], rfl, fun _ => rfl⟩
  | fail error => rintro _ _ _ _ _ ⟨⟩
  | read _ ih =>
    intro world
    apply ih world world
  | @write world _ _ _ ih =>
    intro _
    apply ih world
  | @call c next next' hadmits _ ih =>
    intro world history result world' history' hends
    obtain ⟨answer, world₁, history₁, hcall, hnext⟩ := endsAt_call.mp hends
    obtain ⟨moments, rfl, hcall'⟩ := hask c hadmits _ _ _ _ _ hcall
    obtain ⟨moments', rfl, hnext'⟩ := ih answer _ _ _ _ _ hnext
    use moments' ++ moments, (List.append_assoc _ _ _).symm
    intro earlier
    rw [List.map_append, List.append_assoc]
    apply endsAt_call.mpr
    exact ⟨answer, f world₁, _, hcall' earlier, hnext' _⟩

/-- If bodies mirror themselves, calls repeat themselves. -/
theorem repeats_ask (hbody : ∀ c, admits c → (mirroring f admits).runs (body c)) (c : Call)
    (hadmits : admits c) :
  Repeats f body depth (ask c) (ask c)
  := by
  induction depth generalizing c with
  | zero =>
    intro world history answer world' history' hends
    cases not_endsAt_ask_zero hends
  | succ depth ih =>
    intro world history answer world' history' hends
    obtain ⟨history₁, hends₁, rfl⟩ := endsAt_ask.mp hends
    obtain ⟨moments, rfl, hends'⟩ := (hbody c hadmits).repeats ih _ _ _ _ _ hends₁
    use .answered c answer world' :: (moments ++ [.called c world])
    constructor
    · simp
    · intro earlier
      apply endsAt_ask.mpr
      refine ⟨_, hends' (.called c (f world) :: earlier), ?_⟩
      simp [Moment.mapWorld]

/-- Programs that mirror each other return in the same way, whatever happened before. -/
theorem Mirrors.ends (hbody : ∀ c, admits c → (mirroring f admits).runs (body c))
    (h : program.Mirrors f admits allowed program') {world world' : W}
    {history history' : List (Moment Call Answer W)} {result : α}
    (hends : program.Ends body world history result world' history') :
  ∃ moments, history' = moments ++ history ∧ ∀ earlier,
    program'.Ends body (f world) earlier result (f world')
      (moments.map (Moment.mapWorld f) ++ earlier)
  := by
  obtain ⟨depth, hends⟩ := hends
  obtain ⟨moments, hmoments, hends'⟩ := h.repeats (repeats_ask hbody) _ _ _ _ _ hends
  exact ⟨moments, hmoments, fun earlier => ⟨depth, hends' earlier⟩⟩

end Program

end GuardedMachine

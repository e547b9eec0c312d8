import GuardedMachine.Proofs.Judgement

/-!
# Foreign code

What is assumed of the programs of the owner and of the callbacks of a machine: which calls they
may make (`Program.Asks`) and which results they have (`Program.Yields`), whatever they read and
whatever they are answered; `Program.May` says which results a program may have at all.
`Contract.holds_embed` is the one rule for such programs: an invariant that their calls and their
memory keep is kept by all of them.
-/

namespace GuardedMachine

namespace Program

variable {Call : Type} {Answer : Call → Type} {W ε α : Type}

/-- A program makes only calls of which `admits` holds. -/
def Asks (admits : Call → Prop) : Program Call Answer W ε α → Prop
  | .done _ => True
  | .fail _ => True
  | .read next => ∀ world, (next world).Asks admits
  | .write _ next => next.Asks admits
  | .call c next => admits c ∧ ∀ answer, (next answer).Asks admits

/-- A program has only results of which `allowed` holds, whatever it reads and is answered. -/
def Yields (allowed : α → Prop) : Program Call Answer W ε α → Prop
  | .done result => allowed result
  | .fail _ => True
  | .read next => ∀ world, (next world).Yields allowed
  | .write _ next => next.Yields allowed
  | .call _ next => ∀ answer, (next answer).Yields allowed

/-- A program may have a result: it has it for something that it may read and be answered. -/
def May (result : α) : Program Call Answer W ε α → Prop
  | .done result' => result' = result
  | .fail _ => False
  | .read next => ∃ world, (next world).May result
  | .write _ next => next.May result
  | .call _ next => ∃ answer, (next answer).May result

/-- A program has only results that it may have. -/
theorem yields_may (program : Program Call Answer W ε α) :
  program.Yields fun result => program.May result
  := by
  -- Whatever part of the program is reached may have no other results than the whole.
  have hpart : ∀ (part : Program Call Answer W ε α) (allowed : α → Prop),
      (∀ result, part.May result → allowed result) → part.Yields allowed := by
    intro part allowed h
    induction part with
    | done result => apply h _ rfl
    | fail error => trivial
    | read next ih =>
      intro world
      apply ih
      intro result hmay
      apply h _ ⟨world, hmay⟩
    | write world next ih => apply ih h
    | call c next ih =>
      intro answer
      apply ih
      intro result hmay
      apply h _ ⟨answer, hmay⟩
  apply hpart program _ fun _ hmay => hmay

/-- Calls that are admitted stay admitted when more are. -/
theorem Asks.mono {admits admits' : Call → Prop} {program : Program Call Answer W ε α}
    (h : program.Asks admits) (himp : ∀ c, admits c → admits' c) :
  program.Asks admits'
  := by
  induction program with
  | done result => trivial
  | fail error => trivial
  | read next ih =>
    intro world
    apply ih _ (h world)
  | write world next ih => apply ih h
  | call c next ih =>
    use himp c h.1
    intro answer
    apply ih _ (h.2 answer)

/-- Any program makes some calls. -/
theorem asks_true (program : Program Call Answer W ε α) :
  program.Asks fun _ => True
  := by
  induction program with
  | done result => trivial
  | fail error => trivial
  | read next ih =>
    intro world
    apply ih
  | write world next ih => apply ih
  | call c next ih =>
    constructor
    · trivial
    · intro answer
      apply ih

/-- Any program has some result. -/
theorem yields_true (program : Program Call Answer W ε α) :
  program.Yields fun _ => True
  := by
  induction program with
  | done result => trivial
  | fail error => trivial
  | read next ih =>
    intro world
    apply ih
  | write world next ih => apply ih
  | call c next ih =>
    intro answer
    apply ih

end Program

variable {Call₁ : Type} {Answer₁ : Call₁ → Type} {W₁ : Type} {Call₂ : Type}
  {Answer₂ : Call₂ → Type} {W₂ ε α β : Type}

/-- Foreign code is embedded part by part. -/
theorem Program.embed_bind {place : Program.Embedding Call₁ Answer₁ W₁ Call₂ Answer₂ W₂}
    (code : Program Call₁ Answer₁ W₁ ε α) (f : α → Program Call₁ Answer₁ W₁ ε β) :
  (code >>= f).embed place = code.embed place >>= fun a => (f a).embed place
  := by
  change (code.bind f).embed place = (code.embed place).bind fun a => (f a).embed place
  induction code with
  | done | fail => rfl
  | read next ih => simp only [Program.bind, Program.embed, ih]
  | write part next ih => simp only [Program.bind, Program.embed, ih]
  | call c next ih => simp only [Program.bind, Program.embed, ih]

/-- An invariant that is kept by the memory of foreign code and by the calls that it may make is
kept by the code. -/
theorem Contract.holds_embed {contract : Contract Call₂ Answer₂ W₂}
    {place : Program.Embedding Call₁ Answer₁ W₁ Call₂ Answer₂ W₂}
    {invariant : W₂ → List (Moment Call₂ Answer₂ W₂) → Prop} {admits : Call₁ → Prop}
    {allowed : α → Prop}
    (hput : ∀ part world history, invariant world history →
      invariant (place.put part world) history)
    (hcall : ∀ c, admits c → (contract.judgement invariant).runs
      (Program.ask (place.call c) : Program Call₂ Answer₂ W₂ ε (Answer₂ (place.call c))))
    {code : Program Call₁ Answer₁ W₁ ε α} (hasks : code.Asks admits)
    (hyields : code.Yields allowed) :
  (contract.judgement invariant).holds allowed (code.embed place)
  := by
  intro world history hinvariant
  induction code generalizing world history with
  | done result => exact ⟨hyields, hinvariant⟩
  | fail error => trivial
  | read next ih => apply ih _ (hasks _) (hyields _) _ _ hinvariant
  | write part next ih => apply ih hasks hyields _ _ (hput part world history hinvariant)
  | call c next ih =>
    obtain ⟨hpre, hpost⟩ := hcall c hasks.1 world history hinvariant
    use hpre
    intro answer world' history' hcontinues hanswer
    apply ih _ (hasks.2 _) (hyields _) _ _ (hpost _ _ _ hcontinues hanswer).2

end GuardedMachine

/-!
# Programs with calls

A program reads and writes a world, makes calls and waits for their answers, and ends with a
result or a failure.  It does not say what a call does: that is left to whoever runs it.  So a
machine and the callbacks of its clients are programs of the same kind, and a callback that calls
the machine again is a program like any other.

`Program.embed` turns a program over a part of the world into one over the whole world.
-/

namespace GuardedMachine

/-- A program with calls of type `Call`, where a call `c` is answered by an `Answer c`, on a world
`W`, with failures `ε` and results `α`. -/
inductive Program (Call : Type) (Answer : Call → Type) (W ε α : Type) : Type where
  | done (result : α)
  | fail (error : ε)
  | read (next : W → Program Call Answer W ε α)
  | write (world : W) (next : Program Call Answer W ε α)
  | call (c : Call) (next : Answer c → Program Call Answer W ε α)

namespace Program

variable {Call : Type} {Answer : Call → Type} {W ε α β : Type}

/-- Run a second program on the result of a first. -/
def bind : Program Call Answer W ε α → (α → Program Call Answer W ε β) →
    Program Call Answer W ε β
  | .done result, f => f result
  | .fail error, _ => .fail error
  | .read next, f => .read fun world => (next world).bind f
  | .write world next, f => .write world (next.bind f)
  | .call c next, f => .call c fun answer => (next answer).bind f

instance : Monad (Program Call Answer W ε) where
  pure := .done
  bind := bind

/-- Make a call. -/
def ask (c : Call) : Program Call Answer W ε (Answer c) :=
  .call c .done

/-- The world. -/
def world : Program Call Answer W ε W :=
  .read .done

/-- Change the world. -/
def update (f : W → W) : Program Call Answer W ε Unit :=
  .read fun world => .write (f world) (.done ())

/-- The places of a smaller world and its calls in a larger one. -/
structure Embedding (Call₁ : Type) (Answer₁ : Call₁ → Type) (W₁ : Type)
    (Call₂ : Type) (Answer₂ : Call₂ → Type) (W₂ : Type) where
  /-- The part of the larger world. -/
  get : W₂ → W₁
  /-- The larger world with another part. -/
  put : W₁ → W₂ → W₂
  /-- The call that stands for a call of the smaller kind. -/
  call : Call₁ → Call₂
  /-- What its answer says. -/
  answer : ∀ c, Answer₂ (call c) → Answer₁ c

/-- A program on a part of the world as a program on the whole. -/
def embed {Call₁ Call₂ : Type} {Answer₁ : Call₁ → Type} {Answer₂ : Call₂ → Type} {W₁ W₂ : Type}
    (place : Embedding Call₁ Answer₁ W₁ Call₂ Answer₂ W₂) :
    Program Call₁ Answer₁ W₁ ε α → Program Call₂ Answer₂ W₂ ε α
  | .done result => .done result
  | .fail error => .fail error
  | .read next => .read fun world => (next (place.get world)).embed place
  | .write part next => .read fun world => .write (place.put part world) (next.embed place)
  | .call c next => .call (place.call c) fun answer => (next (place.answer c answer)).embed place

end Program

end GuardedMachine

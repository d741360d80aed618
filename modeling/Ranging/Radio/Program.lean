import Ranging.Radio.Request

/-!
# Node programs

What a node does is written as a `Program`: a tree whose nodes are the actions
of the node and whose branches are the possible answers. The program says
nothing about how a radio behaves, so a statement about all of its branches is
a statement about every behaviour of the radio, failing requests included.

The parameters are the type `L` of log lines, the type `ε` of driver errors and
the type `σ` of the state that the node keeps. `Program.zoom` runs a program of
a small state inside a larger one.
-/

namespace Ranging

/-- A pause of a program. -/
inductive Pause where
  | micros (count : UInt32)
  | millis (count : UInt32)
deriving DecidableEq

/-- One action of a program. -/
inductive Action (L σ : Type) where
  | call (request : Request)
  | pause (length : Pause)
  | log (line : L)
  | clock
  | get
  | set (state : σ)

namespace Action

/-- What an action returns. -/
@[reducible] def Answer {L σ : Type} (ε : Type) : Action L σ → Type
  | call request => Except ε request.Answer
  | pause _ => Unit
  | log _ => Unit
  | clock => UInt32
  | get => σ
  | set _ => Unit

end Action

/-- A program of a node that ends in a value. -/
inductive Program (L ε σ α : Type) : Type where
  | pure (value : α)
  /-- Carry out an action and go on as its answer says. -/
  | step (action : Action L σ) (next : action.Answer ε → Program L ε σ α)

namespace Program

/-- The program that goes on with another one where the first ends. -/
def bind {L ε σ α β : Type} (program : Program L ε σ α) (rest : α → Program L ε σ β) :
    Program L ε σ β :=
  match program with
  | .pure value => rest value
  | .step action next => .step action fun answer => (next answer).bind rest

instance {L ε σ : Type} : Monad (Program L ε σ) where
  pure := .pure
  bind := .bind

@[simp] theorem pure_bind {L ε σ α β : Type} (value : α) (rest : α → Program L ε σ β) :
    (pure value : Program L ε σ α) >>= rest = rest value := rfl

@[simp] theorem step_bind {L ε σ α β : Type} (action : Action L σ)
    (next : action.Answer ε → Program L ε σ α) (rest : α → Program L ε σ β) :
    Program.step action next >>= rest = .step action fun answer => next answer >>= rest := rfl

@[simp] theorem bind_pure {L ε σ α : Type} (program : Program L ε σ α) :
    program >>= pure = program := by
  induction program with
  | pure value => rfl
  | step action next ih =>
      rw [step_bind]
      congr 1
      funext answer
      exact ih answer

@[simp] theorem bind_assoc {L ε σ α β γ : Type} (program : Program L ε σ α)
    (first : α → Program L ε σ β) (second : β → Program L ε σ γ) :
    program >>= first >>= second = program >>= fun value => first value >>= second := by
  induction program with
  | pure value => rfl
  | step action next ih =>
      simp only [step_bind]
      congr 1
      funext answer
      exact ih answer

instance {L ε σ : Type} : LawfulMonad (Program L ε σ) :=
  LawfulMonad.mk' (Program L ε σ) bind_pure pure_bind bind_assoc

def pauseMicros {L ε σ : Type} (count : UInt32) : Program L ε σ Unit :=
  .step (.pause (.micros count)) .pure

def pauseMillis {L ε σ : Type} (count : UInt32) : Program L ε σ Unit :=
  .step (.pause (.millis count)) .pure

def log {L ε σ : Type} (line : L) : Program L ε σ Unit :=
  .step (.log line) .pure

/-- Read the millisecond clock. -/
def clock {L ε σ : Type} : Program L ε σ UInt32 :=
  .step .clock .pure

/-- Read the state of the node. -/
def getState {L ε σ : Type} : Program L ε σ σ :=
  .step .get .pure

/-- Replace the state of the node. -/
def setState {L ε σ : Type} (state : σ) : Program L ε σ Unit :=
  .step (.set state) .pure

@[simp] theorem pauseMicros_bind {L ε σ β : Type} (count : UInt32)
    (rest : Unit → Program L ε σ β) :
    pauseMicros count >>= rest = .step (.pause (.micros count)) rest := rfl

@[simp] theorem pauseMillis_bind {L ε σ β : Type} (count : UInt32)
    (rest : Unit → Program L ε σ β) :
    pauseMillis count >>= rest = .step (.pause (.millis count)) rest := rfl

@[simp] theorem log_bind {L ε σ β : Type} (line : L) (rest : Unit → Program L ε σ β) :
    log line >>= rest = .step (.log line) rest := rfl

@[simp] theorem clock_bind {L ε σ β : Type} (rest : UInt32 → Program L ε σ β) :
    clock >>= rest = .step .clock rest := rfl

@[simp] theorem getState_bind {L ε σ β : Type} (rest : σ → Program L ε σ β) :
    getState >>= rest = .step .get rest := rfl

@[simp] theorem setState_bind {L ε σ β : Type} (state : σ) (rest : Unit → Program L ε σ β) :
    setState state >>= rest = .step (.set state) rest := rfl

def modifyState {L ε σ : Type} (change : σ → σ) : Program L ε σ Unit := do
  let state ← getState
  setState (change state)

@[simp] theorem modifyState_bind {L ε σ β : Type} (change : σ → σ)
    (rest : Unit → Program L ε σ β) :
    modifyState change >>= rest = .step .get fun state => .step (.set (change state)) rest := rfl

/-- Log lines in order. -/
def logAll {L ε σ : Type} : List L → Program L ε σ Unit
  | [] => pure ()
  | line :: rest => do
      log line
      logAll rest

@[simp] theorem logAll_nil {L ε σ : Type} : (logAll [] : Program L ε σ Unit) = pure () := rfl

theorem logAll_cons {L ε σ : Type} (line : L) (rest : List L) :
    (logAll (line :: rest) : Program L ε σ Unit) =
      .step (.log line) fun _ => logAll rest := rfl

/-- Run a program whose state is a part of a larger state: `part` reads that
part and `replace` puts a new one in its place. -/
def zoom {L ε σ τ α : Type} (part : τ → σ) (replace : σ → τ → τ) :
    Program L ε σ α → Program L ε τ α
  | .pure value => .pure value
  | .step (.call request) next =>
      .step (.call request) fun answer => zoom part replace (next answer)
  | .step (.pause length) next => .step (.pause length) fun _ => zoom part replace (next ())
  | .step (.log line) next => .step (.log line) fun _ => zoom part replace (next ())
  | .step .clock next => .step .clock fun now => zoom part replace (next now)
  | .step .get next => .step .get fun whole => zoom part replace (next (part whole))
  | .step (.set state) next =>
      .step .get fun whole => .step (.set (replace state whole)) fun _ =>
        zoom part replace (next ())

@[simp] theorem zoom_pure {L ε σ τ α : Type} (part : τ → σ) (replace : σ → τ → τ) (value : α) :
    zoom part replace (pure value : Program L ε σ α) = pure value := rfl

end Program

end Ranging

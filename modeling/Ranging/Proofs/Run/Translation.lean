import Ranging.Proofs.Run.FailStop
import Ranging.Proofs.Run.Sequence
import Ranging.Radio.Wait

/-!
# Radios that tell another story

One radio may answer every request as another one does, except that the answers are
translated. What a program does on such a radio, the program that translates all answers for
itself does on the original: `Radio.Translates.run_through`. A statement about two radios thereby
becomes an equation between two programs, which is settled part by part.

Log lines may quote the answers. They are no part of the comparison, and `Program.through`
leaves them out; what remains to be seen are the requests and the pauses.
-/

namespace Ranging

/-- A change of the answers to requests. -/
abbrev Translation : Type := (request : Request) → request.Answer → request.Answer

/-- The answers as they are. -/
def Translation.literal : Translation := fun _ answer => answer

/-- What an event does to the radio: a request made or a pause. -/
def Event.outward? {L ε : Type} : Event L ε → Option (Request ⊕ Pause)
  | .call request _ => some (.inl request)
  | .pause length => some (.inr length)
  | .log _ => none

/-- The requests that were made and the pauses between them, whatever the answers were. -/
def outward {L ε : Type} (events : List (Event L ε)) : List (Request ⊕ Pause) :=
  events.filterMap Event.outward?

@[simp] theorem outward_append {L ε : Type} (xs ys : List (Event L ε)) :
    outward (xs ++ ys) = outward xs ++ outward ys :=
  List.filterMap_append

/-- From related states on, the other radio answers as this one does, in translation. -/
structure Radio.Translates {ε ρ ρ' : Type} (radio : Radio ε ρ) (other : Radio ε ρ')
    (translation : Translation) (related : ρ → ρ' → Prop) : Prop where
  answer : ∀ request a b, related a b →
    (other.answer request b).1 = (radio.answer request a).1.map (translation request) ∧
      related (radio.answer request a).2 (other.answer request b).2
  elapse : ∀ length a b, related a b → related (radio.elapse length a) (other.elapse length b)
  clock : ∀ a b, related a b →
    (other.clock b).1 = (radio.clock a).1 ∧ related (radio.clock a).2 (other.clock b).2

/-- Two runs come to the same, and look the same from the radio. -/
structure Run.SameOutward {L ε σ α : Type} (run other : Run L ε σ α) : Prop where
  value_eq : other.value = run.value
  state_eq : other.state = run.state
  outward_eq : outward other.events = outward run.events

theorem Run.SameOutward.andThen {L ε σ α : Type} {run other : Run L ε σ α}
    (h : run.SameOutward other) (s : σ) (first first' : List (Event L ε))
    (hfirst : outward first' = outward first) :
    (Run.andThen ⟨(), s, first⟩ run).SameOutward (Run.andThen ⟨(), s, first'⟩ other) := by
  refine ⟨h.value_eq, h.state_eq, ?_⟩
  rw [Run.andThen, Run.andThen, outward_append, outward_append, hfirst, h.outward_eq]

namespace Program

variable {L ε σ α β : Type}

/-- The program that translates the answers for itself, and logs nothing. -/
def through (translation : Translation) : Program L ε σ α → Program L ε σ α
  | .pure value => .pure value
  | .step (.call request) next =>
      .step (.call request) fun answer : Except ε request.Answer =>
        through translation (next (answer.map (translation request)))
  | .step (.pause length) next => .step (.pause length) fun _ => through translation (next ())
  | .step (.log _) next => through translation (next ())
  | .step .clock next => .step .clock fun now => through translation (next now)
  | .step .get next => .step .get fun state => through translation (next state)
  | .step (.set state) next => .step (.set state) fun _ => through translation (next ())

theorem through_bind (translation : Translation) (program : Program L ε σ α)
    (rest : α → Program L ε σ β) :
    (program >>= rest).through translation =
      program.through translation >>= fun value => (rest value).through translation := by
  induction program with
  | pure value => rfl
  | step action next ih =>
      cases action with
      | call request => exact congrArg _ (funext fun answer => ih _)
      | pause length => exact congrArg _ (funext fun done => ih ())
      | log line => exact ih ()
      | clock => exact congrArg _ (funext fun now => ih now)
      | get => exact congrArg _ (funext fun state => ih state)
      | set state => exact congrArg _ (funext fun done => ih ())

end Program

namespace Radio

variable {L ε σ ρ ρ' α : Type}

/-- What comes of a program on the other radio comes of the translated program on this one. -/
theorem Translates.run_through {radio : Radio ε ρ} {other : Radio ε ρ'}
    {translation : Translation} {related : ρ → ρ' → Prop}
    (h : radio.Translates other translation related) (program : Program L ε σ α) (s : σ)
    (start : ρ) (start' : ρ') (hrelated : related start start') :
    (radio.run (program.through translation) s start).SameOutward
      (other.run program s start') := by
  induction program generalizing s start start' with
  | pure value => exact ⟨rfl, rfl, rfl⟩
  | step action next ih =>
      cases action with
      | call request =>
          obtain ⟨hanswer, hafter⟩ := h.answer request start start' hrelated
          rw [Program.through, run_call, run_call, hanswer]
          exact (ih _ s _ _ hafter).andThen s _ _ rfl
      | pause length =>
          rw [Program.through, run_pause, run_pause]
          exact (ih () s _ _ (h.elapse length start start' hrelated)).andThen s _ _ rfl
      | log line =>
          rw [run_log]
          exact (ih () s start start' hrelated).andThen s [] _ rfl
      | clock =>
          obtain ⟨hnow, hafter⟩ := h.clock start start' hrelated
          rw [Program.through, run_clock, run_clock, hnow]
          exact ih _ s _ _ hafter
      | get => exact ih s s start start' hrelated
      | set state => exact ih () state start start' hrelated

/-- Every radio answers as it does. -/
theorem translates_literal (radio : Radio ε ρ) : radio.Translates radio .literal (· = ·) where
  answer request a b h := by
    subst h
    refine ⟨?_, rfl⟩
    cases (radio.answer request a).1 with
    | ok answer => rfl
    | error cause => rfl
  elapse length a b h := congrArg _ h
  clock a b h := by
    subst h
    exact ⟨rfl, rfl⟩

end Radio

namespace Attempt

variable {L ε σ α β : Type}

/-- The attempt that translates the answers for itself, and logs nothing. -/
def through (translation : Translation) (attempt : Attempt L ε σ α) : Attempt L ε σ α :=
  ExceptT.mk (attempt.run.through translation)

@[simp] theorem through_bind (translation : Translation) (attempt : Attempt L ε σ α)
    (rest : α → Attempt L ε σ β) :
    (attempt >>= rest).through translation =
      attempt.through translation >>= fun value => (rest value).through translation := by
  refine ExceptT.ext ?_
  rw [ExceptT.run_bind, through, ExceptT.run_mk, ExceptT.run_bind, Program.through_bind]
  refine congrArg _ (funext fun result => ?_)
  cases result with
  | ok value => rfl
  | error error => rfl

@[simp] theorem through_ask (translation : Translation) (request : Request)
    (read : request.Answer → α) :
    (ask request read : Attempt L ε σ α).through translation =
      ask request fun answer => read (translation request answer) := by
  refine congrArg ExceptT.mk (congrArg (Program.step (.call request)) (funext fun answer => ?_))
  cases answer with
  | ok answer => rfl
  | error cause => rfl

@[simp] theorem through_lift (translation : Translation) (program : Program L ε σ α) :
    (lift program).through translation = lift (program.through translation) := by
  refine ExceptT.ext ?_
  rw [through, ExceptT.run_mk, lift, lift, ExceptT.run_lift, ExceptT.run_lift, map_eq_pure_bind,
    map_eq_pure_bind, Program.through_bind]
  rfl

/-- What follows a request may take its answer in different ways, as long as it comes to the
same with every answer. -/
theorem ask_bind_congr {γ : Type} (request : Request) {read : request.Answer → α}
    {read' : request.Answer → γ} {rest : α → Attempt L ε σ β} {rest' : γ → Attempt L ε σ β}
    (h : ∀ answer, rest (read answer) = rest' (read' answer)) :
    ask request read >>= rest = ask request read' >>= rest' := by
  refine ExceptT.ext ?_
  rw [run_ask_bind, run_ask_bind]
  refine congrArg _ (funext fun result => ?_)
  cases result with
  | ok answer => exact congrArg ExceptT.run (h answer)
  | error cause => rfl

/-- A wait is not changed if the readings of the status register are not. -/
theorem through_awaitStatusFrom (translation : Translation)
    (h : ∀ status, translation .readStatus status = status) (flags : Status)
    (timeout interval waited : UInt32) :
    (awaitStatusFrom flags timeout interval waited : Attempt L ε σ Status).through translation =
      awaitStatusFrom flags timeout interval waited := by
  induction waited using awaitStatusFrom.induct timeout interval with
  | case1 waited ih =>
      rw [awaitStatusFrom, through_bind]
      have hpoll : (pollStatus flags : Attempt L ε σ (Option Status)).through translation =
          pollStatus flags := by
        rw [pollStatus, through_bind, readStatus, through_ask]
        refine ask_bind_congr _ fun status => ?_
        rw [h]
        rfl
      rw [hpoll]
      refine congrArg _ (funext fun shown => ?_)
      cases shown with
      | some status => rfl
      | none =>
          by_cases hover : timeout.toNat ≤ waited.toNat
          · simp only [dif_pos hover]
            rfl
          · simp only [dif_neg hover, through_bind, through_lift, ih hover]
            rfl

end Attempt

end Ranging

import Mathlib.Data.List.Forall2
import Ranging.Proofs.Run.Sequence
import Ranging.Radio.Wait

/-!
# Runs that differ in sequence numbers only

Two radios are alike if they answer the same as long as they are asked the same, where the
sequence number of a frame that is stored makes no difference to either of them. Their
states may be of different kinds; a relation between them says which belong together. Their
clocks need not agree, as the programs compared here do not read them.

Two programs are `Coupled` if on any two such radios they come to the same value with
events that are alike. The states of the nodes need not be equal for that, only related,
and stay so. The rules below follow the construction of programs: a sequence of coupled
programs is coupled, and each single action is coupled with itself.
-/

namespace Ranging

/-- The frames are equal, but for their sequence numbers. -/
def SameButSeq (frame other : List UInt8) : Prop := frame.set 2 0 = other.set 2 0

/-- The events are equal, but for the sequence number of a frame that is stored. -/
inductive Event.Alike {L ε : Type} : Event L ε → Event L ε → Prop where
  | same (event : Event L ε) : Alike event event
  | stored {frame other : List UInt8} (h : SameButSeq frame other) (answer : Except ε Unit) :
      Alike (.call (.storeFrame frame) answer) (.call (.storeFrame other) answer)

/-- From related states on, the radios give the same answers to the same requests. -/
structure Radio.Alike {ε ρ ρ' : Type} (radio : Radio ε ρ) (other : Radio ε ρ')
    (related : ρ → ρ' → Prop) : Prop where
  answer : ∀ request a b, related a b →
    (radio.answer request a).1 = (other.answer request b).1 ∧
      related (radio.answer request a).2 (other.answer request b).2
  /-- The sequence number of a frame makes no difference. -/
  stored : ∀ frame frame' a b, SameButSeq frame frame' → related a b →
    (radio.answer (.storeFrame frame) a).1 = (other.answer (.storeFrame frame') b).1 ∧
      related (radio.answer (.storeFrame frame) a).2 (other.answer (.storeFrame frame') b).2
  elapse : ∀ length a b, related a b → related (radio.elapse length a) (other.elapse length b)

/-- What two programs come to, each on a radio of its own, is the same but for sequence
numbers. -/
structure Radio.RunsAlike {L ε σ ρ ρ' α : Type} (radio : Radio ε ρ) (other : Radio ε ρ')
    (related : ρ → ρ' → Prop) (kin : σ → σ → Prop) (program program' : Program L ε σ α)
    (s s' : σ) (start : ρ) (start' : ρ') : Prop where
  value_eq : (radio.run program s start).value = (other.run program' s' start').value
  events : List.Forall₂ Event.Alike (radio.run program s start).events
    (other.run program' s' start').events
  kin : kin (radio.run program s start).state (other.run program' s' start').state
  related : related (radio.after program s start) (other.after program' s' start')

namespace Program

variable {L ε σ α β : Type} {kin : σ → σ → Prop}

/-- The programs come to the same on alike radios from any states that are kin, and leave such
states. -/
def Coupled (kin : σ → σ → Prop) (program program' : Program L ε σ α) : Prop :=
  ∀ ⦃ρ ρ' : Type⦄ (radio : Radio ε ρ) (other : Radio ε ρ') (related : ρ → ρ' → Prop),
    radio.Alike other related → ∀ s s' start start', kin s s' → related start start' →
      radio.RunsAlike other related kin program program' s s' start start'

theorem coupled_pure (value : α) : Coupled kin (pure value : Program L ε σ α) (pure value) := by
  intro ρ ρ' radio other related _ s s' start start' hkin hrelated
  exact ⟨rfl, .nil, hkin, hrelated⟩

theorem Coupled.bind {program program' : Program L ε σ α} {rest rest' : α → Program L ε σ β}
    (h : Coupled kin program program') (hrest : ∀ value, Coupled kin (rest value) (rest' value)) :
    Coupled kin (program >>= rest) (program' >>= rest') := by
  intro ρ ρ' radio other related halike s s' start start' hkin hrelated
  have hfirst := h radio other related halike s s' start start' hkin hrelated
  -- Both sides go on with the same value.
  have hsecond := hrest (radio.run program s start).value radio other related halike _ _ _ _
    hfirst.kin hfirst.related
  refine ⟨?_, ?_, ?_, ?_⟩
  · rw [radio.run_bind, other.run_bind, ← hfirst.value_eq]
    exact hsecond.value_eq
  · rw [radio.run_bind, other.run_bind, ← hfirst.value_eq]
    exact List.rel_append hfirst.events hsecond.events
  · rw [radio.run_bind, other.run_bind, ← hfirst.value_eq]
    exact hsecond.kin
  · rw [radio.after_bind, other.after_bind, ← hfirst.value_eq]
    exact hsecond.related

theorem Coupled.map {program program' : Program L ε σ α} (f : α → β)
    (h : Coupled kin program program') : Coupled kin (f <$> program) (f <$> program') := by
  rw [map_eq_pure_bind, map_eq_pure_bind]
  exact h.bind fun value => coupled_pure (f value)

/-! ## Single actions -/

theorem coupled_call (request : Request) :
    Coupled kin (.step (.call request) .pure : Program L ε σ (Except ε request.Answer))
      (.step (.call request) .pure) := by
  intro ρ ρ' radio other related halike s s' start start' hkin hrelated
  obtain ⟨hanswer, hafter⟩ := halike.answer request start start' hrelated
  refine ⟨hanswer, ?_, hkin, hafter⟩
  change List.Forall₂ Event.Alike [Event.call request (radio.answer request start).1]
    [Event.call request (other.answer request start').1]
  rw [hanswer]
  exact .cons (.same _) .nil

/-- The storing of two frames with different sequence numbers. -/
theorem coupled_storeFrame {frame frame' : List UInt8} (h : SameButSeq frame frame') :
    Coupled kin (.step (.call (.storeFrame frame)) .pure : Program L ε σ (Except ε Unit))
      (.step (.call (.storeFrame frame')) .pure) := by
  intro ρ ρ' radio other related halike s s' start start' hkin hrelated
  obtain ⟨hanswer, hafter⟩ := halike.stored frame frame' start start' h hrelated
  refine ⟨hanswer, ?_, hkin, hafter⟩
  change List.Forall₂ Event.Alike
    [Event.call (.storeFrame frame) (radio.answer (.storeFrame frame) start).1]
    [Event.call (.storeFrame frame') (other.answer (.storeFrame frame') start').1]
  rw [hanswer]
  exact .cons (.stored h _) .nil

theorem coupled_pause (length : Pause) :
    Coupled kin (.step (.pause length) .pure : Program L ε σ Unit)
      (.step (.pause length) .pure) := by
  intro ρ ρ' radio other related halike s s' start start' hkin hrelated
  exact ⟨rfl, .cons (.same _) .nil, hkin, halike.elapse length start start' hrelated⟩

theorem coupled_log (line : L) :
    Coupled kin (log line : Program L ε σ Unit) (log line) := by
  intro ρ ρ' radio other related halike s s' start start' hkin hrelated
  exact ⟨rfl, .cons (.same _) .nil, hkin, hrelated⟩

/-- What follows a reading of the state depends on states that are kin. -/
theorem coupled_getState_bind {rest rest' : σ → Program L ε σ α}
    (h : ∀ s s', kin s s' → Coupled kin (rest s) (rest' s')) :
    Coupled kin (getState >>= rest) (getState >>= rest') := by
  intro ρ ρ' radio other related halike s s' start start' hkin hrelated
  obtain ⟨hvalue, hevents, hstate, hafter⟩ :=
    h s s' hkin radio other related halike s s' start start' hkin hrelated
  exact ⟨hvalue, hevents, hstate, hafter⟩

theorem coupled_modifyState {change change' : σ → σ}
    (h : ∀ s s', kin s s' → kin (change s) (change' s')) :
    Coupled kin (modifyState change : Program L ε σ Unit) (modifyState change') := by
  intro ρ ρ' radio other related halike s s' start start' hkin hrelated
  exact ⟨rfl, .nil, h s s' hkin, hrelated⟩

end Program

namespace Attempt

variable {L ε σ α β : Type} {kin : σ → σ → Prop}

open Program (Coupled)

theorem coupled_bind {attempt attempt' : Attempt L ε σ α} {rest rest' : α → Attempt L ε σ β}
    (h : Coupled kin attempt.run attempt'.run)
    (hrest : ∀ value, Coupled kin (rest value).run (rest' value).run) :
    Coupled kin (attempt >>= rest).run (attempt' >>= rest').run := by
  rw [ExceptT.run_bind, ExceptT.run_bind]
  refine h.bind fun result => ?_
  cases result with
  | ok value => exact hrest value
  | error error => exact Program.coupled_pure _

theorem coupled_lift {program program' : Program L ε σ α} (h : Coupled kin program program') :
    Coupled kin (lift program).run (lift program').run :=
  h.map Except.ok

/-- A request answered, with what is taken from the answer. -/
theorem run_ask (request : Request) (read : request.Answer → α) :
    (ask request read : Attempt L ε σ α).run =
      (fun result : Except ε request.Answer => (result.map read).mapError Error.radio) <$>
        Program.step (.call request) .pure := by
  rw [map_eq_pure_bind, ask, ExceptT.run_mk, Program.step_bind]
  congr 1
  funext result
  cases result with
  | ok answer => rfl
  | error cause => rfl

theorem coupled_ask (request : Request) (read : request.Answer → α) :
    Coupled kin (ask request read : Attempt L ε σ α).run (ask request read).run := by
  rw [run_ask]
  exact (Program.coupled_call request).map _

theorem coupled_awaitStatusFrom (flags : Status) (timeout interval waited : UInt32) :
    Coupled kin (awaitStatusFrom flags timeout interval waited : Attempt L ε σ Status).run
      (awaitStatusFrom flags timeout interval waited).run := by
  induction waited using awaitStatusFrom.induct timeout interval with
  | case1 waited ih =>
      rw [awaitStatusFrom]
      refine coupled_bind (coupled_bind (coupled_ask _ _) fun _ => Program.coupled_pure _) ?_
      intro shown
      cases shown with
      | some status => exact Program.coupled_pure _
      | none =>
          by_cases hover : timeout.toNat ≤ waited.toNat
          · simp only [dif_pos hover]
            exact Program.coupled_pure _
          · simp only [dif_neg hover]
            exact coupled_bind (coupled_lift (Program.coupled_pause _)) fun _ => ih hover

end Attempt

end Ranging

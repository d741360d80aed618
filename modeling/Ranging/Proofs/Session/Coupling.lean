import Ranging.Proofs.Run.Alike
import Ranging.Proofs.Session.Course
import Ranging.Proofs.Session.Ending
import Ranging.Proofs.Session.Reply

/-!
# Exchanges do not depend on those before them

Of what earlier exchanges have left in a session, an exchange uses nothing but the sequence
number, and that only to write it into its frame. Two sessions with the same configuration
therefore take the same turn on radios that are alike: they find the same, with the same
requests, pauses and log lines up to the sequence number of the frame, and their numbers
move on by the same amount. In particular an exchange finds after any history what it would
find in a fresh session.
-/

namespace Ranging

/-- The sessions have the same configuration, and their numbers are some distance apart. -/
structure Session.Kin (distance : UInt8) (s s' : Session) : Prop where
  config_eq : s'.config = s.config
  seq_eq : s'.seq = s.seq + distance

namespace Session

variable {F ε α : Type} {distance : UInt8}

open Program (Coupled)

/-- Sessions that are kin stay so when they go on to the next number. -/
theorem Kin.advance {s s' : Session} (h : Kin distance s s') :
    Kin distance { s with seq := s.seq + 1 } { s' with seq := s'.seq + 1 } := by
  refine ⟨h.config_eq, ?_⟩
  change s'.seq + 1 = s.seq + 1 + distance
  rw [h.seq_eq, UInt8.add_assoc, UInt8.add_assoc, UInt8.add_comm distance]

theorem Kin.enter {s s' : Session} (h : Kin distance s s') (state state' : ExchangeState) :
    Kin distance { s with state := state } { s' with state := state' } :=
  ⟨h.config_eq, h.seq_eq⟩

theorem coupled_getConfig_bind {rest rest' : Config → SessionAttempt F ε α}
    (h : ∀ config, Coupled (Kin distance) (rest config).run (rest' config).run) :
    Coupled (Kin distance) (getConfig >>= rest).run (getConfig >>= rest').run := by
  rw [getConfig, Attempt.run_lift_bind, Attempt.run_lift_bind, bind_assoc, bind_assoc]
  refine Program.coupled_getState_bind ?_
  intro s s' hkin
  rw [pure_bind, pure_bind, hkin.config_eq]
  exact h s.config

theorem coupled_getSeq_bind {rest rest' : UInt8 → SessionAttempt F ε α}
    (h : ∀ seq, Coupled (Kin distance) (rest seq).run (rest' (seq + distance)).run) :
    Coupled (Kin distance) (getSeq >>= rest).run (getSeq >>= rest').run := by
  rw [getSeq, Attempt.run_lift_bind, Attempt.run_lift_bind, bind_assoc, bind_assoc]
  refine Program.coupled_getState_bind ?_
  intro s s' hkin
  rw [pure_bind, pure_bind, hkin.seq_eq]
  exact h s.seq

theorem coupled_advanceSeq :
    Coupled (Kin distance) (advanceSeq : SessionAttempt F ε Unit).run advanceSeq.run :=
  Attempt.coupled_lift (Program.coupled_modifyState fun _ _ => Kin.advance)

theorem coupled_enter (state : ExchangeState) :
    Coupled (Kin distance) (enter state : SessionAttempt F ε Unit).run (enter state).run :=
  Attempt.coupled_lift (Program.coupled_modifyState fun _ _ h => h.enter state state)

theorem coupled_takeSeq_bind {rest rest' : UInt8 → SessionAttempt F ε α}
    (h : ∀ seq, Coupled (Kin distance) (rest seq).run (rest' (seq + distance)).run) :
    Coupled (Kin distance) (takeSeq >>= rest).run (takeSeq >>= rest').run := by
  rw [takeSeq, bind_assoc, bind_assoc]
  refine coupled_getSeq_bind fun seq => ?_
  rw [bind_assoc, bind_assoc]
  exact Attempt.coupled_bind coupled_advanceSeq fun _ => h seq

/-- An attempt that does not deal with the number goes the same way in sessions that are kin. -/
theorem Unnumbered.coupled {allowed : Request → Prop} {attempt : SessionAttempt F ε α}
    (h : Unnumbered allowed attempt) : Coupled (Kin distance) attempt.run attempt.run := by
  induction h with
  | pure value => exact Program.coupled_pure _
  | throw error _ => exact Program.coupled_pure _
  | log line => exact Attempt.coupled_lift (Program.coupled_log line)
  | getConfig =>
      rw [← bind_pure Session.getConfig]
      exact coupled_getConfig_bind fun _ => Program.coupled_pure _
  | enter state => exact coupled_enter state
  | ask request read _ => exact Attempt.coupled_ask request read
  | await flags timeout _ =>
      exact coupled_getConfig_bind fun config => Attempt.coupled_awaitStatusFrom _ _ _ 0
  | bind attempt rest _ _ ihattempt ihrest => exact Attempt.coupled_bind ihattempt ihrest

/-- Exchanges with coupled bodies are coupled, as the cleaning up is the same. -/
theorem coupled_finishing {body body' : SessionAttempt F ε α}
    (h : Coupled (Kin distance) body.run body'.run) :
    Coupled (Kin distance) (finishing body).run (finishing body').run := by
  rw [run_finishing, run_finishing]
  refine h.bind fun outcome => ?_
  refine (Program.coupled_modifyState fun _ _ h => h.enter .idle .idle).bind fun _ => ?_
  exact unnumbered_cleanUp.coupled.bind fun cleaned => Program.coupled_pure _

theorem coupled_storeFrame {frame frame' : List UInt8} (h : SameButSeq frame frame') :
    Coupled (Kin distance) (Attempt.storeFrame frame : SessionAttempt F ε Unit).run
      (Attempt.storeFrame frame').run := by
  rw [Attempt.storeFrame, Attempt.storeFrame, Attempt.run_ask, Attempt.run_ask]
  exact (Program.coupled_storeFrame h).map _

end Session

namespace Initiator

variable {F ε : Type} {distance : UInt8}

open Session
open Program (Coupled)

theorem sameButSeq_poll (seq seq' : UInt8) (pan dst src : UInt16) :
    SameButSeq (Poll.bytes ⟨seq, pan, dst, src⟩) (Poll.bytes ⟨seq', pan, dst, src⟩) := rfl

theorem coupled_launch (config : Config) {poll poll' : Poll}
    (h : SameButSeq poll.bytes poll'.bytes) :
    Coupled (Kin distance) (launch config poll : SessionAttempt F ε Unit).run
      (launch config poll').run := by
  refine Attempt.coupled_bind (Attempt.coupled_ask _ _) fun _ => ?_
  refine Attempt.coupled_bind (Attempt.coupled_ask _ _) fun _ => ?_
  refine Attempt.coupled_bind (Attempt.coupled_ask _ _) fun _ => ?_
  refine Attempt.coupled_bind (Attempt.coupled_ask _ _) fun _ => ?_
  refine Attempt.coupled_bind (coupled_storeFrame h) fun _ => ?_
  refine Attempt.coupled_bind (Attempt.coupled_ask _ _) fun start => ?_
  cases start with
  | started => exact coupled_enter _
  | tooLate => exact Program.coupled_pure _

theorem coupled_exchange [Scalar F] (target : UInt16) :
    Coupled (Kin distance) (exchange target : SessionAttempt F ε F).run (exchange target).run := by
  rw [exchange_eq]
  refine coupled_getConfig_bind fun config => coupled_takeSeq_bind fun seq => ?_
  exact Attempt.coupled_bind (coupled_launch config (sameButSeq_poll _ _ _ _ _)) fun _ =>
    (unnumbered_afterPoll target).coupled

end Initiator

namespace Responder

variable {F ε : Type} {distance : UInt8}

open Session
open Program (Coupled)

theorem sameButSeq_response (config : Config) (poll : Poll) (received : Instant)
    (seq seq' : UInt8) :
    SameButSeq (response config poll received seq).bytes
      (response config poll received seq').bytes := rfl

theorem coupled_schedule (config : Config) (poll : Poll) (received : Instant) (seq seq' : UInt8) :
    Coupled (Kin distance) (schedule config poll received seq : SessionAttempt F ε Reply).run
      (schedule config poll received seq').run := by
  refine Attempt.coupled_bind (coupled_storeFrame (sameButSeq_response _ _ _ _ _)) fun _ => ?_
  refine Attempt.coupled_bind (Attempt.coupled_ask _ _) fun start => ?_
  cases start with
  | started => exact Program.coupled_pure _
  | tooLate =>
      exact Attempt.coupled_bind (Attempt.coupled_lift (Program.coupled_log _)) fun _ =>
        Program.coupled_pure _

theorem coupled_exchange :
    Coupled (Kin distance) (exchange : SessionAttempt F ε Reply).run exchange.run := by
  rw [exchange_eq]
  refine Attempt.coupled_bind (Attempt.coupled_bind unnumbered_listen.coupled fun _ =>
    Attempt.coupled_bind unnumbered_receivePoll.coupled fun poll => ?_) fun reply => ?_
  · rw [sendResponse_eq]
    refine coupled_getConfig_bind fun config => ?_
    refine Attempt.coupled_bind (Attempt.coupled_ask _ _) fun received => ?_
    exact coupled_getSeq_bind fun seq => coupled_schedule config poll received _ _
  · exact Attempt.coupled_bind unnumbered_confirm.coupled fun _ =>
      Attempt.coupled_bind coupled_advanceSeq fun _ => Program.coupled_pure _

end Responder

section Exchanges

variable {F ε : Type} [Scalar F] {distance : UInt8}

open Session
open Program (Coupled)

/-- Sessions that are kin take the same turn. -/
theorem Turn.coupled_program (turn : Turn) :
    Coupled (Kin distance) (turn.program : SessionProgram F ε (Finding F ε)) turn.program := by
  cases turn with
  | initiate target =>
      refine (coupled_finishing (coupled_getConfig_bind fun config => ?_)).map _
      cases config.scheme with
      | singleSided => exact Initiator.coupled_exchange target
      | doubleSided =>
          exact Attempt.coupled_bind (Attempt.coupled_lift (Program.coupled_log _)) fun _ =>
            Program.coupled_pure _
  | respond =>
      refine (coupled_finishing (coupled_getConfig_bind fun config => ?_)).map _
      cases config.scheme with
      | singleSided => exact Responder.coupled_exchange
      | doubleSided =>
          exact Attempt.coupled_bind (Attempt.coupled_lift (Program.coupled_log _)) fun _ =>
            Program.coupled_pure _

theorem Turn.idle (turn : Turn) (s : Session) (events : List (Event (Line F) ε))
    (finding : Finding F ε) (t : Session) (h : turn.program.endsAlong s events finding t) :
    t.state = .idle := by
  cases turn with
  | initiate target =>
      obtain ⟨result, hends, -⟩ := (Program.endsAlong_map _ _ _ _ _ _).1 h
      exact idle_finishing _ _ _ _ _ hends
  | respond =>
      obtain ⟨result, hends, -⟩ := (Program.endsAlong_map _ _ _ _ _ _).1 h
      exact idle_finishing _ _ _ _ _ hends

end Exchanges

/-- Two sessions took the same turn: they found the same, all that was to be seen of them is
the same up to sequence numbers, and their own numbers moved on by the same amount. -/
structure SameTurn {F ε : Type} (s s' : Session)
    (run run' : Run (Line F) ε Session (Finding F ε)) : Prop where
  value_eq : run.value = run'.value
  events : List.Forall₂ Event.Alike run.events run'.events
  advance_eq : run.state.seq - s.seq = run'.state.seq - s'.seq
  idle : run.state.state = .idle ∧ run'.state.state = .idle

theorem Turn.sameTurn {F ε ρ ρ' : Type} [Scalar F] (turn : Turn) (radio : Radio ε ρ)
    (other : Radio ε ρ') (related : ρ → ρ' → Prop) (halike : radio.Alike other related)
    (s s' : Session) (start : ρ) (start' : ρ') (hconfig : s'.config = s.config)
    (hrelated : related start start') :
    SameTurn (F := F) s s' (radio.run turn.program s start)
      (other.run turn.program s' start') := by
  have hkin : Session.Kin (s'.seq - s.seq) s s' := by
    refine ⟨hconfig, ?_⟩
    rw [UInt8.add_comm, UInt8.sub_add_cancel]
  obtain ⟨hvalue, hevents, hafter, -⟩ :=
    turn.coupled_program (F := F) radio other related halike s s' start start' hkin hrelated
  refine ⟨hvalue, hevents, ?_, turn.idle _ _ _ _ (radio.endsAlong_run _ s start),
    turn.idle _ _ _ _ (other.endsAlong_run _ s' start')⟩
  -- The numbers are as far apart as they were, so both have moved on by the same amount.
  rw [hafter.seq_eq, UInt8.sub_eq_add_neg s'.seq, UInt8.add_comm s'.seq, ← UInt8.add_assoc,
    UInt8.add_sub_cancel, UInt8.sub_eq_add_neg]

/-- Whatever happened before, two sessions with the same configuration take the same turn on
radios that are alike, and so does a session after any course of exchanges and a fresh one. -/
theorem exchange_forgets_history {F ε ρ ρ' : Type} [Scalar F] (radio : Radio ε ρ)
    (other : Radio ε ρ') (related : ρ → ρ' → Prop) (halike : radio.Alike other related)
    (s : Session) (start : ρ) (turn : Turn) :
    (∀ s' start', s'.config = s.config → related start start' →
      SameTurn (F := F) s s' (radio.run turn.program s start)
        (other.run turn.program s' start')) ∧
    ∀ turns start',
      let left := radio.course (F := F) turns s start
      related left.device start' →
        SameTurn (F := F) left.session (Session.fresh s.config)
          (radio.run turn.program left.session left.device)
          (other.run turn.program (Session.fresh s.config) start') := by
  refine ⟨?_, ?_⟩
  · intro s' start' hconfig hrelated
    exact turn.sameTurn radio other related halike s s' start start' hconfig hrelated
  · intro turns start' left hrelated
    refine turn.sameTurn radio other related halike _ _ _ _ ?_ hrelated
    exact (radio.config_course turns s start).symm

/-- A radio that answers in the same way every time is like itself. -/
theorem Radio.alike_prompt (frame : List UInt8) (received sent : Instant) :
    (Radio.prompt frame received sent).Alike (Radio.prompt frame received sent)
      fun _ _ => True where
  answer _ _ _ _ := ⟨rfl, trivial⟩
  stored _ _ _ _ _ _ := ⟨rfl, trivial⟩
  elapse _ _ _ _ := trivial

/-- After an exchange that failed and a Poll that was answered, a Poll is answered as by a fresh
session. -/
theorem samplePoll_answered_again :
    let radio := Radio.prompt samplePoll.bytes ⟨300⟩ ⟨0⟩
    let config := Config.standard Config.defaultPan 2
    let left := radio.course (F := Rat) [.initiate 3, .respond] (Session.fresh config) ()
    radio.Alike radio (fun _ _ => True) ∧ left.session.seq = 2 ∧
      (radio.run (Turn.respond.program (F := Rat)) left.session left.device).value =
        .reply (.ok ⟨1, ⟨300⟩, ⟨74072116⟩⟩) ∧
      SameTurn left.session (Session.fresh config)
        (radio.run (Turn.respond.program (F := Rat)) left.session left.device)
        (radio.run Turn.respond.program (Session.fresh config) ()) := by
  intro radio config left
  have halike := Radio.alike_prompt samplePoll.bytes ⟨300⟩ ⟨0⟩
  obtain ⟨-, hcourse⟩ := exchange_forgets_history (F := Rat) radio radio (fun _ _ => True) halike
    (Session.fresh config) () .respond
  have hsame := hcourse [.initiate 3, .respond] () trivial
  have hseq : left.session.seq = 2 := by cbv
  have hfresh : (radio.run (Turn.respond.program (F := Rat)) (Session.fresh config) ()).value =
      .reply (.ok ⟨1, ⟨300⟩, ⟨74072116⟩⟩) := by cbv
  exact ⟨halike, hseq, hsame.value_eq.trans hfresh, hsame⟩

end Ranging

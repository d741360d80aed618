import Ranging.Proofs.Session.Course
import Ranging.Proofs.Session.Order
import Ranging.Proofs.Session.Reply

/-!
# The order in which the transceiver is worked

A transceiver keeps flags and frames until they are cleared, so what is left over from one
exchange can be taken for a part of the next one unless the requests come in a certain order.
`Turn.Permits` is that order: for every request, what has to have happened in the same exchange
before it is made. It is kept in every exchange of a session, whichever request fails in it.

What happens before the reception is a fixed list of requests; from there on the events are
known up to the readings of the wait, and `follows_reception` serves both roles.
-/

namespace Ranging

section Events

variable {L ε : Type}

/-- Whether the event turns the receiver on, now or after a transmission, or fails to. -/
def Event.arms : Event L ε → Bool
  | .call .enableReceiver _ => true
  | .call (.send _ answerExpected) _ => answerExpected
  | _ => false

/-- Whether the event takes a frame out of the transceiver, or fails to. -/
def Event.fetches : Event L ε → Bool
  | .call (.frameBytes _) _ => true
  | _ => false

/-- The receiver was turned on. -/
def Armed (events : List (Event L ε)) : Prop :=
  .call .enableReceiver (.ok ()) ∈ events ∨
    ∃ time, .call (.send time true) (.ok .started) ∈ events

theorem Armed.append {events : List (Event L ε)} (h : Armed events) (more : List (Event L ε)) :
    Armed (events ++ more) := by
  rcases h with h | ⟨time, h⟩
  · exact .inl (List.mem_append_left more h)
  · exact .inr ⟨time, List.mem_append_left more h⟩

end Events

/-- The length of the frame that a node waits for in an exchange. -/
def Turn.frameSize : Turn → Nat
  | .initiate _ => Response.size
  | .respond => Poll.size

/-- What has to have happened before the receiver is turned on. -/
structure Turn.Prepared {L ε : Type} (turn : Turn) (config : Config)
    (before : List (Event L ε)) : Prop where
  unarmed : ∀ event ∈ before, event.arms = false
  /-- No flag is left of the exchanges before. -/
  cleared : .call (.clearStatus (Status.receiveDone ||| Status.sent)) (.ok ()) ∈ before
  /-- An initiator has no frame left either, and the receiver knows when to start and to stop. -/
  configured : ∀ target, turn = .initiate target →
    .call .resetReceiver (.ok ()) ∈ before ∧
      .call (.setReceiveDelay config.timeouts.responseDelay) (.ok ()) ∈ before ∧
      .call (.setReceiveTimeout config.timeouts.responseTimeout) (.ok ()) ∈ before

/-- What has to have happened in an exchange before a request is made. -/
def Turn.Permits {L ε : Type} (turn : Turn) (config : Config) (before : List (Event L ε)) :
    Request → Prop
  | .send _ answerExpected =>
      (∀ event ∈ before, event.isSend = false) ∧
        (∃ frame, .call (.storeFrame frame) (.ok ()) ∈ before) ∧
        (answerExpected = true → turn.Prepared config before)
  | .enableReceiver => turn.Prepared config before
  | .readStatus => Armed before
  | .frameBytes length =>
      (∀ event ∈ before, event.fetches = false) ∧
        (∃ status ∈ statusesRead before, status.contains Status.received = true) ∧
        length = turn.frameSize ∧
        ∃ earlier, before = earlier ++ [.call .frameLength (.ok length)]
  | _ => True

namespace Session

variable {F ε α : Type} {turn : Turn} {config : Config} {past : List (Event (Line F) ε)}

/-- The register may be read at any time once the receiver is turned on. -/
theorem granted_readStatus (h : Armed past) :
    Rule.Granted (turn.Permits config) past .readStatus := fun more => h.append more

theorem madeOf_cleanUp_granted (past : List (Event (Line F) ε)) :
    MadeOf (Rule.Granted (turn.Permits config) past) (cleanUp : SessionAttempt F ε Unit) :=
  .bind _ _ (.ask _ _ fun _ => trivial) fun _ => .ask _ _ fun _ => trivial

theorem follows_acceptFrame_bind (φ : Type) [Readable φ] (mask : Mask)
    (template received : List UInt8) (other : Line F) (rest : φ → SessionAttempt F ε α)
    (hrest : ∀ frame, Follows (turn.Permits config) config past (rest frame)) :
    Follows (turn.Permits config) config past
      (acceptFrame φ mask template received other >>= rest) := by
  rw [acceptFrame]
  split
  · cases (readFrame φ received 0).1 with
    | ok frame => exact hrest frame
    | error cause => exact follows_throw (.unreadable cause)
  · rw [bind_assoc]
    exact follows_log_bind _ _ (follows_throw _)

/-- A frame is taken out once, when a good status was read, with the length that it has. -/
theorem follows_receiveBytes_bind (status : Status) (rest : List UInt8 → SessionAttempt F ε α)
    (hread : status ∈ statusesRead past) (hfresh : ∀ event ∈ past, event.fetches = false)
    (hrest : ∀ seen frame, (∀ event ∈ seen, event.isSend = false) →
      Follows (turn.Permits config) config (past ++ seen) (rest frame)) :
    Follows (turn.Permits config) config past (receiveBytes turn.frameSize status >>= rest) := by
  rw [receiveBytes]
  cases hgood : status.contains Status.received with
  | false =>
      rw [if_neg Bool.false_ne_true]
      split
      · rw [bind_assoc]
        exact follows_log_bind _ _ (follows_throw _)
      · exact follows_throw _
  | true =>
      rw [if_pos rfl, Attempt.clearStatus, Attempt.frameLength]
      simp only [bind_assoc]
      refine follows_ask_bind _ _ _ trivial fun done => ?_
      refine follows_ask_bind _ _ _ trivial fun actual => ?_
      change Nat at actual
      rw [id_eq]
      by_cases hactual : actual = turn.frameSize
      · subst hactual
        rw [if_pos rfl, Attempt.frameBytes]
        refine follows_ask_bind _ _ _ ⟨?_, ?_, rfl, _, rfl⟩ fun frame => ?_
        · simp only [List.mem_append, List.mem_singleton]
          rintro event ((hmem | rfl) | rfl)
          · exact hfresh event hmem
          · rfl
          · rfl
        · refine ⟨status, ?_, hgood⟩
          rw [statusesRead_append, statusesRead_append]
          exact List.mem_append_left _ (List.mem_append_left _ hread)
        · rw [List.append_assoc, List.append_assoc]
          refine hrest _ frame ?_
          rintro event hmem
          simp only [List.mem_append, List.mem_singleton] at hmem
          rcases hmem with rfl | rfl | rfl
          · rfl
          · rfl
          · rfl
      · rw [if_neg hactual]
        exact follows_throw _

/-- Both roles receive their frame in the same way once the receiver is turned on. What comes after
it may rely on nothing having been sent in the meantime. -/
theorem follows_reception (timeout : UInt32) (rest : List UInt8 → SessionAttempt F ε α)
    (harmed : Armed past) (hfresh : ∀ event ∈ past, event.fetches = false)
    (hrest : ∀ seen frame, (∀ event ∈ seen, event.isSend = false) →
      Follows (turn.Permits config) config (past ++ seen) (rest frame)) :
    Follows (turn.Permits config) config past
      (await Status.receiveDone timeout >>= fun status =>
        receiveBytes turn.frameSize status >>= rest) := by
  refine follows_await_bind _ _ _ (granted_readStatus harmed) fun misses status => ?_
  have hmisses : ∀ event ∈ (missEvents config.timeouts.statusInterval misses ++
      [.call .readStatus (.ok status)] : List (Event (Line F) ε)),
      event.isSend = false ∧ event.fetches = false := by
    refine List.forall_mem_append.2 ⟨?_, ?_⟩
    · exact forall_mem_missEvents _ _ misses (fun _ => ⟨rfl, rfl⟩) fun _ => ⟨rfl, rfl⟩
    · rintro event hmem
      rw [List.mem_singleton.1 hmem]
      exact ⟨rfl, rfl⟩
  refine follows_receiveBytes_bind status rest ?_ ?_ ?_
  · rw [statusesRead_append, statusesRead_append]
    exact List.mem_append_right _ (List.mem_append_right _ List.mem_cons_self)
  · exact List.forall_mem_append.2 ⟨hfresh, fun event hmem => (hmisses event hmem).2⟩
  · intro seen frame hseen
    rw [List.append_assoc]
    exact hrest _ frame
      (List.forall_mem_append.2 ⟨fun event hmem => (hmisses event hmem).1, hseen⟩)

end Session

namespace Initiator

open Session

variable {F ε : Type} {config : Config}

theorem follows_measureDistance [Scalar F] {turn : Turn} (target : UInt16) (response : Response)
    (past : List (Event (Line F) ε)) :
    Follows (turn.Permits config) config past (measureDistance target response) := by
  refine follows_of_madeOf (.bind _ _ (.step _ internal_getConfig) fun config => ?_)
  refine .bind _ _ (.ask _ _ fun _ => trivial) fun _ => .bind _ _ (.ask _ _ fun _ => trivial) ?_
  refine fun _ => .bind _ _ (.ask _ _ fun _ => trivial) fun _ => ?_
  exact .bind _ _ (.step _ (internal_log _)) fun _ => .step _ (internal_pure _)

theorem follows_afterPoll [Scalar F] (target : UInt16) (past : List (Event (Line F) ε))
    (harmed : Armed past) (hfresh : ∀ event ∈ past, event.fetches = false) :
    Follows ((Turn.initiate target).Permits config) config past (afterPoll target) := by
  rw [afterPoll, receiveResponse]
  simp only [bind_assoc]
  refine follows_getConfig_bind _ (follows_reception _ _ harmed hfresh fun seen frame _ => ?_)
  exact follows_acceptFrame_bind _ _ _ _ _ _ fun response => follows_measureDistance _ _ _

theorem follows_exchange [Scalar F] (target : UInt16) :
    Follows ((Turn.initiate target).Permits config) config []
      (exchange target : SessionAttempt F ε F) := by
  rw [exchange_eq]
  refine follows_getConfig_bind _ (follows_takeSeq_bind _ fun seq => ?_)
  rw [launch, Attempt.resetReceiver, Attempt.clearStatus, Attempt.setReceiveDelay,
    Attempt.setReceiveTimeout, Attempt.storeFrame, Attempt.send]
  simp only [bind_assoc]
  refine follows_ask_bind _ _ _ trivial fun _ => follows_ask_bind _ _ _ trivial fun _ => ?_
  refine follows_ask_bind _ _ _ trivial fun _ => follows_ask_bind _ _ _ trivial fun _ => ?_
  refine follows_ask_bind _ _ _ trivial fun _ => follows_ask_bind _ _ _ ?_ fun start => ?_
  -- The start of the Poll turns the receiver on as well, and the five requests before it are all
  -- that has happened.
  · refine ⟨?_, ?_, ?_⟩
    · simp [Event.isSend]
    · exact ⟨_, List.mem_append_right _ List.mem_cons_self⟩
    · intro _
      refine ⟨?_, ?_, ?_⟩
      · simp [Event.arms]
      · simp
      · simp
  · cases start with
    | tooLate => exact follows_throw _
    | started =>
        refine follows_enter_bind _ _ (follows_afterPoll target _ ?_ ?_)
        · exact .inr ⟨.now, List.mem_append_right _ List.mem_cons_self⟩
        · simp [Event.fetches]

end Initiator

namespace Responder

open Session

variable {F ε : Type} {config : Config} {past : List (Event (Line F) ε)}

/-- Once the receiver was turned on, nothing in the confirmation depends on the order. -/
theorem follows_confirmSent_bind {α : Type} (value : α) (harmed : Armed past) :
    Follows (Turn.respond.Permits config) config past
      (confirmSent >>= fun _ => pure value : SessionAttempt F ε α) := by
  rw [confirmSent]
  simp only [bind_assoc]
  refine follows_of_madeOf (.bind _ _ (.step _ internal_getConfig) fun config => ?_)
  refine .bind _ _ (.await _ _ (granted_readStatus harmed)) fun _ => ?_
  refine .bind _ _ (.ask _ _ fun _ => trivial) fun _ => ?_
  exact .bind _ _ (.step _ internal_advanceSeq) fun _ => .step _ (internal_pure _)

theorem follows_sendResponse_bind {α : Type} (poll : Poll) (rest : Reply → SessionAttempt F ε α)
    (hunsent : ∀ event ∈ past, event.isSend = false)
    (hrest : ∀ seen reply, Follows (Turn.respond.Permits config) config (past ++ seen)
      (rest reply)) :
    Follows (Turn.respond.Permits config) config past (sendResponse poll >>= rest) := by
  rw [sendResponse_eq]
  simp only [bind_assoc]
  refine follows_getConfig_bind _ ?_
  rw [Attempt.receiveTime]
  refine follows_ask_bind _ _ _ trivial fun received => follows_getSeq_bind _ fun seq => ?_
  rw [schedule, Attempt.storeFrame, Attempt.send]
  simp only [bind_assoc]
  refine follows_ask_bind _ _ _ trivial fun stored => follows_ask_bind _ _ _ ?_ fun start => ?_
  · refine ⟨?_, ?_, ?_⟩
    · refine List.forall_mem_append.2 ⟨List.forall_mem_append.2 ⟨hunsent, ?_⟩, ?_⟩
      · simp [Event.isSend]
      · simp [Event.isSend]
    · exact ⟨_, List.mem_append_right _ List.mem_cons_self⟩
    · intro hexpected
      cases hexpected
  · cases start with
    | started =>
        rw [List.append_assoc, List.append_assoc]
        exact hrest _ _
    | tooLate =>
        exact follows_log_bind _ _ (follows_throw _)

theorem follows_afterListen (harmed : Armed past)
    (hfresh : ∀ event ∈ past, event.fetches = false)
    (hunsent : ∀ event ∈ past, event.isSend = false) :
    Follows (Turn.respond.Permits config) config past (receivePoll >>= fun poll =>
      sendResponse poll >>= fun reply => confirmSent >>= fun _ =>
        pure reply : SessionAttempt F ε Reply) := by
  rw [receivePoll]
  simp only [bind_assoc]
  refine follows_getConfig_bind _ (follows_reception _ _ harmed hfresh fun seen frame hseen => ?_)
  refine follows_acceptFrame_bind _ _ _ _ _ _ fun poll => ?_
  refine follows_sendResponse_bind poll _ (List.forall_mem_append.2 ⟨hunsent, hseen⟩) ?_
  intro more reply
  exact follows_confirmSent_bind reply ((harmed.append seen).append more)

theorem follows_exchange :
    Follows (Turn.respond.Permits config) config []
      (exchange : SessionAttempt F ε Reply) := by
  simp only [exchange, listen, Attempt.clearStatus, Attempt.setReceiveTimeout,
    Attempt.enableReceiver, bind_assoc]
  refine follows_getConfig_bind _ (follows_ask_bind _ _ _ trivial fun _ => ?_)
  refine follows_ask_bind _ _ _ trivial fun _ => follows_ask_bind _ _ _ ?_ fun _ => ?_
  · refine ⟨?_, ?_, ?_⟩
    · simp [Event.arms]
    · simp
    · intro target hinitiates
      cases hinitiates
  · refine follows_enter_bind _ _ (follows_afterListen ?_ ?_ ?_)
    · exact .inl (List.mem_append_right _ List.mem_cons_self)
    · simp [Event.fetches]
    · simp [Event.isSend]

end Responder

namespace Session

variable {F ε α : Type} {turn : Turn} {config : Config}

theorem follows_initiateIn [Scalar F] (target : UInt16) (scheme : Scheme) :
    Follows ((Turn.initiate target).Permits config) config []
      (initiateIn target scheme : SessionAttempt F ε F) := by
  cases scheme with
  | singleSided => exact Initiator.follows_exchange target
  | doubleSided => exact follows_log_bind _ _ (follows_throw _)

theorem follows_respondIn (scheme : Scheme) :
    Follows (Turn.respond.Permits config) config []
      (respondIn scheme : SessionAttempt F ε Reply) := by
  cases scheme with
  | singleSided => exact Responder.follows_exchange
  | doubleSided => exact follows_log_bind _ _ (follows_throw _)

/-- The cleaning up after an exchange may be carried out at any time. -/
theorem follows_finishing (body : SessionAttempt F ε α)
    (h : Follows (turn.Permits config) config [] body) :
    Follows (turn.Permits config) config [] (finishing body) := by
  intro s events result t hconfig hends
  obtain ⟨first, second, outcome, cleaned, u, rfl, hbody, hclean, -⟩ :=
    (ends_finishing _ _ _ _ _).1 hends
  refine (Rule.obeyed_append _ _ _ _).2 ⟨h s first outcome u hconfig hbody, ?_⟩
  exact Rule.obeyed_of_granted _ _ _ ((madeOf_cleanUp_granted _).within _ _ _ _ hclean)

end Session

section Exchanges

variable {F ε ρ : Type} [Scalar F]

/-- Whatever becomes of an exchange, its requests are made when they may be. -/
theorem Turn.obeyed (turn : Turn) (s : Session) (events : List (Event (Line F) ε))
    (finding : Finding F ε) (t : Session) (h : turn.program.endsAlong s events finding t) :
    Rule.Obeyed (turn.Permits s.config) [] events := by
  cases turn with
  | initiate target =>
      obtain ⟨result, hends, -⟩ := (Program.endsAlong_map _ _ _ _ _ _).1 h
      exact Session.follows_finishing _
        (Session.follows_getConfig_bind _ (Session.follows_initiateIn target _)) s events result t
        rfl hends
  | respond =>
      obtain ⟨result, hends, -⟩ := (Program.endsAlong_map _ _ _ _ _ _).1 h
      exact Session.follows_finishing _
        (Session.follows_getConfig_bind _ (Session.follows_respondIn _)) s events result t
        rfl hends

/-- In every exchange that a session carries out, each request is made when it may be. -/
theorem exchanges_keep_order (radio : Radio ε ρ) (turns : List Turn) (s : Session) (start : ρ) :
    ∀ played ∈ (radio.course (F := F) turns s start).played, ∀ before request answer after,
      played.run.events = before ++ .call request answer :: after →
        played.turn.Permits s.config before request := by
  induction turns generalizing s start with
  | nil => exact fun played hmem => absurd hmem List.not_mem_nil
  | cons turn rest ih =>
      have hpath := radio.endsAlong_run (turn.program : SessionProgram F ε (Finding F ε)) s start
      intro played hmem before request answer after hevents
      rw [Radio.played_course_cons] at hmem
      rcases List.mem_cons.1 hmem with rfl | hmem
      · have hobeyed := turn.obeyed s _ _ _ hpath
        rw [hevents] at hobeyed
        exact hobeyed.permitted
      · rw [← turn.config_eq s _ _ _ hpath]
        exact ih _ _ played hmem before request answer after hevents

end Exchanges

/-- A Poll is taken out in order after an exchange that failed. -/
theorem samplePoll_fetched_in_order :
    let radio := Radio.prompt samplePoll.bytes ⟨300⟩ ⟨0⟩
    let config := Config.standard Config.defaultPan 2
    let course := radio.course (F := Rat) [.initiate 3, .respond] (Session.fresh config) ()
    ∃ played ∈ course.played, ∃ before answer after,
      played.run.events = before ++ .call (.frameBytes 10) answer :: after ∧
        played.turn.Permits config before (.frameBytes 10) := by
  intro radio config course
  let left := radio.course (F := Rat) [.initiate 3] (Session.fresh config) ()
  let played : Played Rat String :=
    ⟨.respond, left.session, radio.run Turn.respond.program left.session left.device⟩
  have hmem : played ∈ course.played := List.mem_cons_of_mem _ List.mem_cons_self
  have hevents : played.run.events =
      [.call (.clearStatus (Status.receiveDone ||| Status.sent)) (.ok ()),
        .call (.setReceiveTimeout 65535) (.ok ()), .call .enableReceiver (.ok ()),
        .call .readStatus (.ok (Status.received ||| Status.sent)),
        .call (.clearStatus (Status.received ||| Status.sent)) (.ok ()),
        .call .frameLength (.ok 10)] ++ .call (.frameBytes 10) (.ok ⟨samplePoll.bytes, rfl⟩) ::
      played.run.events.drop 7 := by
    cbv
  exact ⟨played, hmem, _, _, _, hevents,
    exchanges_keep_order radio _ _ () played hmem _ _ _ _ hevents⟩

end Ranging

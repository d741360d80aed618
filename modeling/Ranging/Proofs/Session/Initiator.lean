import Ranging.Proofs.Frame.Template
import Ranging.Proofs.Session.Composition
import Ranging.Proofs.Session.Reception

/-!
# How the exchange of an initiator ends

An exchange that ends well has left `pollEvents`, a reception, and
`measureEvents`, with the answers that the distance is computed from. If no
request failed, an exchange comes to nothing in one of three ways, the cases of
`InitiatorRefusal`: the Poll could not be sent, the reception came to nothing, or
the frame received is no Response to this Poll.
-/

namespace Ranging

namespace Initiator

open Session

/-- The Poll that a session sends next. -/
def nextPoll (s : Session) (target : UInt16) : Poll :=
  ⟨s.seq, s.config.pan, target, s.config.addr⟩

/-- The events of sending a Poll, up to the start of the transmission. -/
def pollEvents {L ε : Type} (s : Session) (target : UInt16) (start : SendStart) :
    List (Event L ε) :=
  [.call .resetReceiver (.ok ()),
    .call (.clearStatus (Status.receiveDone ||| Status.sent)) (.ok ()),
    .call (.setReceiveDelay s.config.timeouts.responseDelay) (.ok ()),
    .call (.setReceiveTimeout s.config.timeouts.responseTimeout) (.ok ()),
    .call (.storeFrame (nextPoll s target).bytes) (.ok ()),
    .call (.send .now true) (.ok start)]

/-- The events of taking the distance, with the two times and the integrator read. -/
def measureEvents {L ε : Type} (sent received : Instant) (integrator : Int32) (line : L) :
    List (Event L ε) :=
  [.call .sendTime (.ok sent), .call .receiveTime (.ok received),
    .call .carrierIntegrator (.ok integrator), .log line]

/-- The clock drift that the carrier of a Response shows. -/
def driftOf {F : Type} [Scalar F] (config : Config) (integrator : Int32) : F :=
  (CarrierOffset.ofIntegrator integrator config.radio.bitrate config.radio.channel :
    CarrierOffset F).clockRatio

/-- The distance that follows from a Response and the own readings. -/
def distanceTo {F : Type} [Scalar F] (config : Config) (response : Response)
    (sent received : Instant) (integrator : Int32) : F :=
  distanceOfFlight (timeOfFlight sent.low32 response.pollReceived response.responseSent
    received.low32 (driftOf config integrator))

/-- Why an exchange comes to nothing although no request failed. -/
inductive InitiatorRefusal {L ε : Type} (s : Session) (target : UInt16) :
    List (Event L ε) → Error ε → Prop where
  /-- The Poll could not be sent. -/
  | unsent : InitiatorRefusal s target (pollEvents s target .tooLate) .transmitFailure
  /-- No frame of the right length was received. -/
  | unanswered (events : List (Event L ε)) (error : Error ε) :
      ReceptionRefusal s.config.timeouts.statusInterval s.config.timeouts.responseWait
        Response.size events error →
      InitiatorRefusal s target (pollEvents s target .started ++ events) error
  /-- The frame is no Response to the Poll. -/
  | foreign (misses : List Status) (status : Status) (frame : Frame Response.size) (line : L) :
      FrameHeard s.config.timeouts.statusInterval s.config.timeouts.responseWait misses status →
      Mask.response.accepts (responseTemplate s.config target).bytes frame.val = false →
      InitiatorRefusal s target
        (pollEvents s target .started ++
          receptionEvents s.config.timeouts.statusInterval misses status frame ++ [.log line])
        .contentMismatch

variable {F ε : Type}

@[simp] theorem statusesRead_pollEvents {L : Type} (s : Session) (target : UInt16)
    (start : SendStart) : statusesRead (pollEvents s target start : List (Event L ε)) = [] := by
  simp [pollEvents]

/-- If the Poll is sent and the frame that comes in is a Response to it, the exchange
is not refused. -/
theorem not_initiatorRefusal {L : Type} (s : Session) (target : UInt16)
    (events after : List (Event L ε)) (error : Error ε) (hafter : statusesRead after = [])
    (hstarted : .call (.send .now true) (.ok .tooLate) ∉ events)
    (hheard : ∃ status, firstShowing Status.receiveDone (events ++ after) = some status ∧
      status.contains Status.received = true)
    (hlength : ∀ actual, .call .frameLength (.ok actual) ∈ events → actual = Response.size)
    (hbytes : ∀ frame : Frame Response.size,
      .call (.frameBytes Response.size) (.ok frame) ∈ events →
        ∃ seq p r, frame.val = Response.bytes ⟨seq, s.config.pan, target, s.config.addr, p, r⟩) :
    ¬InitiatorRefusal s target events error := by
  intro h
  cases h with
  | unsent => exact hstarted (by simp [pollEvents])
  | unanswered events error hrefusal =>
      refine not_receptionRefusal _ _ _ (pollEvents s target .started) events after error
        (statusesRead_pollEvents _ _ _) hafter hheard ?_ hrefusal
      exact fun actual hmem => hlength actual (List.mem_append_right _ hmem)
  | foreign misses status frame line hframe haccepts =>
      have haccepted := (Mask.accepts_response_iff (responseTemplate s.config target) frame.val).2
        (hbytes frame (by simp [receptionEvents]))
      rw [haccepted] at haccepts
      cases haccepts

theorem ends_sendPoll_ok (target : UInt16) (s : Session) (events : List (Event (Line F) ε))
    (t : Session) (h : (sendPoll target).ends s events (.ok ()) t) :
    events = pollEvents s target .started ∧
      t = { s with seq := s.seq + 1, state := .awaitingPeer .response } := by
  rw [sendPoll, ends_getConfig_bind, ends_takeSeq_bind] at h
  rw [Attempt.resetReceiver, Attempt.ends_ask_bind_ok] at h
  obtain ⟨_, _, rfl, h⟩ := h
  rw [Attempt.clearStatus, Attempt.ends_ask_bind_ok] at h
  obtain ⟨_, _, rfl, h⟩ := h
  rw [Attempt.setReceiveDelay, Attempt.ends_ask_bind_ok] at h
  obtain ⟨_, _, rfl, h⟩ := h
  rw [Attempt.setReceiveTimeout, Attempt.ends_ask_bind_ok] at h
  obtain ⟨_, _, rfl, h⟩ := h
  rw [Attempt.storeFrame, Attempt.ends_ask_bind_ok] at h
  obtain ⟨_, _, rfl, h⟩ := h
  rw [Attempt.send, Attempt.ends_ask_bind_ok] at h
  obtain ⟨start, _, rfl, h⟩ := h
  cases start with
  | started =>
      obtain ⟨rfl, -, rfl⟩ := (ends_enter _ _ _ _ _).1 h
      exact ⟨rfl, rfl⟩
  | tooLate => cases h.2.1

theorem refuses_sendPoll (target : UInt16) (s : Session) (events : List (Event (Line F) ε))
    (error : Error ε) (t : Session) (h : (sendPoll target).refuses s events error t) :
    events = pollEvents s target .tooLate ∧ error = .transmitFailure := by
  obtain ⟨h, hall⟩ := h
  rw [sendPoll, ends_getConfig_bind, ends_takeSeq_bind] at h
  replace h : Attempt.refuses _ _ _ _ _ := ⟨h, hall⟩
  rw [Attempt.resetReceiver, Attempt.refuses_ask_bind] at h
  obtain ⟨_, _, rfl, h⟩ := h
  rw [Attempt.clearStatus, Attempt.refuses_ask_bind] at h
  obtain ⟨_, _, rfl, h⟩ := h
  rw [Attempt.setReceiveDelay, Attempt.refuses_ask_bind] at h
  obtain ⟨_, _, rfl, h⟩ := h
  rw [Attempt.setReceiveTimeout, Attempt.refuses_ask_bind] at h
  obtain ⟨_, _, rfl, h⟩ := h
  rw [Attempt.storeFrame, Attempt.refuses_ask_bind] at h
  obtain ⟨_, _, rfl, h⟩ := h
  rw [Attempt.send, Attempt.refuses_ask_bind] at h
  obtain ⟨start, _, rfl, h⟩ := h
  cases start with
  | started =>
      obtain ⟨-, he, -⟩ := (ends_enter _ _ _ _ _).1 h.1
      cases he
  | tooLate =>
      obtain ⟨rfl, rfl, -⟩ := (Attempt.refuses_throw _ _ _ _ _).1 h
      exact ⟨rfl, rfl⟩

theorem ends_measureDistance_ok [Scalar F] (target : UInt16) (response : Response) (s : Session)
    (events : List (Event (Line F) ε)) (distance : F) (t : Session)
    (h : (measureDistance target response).ends s events (.ok distance) t) :
    t = s ∧ ∃ sent received integrator line,
      events = measureEvents sent received integrator line ∧
      distance = distanceTo s.config response sent received integrator := by
  rw [measureDistance, ends_getConfig_bind] at h
  rw [Attempt.sendTime, Attempt.ends_ask_bind_ok] at h
  obtain ⟨sent, _, rfl, h⟩ := h
  rw [Attempt.receiveTime, Attempt.ends_ask_bind_ok] at h
  obtain ⟨received, _, rfl, h⟩ := h
  rw [Attempt.carrierIntegrator, Attempt.ends_ask_bind_ok] at h
  obtain ⟨integrator, _, rfl, h⟩ := h
  rw [ends_log_bind] at h
  obtain ⟨_, rfl, rfl, hdistance, rfl⟩ := h
  exact ⟨rfl, sent, received, integrator, _, rfl, Except.ok.inj hdistance⟩

theorem not_refuses_measureDistance [Scalar F] (target : UInt16) (response : Response)
    (s : Session) (events : List (Event (Line F) ε)) (error : Error ε) (t : Session) :
    ¬(measureDistance target response).refuses s events error t := by
  intro h
  obtain ⟨h, hall⟩ := h
  rw [measureDistance, ends_getConfig_bind] at h
  replace h : Attempt.refuses _ _ _ _ _ := ⟨h, hall⟩
  rw [Attempt.sendTime, Attempt.refuses_ask_bind] at h
  obtain ⟨_, _, rfl, h⟩ := h
  rw [Attempt.receiveTime, Attempt.refuses_ask_bind] at h
  obtain ⟨_, _, rfl, h⟩ := h
  rw [Attempt.carrierIntegrator, Attempt.refuses_ask_bind] at h
  obtain ⟨_, _, rfl, h, -⟩ := h
  rw [ends_log_bind] at h
  obtain ⟨_, -, -, he, -⟩ := h
  cases he

/-- What an exchange that ends well has done, and the distance that it found. -/
theorem ends_exchange_ok [Scalar F] (target : UInt16) (s : Session)
    (events : List (Event (Line F) ε)) (distance : F) (t : Session)
    (h : (exchange target).ends s events (.ok distance) t) :
    t.config = s.config ∧ ∃ misses status, ∃ frame : Frame Response.size,
      ∃ seq p r sent received integrator line,
      FrameHeard s.config.timeouts.statusInterval s.config.timeouts.responseWait misses status ∧
      frame.val = Response.bytes ⟨seq, s.config.pan, target, s.config.addr, p, r⟩ ∧
      events = pollEvents s target .started ++
        (receptionEvents s.config.timeouts.statusInterval misses status frame ++
          measureEvents sent received integrator line) ∧
      distance = distanceTo s.config ⟨seq, s.config.pan, target, s.config.addr, p, r⟩ sent received
        integrator := by
  rw [exchange, Attempt.ends_bind_ok] at h
  obtain ⟨first, rest, _, u, rfl, hsend, h⟩ := h
  obtain ⟨rfl, rfl⟩ := ends_sendPoll_ok target s first u hsend
  rw [Attempt.ends_bind_ok] at h
  obtain ⟨second, third, response, u, rfl, hreceive, hmeasure⟩ := h
  rw [receiveResponse, ends_getConfig_bind] at hreceive
  obtain ⟨misses, status, frame, tail, hreception, rfl, haccept⟩ :=
    ends_reception_ok _ _ _ _ _ _ _ hreceive
  obtain ⟨haccepts, hread, rfl, rfl⟩ := ends_acceptFrame_ok _ _ _ _ _ _ _ _ _ haccept
  obtain ⟨seq, p, r, hframe⟩ := (Mask.accepts_response_iff _ _).1 haccepts
  rw [hframe, readFrame_bytes_response] at hread
  cases hread
  obtain ⟨rfl, sent, received, integrator, line, rfl, rfl⟩ :=
    ends_measureDistance_ok target _ _ _ _ _ hmeasure
  refine ⟨rfl, misses, status, frame, seq, p, r, sent, received, integrator, line, hreception,
    hframe, ?_, rfl⟩
  rw [List.append_nil]

/-- If no request fails, an exchange ends well or comes to nothing in one of three ways. -/
theorem refusal_of_refuses_exchange [Scalar F] (target : UInt16) (s : Session)
    (events : List (Event (Line F) ε)) (error : Error ε) (t : Session)
    (h : (exchange target : SessionAttempt F ε F).refuses s events error t) :
    InitiatorRefusal s target events error := by
  rw [exchange] at h
  rcases Attempt.refuses_bind _ _ _ _ _ _ h with hsend | ⟨first, rest, _, u, rfl, hsend, hrest⟩
  · obtain ⟨rfl, rfl⟩ := refuses_sendPoll target s events error t hsend
    exact .unsent
  obtain ⟨rfl, rfl⟩ := ends_sendPoll_ok target s first u hsend
  rcases Attempt.refuses_bind _ _ _ _ _ _ hrest with
    hreceive | ⟨second, third, response, u, -, -, hmeasure⟩
  · obtain ⟨hreceive, hall⟩ := hreceive
    rw [receiveResponse, ends_getConfig_bind] at hreceive
    rcases refuses_reception _ _ _ _ _ _ _ ⟨hreceive, hall⟩ with
      hrefusal | ⟨misses, status, frame, tail, hreception, rfl, haccept⟩
    · exact .unanswered rest error hrefusal
    · rcases refuses_acceptFrame _ _ _ _ _ _ _ _ _ haccept with
        ⟨haccepts, rfl, rfl⟩ | ⟨haccepts, cause, hread, -⟩
      · rw [← List.append_assoc]
        exact .foreign misses status frame _ hreception haccepts
      · -- What the template accepts is an encoding, so it can be read.
        obtain ⟨seq, p, r, hframe⟩ := (Mask.accepts_response_iff _ _).1 haccepts
        rw [hframe, readFrame_bytes_response] at hread
        cases hread
  · exact absurd hmeasure (not_refuses_measureDistance target response _ _ _ _)

end Initiator

end Ranging

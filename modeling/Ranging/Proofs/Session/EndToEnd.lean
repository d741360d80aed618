import Mathlib
import Ranging.Proofs.Clock.Flight
import Ranging.Proofs.Session.CleanUp
import Ranging.Proofs.Session.Initiator
import Ranging.Proofs.Session.Responder

/-!
# Ranging between two nodes

A tag and an anchor are run each on a radio of its own. A `RoundTrip` is a pair
of such runs in which nothing goes wrong, each node receives what the other one
wrote, and the two flights take the same time. Then the anchor reports a reply to
the tag, and the tag reports the distance of that flight, whatever the sequence
numbers, the antenna delays, the reply interval and the readings of the two
clocks are.
-/

namespace Ranging

/-- No request of a node fails, its transmission starts, and its wait for a frame
ends with a good one. -/
structure Undisturbed {L ε : Type} (events : List (Event L ε)) : Prop where
  all_succeed : ∀ event ∈ events, event.succeeds
  all_started : ∀ time wait start,
    .call (.send time wait) (.ok start) ∈ events → start = .started
  heard : ∃ status, firstShowing Status.receiveDone events = some status ∧
    status.contains Status.received = true

/-- What a node takes out of its transceiver is the given frame. -/
structure Receives {L ε : Type} (frame : List UInt8) (events : List (Event L ε)) : Prop where
  length_eq : ∀ length, .call .frameLength (.ok length) ∈ events → length = frame.length
  bytes_eq : ∀ length, ∀ bytes : Frame length,
    .call (.frameBytes length) (.ok bytes) ∈ events → bytes.val = frame

/-- The runs of a tag and of an anchor that answers it, with the time at which the
Poll was sent on the clock of the tag, that at which it was received on the clock of
the anchor, and the ticks that a frame is under way. -/
structure RoundTrip {ε ε' : Type} (tag : Run (Line Rat) ε Session (Except (Error ε) Rat))
    (anchor : Run (Line Rat) ε' Session (Except (Error ε') Reply)) (sent received : Instant)
    (flight : Nat) : Prop where
  tag_undisturbed : Undisturbed tag.events
  anchor_undisturbed : Undisturbed anchor.events
  poll_delivered : ∀ frame ∈ framesStored tag.events, Receives frame anchor.events
  response_delivered : ∀ frame ∈ framesStored anchor.events, Receives frame tag.events
  /-- After it has started to send, the anchor sees that the Response was sent. -/
  response_sent : ∀ event after, event :: after <:+ anchor.events → event.isSend = true →
    ∃ status ∈ statusesRead after, status.contains Status.sent = true
  poll_sent : ∀ time, .call .sendTime (.ok time) ∈ tag.events → time = sent
  poll_received : ∀ time, .call .receiveTime (.ok time) ∈ anchor.events → time = received
  /-- The Response arrives when the two flights and the reply have passed. -/
  response_received : ∀ reply, anchor.value = .ok reply →
    ∀ time, .call .receiveTime (.ok time) ∈ tag.events → time.ticks.toNat =
      (sent.ticks.toNat + 2 * flight + (reply.responseSent.since received).ticks.toNat) % 2 ^ 40
  no_drift : ∀ integrator, .call .carrierIntegrator (.ok integrator) ∈ tag.events →
    integrator = 0
  round_trip_lt : ∀ reply, anchor.value = .ok reply →
    2 * flight + (reply.responseSent.since received).ticks.toNat < 2 ^ 32

namespace Initiator

open Session

variable {F ε : Type}

/-- If no request fails, the Poll was stored. -/
theorem nextPoll_mem_framesStored [Scalar F] (target : UInt16) (s : Session)
    (events : List (Event (Line F) ε)) (result : Except (Error ε) F) (t : Session)
    (h : (finishing (exchange target)).ends s events result t)
    (hall : ∀ event ∈ events, event.succeeds) :
    (nextPoll s target).bytes ∈ framesStored events := by
  cases result with
  | ok distance =>
      obtain ⟨first, u, rfl, hexchange, -⟩ := ends_finishing_ok _ s events distance t h
      obtain ⟨-, misses, status, frame, seq, p, r, sent, received, integrator, line, -, -, rfl,
        -⟩ := ends_exchange_ok target s first distance u hexchange
      simp [pollEvents]
  | error e =>
      obtain ⟨first, u, rfl, hexchange, -⟩ := refuses_finishing _ s events e t ⟨h, hall⟩
      cases refusal_of_refuses_exchange target s first e u hexchange with
      | unsent => simp [pollEvents]
      | unanswered => simp [pollEvents]
      | foreign => simp [pollEvents]

/-- An initiator that receives a Response to its Poll finds the distance. -/
theorem eq_ok_of_receives [Scalar F] (s : Session) (response : Response)
    (events : List (Event (Line F) ε)) (result : Except (Error ε) F) (t : Session)
    (h : (finishing (exchange response.src)).ends s events result t)
    (hquiet : Undisturbed events) (hreceives : Receives response.bytes events)
    (hpan : response.pan = s.config.pan) (hdst : response.dst = s.config.addr) :
    ∃ sent received integrator,
      .call .sendTime (.ok sent) ∈ events ∧ .call .receiveTime (.ok received) ∈ events ∧
      .call .carrierIntegrator (.ok integrator) ∈ events ∧
      result = .ok (distanceTo s.config response sent received integrator) := by
  cases result with
  | ok distance =>
      obtain ⟨first, u, rfl, hexchange, -⟩ := ends_finishing_ok _ s events distance t h
      obtain ⟨-, misses, status, frame, seq, p, r, sent, received, integrator, line, -, hframe,
        rfl, rfl⟩ := ends_exchange_ok response.src s first distance u hexchange
      have hbytes : frame.val = response.bytes :=
        hreceives.bytes_eq Response.size frame (by simp [receptionEvents])
      have hresponse := Response.eq_of_bytes_eq _ _ (hframe.symm.trans hbytes)
      refine ⟨sent, received, integrator, ?_, ?_, ?_, ?_⟩
      · simp [measureEvents]
      · simp [measureEvents]
      · simp [measureEvents]
      · rw [hresponse]
  | error e =>
      obtain ⟨first, u, rfl, hexchange, -⟩ :=
        refuses_finishing _ s events e t ⟨h, hquiet.all_succeed⟩
      have hrefusal := refusal_of_refuses_exchange response.src s first e u hexchange
      refine absurd hrefusal (not_initiatorRefusal s response.src first cleanUpEvents e
        statusesRead_cleanUpEvents ?_ hquiet.heard ?_ ?_)
      · intro hmem
        cases hquiet.all_started _ _ _ (List.mem_append_left _ hmem)
      · intro actual hmem
        rw [hreceives.length_eq actual (List.mem_append_left _ hmem), Response.length_bytes]
      · intro frame hmem
        refine ⟨response.seq, response.pollReceived, response.responseSent, ?_⟩
        rw [hreceives.bytes_eq _ frame (List.mem_append_left _ hmem), ← hpan, ← hdst]

end Initiator

namespace Responder

open Session

variable {F ε : Type}

/-- A responder that receives a Poll that it answers stores its Response and reports it. -/
theorem eq_ok_of_receives (s : Session) (poll : Poll) (events : List (Event (Line F) ε))
    (result : Except (Error ε) Reply) (t : Session)
    (h : (finishing exchange).ends s events result t) (hquiet : Undisturbed events)
    (hreceives : Receives poll.bytes events) (haddressed : Addressed s.config poll)
    (hsent : ∀ event after, event :: after <:+ events → event.isSend = true →
      ∃ status ∈ statusesRead after, status.contains Status.sent = true) :
    ∃ received, .call .receiveTime (.ok received) ∈ events ∧
      (responseTo s poll received).bytes ∈ framesStored events ∧
      result = .ok (replyTo s.config poll received) := by
  cases result with
  | ok reply =>
      obtain ⟨first, u, rfl, hexchange, -⟩ := ends_finishing_ok _ s events reply t h
      rcases cases_of_ends_exchange s first _ u hexchange with
        ⟨-, e, he⟩ | ⟨other, misses, status, frame, received, answer, after, -, -, hframe, rfl, -,
          hreply⟩
      · cases he
      · have hbytes : frame.val = poll.bytes :=
          hreceives.bytes_eq Poll.size frame (by simp [receptionEvents])
        cases Poll.eq_of_bytes_eq _ _ (hframe.symm.trans hbytes)
        obtain ⟨-, rfl, -⟩ := hreply reply rfl
        refine ⟨received, ?_, ?_, rfl⟩
        · simp [preparationEvents]
        · simp [preparationEvents]
  | error e =>
      obtain ⟨first, u, rfl, hexchange, -⟩ :=
        refuses_finishing _ s events e t ⟨h, hquiet.all_succeed⟩
      have hrefusal := refusal_of_refuses_exchange s first e u hexchange
      refine absurd hrefusal (not_responderRefusal s first cleanUpEvents e
        statusesRead_cleanUpEvents hquiet.heard ?_ ?_ ?_ ?_)
      · intro actual hmem
        rw [hreceives.length_eq actual (List.mem_append_left _ hmem), Poll.length_bytes]
      · intro frame hmem
        exact ⟨poll, hreceives.bytes_eq _ frame (List.mem_append_left _ hmem), haddressed⟩
      · intro slot hmem
        cases hquiet.all_started _ _ _ (List.mem_append_left _ hmem)
      · intro event after hfirst hsend
        obtain ⟨before, rfl⟩ := hfirst
        obtain ⟨status, hmem, hshows⟩ := hsent event (after ++ cleanUpEvents)
          ⟨before, by rw [List.append_assoc, List.cons_append]⟩ hsend
        rw [statusesRead_append, statusesRead_cleanUpEvents, List.append_nil] at hmem
        exact ⟨status, hmem, hshows⟩

end Responder

/-- The Poll of a tag is one that its anchor answers. -/
theorem addressed_nextPoll (tag anchor : Session) (hpan : tag.config.pan = anchor.config.pan)
    (haccept : anchor.config.acceptFrom = none ∨
      anchor.config.acceptFrom = some tag.config.addr) :
    Responder.Addressed anchor.config (Initiator.nextPoll tag anchor.config.addr) where
  pan_eq := hpan
  src_eq := by
    intro initiator hinitiator
    rcases haccept with hnone | hsome
    · rw [hnone] at hinitiator
      cases hinitiator
    · rw [hsome] at hinitiator
      exact Option.some.inj hinitiator

namespace RoundTrip

open Session

variable {ε ε' : Type} {tagRun : Run (Line Rat) ε Session (Except (Error ε) Rat)}
  {anchorRun : Run (Line Rat) ε' Session (Except (Error ε') Reply)} {sent received : Instant}
  {flight : Nat}

/-- The anchor reports its reply and has stored the Response. -/
theorem reply_eq (h : RoundTrip tagRun anchorRun sent received flight) (tag anchor : Session)
    (htag : (finishing (Initiator.exchange anchor.config.addr)).ends tag tagRun.events tagRun.value
      tagRun.state)
    (hanchor : (finishing Responder.exchange).ends anchor anchorRun.events anchorRun.value
      anchorRun.state)
    (haddressed : Responder.Addressed anchor.config (Initiator.nextPoll tag anchor.config.addr)) :
    (Responder.responseTo anchor (Initiator.nextPoll tag anchor.config.addr) received).bytes ∈
        framesStored anchorRun.events ∧
      anchorRun.value = .ok
        (Responder.replyTo anchor.config (Initiator.nextPoll tag anchor.config.addr) received) := by
  have hpoll := Initiator.nextPoll_mem_framesStored anchor.config.addr tag tagRun.events
    tagRun.value tagRun.state htag h.tag_undisturbed.all_succeed
  obtain ⟨time, htime, hresponse, hreply⟩ := Responder.eq_ok_of_receives anchor _ anchorRun.events
    anchorRun.value anchorRun.state hanchor h.anchor_undisturbed (h.poll_delivered _ hpoll)
    haddressed h.response_sent
  rw [h.poll_received time htime] at hresponse hreply
  exact ⟨hresponse, hreply⟩

/-- The tag finds the distance of the flight from the Response that was stored. -/
theorem value_eq (h : RoundTrip tagRun anchorRun sent received flight) (tag : Session)
    (response : Response) (reply : Reply)
    (htag : (finishing (Initiator.exchange response.src)).ends tag tagRun.events tagRun.value
      tagRun.state)
    (hreply : anchorRun.value = .ok reply)
    (hstored : response.bytes ∈ framesStored anchorRun.events)
    (hpan : response.pan = tag.config.pan) (hdst : response.dst = tag.config.addr)
    (hpollReceived : response.pollReceived = received.low32)
    (hresponseSent : response.responseSent = reply.responseSent.low32) :
    tagRun.value = .ok ((flight : Rat) * tickSeconds * speedOfLight) := by
  obtain ⟨departed, arrived, integrator, hdeparted, harrived, hintegrator, hvalue⟩ :=
    Initiator.eq_ok_of_receives tag response tagRun.events tagRun.value tagRun.state htag
      h.tag_undisturbed (h.response_delivered _ hstored) hpan hdst
  have hlt := h.round_trip_lt reply hreply
  have harrival := h.response_received reply hreply arrived harrived
  rw [Nat.add_assoc] at harrival
  have hround := Instant.toNat_low32_sub_of_eq sent arrived _ harrival hlt
  have hinterval : (reply.responseSent.low32 - received.low32).toNat =
      (reply.responseSent.since received).ticks.toNat := by
    rw [Instant.toNat_low32_sub, Nat.mod_eq_of_lt (by omega)]
  rw [hvalue, h.poll_sent departed hdeparted, h.no_drift integrator hintegrator,
    Initiator.distanceTo, Initiator.driftOf, clockRatio_ofIntegrator_zero, hpollReceived,
    hresponseSent, timeOfFlight_eq _ _ _ _ flight _ hround hinterval]
  rfl

end RoundTrip

/-- A tag and an anchor find the distance of the flight between them, exactly. -/
theorem initiate_measures_flight {ε ε' ρ ρ' : Type} (tagRadio : Radio ε ρ)
    (anchorRadio : Radio ε' ρ') (tagStart : ρ) (anchorStart : ρ') (tag anchor : Session)
    (sent received : Instant) (flight : Nat) (htag : tag.config.scheme = .singleSided)
    (hanchor : anchor.config.scheme = .singleSided) (hpan : tag.config.pan = anchor.config.pan)
    (haccept : anchor.config.acceptFrom = none ∨ anchor.config.acceptFrom = some tag.config.addr)
    (htrip : RoundTrip (tagRadio.initiate tagStart tag anchor.config.addr)
      (anchorRadio.respond anchorStart anchor) sent received flight) :
    (∃ reply, (anchorRadio.respond (F := Rat) anchorStart anchor).value = .ok reply ∧
      reply.peer = tag.config.addr) ∧
    (tagRadio.initiate tagStart tag anchor.config.addr).value =
      .ok ((flight : Rat) * tickSeconds * speedOfLight) := by
  have htagEnds := tagRadio.ends_initiate (F := Rat) tagStart tag anchor.config.addr htag
  have hanchorEnds := anchorRadio.ends_respond (F := Rat) anchorStart anchor hanchor
  obtain ⟨hstored, hreply⟩ := htrip.reply_eq tag anchor htagEnds hanchorEnds
    (addressed_nextPoll tag anchor hpan haccept)
  refine ⟨⟨_, hreply, rfl⟩, ?_⟩
  exact htrip.value_eq tag
    (Responder.responseTo anchor (Initiator.nextPoll tag anchor.config.addr) received)
    (Responder.replyTo anchor.config (Initiator.nextPoll tag anchor.config.addr) received)
    htagEnds hreply hstored hpan.symm rfl rfl rfl

/-- A tag that has not ranged yet. -/
def sampleTag : Session := Session.fresh (Config.standard Config.defaultPan 1)

/-- An anchor that has not answered yet. -/
def sampleAnchor : Session := Session.fresh (Config.standard Config.defaultPan 2)

def samplePollFrame : Frame 10 := ⟨(Initiator.nextPoll sampleTag 2).bytes, rfl⟩

/-- The Response of the anchor, to the Poll received at tick 300. -/
def sampleResponseFrame : Frame 18 :=
  ⟨(Responder.responseTo sampleAnchor (Initiator.nextPoll sampleTag 2) ⟨300⟩).bytes, rfl⟩

/-- The run of the tag, to which the Response comes 2000 ticks later than without a flight. -/
def sampleTagRun : Run (Line Rat) String Session (Except (Error String) Rat) :=
  (Radio.prompt sampleResponseFrame.val ⟨74074816⟩ ⟨1000⟩).initiate () sampleTag 2

def sampleAnchorRun : Run (Line Rat) String Session (Except (Error String) Reply) :=
  (Radio.prompt samplePollFrame.val ⟨300⟩ ⟨0⟩).respond () sampleAnchor

theorem events_sampleTagRun : sampleTagRun.events =
    [.call .resetReceiver (.ok ()),
      .call (.clearStatus (Status.receiveDone ||| Status.sent)) (.ok ()),
      .call (.setReceiveDelay 940) (.ok ()), .call (.setReceiveTimeout 210) (.ok ()),
      .call (.storeFrame samplePollFrame.val) (.ok ()), .call (.send .now true) (.ok .started),
      .call .readStatus (.ok (Status.received ||| Status.sent)),
      .call (.clearStatus (Status.received ||| Status.sent)) (.ok ()),
      .call .frameLength (.ok 18), .call (.frameBytes 18) (.ok sampleResponseFrame),
      .call .sendTime (.ok ⟨1000⟩), .call .receiveTime (.ok ⟨74074816⟩),
      .call .carrierIntegrator (.ok 0), .log (.ranged 2 (1000 * tickSeconds) 0),
      .call (.clearStatus (Status.receiveDone ||| Status.sent)) (.ok ()),
      .call .resetReceiver (.ok ())] := by
  cbv

theorem events_sampleAnchorRun : sampleAnchorRun.events =
    [.call (.clearStatus (Status.receiveDone ||| Status.sent)) (.ok ()),
      .call (.setReceiveTimeout 65535) (.ok ()), .call .enableReceiver (.ok ()),
      .call .readStatus (.ok (Status.received ||| Status.sent)),
      .call (.clearStatus (Status.received ||| Status.sent)) (.ok ()),
      .call .frameLength (.ok 10), .call (.frameBytes 10) (.ok samplePollFrame),
      .call .receiveTime (.ok ⟨300⟩), .call (.storeFrame sampleResponseFrame.val) (.ok ()),
      .call (.send (.delayed 289280) false) (.ok .started),
      .call .readStatus (.ok (Status.received ||| Status.sent)),
      .call (.clearStatus Status.sent) (.ok ()),
      .call (.clearStatus (Status.receiveDone ||| Status.sent)) (.ok ()),
      .call .resetReceiver (.ok ())] := by
  cbv

theorem value_sampleAnchorRun : sampleAnchorRun.value = .ok ⟨1, ⟨300⟩, ⟨74072116⟩⟩ := by
  cbv

theorem roundTrip_sample : RoundTrip sampleTagRun sampleAnchorRun ⟨1000⟩ ⟨300⟩ 1000 where
  tag_undisturbed := by
    rw [events_sampleTagRun]
    refine ⟨?_, ?_, Status.received ||| Status.sent, ?_, ?_⟩
    · simp [Event.succeeds]
    · simp
    · cbv
    · decide
  anchor_undisturbed := by
    rw [events_sampleAnchorRun]
    refine ⟨?_, ?_, Status.received ||| Status.sent, ?_, ?_⟩
    · simp [Event.succeeds]
    · simp
    · cbv
    · decide
  poll_delivered := by
    rw [events_sampleTagRun, events_sampleAnchorRun]
    intro frame hframe
    have hframe : frame = samplePollFrame.val := by simpa using hframe
    rw [hframe]
    refine ⟨by simp [samplePollFrame, Poll.size], ?_⟩
    intro length bytes hmem
    obtain ⟨rfl, hbytes⟩ : length = 10 ∧ HEq (.ok bytes : Except String (Frame length))
        (.ok samplePollFrame : Except String (Frame 10)) := by
      simpa using hmem
    cases hbytes
    rfl
  response_delivered := by
    rw [events_sampleTagRun, events_sampleAnchorRun]
    intro frame hframe
    have hframe : frame = sampleResponseFrame.val := by simpa using hframe
    rw [hframe]
    refine ⟨by simp [sampleResponseFrame, Response.size], ?_⟩
    intro length bytes hmem
    obtain ⟨rfl, hbytes⟩ : length = 18 ∧ HEq (.ok bytes : Except String (Frame length))
        (.ok sampleResponseFrame : Except String (Frame 18)) := by
      simpa using hmem
    cases hbytes
    rfl
  response_sent := by
    rw [events_sampleAnchorRun]
    simp [List.suffix_cons_iff, or_imp, forall_and, Event.isSend]
    decide
  poll_sent := by
    rw [events_sampleTagRun]
    simp
  poll_received := by
    rw [events_sampleAnchorRun]
    simp
  response_received := by
    rw [value_sampleAnchorRun, events_sampleTagRun]
    intro reply hreply time htime
    have htime : time = ⟨74074816⟩ := by simpa using htime
    cases hreply
    rw [htime]
    decide
  no_drift := by
    rw [events_sampleTagRun]
    simp
  round_trip_lt := by
    rw [value_sampleAnchorRun]
    intro reply hreply
    cases hreply
    decide

theorem sample_measures_flight :
    sampleTag.config.scheme = .singleSided ∧ sampleAnchor.config.scheme = .singleSided ∧
      sampleTag.config.pan = sampleAnchor.config.pan ∧ sampleAnchor.config.acceptFrom = none ∧
      RoundTrip sampleTagRun sampleAnchorRun ⟨1000⟩ ⟨300⟩ 1000 ∧
      (∃ reply, sampleAnchorRun.value = .ok reply ∧ reply.peer = sampleTag.config.addr) ∧
      sampleTagRun.value = .ok (((1000 : Nat) : Rat) * tickSeconds * speedOfLight) := by
  refine ⟨rfl, rfl, rfl, rfl, roundTrip_sample, ?_⟩
  exact initiate_measures_flight (Radio.prompt sampleResponseFrame.val ⟨74074816⟩ ⟨1000⟩)
    (Radio.prompt samplePollFrame.val ⟨300⟩ ⟨0⟩) () () sampleTag sampleAnchor ⟨1000⟩ ⟨300⟩ 1000
    rfl rfl rfl (.inl rfl) roundTrip_sample

end Ranging

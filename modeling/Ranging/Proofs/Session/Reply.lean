import Mathlib
import Ranging.Proofs.Session.CleanUp
import Ranging.Proofs.Session.Responder
import Ranging.Session.Initiator

/-!
# What a responder sends

A responder starts a transmission at most once in an exchange, and only as the
answer to a Poll. What holds at that moment is gathered in `Answering`: a Poll of
the peer was received and compared, the frame that is about to be sent is the
Response that the peer waits for, and the slot and the times belong to the
reception of the Poll. A reply is only reported once the Response was sent.
-/

namespace Ranging

/-- The events after which a node sends its answer in a slot, with the reply that
it is going to report. -/
structure Answering {L ε : Type} (config : Config) (events : List (Event L ε)) (slot : UInt32)
    (reply : Reply) : Prop where
  heard : ∃ status ∈ statusesRead events, status.contains Status.received = true
  has_length : answersTo .frameLength events = [.ok 10]
  /-- The frame received is a Poll of the peer in the same network. -/
  has_poll : ∃ seq dst, ∃ frame : Frame 10, answersTo (.frameBytes 10) events = [.ok frame] ∧
    frame.val = Poll.bytes ⟨seq, config.pan, dst, reply.peer⟩
  peer_eq : ∀ initiator, config.acceptFrom = some initiator → reply.peer = initiator
  poll_time : answersTo .receiveTime events = [.ok reply.pollReceived]
  slot_even : slot.toNat % 2 = 0
  sent_time : reply.responseSent.ticks.toNat =
    ((slotStart slot).toNat + config.antennaDelay.send.toNat) % 2 ^ 40
  /-- The frame stored is the Response that the peer accepts. -/
  has_response : ∃ stored response, framesStored events = [stored] ∧
    (∀ peer : Config, peer.pan = config.pan → peer.addr = reply.peer →
      Mask.response.accepts (Initiator.responseTemplate peer config.addr).bytes stored = true) ∧
    readFrame Response stored 0 = (.ok response, 18) ∧
    response.src = config.addr ∧ response.dst = reply.peer ∧
    response.pollReceived = reply.pollReceived.low32 ∧
    response.responseSent = reply.responseSent.low32

namespace Responder

open Session

variable {F ε : Type}

/-- The initiator that sent a Poll accepts the Response to it. -/
theorem accepts_responseTo (s : Session) (poll : Poll) (received : Instant) (peer : Config)
    (hpan : peer.pan = s.config.pan) (haddr : peer.addr = poll.src) :
    Mask.response.accepts (Initiator.responseTemplate peer s.config.addr).bytes
      (responseTo s poll received).bytes = true := by
  rw [Mask.accepts_response_iff]
  refine ⟨s.seq, received.low32, (departure s.config (replySlot s.config received)).low32, ?_⟩
  rw [Initiator.responseTemplate, hpan, haddr]
  rfl

/-- The time in a Response is that at which it leaves the antenna. -/
theorem toNat_departure (config : Config) (slot : UInt32) :
    (departure config slot).ticks.toNat =
      ((slotStart slot).toNat + config.antennaDelay.send.toNat) % 2 ^ 40 := by
  rw [departure, Instant.toNat_add, Duration.toNat_ofDelay, Instant.ticks_ofSlot]
  rfl

/-- What precedes the transmission of a responder makes it a genuine answer. -/
theorem answering_of_addressed (s : Session) (poll : Poll) (received : Instant)
    (misses : List Status) (status : Status) (frame : Frame Poll.size)
    (haddressed : Addressed s.config poll)
    (hheard : FrameHeard s.config.timeouts.statusInterval s.config.timeouts.pollWait misses status)
    (hframe : frame.val = poll.bytes) :
    Answering (L := Line F) (ε := ε) s.config
      (listenEvents s.config ++
        (receptionEvents s.config.timeouts.statusInterval misses status frame ++
          preparationEvents s poll received))
      (replySlot s.config received) (replyTo s.config poll received) where
  heard := by
    refine ⟨status, ?_, hheard.good⟩
    simp [listenEvents, preparationEvents]
  has_length := by
    simp [listenEvents, receptionEvents, preparationEvents, Poll.size]
  has_poll := by
    refine ⟨poll.seq, poll.dst, frame, ?_, ?_⟩
    · simp [listenEvents, receptionEvents, preparationEvents, Poll.size]
    · rw [hframe, ← haddressed.pan_eq]
      rfl
  peer_eq := haddressed.src_eq
  poll_time := by
    simp [listenEvents, receptionEvents, preparationEvents, replyTo]
  slot_even := slotOf_mod_two _
  sent_time := toNat_departure _ _
  has_response := by
    refine ⟨(responseTo s poll received).bytes, responseTo s poll received, ?_,
      accepts_responseTo s poll received, readFrame_bytes_response _, rfl, rfl, rfl, rfl⟩
    simp [listenEvents, receptionEvents, preparationEvents]

end Responder

/-- A responder sends genuine answers only: it starts a transmission at most once,
as the answer to a Poll, and reports a reply only after it was sent. -/
theorem respond_sends_genuine_answer {F ε ρ : Type} (radio : Radio ε ρ) (start : ρ) (s : Session)
    (hscheme : s.config.scheme = .singleSided) :
    ((∀ event ∈ (radio.respond (F := F) start s).events, event.isSend = false) ∧
      ∃ error, (radio.respond (F := F) start s).value = .error error) ∨
    ∃ before slot answer after reply,
      (radio.respond (F := F) start s).events =
        before ++ .call (.send (.delayed slot) false) answer :: after ∧
      (∀ event ∈ before, event.isSend = false) ∧ (∀ event ∈ after, event.isSend = false) ∧
      Answering s.config before slot reply ∧
      ∀ reported, (radio.respond (F := F) start s).value = .ok reported →
        answer = .ok .started ∧
        (∃ status ∈ statusesRead after, status.contains Status.sent = true) ∧
        reported = reply := by
  have hends := radio.ends_respond (F := F) start s hscheme
  rw [Session.ends_finishing] at hends
  obtain ⟨first, second, outcome, cleaned, u, hevents, hexchange, hclean, hvalue⟩ := hends
  have hsecond := Session.madeOf_cleanUp.not_isSend _ second cleaned _ hclean
  rw [hevents, hvalue]
  rcases Responder.cases_of_ends_exchange s first outcome u hexchange with
    ⟨hfirst, e, rfl⟩ | ⟨poll, misses, status, frame, received, answer, after, haddressed, hheard,
      hframe, rfl, hafter, hreply⟩
  · exact .inl ⟨List.forall_mem_append.2 ⟨hfirst, hsecond⟩, e, rfl⟩
  · refine .inr ⟨_, _, answer, after ++ second, _, ?_,
      Responder.forall_not_isSend_before s poll received misses status frame, ?_,
      Responder.answering_of_addressed s poll received misses status frame haddressed hheard hframe,
      ?_⟩
    · rw [Responder.sendEvent, List.append_assoc, List.append_assoc, List.append_assoc,
        List.append_assoc, List.append_assoc, List.cons_append]
    · exact List.forall_mem_append.2 ⟨hafter, hsecond⟩
    · intro reported h
      cases outcome with
      | error e => cases h
      | ok reply =>
          obtain ⟨rfl, rfl, misses, status, -, hsent, rfl⟩ := hreply reply rfl
          refine ⟨rfl, ⟨status, ?_, ?_⟩, ?_⟩
          · simp [Responder.confirmationEvents]
          · exact status.contains_of_intersects Status.sent 7 (by decide) hsent
          · cases cleaned with
            | error e => cases h
            | ok _ =>
                cases h
                rfl

/-- The Poll of a node at address 1 to a node at address 2. -/
def samplePoll : Poll := ⟨7, Config.defaultPan, 2, 1⟩

/-- What comes of answering this Poll. -/
def sampleRespond : Run (Line Rat) String Session (Except (Error String) Reply) :=
  (Radio.prompt samplePoll.bytes ⟨300⟩ ⟨0⟩).respond ()
    (Session.fresh (Config.standard Config.defaultPan 2))

theorem sampleRespond_answers :
    (Config.standard Config.defaultPan 2).scheme = .singleSided ∧
      ∃ before slot after reply,
        sampleRespond.value = .ok reply ∧ reply.peer = 1 ∧
        sampleRespond.events =
          before ++ .call (.send (.delayed slot) false) (.ok .started) :: after ∧
        Answering (Config.standard Config.defaultPan 2) before slot reply := by
  obtain ⟨reply, hvalue, hpeer⟩ : ∃ reply, sampleRespond.value = .ok reply ∧ reply.peer = 1 := by
    refine ⟨⟨1, ⟨300⟩, ⟨74072116⟩⟩, ?_, rfl⟩
    cbv
  rcases respond_sends_genuine_answer (F := Rat) (Radio.prompt samplePoll.bytes ⟨300⟩ ⟨0⟩) ()
    (Session.fresh (Config.standard Config.defaultPan 2)) rfl with
    ⟨-, error, herror⟩ | ⟨before, slot, answer, after, other, hevents, -, -, hanswering, hreport⟩
  · have hboth := hvalue.symm.trans herror
    cases hboth
  · obtain ⟨rfl, -, rfl⟩ := hreport reply hvalue
    exact ⟨rfl, before, slot, after, reply, hvalue, hpeer, hevents, hanswering⟩

end Ranging

import Mathlib.Data.Nat.Bitwise
import Ranging.Proofs.Frame.Template
import Ranging.Proofs.Session.Composition
import Ranging.Proofs.Session.Reception

/-!
# How the exchange of a responder ends

A responder listens for a Poll and, if one was received, prepares a Response and
starts to send it. Up to that start its events are known, whatever comes after
it; this is `cases_of_ends_exchange`. If no request failed, the exchange comes to
nothing in one of the four ways of `ResponderRefusal`.
-/

namespace Ranging

namespace Status

/-- A status that shows a single flag contains it. -/
theorem contains_of_intersects (s flags : Status) (bit : Nat)
    (hflags : flags.bits.toNat = 2 ^ bit) (h : s.intersects flags = true) :
    s.contains flags = true := by
  rw [Status.intersects, bne_iff_ne, ne_eq, ← UInt32.toNat_inj, UInt32.toNat_and, hflags,
    Nat.and_two_pow] at h
  rw [Status.contains, beq_iff_eq, ← UInt32.toNat_inj, UInt32.toNat_and, hflags, Nat.and_two_pow]
  cases hbit : s.bits.toNat.testBit bit with
  | false =>
      rw [hbit] at h
      exact absurd (Nat.zero_mul _) h
  | true => exact Nat.one_mul _

/-- A status that contains a flag shows it. -/
theorem intersects_of_contains (s flags : Status) (hflags : flags.bits ≠ 0)
    (h : s.contains flags = true) : s.intersects flags = true := by
  rw [contains, beq_iff_eq] at h
  rw [intersects, h, bne_iff_ne]
  exact hflags

end Status

namespace Responder

open Session

/-- The events of turning to a Poll. -/
def listenEvents {L ε : Type} (config : Config) : List (Event L ε) :=
  [.call (.clearStatus (Status.receiveDone ||| Status.sent)) (.ok ()),
    .call (.setReceiveTimeout config.timeouts.pollTimeout) (.ok ()),
    .call .enableReceiver (.ok ())]

/-- The reply to a Poll that was received at an instant. -/
def replyTo (config : Config) (poll : Poll) (received : Instant) : Reply :=
  ⟨poll.src, received, departure config (replySlot config received)⟩

/-- The Response to a Poll that was received at an instant. -/
def responseTo (s : Session) (poll : Poll) (received : Instant) : Response :=
  ⟨s.seq, s.config.pan, s.config.addr, poll.src, received.low32,
    (departure s.config (replySlot s.config received)).low32⟩

/-- The events of preparing the Response, up to the start of the transmission. -/
def preparationEvents {L ε : Type} (s : Session) (poll : Poll) (received : Instant) :
    List (Event L ε) :=
  [.call .receiveTime (.ok received),
    .call (.storeFrame (responseTo s poll received).bytes) (.ok ())]

/-- The start of the transmission of the Response, as it was answered. -/
def sendEvent {L ε : Type} (config : Config) (received : Instant) (answer : Except ε SendStart) :
    Event L ε :=
  .call (.send (.delayed (replySlot config received)) false) answer

/-- The events of an exchange in which a Poll was received and the start of the Response was
answered. -/
def answerEvents {L ε : Type} (s : Session) (poll : Poll) (misses : List Status) (status : Status)
    (frame : Frame Poll.size) (received : Instant) (answer : Except ε SendStart)
    (after : List (Event L ε)) : List (Event L ε) :=
  listenEvents s.config ++ (receptionEvents s.config.timeouts.statusInterval misses status frame ++
    (preparationEvents s poll received ++ sendEvent s.config received answer :: after))

/-- Nothing is sent before the Response. -/
theorem forall_not_isSend_before {L ε : Type} (s : Session) (poll : Poll) (received : Instant)
    (misses : List Status) (status : Status) (frame : Frame Poll.size) :
    ∀ event ∈ (listenEvents s.config ++
      (receptionEvents s.config.timeouts.statusInterval misses status frame ++
        preparationEvents s poll received) : List (Event L ε)), event.isSend = false := by
  rw [List.forall_mem_append, List.forall_mem_append]
  refine ⟨?_, not_isSend_receptionEvents _ misses status frame, ?_⟩
  · simp [listenEvents, Event.isSend]
  · simp [preparationEvents, Event.isSend]

/-- The events of waiting until the Response was sent. -/
def confirmationEvents {L ε : Type} (config : Config) (misses : List Status) (status : Status) :
    List (Event L ε) :=
  missEvents config.timeouts.statusInterval misses ++
    [.call .readStatus (.ok status), .call (.clearStatus Status.sent) (.ok ())]

/-- The Poll is one that a node with the given configuration answers. -/
structure Addressed (config : Config) (poll : Poll) : Prop where
  pan_eq : poll.pan = config.pan
  src_eq : ∀ initiator, config.acceptFrom = some initiator → poll.src = initiator

/-- Why an exchange comes to nothing although no request failed. -/
inductive ResponderRefusal {L ε : Type} (s : Session) : List (Event L ε) → Error ε → Prop where
  /-- No frame of the right length was received. -/
  | unheard (events : List (Event L ε)) (error : Error ε) :
      ReceptionRefusal s.config.timeouts.statusInterval s.config.timeouts.pollWait Poll.size events
        error →
      ResponderRefusal s (listenEvents s.config ++ events) error
  /-- The frame is no Poll that the node answers. -/
  | foreign (misses : List Status) (status : Status) (frame : Frame Poll.size) (line : L) :
      FrameHeard s.config.timeouts.statusInterval s.config.timeouts.pollWait misses status →
      (pollMask s.config).accepts (pollTemplate s.config).bytes frame.val = false →
      ResponderRefusal s
        (listenEvents s.config ++
          (receptionEvents s.config.timeouts.statusInterval misses status frame ++ [.log line]))
        .contentMismatch
  /-- The slot had passed when the Response was to be sent. -/
  | missed (poll : Poll) (misses : List Status) (status : Status) (frame : Frame Poll.size)
      (received : Instant) (line : L) :
      Addressed s.config poll →
      FrameHeard s.config.timeouts.statusInterval s.config.timeouts.pollWait misses status →
      frame.val = poll.bytes →
      ResponderRefusal s
        (answerEvents s poll misses status frame received (.ok .tooLate) [.log line])
        .transmitFailure
  /-- No end of the transmission was seen. -/
  | unconfirmed (poll : Poll) (misses : List Status) (status : Status) (frame : Frame Poll.size)
      (received : Instant) (later : List Status) (last : Status) :
      Addressed s.config poll →
      FrameHeard s.config.timeouts.statusInterval s.config.timeouts.pollWait misses status →
      frame.val = poll.bytes →
      (∀ miss ∈ later, miss.intersects Status.sent = false) →
      later.length = waitPauses s.config.timeouts.sendWait s.config.timeouts.statusInterval 0 →
      last.intersects Status.sent = false →
      ResponderRefusal s
        (answerEvents s poll misses status frame received (.ok .started)
          (missEvents s.config.timeouts.statusInterval later ++ [.call .readStatus (.ok last)]))
        .timeout

variable {F ε : Type}

/-- A responder accepts the encodings of the Polls that it answers. -/
theorem accepts_pollMask_iff (config : Config) (received : List UInt8) :
    (pollMask config).accepts (pollTemplate config).bytes received = true ↔
      ∃ poll : Poll, received = poll.bytes ∧ Addressed config poll := by
  rw [pollMask]
  cases haccept : config.acceptFrom with
  | none =>
      rw [Option.isSome_none, if_neg Bool.false_ne_true, Mask.accepts_pollFromAny_iff]
      constructor
      · intro h
        obtain ⟨seq, dst, src, rfl⟩ := h
        refine ⟨_, rfl, rfl, ?_⟩
        intro initiator h
        rw [haccept] at h
        cases h
      · intro h
        obtain ⟨⟨seq, pan, dst, src⟩, rfl, rfl, -⟩ := h
        exact ⟨seq, dst, src, rfl⟩
  | some initiator =>
      rw [Option.isSome_some, if_pos rfl, Mask.accepts_poll_iff]
      have htemplate : (pollTemplate config).src = initiator := by
        rw [pollTemplate, haccept, Option.getD_some]
      constructor
      · intro h
        obtain ⟨seq, dst, rfl⟩ := h
        refine ⟨_, rfl, rfl, ?_⟩
        intro other h
        rw [haccept] at h
        cases h
        exact htemplate
      · intro h
        obtain ⟨⟨seq, pan, dst, src⟩, rfl, rfl, hsrc⟩ := h
        refine ⟨seq, dst, ?_⟩
        rw [htemplate, ← hsrc initiator haccept]
        rfl

/-- If the frame that comes in is a Poll that the node answers and the Response is
seen to be sent, the exchange is not refused. -/
theorem not_responderRefusal {L : Type} (s : Session) (events after : List (Event L ε))
    (error : Error ε) (hafter : statusesRead after = [])
    (hheard : ∃ status, firstShowing Status.receiveDone (events ++ after) = some status ∧
      status.contains Status.received = true)
    (hlength : ∀ actual, .call .frameLength (.ok actual) ∈ events → actual = Poll.size)
    (hbytes : ∀ frame : Frame Poll.size, .call (.frameBytes Poll.size) (.ok frame) ∈ events →
      ∃ poll : Poll, frame.val = poll.bytes ∧ Addressed s.config poll)
    (hstarted : ∀ slot, .call (.send (.delayed slot) false) (.ok .tooLate) ∉ events)
    (hsent : ∀ event rest, event :: rest <:+ events → event.isSend = true →
      ∃ status ∈ statusesRead rest, status.contains Status.sent = true) :
    ¬ResponderRefusal s events error := by
  intro h
  cases h with
  | unheard events error hrefusal =>
      have hlisten : statusesRead (listenEvents s.config : List (Event L ε)) = [] := by
        simp [listenEvents]
      refine not_receptionRefusal _ _ _ (listenEvents s.config) events after error hlisten hafter
        hheard ?_ hrefusal
      exact fun actual hmem => hlength actual (List.mem_append_right _ hmem)
  | foreign misses status frame line _ haccepts =>
      have haccepted := (accepts_pollMask_iff s.config frame.val).2
        (hbytes frame (by simp [receptionEvents]))
      rw [haccepted] at haccepts
      cases haccepts
  | missed poll misses status frame received line _ _ _ =>
      exact hstarted (replySlot s.config received) (by simp [answerEvents, sendEvent])
  | unconfirmed poll misses status frame received later last _ _ _ hlater _ hlast =>
      obtain ⟨shown, hmem, hcontains⟩ := hsent _ _
        (((List.suffix_append _ _).trans (List.suffix_append _ _)).trans (List.suffix_append _ _))
        rfl
      have hshows := shown.intersects_of_contains Status.sent (by decide) hcontains
      rw [statusesRead_append, statusesRead_missEvents, List.mem_append] at hmem
      rcases hmem with hmem | hmem
      · rw [hlater shown hmem] at hshows
        cases hshows
      · rw [List.mem_singleton.1 hmem, hlast] at hshows
        cases hshows

theorem ends_listen_ok (s : Session) (events : List (Event (Line F) ε)) (t : Session)
    (h : listen.ends s events (.ok ()) t) :
    events = listenEvents s.config ∧ t = { s with state := .awaitingPeer .poll } := by
  rw [listen, ends_getConfig_bind] at h
  rw [Attempt.clearStatus, Attempt.ends_ask_bind_ok] at h
  obtain ⟨_, _, rfl, h⟩ := h
  rw [Attempt.setReceiveTimeout, Attempt.ends_ask_bind_ok] at h
  obtain ⟨_, _, rfl, h⟩ := h
  rw [Attempt.enableReceiver, Attempt.ends_ask_bind_ok] at h
  obtain ⟨_, _, rfl, h⟩ := h
  obtain ⟨rfl, -, rfl⟩ := (ends_enter _ _ _ _ _).1 h
  exact ⟨rfl, rfl⟩

theorem not_refuses_listen (s : Session) (events : List (Event (Line F) ε)) (error : Error ε)
    (t : Session) : ¬listen.refuses s events error t := by
  intro h
  obtain ⟨h, hall⟩ := h
  rw [listen, ends_getConfig_bind] at h
  replace h : Attempt.refuses _ _ _ _ _ := ⟨h, hall⟩
  rw [Attempt.clearStatus, Attempt.refuses_ask_bind] at h
  obtain ⟨_, _, rfl, h⟩ := h
  rw [Attempt.setReceiveTimeout, Attempt.refuses_ask_bind] at h
  obtain ⟨_, _, rfl, h⟩ := h
  rw [Attempt.enableReceiver, Attempt.refuses_ask_bind] at h
  obtain ⟨_, _, rfl, h, -⟩ := h
  obtain ⟨-, he, -⟩ := (ends_enter _ _ _ _ _).1 h
  cases he

/-- A Poll that was received is one that the node answers. -/
theorem ends_receivePoll_ok (s : Session) (events : List (Event (Line F) ε)) (poll : Poll)
    (t : Session) (h : receivePoll.ends s events (.ok poll) t) :
    t = s ∧ Addressed s.config poll ∧ ∃ misses status, ∃ frame : Frame Poll.size,
      FrameHeard s.config.timeouts.statusInterval s.config.timeouts.pollWait misses status ∧
      frame.val = poll.bytes ∧
      events = receptionEvents s.config.timeouts.statusInterval misses status frame := by
  rw [receivePoll, ends_getConfig_bind] at h
  obtain ⟨misses, status, frame, tail, hheard, rfl, haccept⟩ := ends_reception_ok _ _ _ _ _ _ _ h
  obtain ⟨haccepts, hread, rfl, rfl⟩ := ends_acceptFrame_ok _ _ _ _ _ _ _ _ _ haccept
  obtain ⟨sentPoll, hframe, haddressed⟩ := (accepts_pollMask_iff _ _).1 haccepts
  rw [hframe, readFrame_bytes_poll] at hread
  cases hread
  exact ⟨rfl, haddressed, misses, status, frame, hheard, hframe, List.append_nil _⟩

theorem refuses_receivePoll (s : Session) (events : List (Event (Line F) ε)) (error : Error ε)
    (t : Session) (h : receivePoll.refuses s events error t) :
    ReceptionRefusal s.config.timeouts.statusInterval s.config.timeouts.pollWait Poll.size events
        error ∨
      ∃ misses status, ∃ frame : Frame Poll.size, ∃ line,
        FrameHeard s.config.timeouts.statusInterval s.config.timeouts.pollWait misses status ∧
        (pollMask s.config).accepts (pollTemplate s.config).bytes frame.val = false ∧
        events = receptionEvents s.config.timeouts.statusInterval misses status frame ++
          [.log line] ∧
        error = .contentMismatch := by
  obtain ⟨h, hall⟩ := h
  rw [receivePoll, ends_getConfig_bind] at h
  rcases refuses_reception _ _ _ _ _ _ _ ⟨h, hall⟩ with
    hrefusal | ⟨misses, status, frame, tail, hheard, rfl, haccept⟩
  · exact .inl hrefusal
  · rcases refuses_acceptFrame _ _ _ _ _ _ _ _ _ haccept with
      ⟨haccepts, rfl, rfl⟩ | ⟨haccepts, cause, hread, -⟩
    · exact .inr ⟨misses, status, frame, _, hheard, haccepts, rfl, rfl⟩
    · obtain ⟨sentPoll, hframe, -⟩ := (accepts_pollMask_iff _ _).1 haccepts
      rw [hframe, readFrame_bytes_poll] at hread
      cases hread

theorem refuses_sendResponse (poll : Poll) (s : Session) (events : List (Event (Line F) ε))
    (error : Error ε) (t : Session) (h : (sendResponse poll).refuses s events error t) :
    error = .transmitFailure ∧ ∃ received line, events = preparationEvents s poll received ++
      [sendEvent s.config received (.ok .tooLate), .log line] := by
  obtain ⟨h, hall⟩ := h
  rw [sendResponse, ends_getConfig_bind] at h
  replace h : Attempt.refuses _ _ _ _ _ := ⟨h, hall⟩
  rw [Attempt.receiveTime, Attempt.refuses_ask_bind] at h
  obtain ⟨received, tail, rfl, h, hall⟩ := h
  rw [ends_getSeq_bind] at h
  replace h : Attempt.refuses _ _ _ _ _ := ⟨h, hall⟩
  dsimp only [id_eq] at h
  rw [Attempt.storeFrame, Attempt.refuses_ask_bind] at h
  obtain ⟨_, tail, rfl, h⟩ := h
  rw [Attempt.send, Attempt.refuses_ask_bind] at h
  obtain ⟨start, tail, rfl, h⟩ := h
  cases start with
  | started => cases h.1.2.1
  | tooLate =>
      rw [id_eq, Attempt.refuses, ends_log_bind] at h
      obtain ⟨⟨tail, rfl, rfl, he, -⟩, -⟩ := h
      exact ⟨Except.error.inj he, received, _, rfl⟩

/-- Before its Response is sent, a responder has noted its reply and stored the frame. -/
theorem cases_of_ends_sendResponse (poll : Poll) (s : Session) (events : List (Event (Line F) ε))
    (result : Except (Error ε) Reply) (t : Session)
    (h : (sendResponse poll).ends s events result t) :
    t = s ∧ (((∀ event ∈ events, event.isSend = false) ∧ ∃ e, result = .error e) ∨
      ∃ received answer lines,
        events = preparationEvents s poll received ++ sendEvent s.config received answer ::
          lines.map .log ∧
        ((answer = .ok .started ∧ lines = [] ∧ result = .ok (replyTo s.config poll received)) ∨
          answer ≠ .ok .started ∧ ∃ e, result = .error e)) := by
  rw [sendResponse, ends_getConfig_bind] at h
  rw [Attempt.receiveTime, Attempt.ends_ask_bind] at h
  rcases h with ⟨cause, rfl, rfl, rfl⟩ | ⟨received, tail, rfl, h⟩
  · exact ⟨rfl, .inl ⟨by simp [Event.isSend], _, rfl⟩⟩
  rw [ends_getSeq_bind] at h
  dsimp only [id_eq] at h
  rw [Attempt.storeFrame, Attempt.ends_ask_bind] at h
  rcases h with ⟨cause, rfl, rfl, rfl⟩ | ⟨_, tail, rfl, h⟩
  · exact ⟨rfl, .inl ⟨by simp [Event.isSend], _, rfl⟩⟩
  rw [Attempt.send, Attempt.ends_ask_bind] at h
  rcases h with ⟨cause, rfl, rfl, rfl⟩ | ⟨start, tail, rfl, h⟩
  · exact ⟨rfl, .inr ⟨received, .error cause, [], rfl, .inr ⟨(by intro h; cases h), _, rfl⟩⟩⟩
  cases start with
  | started =>
      obtain ⟨rfl, rfl, rfl⟩ := h
      exact ⟨rfl, .inr ⟨received, .ok .started, [], rfl, .inl ⟨rfl, rfl, rfl⟩⟩⟩
  | tooLate =>
      rw [id_eq, ends_log_bind] at h
      obtain ⟨tail, rfl, rfl, rfl, rfl⟩ := h
      exact ⟨rfl, .inr ⟨received, .ok .tooLate, [_], rfl, .inr ⟨(by intro h; cases h), _, rfl⟩⟩⟩

theorem ends_confirmSent_ok (s : Session) (events : List (Event (Line F) ε)) (t : Session)
    (h : confirmSent.ends s events (.ok ()) t) :
    ∃ misses status,
      misses.length ≤ waitPauses s.config.timeouts.sendWait s.config.timeouts.statusInterval 0 ∧
      status.intersects Status.sent = true ∧
      events = confirmationEvents s.config misses status ∧ t = { s with seq := s.seq + 1 } := by
  rw [confirmSent, ends_getConfig_bind, Attempt.ends_bind_ok] at h
  obtain ⟨reads, rest, status, u, rfl, hwait, h⟩ := h
  obtain ⟨rfl, hwait⟩ := outcome_await _ _ _ _ _ _ hwait
  rw [Attempt.clearStatus, Attempt.ends_ask_bind_ok] at h
  obtain ⟨_, tail, rfl, h⟩ := h
  obtain ⟨rfl, -, rfl⟩ := (ends_advanceSeq _ _ _ _).1 h
  cases hwait with
  | shown misses status _ hlength hsent =>
      refine ⟨misses, status, hlength, hsent, ?_, rfl⟩
      rw [confirmationEvents, List.append_assoc]
      rfl

/-- If no request fails, the wait for the end of a transmission may go by. -/
theorem refuses_confirmSent (s : Session) (events : List (Event (Line F) ε)) (error : Error ε)
    (t : Session) (h : confirmSent.refuses s events error t) :
    error = .timeout ∧ ∃ misses last,
      (∀ miss ∈ misses, miss.intersects Status.sent = false) ∧
      misses.length = waitPauses s.config.timeouts.sendWait s.config.timeouts.statusInterval 0 ∧
      last.intersects Status.sent = false ∧
      events = missEvents s.config.timeouts.statusInterval misses ++
        [.call .readStatus (.ok last)] := by
  obtain ⟨h, hall⟩ := h
  rw [confirmSent, ends_getConfig_bind] at h
  rcases Attempt.refuses_bind _ _ _ _ _ _ ⟨h, hall⟩ with
    hwait | ⟨reads, rest, status, u, rfl, hwait, hrest⟩
  · obtain ⟨hwait, hall⟩ := hwait
    obtain ⟨rfl, hwait⟩ := outcome_await _ _ _ _ _ _ hwait
    cases hwait with
    | expired misses last hmisses hlength hlast =>
        exact ⟨rfl, misses, last, hmisses, hlength, hlast, rfl⟩
    | broken misses cause _ _ =>
        exact absurd (hall _ (List.mem_append_right _ (List.mem_singleton_self _)))
          (Event.not_succeeds_error _ _)
  · rw [Attempt.clearStatus, Attempt.refuses_ask_bind] at hrest
    obtain ⟨_, tail, -, hrest, -⟩ := hrest
    obtain ⟨-, he, -⟩ := (ends_advanceSeq _ _ _ _).1 hrest
    cases he

/-- A responder that starts to send has received a Poll that it answers, and goes
on without another transmission. -/
theorem cases_of_ends_exchange (s : Session) (events : List (Event (Line F) ε))
    (result : Except (Error ε) Reply) (t : Session) (h : exchange.ends s events result t) :
    ((∀ event ∈ events, event.isSend = false) ∧ ∃ e, result = .error e) ∨
      ∃ poll misses status, ∃ frame : Frame Poll.size, ∃ received answer after,
        Addressed s.config poll ∧
        FrameHeard s.config.timeouts.statusInterval s.config.timeouts.pollWait misses status ∧
        frame.val = poll.bytes ∧
        events = listenEvents s.config ++
          (receptionEvents s.config.timeouts.statusInterval misses status frame ++
            (preparationEvents s poll received ++ sendEvent s.config received answer :: after)) ∧
        (∀ event ∈ after, event.isSend = false) ∧
        ∀ reply, result = .ok reply → answer = .ok .started ∧
          reply = replyTo s.config poll received ∧
          ∃ misses status,
            misses.length ≤
              waitPauses s.config.timeouts.sendWait s.config.timeouts.statusInterval 0 ∧
            status.intersects Status.sent = true ∧
            after = confirmationEvents s.config misses status := by
  rw [exchange, Attempt.ends_bind] at h
  rcases h with ⟨e, hlisten, rfl⟩ | ⟨first, rest, _, u, rfl, hlisten, h⟩
  · exact .inl ⟨madeOf_listen.not_isSend s events _ t hlisten, e, rfl⟩
  have hfirst := madeOf_listen.not_isSend s first _ u hlisten
  obtain ⟨rfl, rfl⟩ := ends_listen_ok s first u hlisten
  rw [Attempt.ends_bind] at h
  rcases h with ⟨e, hreceive, rfl⟩ | ⟨second, rest, poll, u, rfl, hreceive, h⟩
  · have hrest := madeOf_receivePoll.not_isSend _ rest _ t hreceive
    exact .inl ⟨List.forall_mem_append.2 ⟨hfirst, hrest⟩, e, rfl⟩
  have hsecond := madeOf_receivePoll.not_isSend _ second _ u hreceive
  obtain ⟨rfl, haddressed, misses, status, frame, hheard, hframe, rfl⟩ :=
    ends_receivePoll_ok _ second poll u hreceive
  rw [Attempt.ends_bind] at h
  rcases h with ⟨e, hsend, rfl⟩ | ⟨third, after, reply, u, rfl, hsend, h⟩
  · obtain ⟨rfl, ⟨hrest, -⟩ | ⟨received, answer, lines, rfl, -⟩⟩ :=
      cases_of_ends_sendResponse poll _ rest _ t hsend
    · exact .inl ⟨List.forall_mem_append.2 ⟨hfirst, List.forall_mem_append.2 ⟨hsecond, hrest⟩⟩, e,
        rfl⟩
    · refine .inr ⟨poll, misses, status, frame, received, answer, _, haddressed, hheard, hframe,
        rfl, ?_, ?_⟩
      · intro event hmem
        obtain ⟨line, -, rfl⟩ := List.mem_map.1 hmem
        rfl
      · intro reply hresult
        cases hresult
  · obtain ⟨rfl, ⟨-, e, he⟩ | ⟨received, answer, lines, rfl, ⟨rfl, rfl, hreply⟩ | ⟨-, e, he⟩⟩⟩ :=
      cases_of_ends_sendResponse poll _ third _ u hsend
    · cases he
    · cases hreply
      have hafter : MadeOf (·.isSend = false) (confirmSent >>= fun _ =>
          pure (replyTo s.config poll received) : SessionAttempt F ε Reply) :=
        .bind _ _ madeOf_confirmSent fun _ => .step _ (internal_pure _)
      refine .inr ⟨poll, misses, status, frame, received, .ok .started, after, haddressed, hheard,
        hframe, ?_, hafter.not_isSend _ after result t h, ?_⟩
      · rw [List.append_assoc]
        rfl
      · intro reply hresult
        rw [hresult, Attempt.ends_bind_ok] at h
        obtain ⟨fourth, fifth, _, u, rfl, hconfirm, rfl, hreply, rfl⟩ := h
        obtain ⟨misses, status, hlength, hsent, rfl, -⟩ := ends_confirmSent_ok _ fourth _ hconfirm
        cases hreply
        exact ⟨rfl, rfl, misses, status, hlength, hsent, List.append_nil _⟩
    · cases he

/-- If no request fails, an exchange ends well or comes to nothing in one of four ways. -/
theorem refusal_of_refuses_exchange (s : Session) (events : List (Event (Line F) ε))
    (error : Error ε) (t : Session) (h : exchange.refuses s events error t) :
    ResponderRefusal s events error := by
  rw [exchange] at h
  rcases Attempt.refuses_bind _ _ _ _ _ _ h with hlisten | ⟨first, rest, _, u, rfl, hlisten, hrest⟩
  · exact absurd hlisten (not_refuses_listen s events error t)
  obtain ⟨rfl, rfl⟩ := ends_listen_ok s first u hlisten
  rcases Attempt.refuses_bind _ _ _ _ _ _ hrest with
    hreceive | ⟨second, rest, poll, u, rfl, hreceive, hanswer⟩
  · rcases refuses_receivePoll _ rest error t hreceive with
      hrefusal | ⟨misses, status, frame, line, hheard, haccepts, rfl, rfl⟩
    · exact .unheard rest error hrefusal
    · exact .foreign misses status frame line hheard haccepts
  obtain ⟨rfl, haddressed, misses, status, frame, hheard, hframe, rfl⟩ :=
    ends_receivePoll_ok _ second poll _ hreceive
  rcases Attempt.refuses_bind _ _ _ _ _ _ hanswer with
    hsend | ⟨third, rest, reply, u, rfl, hsend, hafter⟩
  · obtain ⟨rfl, received, line, rfl⟩ := refuses_sendResponse poll _ rest error t hsend
    exact .missed poll misses status frame received line haddressed hheard hframe
  obtain ⟨rfl, ⟨-, e, he⟩ | ⟨received, answer, lines, rfl, ⟨rfl, rfl, -⟩ | ⟨-, e, he⟩⟩⟩ :=
    cases_of_ends_sendResponse poll _ third _ u hsend
  · cases he
  · rcases Attempt.refuses_bind _ _ _ _ _ _ hafter with
      hconfirm | ⟨_, _, _, _, -, -, hpure⟩
    · obtain ⟨rfl, later, last, hlater, hlength, hlast, rfl⟩ :=
        refuses_confirmSent _ rest error t hconfirm
      rw [List.append_assoc]
      exact .unconfirmed poll misses status frame received later last haddressed hheard hframe
        hlater hlength hlast
    · exact absurd hpure (Attempt.not_refuses_pure _ _ _ _ _)
  · cases he

end Responder

end Ranging

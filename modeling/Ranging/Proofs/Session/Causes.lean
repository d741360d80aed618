import Mathlib
import Ranging.Proofs.Session.Awaited
import Ranging.Proofs.Session.CleanUp
import Ranging.Proofs.Session.Initiator
import Ranging.Proofs.Session.Responder

/-!
# What is behind an error

When no request fails, an exchange still comes to nothing if its frame does not come, or comes as
another one, or if its own frame cannot be sent. `Awaited.Cause` states for every error what has to
have happened. Most errors have no cause: they are not met in an exchange.

The main statement is that an exchange returns an error just when its cause has happened, so the
error tells the cause and the cause the error. A responder knows one cause more, which is that its
Response was not seen to leave.

The causes are told by what was answered, never by how the node waited: what counts is whether a
flag was shown within the wait for it.
-/

namespace Ranging

/-- An initiator waits for the Response to its Poll. -/
def Initiator.awaited (config : Config) (target : UInt16) : Awaited where
  wait := config.timeouts.responseWait
  interval := config.timeouts.statusInterval
  size := 18
  mask := Mask.response
  template := (responseTemplate config target).bytes

/-- A responder waits for a Poll that it answers. -/
def Responder.awaited (config : Config) : Awaited where
  wait := config.timeouts.pollWait
  interval := config.timeouts.statusInterval
  size := 10
  mask := pollMask config
  template := (pollTemplate config).bytes

/-- A responder accepted a Poll and started its Response, and no status within the wait for the end
of the transmission shows that it was sent. -/
def Responder.Unconfirmed {L ε : Type} (config : Config) (events : List (Event L ε)) : Prop :=
  (∃ frame, (awaited config).Brings events (.frame frame) ∧ (awaited config).accepts frame) ∧
    ∃ slot after, .call (.send (.delayed slot) false) (.ok .started) :: after <:+ events ∧
      shownWithin Status.sent config.timeouts.sendWait config.timeouts.statusInterval after = none

section Causes

variable {L ε : Type} {awaited : Awaited} {events : List (Event L ε)}

/-- A transmission was asked for when it was too late for it. -/
def SentLate (events : List (Event L ε)) : Prop :=
  ∃ time wait, .call (.send time wait) (.ok .tooLate) ∈ events

namespace Awaited

/-- What has to have happened for an exchange in which no request fails to end in an error. A node
whose own frame was too late does not wait for another one. -/
def Cause (awaited : Awaited) (events : List (Event L ε)) : Error ε → Prop
  | .transmitFailure => SentLate events
  | .lengthMismatch expected actual =>
      expected = awaited.size ∧ awaited.Brings events (.mislengthed actual)
  | .contentMismatch =>
      ∃ frame, awaited.Brings events (.frame frame) ∧ awaited.accepts frame = false
  | .timeout =>
      ¬SentLate events ∧ awaited.Brings events .nothing ∨ awaited.Brings events .garbled
  | .radio _ | .unreadable _ | .unsupported | .degenerateGeometry | .initializationFailure => False

/-- An error has happened because of the own transmission or because of what was received. -/
theorem cause_iff (error : Error ε) : awaited.Cause events error ↔
    SentLate events ∧ error = .transmitFailure ∨
      ∃ received, (received = .nothing → ¬SentLate events) ∧ awaited.Brings events received ∧
        awaited.refusal received = some error := by
  constructor
  · intro h
    cases error with
    | transmitFailure => exact .inl ⟨h, rfl⟩
    | lengthMismatch expected actual =>
      obtain ⟨rfl, hbrings⟩ := h
      exact .inr ⟨_, (fun h => by cases h), hbrings, rfl⟩
    | contentMismatch =>
      obtain ⟨frame, hbrings, hrejects⟩ := h
      exact .inr ⟨_, (fun h => by cases h), hbrings, refusal_of_rejects hrejects⟩
    | timeout =>
      rcases h with ⟨hlate, hbrings⟩ | hbrings
      · exact .inr ⟨_, fun _ => hlate, hbrings, rfl⟩
      · exact .inr ⟨_, (fun h => by cases h), hbrings, rfl⟩
    | radio cause => cases h
    | unreadable cause => cases h
    | unsupported => cases h
    | degenerateGeometry => cases h
    | initializationFailure => cases h
  · intro h
    rcases h with ⟨hlate, rfl⟩ | ⟨received, hwaited, hbrings, hrefusal⟩
    · exact hlate
    cases received with
    | nothing =>
      cases hrefusal
      exact .inl ⟨hwaited rfl, hbrings⟩
    | garbled =>
      cases hrefusal
      exact .inr hbrings
    | mislengthed actual =>
      cases hrefusal
      exact ⟨rfl, hbrings⟩
    | frame frame =>
      cases haccepts : awaited.accepts frame with
      | true =>
        rw [refusal_of_accepts haccepts] at hrefusal
        cases hrefusal
      | false =>
        rw [refusal_of_rejects haccepts] at hrefusal
        cases hrefusal
        exact ⟨frame, hbrings, haccepts⟩

/-- If the own transmission was not too late, the error is what the wait leads to. -/
theorem Brings.cause_iff {received : Received awaited.size}
    (hbrings : awaited.Brings events received) (hlate : ¬SentLate events) (error : Error ε) :
    awaited.Cause events error ↔ awaited.refusal received = some error := by
  rw [Awaited.cause_iff, or_iff_right fun h => hlate h.1]
  constructor
  · intro h
    obtain ⟨received', -, hbrings', hrefusal⟩ := h
    rw [hbrings.unique hbrings', hrefusal]
  · intro h
    exact ⟨received, fun _ => hlate, hbrings, h⟩

/-- If the wait leads to no error, the own transmission has to have been too late for one. -/
theorem cause_iff_sentLate
    (hnone : ∀ received, (received = .nothing → ¬SentLate events) →
      awaited.Brings events received → awaited.refusal received = (none : Option (Error ε)))
    (error : Error ε) :
    awaited.Cause events error ↔ SentLate events ∧ error = .transmitFailure := by
  rw [Awaited.cause_iff, or_iff_left]
  intro h
  obtain ⟨received, hwaited, hbrings, hrefusal⟩ := h
  rw [hnone received hwaited hbrings] at hrefusal
  cases hrefusal

end Awaited

end Causes

/-! ## Transmissions among other events -/

section Transmissions

variable {L ε : Type} {events before after : List (Event L ε)}

theorem sentLate_append :
    SentLate (before ++ after) ↔ SentLate before ∨ SentLate after := by
  simp only [SentLate, List.mem_append, exists_or]

theorem not_sentLate_of_not_isSend (h : ∀ event ∈ events, event.isSend = false) :
    ¬SentLate events := by
  intro hlate
  obtain ⟨time, wait, hmem⟩ := hlate
  cases h _ hmem

/-- Where only one transmission is started, the events that begin with a transmission begin with
this one. -/
theorem eq_of_send_suffix {event sent : Event L ε} {rest : List (Event L ε)}
    (hbefore : ∀ event ∈ before, event.isSend = false)
    (hafter : ∀ event ∈ after, event.isSend = false) (hsend : sent.isSend = true)
    (h : sent :: rest <:+ before ++ event :: after) : sent = event ∧ rest = after := by
  induction before with
  | nil =>
    rcases List.suffix_cons_iff.1 h with heq | hsuffix
    · exact List.cons.inj heq
    · rw [hafter sent (hsuffix.mem List.mem_cons_self)] at hsend
      cases hsend
  | cons first before ih =>
    rcases List.suffix_cons_iff.1 h with heq | hsuffix
    · rw [(List.cons.inj heq).1, hbefore first List.mem_cons_self] at hsend
      cases hsend
    · exact ih (fun event hmem => hbefore event (List.mem_cons_of_mem _ hmem)) hsuffix

end Transmissions

theorem Session.not_isSend_cleanUpEvents {L ε : Type} :
    ∀ event ∈ (cleanUpEvents : List (Event L ε)), event.isSend = false := by
  simp [cleanUpEvents, Event.isSend]

theorem Session.noFrame_cleanUpEvents {L ε : Type} (size : Nat) :
    NoFrame size (cleanUpEvents : List (Event L ε)) :=
  ⟨by simp [cleanUpEvents], by simp [cleanUpEvents]⟩

namespace Initiator

open Session

variable {F ε : Type}

theorem noFrame_pollEvents {L : Type} (size : Nat) (s : Session) (target : UInt16)
    (start : SendStart) : NoFrame size (pollEvents s target start : List (Event L ε)) :=
  ⟨by simp [pollEvents], by simp [pollEvents]⟩

theorem sentLate_pollEvents_iff {L : Type} (s : Session) (target : UInt16) (start : SendStart) :
    SentLate (pollEvents s target start : List (Event L ε)) ↔ start = .tooLate := by
  simp [SentLate, pollEvents, eq_comm]

/-- The own transmission aside, an exchange errs for what the reception after the Poll brings. -/
theorem cause_iff_of_brings {L : Type} (s : Session) (target : UInt16)
    {events : List (Event L ε)} {received : Received (awaited s.config target).size}
    (hbrings : (awaited s.config target).Brings events received)
    (hsend : ∀ event ∈ events, event.isSend = false) (error : Error ε) :
    (awaited s.config target).Cause (pollEvents s target .started ++ events ++ cleanUpEvents)
        error ↔
      (awaited s.config target).refusal received = some error := by
  have hlate : ¬SentLate (pollEvents s target .started ++ events ++ cleanUpEvents) := by
    rw [sentLate_append, sentLate_append, sentLate_pollEvents_iff, not_or, not_or]
    refine ⟨⟨?_, not_sentLate_of_not_isSend hsend⟩,
      not_sentLate_of_not_isSend not_isSend_cleanUpEvents⟩
    intro h
    cases h
  have hbehind := hbrings.behind (statusesRead_pollEvents s target .started)
    (noFrame_pollEvents _ s target .started)
  exact (hbehind.followed (fun _ => statusesRead_cleanUpEvents)
    (noFrame_cleanUpEvents _)).cause_iff hlate error

theorem cause_iff_of_frame {L : Type} (s : Session) (target : UInt16) {misses : List Status}
    {status : Status} (frame : Frame Response.size) {after : List (Event L ε)}
    (hheard : FrameHeard s.config.timeouts.statusInterval s.config.timeouts.responseWait misses
      status)
    (hafter : NoFrame Response.size after) (hsend : ∀ event ∈ after, event.isSend = false)
    (error : Error ε) :
    (awaited s.config target).Cause
        (pollEvents s target .started ++
          (receptionEvents s.config.timeouts.statusInterval misses status frame ++ after) ++
          cleanUpEvents) error ↔
      (awaited s.config target).refusal (.frame frame) = some error :=
  cause_iff_of_brings s target
    ((awaited s.config target).brings_receptionEvents_append hheard frame hafter)
    (List.forall_mem_append.2 ⟨not_isSend_receptionEvents _ misses status frame, hsend⟩) error

/-- An exchange of an initiator in which no request fails returns an error just when its cause has
happened. -/
theorem eq_error_iff_cause [Scalar F] (target : UInt16) (s : Session)
    (events : List (Event (Line F) ε)) (result : Except (Error ε) F) (t : Session)
    (h : (finishing (exchange target)).ends s events result t)
    (hall : ∀ event ∈ events, event.succeeds) (error : Error ε) :
    result = .error error ↔ (awaited s.config target).Cause events error := by
  cases result with
  | ok distance =>
    obtain ⟨first, u, rfl, hexchange, -⟩ := ends_finishing_ok _ s events distance t h
    obtain ⟨-, misses, status, frame, seq, p, r, sent, received, integrator, line, hheard, hframe,
      rfl, -⟩ := ends_exchange_ok target s first distance u hexchange
    have haccepts : (awaited s.config target).accepts frame = true :=
      (Mask.accepts_response_iff _ _).2 ⟨seq, p, r, hframe⟩
    rw [cause_iff_of_frame s target frame hheard ⟨by simp [measureEvents], by simp [measureEvents]⟩
      (by simp [measureEvents, Event.isSend]), Awaited.refusal_of_accepts haccepts]
    constructor
    · intro h
      cases h
    · intro h
      cases h
  | error e =>
    obtain ⟨first, u, rfl, hexchange, -⟩ := refuses_finishing _ s events e t ⟨h, hall⟩
    rw [Except.error.injEq]
    cases refusal_of_refuses_exchange target s first e u hexchange with
    | unsent =>
      have hreads : statusesRead (pollEvents s target .tooLate ++ cleanUpEvents :
          List (Event (Line F) ε)) = [] := by simp
      have hlate : SentLate (pollEvents s target .tooLate ++ cleanUpEvents :
          List (Event (Line F) ε)) :=
        sentLate_append.2 (.inl ((sentLate_pollEvents_iff s target .tooLate).2 rfl))
      rw [Awaited.cause_iff_sentLate fun received hwaited hbrings =>
        absurd hlate (hwaited (hbrings.eq_nothing hreads)), and_iff_right hlate]
      exact eq_comm
    | unanswered events _ hrefusal =>
      obtain ⟨received, hbrings, hleads⟩ :=
        (awaited s.config target).exists_brings_of_receptionRefusal hrefusal
      rw [cause_iff_of_brings s target hbrings hrefusal.not_isSend, hleads, Option.some.injEq]
    | foreign misses status frame line hheard haccepts =>
      have hrejects : (awaited s.config target).accepts frame = false := haccepts
      rw [List.append_assoc (pollEvents _ _ _), cause_iff_of_frame s target frame hheard
        ⟨by simp, by simp⟩ (by simp [Event.isSend]), Awaited.refusal_of_rejects hrejects,
        Option.some.injEq]

end Initiator

namespace Responder

open Session

variable {F ε : Type}

theorem noFrame_listenEvents {L : Type} (size : Nat) (config : Config) :
    NoFrame size (listenEvents config : List (Event L ε)) :=
  ⟨by simp [listenEvents], by simp [listenEvents]⟩

theorem statusesRead_listenEvents {L : Type} (config : Config) :
    statusesRead (listenEvents config : List (Event L ε)) = [] := by
  simp [listenEvents]

theorem not_isSend_listenEvents {L : Type} (config : Config) :
    ∀ event ∈ (listenEvents config : List (Event L ε)), event.isSend = false := by
  simp [listenEvents, Event.isSend]

theorem not_isSend_confirmationEvents {L : Type} (config : Config) (misses : List Status)
    (status : Status) :
    ∀ event ∈ (confirmationEvents config misses status : List (Event L ε)),
      event.isSend = false := by
  rw [confirmationEvents, List.forall_mem_append]
  refine ⟨not_isSend_missEvents _ misses, ?_⟩
  simp [Event.isSend]

/-- A flag that is shown at the end of a wait is shown within it. -/
theorem shownWithin_confirmationEvents_ne_none {L : Type} {config : Config} {misses : List Status}
    {status : Status}
    (hlength : misses.length ≤
      waitPauses config.timeouts.sendWait config.timeouts.statusInterval 0)
    (hsent : status.intersects Status.sent = true) :
    shownWithin Status.sent config.timeouts.sendWait config.timeouts.statusInterval
      (confirmationEvents config misses status : List (Event L ε)) ≠ none := by
  have hreads : statusesRead (confirmationEvents config misses status : List (Event L ε)) =
      misses ++ [status] := by simp [confirmationEvents]
  rw [shownWithin_eq_firstShowing (by simp [hreads, hlength]), firstShowing, hreads, ne_eq,
    List.find?_eq_none]
  intro hnone
  exact hnone status (List.mem_append_right _ (List.mem_singleton_self _)) hsent

theorem not_unconfirmed_of_not_isSend {L : Type} (config : Config) {events : List (Event L ε)}
    (h : ∀ event ∈ events, event.isSend = false) : ¬Unconfirmed config events := by
  intro hunconfirmed
  obtain ⟨-, slot, after, hsuffix, -⟩ := hunconfirmed
  cases h _ (hsuffix.mem List.mem_cons_self)

/-- A responder that sends nothing errs for what the reception brings. -/
theorem cause_iff_of_brings {L : Type} (s : Session) {events : List (Event L ε)}
    {received : Received (awaited s.config).size}
    (hbrings : (awaited s.config).Brings events received)
    (hsend : ∀ event ∈ events, event.isSend = false) (error : Error ε) :
    ((awaited s.config).Cause (listenEvents s.config ++ events ++ cleanUpEvents) error ∨
        error = .timeout ∧
          Unconfirmed s.config (listenEvents s.config ++ events ++ cleanUpEvents)) ↔
      (awaited s.config).refusal received = some error := by
  have hquiet : ∀ event ∈ listenEvents s.config ++ events ++ cleanUpEvents,
      event.isSend = false :=
    List.forall_mem_append.2 ⟨List.forall_mem_append.2 ⟨not_isSend_listenEvents s.config, hsend⟩,
      not_isSend_cleanUpEvents⟩
  have hbehind := hbrings.behind (statusesRead_listenEvents s.config)
    (noFrame_listenEvents _ s.config)
  rw [or_iff_left fun h => not_unconfirmed_of_not_isSend s.config hquiet h.2]
  exact (hbehind.followed (fun _ => statusesRead_cleanUpEvents)
    (noFrame_cleanUpEvents _)).cause_iff (not_sentLate_of_not_isSend hquiet) error

section Answer

variable {L : Type} {s : Session} {poll : Poll} {misses : List Status} {status : Status}
  {frame : Frame Poll.size} {received : Instant} {answer : Except ε SendStart}
  {after : List (Event L ε)}

theorem answerEvents_eq_append : answerEvents s poll misses status frame received answer after =
    listenEvents s.config ++
      (receptionEvents s.config.timeouts.statusInterval misses status frame ++
        preparationEvents s poll received) ++
      sendEvent s.config received answer :: after := by
  simp only [answerEvents, List.append_assoc]

theorem answerEvents_append (events : List (Event L ε)) :
    answerEvents s poll misses status frame received answer after ++ events =
      answerEvents s poll misses status frame received answer (after ++ events) := by
  simp only [answerEvents, List.append_assoc, List.cons_append]

theorem accepts_of_addressed (haddressed : Addressed s.config poll)
    (hframe : frame.val = poll.bytes) : (awaited s.config).accepts frame = true :=
  (accepts_pollMask_iff s.config frame.val).2 ⟨poll, hframe, haddressed⟩

theorem brings_answerEvents
    (hheard : FrameHeard s.config.timeouts.statusInterval s.config.timeouts.pollWait misses status)
    (hafter : NoFrame Poll.size after) :
    (awaited s.config).Brings (answerEvents s poll misses status frame received answer after)
      (.frame frame) := by
  have hrest : NoFrame Poll.size
      (preparationEvents s poll received ++ sendEvent s.config received answer :: after) :=
    ⟨by simp [preparationEvents, sendEvent, hafter.no_length],
      by simp [preparationEvents, sendEvent, hafter.no_bytes]⟩
  exact ((awaited s.config).brings_receptionEvents_append hheard frame
    hrest).behind (statusesRead_listenEvents s.config) (noFrame_listenEvents _ s.config)

theorem sentLate_answerEvents_iff (hsend : ∀ event ∈ after, event.isSend = false) :
    SentLate (answerEvents s poll misses status frame received answer after) ↔
      answer = .ok .tooLate := by
  have hbefore := not_sentLate_of_not_isSend
    (forall_not_isSend_before (L := L) (ε := ε) s poll received misses status frame)
  have hafter := not_sentLate_of_not_isSend hsend
  rw [answerEvents_eq_append, ← List.singleton_append, sentLate_append, or_iff_right hbefore,
    sentLate_append, or_iff_left hafter]
  simp [SentLate, sendEvent, eq_comm]

theorem unconfirmed_answerEvents_iff (haddressed : Addressed s.config poll)
    (hheard : FrameHeard s.config.timeouts.statusInterval s.config.timeouts.pollWait misses status)
    (hframe : frame.val = poll.bytes) (hafter : NoFrame Poll.size after)
    (hsend : ∀ event ∈ after, event.isSend = false) :
    Unconfirmed s.config (answerEvents s poll misses status frame received answer after) ↔
      answer = .ok .started ∧
        shownWithin Status.sent s.config.timeouts.sendWait s.config.timeouts.statusInterval after =
          none := by
  constructor
  · intro h
    obtain ⟨-, slot, rest, hsuffix, hunseen⟩ := h
    rw [answerEvents_eq_append] at hsuffix
    obtain ⟨hevent, rfl⟩ := eq_of_send_suffix
      (forall_not_isSend_before s poll received misses status frame) hsend rfl hsuffix
    rw [sendEvent] at hevent
    cases hevent
    exact ⟨rfl, hunseen⟩
  · intro h
    obtain ⟨rfl, hunseen⟩ := h
    refine ⟨⟨frame, brings_answerEvents hheard hafter, accepts_of_addressed haddressed hframe⟩,
      replySlot s.config received, after, ?_, hunseen⟩
    rw [answerEvents_eq_append]
    exact List.suffix_append _ _

/-- A responder that accepted a Poll errs for what becomes of its Response. -/
theorem cause_iff_of_answer (haddressed : Addressed s.config poll)
    (hheard : FrameHeard s.config.timeouts.statusInterval s.config.timeouts.pollWait misses status)
    (hframe : frame.val = poll.bytes) (hafter : NoFrame Poll.size after)
    (hsend : ∀ event ∈ after, event.isSend = false) (error : Error ε) :
    ((awaited s.config).Cause
          (answerEvents s poll misses status frame received answer after ++ cleanUpEvents) error ∨
        error = .timeout ∧ Unconfirmed s.config
          (answerEvents s poll misses status frame received answer after ++ cleanUpEvents)) ↔
      answer = .ok .tooLate ∧ error = .transmitFailure ∨
        error = .timeout ∧ answer = .ok .started ∧
          shownWithin Status.sent s.config.timeouts.sendWait s.config.timeouts.statusInterval
            after = none := by
  rw [answerEvents_append]
  have hafter' : NoFrame Poll.size (after ++ cleanUpEvents) :=
    hafter.append (noFrame_cleanUpEvents _)
  have hsend' : ∀ event ∈ after ++ cleanUpEvents, event.isSend = false :=
    List.forall_mem_append.2 ⟨hsend, not_isSend_cleanUpEvents⟩
  have hbrings : (awaited s.config).Brings
      (answerEvents s poll misses status frame received answer (after ++ cleanUpEvents))
      (.frame frame) := brings_answerEvents hheard hafter'
  rw [Awaited.cause_iff_sentLate, sentLate_answerEvents_iff hsend',
    unconfirmed_answerEvents_iff haddressed hheard hframe hafter' hsend',
    shownWithin_followed statusesRead_cleanUpEvents]
  intro brought _ hbrought
  rw [← hbrings.unique hbrought]
  exact Awaited.refusal_of_accepts (accepts_of_addressed haddressed hframe)

end Answer

/-- An exchange of a responder in which no request fails returns an error just when its cause has
happened. -/
theorem eq_error_iff_cause (s : Session) (events : List (Event (Line F) ε))
    (result : Except (Error ε) Reply) (t : Session)
    (h : (finishing exchange).ends s events result t) (hall : ∀ event ∈ events, event.succeeds)
    (error : Error ε) :
    result = .error error ↔
      (awaited s.config).Cause events error ∨ error = .timeout ∧ Unconfirmed s.config events := by
  cases result with
  | ok reply =>
    obtain ⟨first, u, rfl, hexchange, -⟩ := ends_finishing_ok _ s events reply t h
    rcases cases_of_ends_exchange s first _ u hexchange with
      ⟨-, e, he⟩ | ⟨poll, misses, status, frame, received, answer, after, haddressed, hheard,
        hframe, rfl, -, hreply⟩
    · cases he
    · obtain ⟨rfl, -, later, shown, hlength, hsent, rfl⟩ := hreply reply rfl
      have hafter : NoFrame Poll.size
          (confirmationEvents s.config later shown : List (Event (Line F) ε)) :=
        ⟨by simp [confirmationEvents], by simp [confirmationEvents]⟩
      have hunseen := shownWithin_confirmationEvents_ne_none (L := Line F) (ε := ε) hlength hsent
      refine iff_of_false (by intro h; cases h) fun hcause => ?_
      rcases (cause_iff_of_answer haddressed hheard hframe hafter
        (not_isSend_confirmationEvents s.config later shown) error).1 hcause with
        ⟨he, -⟩ | ⟨-, -, hnone⟩
      · cases he
      · exact hunseen hnone
  | error e =>
    obtain ⟨first, u, rfl, hexchange, -⟩ := refuses_finishing _ s events e t ⟨h, hall⟩
    rw [Except.error.injEq]
    cases refusal_of_refuses_exchange s first e u hexchange with
    | unheard events _ hrefusal =>
      obtain ⟨brought, hbrings, hleads⟩ :=
        (awaited s.config).exists_brings_of_receptionRefusal hrefusal
      rw [cause_iff_of_brings s hbrings hrefusal.not_isSend, hleads, Option.some.injEq]
    | foreign misses status frame line hheard haccepts =>
      have hrejects : (awaited s.config).accepts frame = false := haccepts
      have hafter : NoFrame Poll.size [(.log line : Event (Line F) ε)] := ⟨by simp, by simp⟩
      have hbrings :=
        (awaited s.config).brings_receptionEvents_append hheard frame hafter
      have hsend := not_isSend_receptionEvents (L := Line F) (ε := ε)
        s.config.timeouts.statusInterval misses status frame
      have hcause := cause_iff_of_brings s hbrings
        (List.forall_mem_append.2 ⟨hsend, by simp [Event.isSend]⟩) error
      rw [Awaited.refusal_of_rejects hrejects, Option.some.injEq] at hcause
      exact hcause.symm
    | missed poll misses status frame received line haddressed hheard hframe =>
      rw [cause_iff_of_answer haddressed hheard hframe ⟨by simp, by simp⟩ (by simp [Event.isSend])]
      constructor
      · intro h
        exact .inl ⟨rfl, h.symm⟩
      · intro h
        rcases h with ⟨-, he⟩ | ⟨-, hstarted, -⟩
        · exact he.symm
        · cases hstarted
    | unconfirmed poll misses status frame received later last haddressed hheard hframe hlater
        hlength hlast =>
      rw [cause_iff_of_answer haddressed hheard hframe ⟨by simp, by simp⟩
        (List.forall_mem_append.2 ⟨not_isSend_missEvents _ later, by simp [Event.isSend]⟩)]
      constructor
      · intro h
        exact .inr ⟨h.symm, rfl, shownWithin_of_expired hlater hlength hlast⟩
      · intro h
        rcases h with ⟨hlate, -⟩ | ⟨he, -, -⟩
        · cases hlate
        · exact he.symm

end Responder

/-- An exchange of a single-sided node in which no request fails returns an error just when the
cause of this error has happened. A responder also returns a timeout if it does not see its
Response leave, and otherwise errs for the same causes as an initiator. -/
theorem exchange_errs_for_its_cause {F ε ρ : Type} [Scalar F] (radio : Radio ε ρ) (start : ρ)
    (s : Session) (hscheme : s.config.scheme = .singleSided) :
    (∀ target, (∀ event ∈ (radio.initiate (F := F) start s target).events, event.succeeds) →
      ∀ error, (radio.initiate (F := F) start s target).value = .error error ↔
        (Initiator.awaited s.config target).Cause (radio.initiate (F := F) start s target).events
          error) ∧
    ((∀ event ∈ (radio.respond (F := F) start s).events, event.succeeds) →
      ∀ error, (radio.respond (F := F) start s).value = .error error ↔
        (Responder.awaited s.config).Cause (radio.respond (F := F) start s).events error ∨
          error = .timeout ∧
            Responder.Unconfirmed s.config (radio.respond (F := F) start s).events) := by
  constructor
  · intro target hall error
    exact Initiator.eq_error_iff_cause target s _ _ _
      (radio.ends_initiate start s target hscheme) hall error
  · intro hall error
    exact Responder.eq_error_iff_cause s _ _ _ (radio.ends_respond start s hscheme) hall error

/-- What comes of ranging when a frame of three bytes is received. -/
def strayInitiation : Run (Line Rat) String Session (Except (Error String) Rat) :=
  (Radio.prompt [0x41, 0x88, 7] ⟨0⟩ ⟨0⟩).initiate ()
    (Session.fresh (Config.standard Config.defaultPan 1)) 2

/-- What comes of listening for a Poll when a frame of three bytes is received. -/
def strayRespond : Run (Line Rat) String Session (Except (Error String) Reply) :=
  (Radio.prompt [0x41, 0x88, 7] ⟨0⟩ ⟨0⟩).respond ()
    (Session.fresh (Config.standard Config.defaultPan 1))

theorem events_strayInitiation : strayInitiation.events =
    [.call .resetReceiver (.ok ()),
      .call (.clearStatus (Status.receiveDone ||| Status.sent)) (.ok ()),
      .call (.setReceiveDelay 940) (.ok ()), .call (.setReceiveTimeout 210) (.ok ()),
      .call (.storeFrame (Poll.bytes ⟨0, Config.defaultPan, 2, 1⟩)) (.ok ()),
      .call (.send .now true) (.ok .started),
      .call .readStatus (.ok (Status.received ||| Status.sent)),
      .call (.clearStatus (Status.received ||| Status.sent)) (.ok ()),
      .call .frameLength (.ok 3),
      .call (.clearStatus (Status.receiveDone ||| Status.sent)) (.ok ()),
      .call .resetReceiver (.ok ())] := by
  cbv

theorem events_strayRespond : strayRespond.events =
    [.call (.clearStatus (Status.receiveDone ||| Status.sent)) (.ok ()),
      .call (.setReceiveTimeout 65535) (.ok ()), .call .enableReceiver (.ok ()),
      .call .readStatus (.ok (Status.received ||| Status.sent)),
      .call (.clearStatus (Status.received ||| Status.sent)) (.ok ()),
      .call .frameLength (.ok 3),
      .call (.clearStatus (Status.receiveDone ||| Status.sent)) (.ok ()),
      .call .resetReceiver (.ok ())] := by
  cbv

/-- Both roles refuse the frame for its length. -/
theorem stray_frame_mislengthed :
    (Config.standard Config.defaultPan 1).scheme = .singleSided ∧
      (∀ event ∈ strayInitiation.events, event.succeeds) ∧
      (∀ event ∈ strayRespond.events, event.succeeds) ∧
      strayInitiation.value = .error (.lengthMismatch 18 3) ∧
      (Initiator.awaited (Config.standard Config.defaultPan 1) 2).Cause strayInitiation.events
        (.lengthMismatch 18 3) ∧
      strayRespond.value = .error (.lengthMismatch 10 3) ∧
      (Responder.awaited (Config.standard Config.defaultPan 1)).Cause strayRespond.events
        (.lengthMismatch 10 3) := by
  have hinitiation : ∀ event ∈ strayInitiation.events, event.succeeds := by
    rw [events_strayInitiation]
    simp [Event.succeeds]
  have hrespond : ∀ event ∈ strayRespond.events, event.succeeds := by
    rw [events_strayRespond]
    simp [Event.succeeds]
  have hvalue : strayInitiation.value = .error (.lengthMismatch 18 3) := by
    cbv
  have hvalue' : strayRespond.value = .error (.lengthMismatch 10 3) := by
    cbv
  obtain ⟨hinitiates, hresponds⟩ := exchange_errs_for_its_cause (F := Rat)
    (Radio.prompt [0x41, 0x88, 7] ⟨0⟩ ⟨0⟩) ()
    (Session.fresh (Config.standard Config.defaultPan 1)) rfl
  refine ⟨rfl, hinitiation, hrespond, hvalue, (hinitiates 2 hinitiation _).1 hvalue, hvalue', ?_⟩
  rcases (hresponds hrespond _).1 hvalue' with hcause | ⟨he, -⟩
  · exact hcause
  · cases he

end Ranging

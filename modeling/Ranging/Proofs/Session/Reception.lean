import Ranging.Proofs.Session.Steps

/-!
# How a reception ends

Both roles wait for the end of a reception, take the frame out of the transceiver
and compare it with a template. A reception that ends well has left the events
`receptionEvents`: the readings of the wait, of which the last is good, and the
three requests for the frame. `FrameHeard` says what is known of those readings.

If no request failed, the node has turned a reception down for one of three
reasons, which are the cases of `ReceptionRefusal`. What comes after the frame
was taken out is left open, so the same rules serve both roles.
-/

namespace Ranging

/-- The events of a reception in which a frame is taken out of the transceiver. -/
def receptionEvents {L ε : Type} (interval : UInt32) (misses : List Status) (status : Status)
    {length : Nat} (frame : Frame length) : List (Event L ε) :=
  missEvents interval misses ++
    [.call .readStatus (.ok status),
      .call (.clearStatus (Status.received ||| Status.sent)) (.ok ()),
      .call .frameLength (.ok length), .call (.frameBytes length) (.ok frame)]

@[simp] theorem statusesRead_receptionEvents {L ε : Type} (interval : UInt32)
    (misses : List Status) (status : Status) {length : Nat} (frame : Frame length) :
    statusesRead (receptionEvents interval misses status frame : List (Event L ε)) =
      misses ++ [status] := by
  rw [receptionEvents, statusesRead_append, statusesRead_missEvents]
  rfl

theorem not_isSend_receptionEvents {L ε : Type} (interval : UInt32) (misses : List Status)
    (status : Status) {length : Nat} (frame : Frame length) :
    ∀ event ∈ (receptionEvents interval misses status frame : List (Event L ε)),
      event.isSend = false := by
  rw [receptionEvents, List.forall_mem_append]
  refine ⟨not_isSend_missEvents interval misses, ?_⟩
  simp [Event.isSend]

/-- The readings of a wait that ended with a good frame. -/
structure FrameHeard (interval timeout : UInt32) (misses : List Status) (status : Status) :
    Prop where
  not_done : ∀ miss ∈ misses, miss.intersects Status.receiveDone = false
  in_time : misses.length ≤ waitPauses timeout interval 0
  done : status.intersects Status.receiveDone = true
  good : status.contains Status.received = true

/-- Why a reception comes to nothing although no request failed. -/
inductive ReceptionRefusal {L ε : Type} (interval timeout : UInt32) (length : Nat) :
    List (Event L ε) → Error ε → Prop where
  /-- The wait went by. -/
  | silent (misses : List Status) (last : Status) :
      (∀ miss ∈ misses, miss.intersects Status.receiveDone = false) →
      misses.length = waitPauses timeout interval 0 →
      last.intersects Status.receiveDone = false →
      ReceptionRefusal interval timeout length
        (missEvents interval misses ++ [.call .readStatus (.ok last)]) .timeout
  /-- The reception ended without a good frame, which may have been logged. -/
  | garbled (misses : List Status) (status : Status) (lines : List L) :
      (∀ miss ∈ misses, miss.intersects Status.receiveDone = false) →
      misses.length ≤ waitPauses timeout interval 0 →
      status.intersects Status.receiveDone = true → status.contains Status.received = false →
      ReceptionRefusal interval timeout length
        (missEvents interval misses ++ .call .readStatus (.ok status) :: lines.map .log) .timeout
  /-- The frame has another length. -/
  | mislengthed (misses : List Status) (status : Status) (actual : Nat) :
      FrameHeard interval timeout misses status → actual ≠ length →
      ReceptionRefusal interval timeout length
        (missEvents interval misses ++
          [.call .readStatus (.ok status),
            .call (.clearStatus (Status.received ||| Status.sent)) (.ok ()),
            .call .frameLength (.ok actual)]) (.lengthMismatch length actual)

/-- If the reading that ends a reception is good and the frame has the right
length, the reception comes to something. -/
theorem not_receptionRefusal {L ε : Type} (interval timeout : UInt32) (length : Nat)
    (before events after : List (Event L ε)) (error : Error ε)
    (hbefore : statusesRead before = []) (hafter : statusesRead after = [])
    (hheard : ∃ status, firstShowing Status.receiveDone (before ++ events ++ after) = some status ∧
      status.contains Status.received = true)
    (hlength : ∀ actual, .call .frameLength (.ok actual) ∈ events → actual = length) :
    ¬ReceptionRefusal interval timeout length events error := by
  intro h
  obtain ⟨status, hfirst, hgood⟩ := hheard
  cases h with
  | silent misses last hmisses _ hlast =>
      rw [firstShowing_eq_none] at hfirst
      · cases hfirst
      · intro miss hmem
        have hmem : miss ∈ misses ∨ miss = last := by
          simpa [hbefore, hafter] using hmem
        rcases hmem with hmem | rfl
        · exact hmisses miss hmem
        · exact hlast
  | garbled misses bad lines hmisses _ hdone hbad =>
      rw [firstShowing_eq_some _ misses bad _ ?_ hmisses hdone] at hfirst
      · cases hfirst
        rw [hbad] at hgood
        cases hgood
      · simp [hbefore, hafter]
  | mislengthed misses last actual hframe hactual =>
      refine hactual (hlength actual ?_)
      simp

theorem ReceptionRefusal.not_isSend {L ε : Type} {interval timeout : UInt32} {length : Nat}
    {events : List (Event L ε)} {error : Error ε}
    (h : ReceptionRefusal interval timeout length events error) :
    ∀ event ∈ events, event.isSend = false := by
  cases h with
  | silent misses last _ _ _ =>
      rw [List.forall_mem_append]
      exact ⟨not_isSend_missEvents interval misses, by simp [Event.isSend]⟩
  | garbled misses status lines _ _ _ _ =>
      rw [List.forall_mem_append]
      exact ⟨not_isSend_missEvents interval misses, by simp [Event.isSend]⟩
  | mislengthed misses status actual _ _ =>
      rw [List.forall_mem_append]
      exact ⟨not_isSend_missEvents interval misses, by simp [Event.isSend]⟩

namespace Session

variable {F ε α : Type}

/-- A wait of a session reads the register as often as the node is set up to. -/
theorem outcome_await (flags : Status) (timeout : UInt32) (s : Session)
    (events : List (Event (Line F) ε)) (result : Except (Error ε) Status) (t : Session)
    (h : (await flags timeout).ends s events result t) :
    t = s ∧ WaitOutcome flags s.config.timeouts.statusInterval
      (waitPauses timeout s.config.timeouts.statusInterval 0) events result := by
  rw [await, ends_getConfig_bind] at h
  exact Attempt.outcome_awaitStatus flags timeout _ s events result t h

theorem ends_receiveBytes_ok (length : Nat) (status : Status) (s : Session)
    (events : List (Event (Line F) ε)) (bytes : List UInt8) (t : Session)
    (h : (receiveBytes length status).ends s events (.ok bytes) t) :
    status.contains Status.received = true ∧ t = s ∧ ∃ frame : Frame length, bytes = frame.val ∧
      events = [.call (.clearStatus (Status.received ||| Status.sent)) (.ok ()),
        .call .frameLength (.ok length), .call (.frameBytes length) (.ok frame)] := by
  rw [receiveBytes] at h
  cases hgood : status.contains Status.received with
  | false =>
      rw [hgood, if_neg Bool.false_ne_true] at h
      cases herror : status.intersects Status.receiveErrors with
      | false =>
          rw [herror, if_neg Bool.false_ne_true, Attempt.ends_throw] at h
          cases h.2.1
      | true =>
          rw [herror, if_pos rfl, ends_log_bind] at h
          obtain ⟨tail, -, h⟩ := h
          cases h.2.1
  | true =>
      rw [hgood, if_pos rfl, Attempt.clearStatus, Attempt.ends_ask_bind_ok] at h
      obtain ⟨_, tail, rfl, h⟩ := h
      rw [Attempt.frameLength, Attempt.ends_ask_bind_ok] at h
      obtain ⟨actual, tail, rfl, h⟩ := h
      by_cases hlength : actual = length
      · rw [id_eq, if_pos hlength, Attempt.frameBytes, Attempt.ends_ask_ok] at h
        obtain ⟨frame, rfl, rfl, rfl⟩ := h
        subst hlength
        exact ⟨rfl, rfl, frame, rfl, rfl⟩
      · rw [id_eq, if_neg hlength, Attempt.ends_throw] at h
        cases h.2.1

theorem refuses_receiveBytes (length : Nat) (status : Status) (s : Session)
    (events : List (Event (Line F) ε)) (error : Error ε) (t : Session)
    (h : (receiveBytes length status).refuses s events error t) :
    (status.contains Status.received = false ∧ error = .timeout ∧
        ∃ lines : List (Line F), events = lines.map .log) ∨
      status.contains Status.received = true ∧ ∃ actual, actual ≠ length ∧
        error = .lengthMismatch length actual ∧
        events = [.call (.clearStatus (Status.received ||| Status.sent)) (.ok ()),
          .call .frameLength (.ok actual)] := by
  rw [receiveBytes] at h
  cases hgood : status.contains Status.received with
  | false =>
      rw [hgood, if_neg Bool.false_ne_true] at h
      refine .inl ⟨rfl, ?_⟩
      cases herror : status.intersects Status.receiveErrors with
      | false =>
          rw [herror, if_neg Bool.false_ne_true, Attempt.refuses_throw] at h
          obtain ⟨rfl, rfl, -⟩ := h
          exact ⟨rfl, [], rfl⟩
      | true =>
          rw [herror, if_pos rfl, Attempt.refuses, ends_log_bind] at h
          obtain ⟨⟨tail, rfl, rfl, he, -⟩, -⟩ := h
          exact ⟨Except.error.inj he, [_], rfl⟩
  | true =>
      rw [hgood, if_pos rfl, Attempt.clearStatus, Attempt.refuses_ask_bind] at h
      obtain ⟨_, tail, rfl, h⟩ := h
      rw [Attempt.frameLength, Attempt.refuses_ask_bind] at h
      obtain ⟨actual, tail, rfl, h⟩ := h
      refine .inr ⟨rfl, actual, ?_⟩
      by_cases hlength : actual = length
      · rw [id_eq, if_pos hlength] at h
        exact absurd h (Attempt.not_refuses_ask _ _ _ _ _ _)
      · rw [id_eq, if_neg hlength, Attempt.refuses_throw] at h
        obtain ⟨rfl, rfl, -⟩ := h
        exact ⟨hlength, rfl, rfl⟩

/-- Once a frame was received and taken out, the attempt goes on with its bytes. -/
theorem ends_reception_ok (timeout : UInt32) (length : Nat)
    (rest : List UInt8 → SessionAttempt F ε α) (s : Session) (events : List (Event (Line F) ε))
    (value : α) (t : Session)
    (h : (await Status.receiveDone timeout >>= fun status =>
      receiveBytes length status >>= rest).ends s events (.ok value) t) :
    ∃ misses status, ∃ frame : Frame length, ∃ tail,
      FrameHeard s.config.timeouts.statusInterval timeout misses status ∧
      events = receptionEvents s.config.timeouts.statusInterval misses status frame ++ tail ∧
      (rest frame.val).ends s tail (.ok value) t := by
  rw [Attempt.ends_bind_ok] at h
  obtain ⟨reads, second, status, u, rfl, hwait, h⟩ := h
  obtain ⟨rfl, hwait⟩ := outcome_await _ _ _ _ _ _ hwait
  rw [Attempt.ends_bind_ok] at h
  obtain ⟨taken, tail, bytes, u, rfl, hbytes, h⟩ := h
  obtain ⟨hgood, rfl, frame, rfl, rfl⟩ := ends_receiveBytes_ok _ _ _ _ _ _ hbytes
  cases hwait with
  | shown misses status hmisses hlength hdone =>
      refine ⟨misses, status, frame, tail, ⟨hmisses, hlength, hdone, hgood⟩, ?_, h⟩
      rw [receptionEvents, List.append_assoc, List.append_assoc]
      rfl

/-- If no request fails, either the reception comes to nothing or what follows it does. -/
theorem refuses_reception (timeout : UInt32) (length : Nat)
    (rest : List UInt8 → SessionAttempt F ε α) (s : Session) (events : List (Event (Line F) ε))
    (error : Error ε) (t : Session)
    (h : (await Status.receiveDone timeout >>= fun status =>
      receiveBytes length status >>= rest).refuses s events error t) :
    ReceptionRefusal s.config.timeouts.statusInterval timeout length events error ∨
      ∃ misses status, ∃ frame : Frame length, ∃ tail,
        FrameHeard s.config.timeouts.statusInterval timeout misses status ∧
        events = receptionEvents s.config.timeouts.statusInterval misses status frame ++ tail ∧
        (rest frame.val).refuses s tail error t := by
  rcases Attempt.refuses_bind _ _ _ _ _ _ h with
    hwait | ⟨reads, second, status, u, rfl, hwait, hrest⟩
  · obtain ⟨hwait, hall⟩ := hwait
    obtain ⟨rfl, hwait⟩ := outcome_await _ _ _ _ _ _ hwait
    cases hwait with
    | expired misses last hmisses hlength hlast =>
        exact .inl (.silent misses last hmisses hlength hlast)
    | broken misses cause _ _ =>
        exact absurd (hall _ (List.mem_append_right _ (List.mem_singleton_self _)))
          (Event.not_succeeds_error _ _)
  · obtain ⟨rfl, hwait⟩ := outcome_await _ _ _ _ _ _ hwait
    cases hwait with
    | shown misses status hmisses hlength hdone =>
        rcases Attempt.refuses_bind _ _ _ _ _ _ hrest with
          hbytes | ⟨taken, tail, bytes, u, rfl, hbytes, htail⟩
        · rcases refuses_receiveBytes _ _ _ _ _ _ hbytes with
            ⟨hbad, rfl, lines, rfl⟩ | ⟨hgood, actual, hactual, rfl, rfl⟩
          · refine .inl ?_
            rw [List.append_assoc]
            exact .garbled misses status lines hmisses hlength hdone hbad
          · refine .inl ?_
            rw [List.append_assoc]
            exact .mislengthed misses status actual ⟨hmisses, hlength, hdone, hgood⟩ hactual
        · obtain ⟨hgood, rfl, frame, rfl, rfl⟩ := ends_receiveBytes_ok _ _ _ _ _ _ hbytes
          refine .inr ⟨misses, status, frame, tail, ⟨hmisses, hlength, hdone, hgood⟩, ?_, htail⟩
          rw [receptionEvents, List.append_assoc, List.append_assoc]
          rfl

/-- A frame that passes agrees with its template, and is read from its first byte on. -/
theorem ends_acceptFrame_ok (φ : Type) [Readable φ] (mask : Mask) (template received : List UInt8)
    (other : Line F) (s : Session) (events : List (Event (Line F) ε)) (frame : φ) (t : Session)
    (h : (acceptFrame φ mask template received other).ends s events (.ok frame) t) :
    mask.accepts template received = true ∧ (readFrame φ received 0).1 = .ok frame ∧
      events = [] ∧ t = s := by
  rw [acceptFrame] at h
  cases haccepts : mask.accepts template received with
  | false =>
      rw [haccepts, if_neg Bool.false_ne_true, ends_log_bind] at h
      obtain ⟨tail, -, h⟩ := h
      cases h.2.1
  | true =>
      rw [haccepts, if_pos rfl] at h
      cases hread : (readFrame φ received 0).1 with
      | error cause =>
          rw [hread] at h
          cases h.2.1
      | ok read =>
          rw [hread] at h
          obtain ⟨rfl, he, rfl⟩ := h
          cases he
          exact ⟨rfl, rfl, rfl, rfl⟩

theorem refuses_acceptFrame (φ : Type) [Readable φ] (mask : Mask) (template received : List UInt8)
    (other : Line F) (s : Session) (events : List (Event (Line F) ε)) (error : Error ε)
    (t : Session) (h : (acceptFrame φ mask template received other).refuses s events error t) :
    (mask.accepts template received = false ∧ events = [.log other] ∧ error = .contentMismatch) ∨
      mask.accepts template received = true ∧ ∃ cause,
        (readFrame φ received 0).1 = .error cause ∧ events = [] := by
  obtain ⟨h, -⟩ := h
  rw [acceptFrame] at h
  cases haccepts : mask.accepts template received with
  | false =>
      rw [haccepts, if_neg Bool.false_ne_true, ends_log_bind] at h
      obtain ⟨tail, rfl, rfl, he, -⟩ := h
      cases he
      exact .inl ⟨rfl, rfl, rfl⟩
  | true =>
      rw [haccepts, if_pos rfl] at h
      cases hread : (readFrame φ received 0).1 with
      | error cause =>
          rw [hread] at h
          exact .inr ⟨rfl, cause, rfl, h.1⟩
      | ok read =>
          rw [hread] at h
          cases h.2.1

end Session

end Ranging

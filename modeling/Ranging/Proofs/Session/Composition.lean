import Ranging.Proofs.Session.Steps

/-!
# What an exchange is made of

All parts of an exchange are put together from three kinds of pieces: requests,
waits, and steps that the node takes by itself, such as logging or giving up with an
error of its own. `MadeOf allowed` says so of an attempt whose requests are all
`allowed`.

The exchanges are taken apart here once. What holds of every piece and passes from
the parts of a sequence to the whole holds of every attempt that is `MadeOf` them:
it is fail-stop, it makes no other requests, and it leaves the configuration alone.
Only two parts of an exchange start a transmission, that of the initiator which sends
its Poll and that of the responder which sends its Response.

Most parts have nothing to do with the sequence number: they are `Unnumbered`. The
number is read at the beginning of the two parts that send a frame, and what those do
once they have it is `Unnumbered` as well.
-/

namespace Ranging

/-- Whether a request starts a transmission. -/
def Request.isSend : Request → Bool
  | .send _ _ => true
  | _ => false

/-- Whether a request belongs to a transmission: the storing of its frame, its start, or
the clearing of the flag that shows its end. -/
def Request.transmits : Request → Bool
  | .storeFrame _ | .send _ _ => true
  | .clearStatus flags => flags == Status.sent
  | _ => false

theorem Request.isSend_of_not_transmits (request : Request) (h : request.transmits = false) :
    request.isSend = false := by
  cases request with
  | send time answerExpected => cases h
  | _ => rfl

/-- The request stores no other frame than the given one. -/
def Request.storesOnly (frame : List UInt8) : Request → Prop
  | .storeFrame stored => stored = frame
  | _ => True

/-- The event is no request, or one of the allowed ones. -/
def Event.within {L ε : Type} (allowed : Request → Prop) : Event L ε → Prop
  | .call request _ => allowed request
  | _ => True

theorem Event.within_mono {L ε : Type} {allowed other : Request → Prop}
    (himp : ∀ request, allowed request → other request) (event : Event L ε)
    (h : event.within allowed) : event.within other := by
  cases event with
  | call request answer => exact himp request h
  | _ => trivial

theorem Event.isSend_of_within {L ε : Type} (event : Event L ε)
    (h : event.within (·.isSend = false)) : event.isSend = false := by
  cases event with
  | pause length => rfl
  | log line => rfl
  | call request answer =>
      cases request with
      | send time answerExpected => cases h
      | _ => rfl

namespace Session

variable {F ε α : Type}

/-! ## Steps that the node takes by itself -/

/-- A step without requests, which neither fails for the driver nor changes the
configuration. -/
def Internal (attempt : SessionAttempt F ε α) : Prop :=
  ∀ s events result t, attempt.ends s events result t →
    (∃ lines : List (Line F), events = lines.map .log) ∧ (∀ cause, result ≠ .error (.radio cause)) ∧
      t.config = s.config

theorem internal_pure (value : α) : Internal (pure value : SessionAttempt F ε α) := by
  intro s events result t h
  obtain ⟨rfl, rfl, rfl⟩ := h
  exact ⟨⟨[], rfl⟩, nofun, rfl⟩

theorem internal_throw (error : Error ε) (hown : ∀ cause, error ≠ .radio cause) :
    Internal (throw error : SessionAttempt F ε α) := by
  intro s events result t h
  obtain ⟨rfl, rfl, rfl⟩ := h
  exact ⟨⟨[], rfl⟩, fun cause he => hown cause (Except.error.inj he), rfl⟩

theorem internal_log (line : Line F) : Internal (log line : SessionAttempt F ε Unit) := by
  intro s events result t h
  rw [← bind_pure (log line), ends_log_bind] at h
  obtain ⟨tail, rfl, rfl, rfl, rfl⟩ := h
  exact ⟨⟨[line], rfl⟩, nofun, rfl⟩

theorem internal_getConfig : Internal (getConfig : SessionAttempt F ε Config) := by
  intro s events result t h
  rw [← bind_pure getConfig, ends_getConfig_bind] at h
  exact internal_pure s.config s events result t h

theorem internal_getSeq : Internal (getSeq : SessionAttempt F ε UInt8) := by
  intro s events result t h
  rw [← bind_pure getSeq, ends_getSeq_bind] at h
  exact internal_pure s.seq s events result t h

theorem internal_advanceSeq : Internal (advanceSeq : SessionAttempt F ε Unit) := by
  intro s events result t h
  obtain ⟨rfl, rfl, rfl⟩ := (ends_advanceSeq _ _ _ _).1 h
  exact ⟨⟨[], rfl⟩, nofun, rfl⟩

theorem internal_enter (state : ExchangeState) :
    Internal (enter state : SessionAttempt F ε Unit) := by
  intro s events result t h
  obtain ⟨rfl, rfl, rfl⟩ := (ends_enter _ _ _ _ _).1 h
  exact ⟨⟨[], rfl⟩, nofun, rfl⟩

/-! ## Attempts made of pieces -/

/-- The attempt is put together from allowed requests, waits and internal steps. -/
inductive MadeOf (allowed : Request → Prop) : {α : Type} → SessionAttempt F ε α → Prop where
  | step {α : Type} (attempt : SessionAttempt F ε α) : Internal attempt → MadeOf allowed attempt
  | ask {α : Type} (request : Request) (read : request.Answer → α) :
      allowed request → MadeOf allowed (Attempt.ask request read)
  | await (flags : Status) (timeout : UInt32) :
      allowed .readStatus → MadeOf allowed (await flags timeout)
  | bind {α β : Type} (attempt : SessionAttempt F ε α) (rest : α → SessionAttempt F ε β) :
      MadeOf allowed attempt → (∀ value, MadeOf allowed (rest value)) →
      MadeOf allowed (attempt >>= rest)

namespace MadeOf

variable {allowed : Request → Prop} {attempt : SessionAttempt F ε α}

/-- More requests may be allowed. -/
theorem mono {other : Request → Prop} (h : MadeOf allowed attempt)
    (himp : ∀ request, allowed request → other request) : MadeOf other attempt := by
  induction h with
  | step attempt h => exact .step attempt h
  | ask request read h => exact .ask request read (himp _ h)
  | await flags timeout h => exact .await flags timeout (himp _ h)
  | bind attempt rest _ _ ihattempt ihrest => exact .bind attempt rest ihattempt ihrest

/-- What an exchange is made of stops at the first request that fails. -/
theorem failStop (h : MadeOf allowed attempt) : attempt.failStop := by
  induction h with
  | step attempt h =>
      intro s events result t hends
      obtain ⟨⟨lines, rfl⟩, hown, -⟩ := h s events result t hends
      refine .inl ⟨?_, hown⟩
      intro event hmem
      obtain ⟨line, -, rfl⟩ := List.mem_map.1 hmem
      exact Event.succeeds_log line
  | ask request read _ => exact Attempt.failStop_ask request read
  | await flags timeout _ =>
      intro s events result t hends
      rw [Session.await, ends_getConfig_bind] at hends
      exact Attempt.failStop_awaitStatus flags timeout _ s events result t hends
  | bind attempt rest _ _ ihattempt ihrest => exact Attempt.failStop_bind _ _ ihattempt ihrest

/-- Nothing that an exchange is made of changes the configuration. -/
theorem config_eq (h : MadeOf allowed attempt) :
    ∀ s events result t, attempt.ends s events result t → t.config = s.config := by
  induction h with
  | step attempt h =>
      intro s events result t hends
      obtain ⟨-, -, hconfig⟩ := h s events result t hends
      exact hconfig
  | ask request read _ =>
      intro s events result t hends
      rcases (Attempt.ends_ask _ _ _ _ _ _).1 hends with ⟨_, -, -, rfl⟩ | ⟨_, -, -, rfl⟩
      · rfl
      · rfl
  | await flags timeout _ =>
      intro s events result t hends
      rw [Session.await, ends_getConfig_bind] at hends
      obtain ⟨rfl, -⟩ := Attempt.outcome_awaitStatus _ _ _ _ _ _ _ hends
      rfl
  | bind attempt rest _ _ ihattempt ihrest =>
      intro s events result t hends
      rcases (Attempt.ends_bind _ _ _ _ _ _).1 hends with
        ⟨_, hfirst, -⟩ | ⟨_, _, value, u, -, hfirst, hsecond⟩
      · exact ihattempt _ _ _ _ hfirst
      · exact (ihrest value _ _ _ _ hsecond).trans (ihattempt _ _ _ _ hfirst)

/-- No other requests are made than those that an attempt is made of. -/
theorem within (h : MadeOf allowed attempt) :
    ∀ s events result t, attempt.ends s events result t →
      ∀ event ∈ events, event.within allowed := by
  induction h with
  | step attempt h =>
      intro s events result t hends event hmem
      obtain ⟨⟨lines, rfl⟩, -⟩ := h s events result t hends
      obtain ⟨line, -, rfl⟩ := List.mem_map.1 hmem
      trivial
  | ask request read hallowed =>
      intro s events result t hends event hmem
      rcases (Attempt.ends_ask _ _ _ _ _ _).1 hends with ⟨_, rfl, -⟩ | ⟨_, rfl, -⟩
      · rw [List.mem_singleton.1 hmem]
        exact hallowed
      · rw [List.mem_singleton.1 hmem]
        exact hallowed
  | await flags timeout hallowed =>
      intro s events result t hends
      rw [Session.await, ends_getConfig_bind] at hends
      obtain ⟨-, houtcome⟩ := Attempt.outcome_awaitStatus _ _ _ _ _ _ _ hends
      obtain ⟨misses, answer, rfl⟩ := houtcome.exists_events_eq
      refine List.forall_mem_append.2 ⟨?_, ?_⟩
      · exact forall_mem_missEvents _ _ misses (fun _ => hallowed) fun _ => trivial
      · intro event hmem
        rw [List.mem_singleton.1 hmem]
        exact hallowed
  | bind attempt rest _ _ ihattempt ihrest =>
      intro s events result t hends
      rcases (Attempt.ends_bind _ _ _ _ _ _).1 hends with
        ⟨_, hfirst, -⟩ | ⟨_, _, value, u, rfl, hfirst, hsecond⟩
      · exact ihattempt _ _ _ _ hfirst
      · exact List.forall_mem_append.2
          ⟨ihattempt _ _ _ _ hfirst, ihrest value _ _ _ _ hsecond⟩

/-- An attempt that is made of no transmission starts none. -/
theorem not_isSend (h : MadeOf (·.isSend = false) attempt) (s : Session)
    (events : List (Event (Line F) ε)) (result : Except (Error ε) α) (t : Session)
    (hends : attempt.ends s events result t) : ∀ event ∈ events, event.isSend = false :=
  fun event hmem => event.isSend_of_within (h.within s events result t hends event hmem)

end MadeOf

/-! ## Attempts without a sequence number -/

/-- The attempt is put together from allowed requests, waits and internal steps that do not
deal with the sequence number. -/
inductive Unnumbered (allowed : Request → Prop) : {α : Type} → SessionAttempt F ε α → Prop where
  | pure {α : Type} (value : α) : Unnumbered allowed (pure value)
  | throw {α : Type} (error : Error ε) : (∀ cause, error ≠ .radio cause) →
      Unnumbered allowed (throw error : SessionAttempt F ε α)
  | log (line : Line F) : Unnumbered allowed (log line)
  | getConfig : Unnumbered allowed getConfig
  | enter (state : ExchangeState) : Unnumbered allowed (enter state)
  | ask {α : Type} (request : Request) (read : request.Answer → α) :
      allowed request → Unnumbered allowed (Attempt.ask request read)
  | await (flags : Status) (timeout : UInt32) :
      allowed .readStatus → Unnumbered allowed (await flags timeout)
  | bind {α β : Type} (attempt : SessionAttempt F ε α) (rest : α → SessionAttempt F ε β) :
      Unnumbered allowed attempt → (∀ value, Unnumbered allowed (rest value)) →
      Unnumbered allowed (attempt >>= rest)

namespace Unnumbered

variable {allowed : Request → Prop} {attempt : SessionAttempt F ε α}

/-- More requests may be allowed. -/
theorem mono {other : Request → Prop} (h : Unnumbered allowed attempt)
    (himp : ∀ request, allowed request → other request) : Unnumbered other attempt := by
  induction h with
  | pure value => exact .pure value
  | throw error hown => exact .throw error hown
  | log line => exact .log line
  | getConfig => exact .getConfig
  | enter state => exact .enter state
  | ask request read h => exact .ask request read (himp _ h)
  | await flags timeout h => exact .await flags timeout (himp _ h)
  | bind attempt rest _ _ ihattempt ihrest => exact .bind attempt rest ihattempt ihrest

theorem madeOf (h : Unnumbered allowed attempt) : MadeOf allowed attempt := by
  induction h with
  | pure value => exact .step _ (internal_pure value)
  | throw error hown => exact .step _ (internal_throw error hown)
  | log line => exact .step _ (internal_log line)
  | getConfig => exact .step _ internal_getConfig
  | enter state => exact .step _ (internal_enter state)
  | ask request read h => exact .ask request read h
  | await flags timeout h => exact .await flags timeout h
  | bind attempt rest _ _ ihattempt ihrest => exact .bind attempt rest ihattempt ihrest

/-- The sequence number stays as it is. -/
theorem seq_eq (h : Unnumbered allowed attempt) :
    ∀ s events result t, attempt.ends s events result t → t.seq = s.seq := by
  induction h with
  | pure value =>
      intro s events result t hends
      obtain ⟨-, -, rfl⟩ := hends
      rfl
  | throw error _ =>
      intro s events result t hends
      obtain ⟨-, -, rfl⟩ := hends
      rfl
  | log line =>
      intro s events result t hends
      rw [← bind_pure (Session.log line), ends_log_bind] at hends
      obtain ⟨_, -, -, -, rfl⟩ := hends
      rfl
  | getConfig =>
      intro s events result t hends
      rw [← bind_pure Session.getConfig, ends_getConfig_bind] at hends
      obtain ⟨-, -, rfl⟩ := hends
      rfl
  | enter state =>
      intro s events result t hends
      obtain ⟨-, -, rfl⟩ := (ends_enter _ _ _ _ _).1 hends
      rfl
  | ask request read _ =>
      intro s events result t hends
      rcases (Attempt.ends_ask _ _ _ _ _ _).1 hends with ⟨_, -, -, rfl⟩ | ⟨_, -, -, rfl⟩
      · rfl
      · rfl
  | await flags timeout _ =>
      intro s events result t hends
      rw [Session.await, ends_getConfig_bind] at hends
      obtain ⟨rfl, -⟩ := Attempt.outcome_awaitStatus _ _ _ _ _ _ _ hends
      rfl
  | bind attempt rest _ _ ihattempt ihrest =>
      intro s events result t hends
      rcases (Attempt.ends_bind _ _ _ _ _ _).1 hends with
        ⟨_, hfirst, -⟩ | ⟨_, _, value, u, -, hfirst, hsecond⟩
      · exact ihattempt _ _ _ _ hfirst
      · exact (ihrest value _ _ _ _ hsecond).trans (ihattempt _ _ _ _ hfirst)

theorem keeps (h : Unnumbered allowed attempt) (s : Session) (events : List (Event (Line F) ε))
    (result : Except (Error ε) α) (t : Session) (hends : attempt.ends s events result t) :
    t.seq = s.seq ∧ ∀ event ∈ events, event.within allowed :=
  ⟨h.seq_eq s events result t hends, h.madeOf.within s events result t hends⟩

/-- What belongs to no transmission starts none. -/
theorem madeOf_not_isSend (h : Unnumbered (·.transmits = false) attempt) :
    MadeOf (·.isSend = false) attempt :=
  h.madeOf.mono Request.isSend_of_not_transmits

end Unnumbered

/-! ## The parts of an exchange -/

theorem unnumbered_receiveBytes (length : Nat) (status : Status) :
    Unnumbered (·.transmits = false)
      (receiveBytes length status : SessionAttempt F ε (List UInt8)) := by
  rw [receiveBytes]
  split
  · refine .bind _ _ (.ask _ _ rfl) fun _ => .bind _ _ (.ask _ _ rfl) fun actual => ?_
    split
    · exact .ask _ _ rfl
    · exact .throw _ nofun
  · split
    · exact .bind _ _ (.log _) fun _ => .throw _ nofun
    · exact .throw _ nofun

theorem unnumbered_acceptFrame (φ : Type) [Readable φ] (mask : Mask)
    (template received : List UInt8) (other : Line F) : Unnumbered (·.transmits = false)
      (acceptFrame φ mask template received other : SessionAttempt F ε φ) := by
  rw [acceptFrame]
  split
  · cases (readFrame φ received 0).1 with
    | ok frame => exact .pure frame
    | error cause => exact .throw (.unreadable cause) nofun
  · exact .bind _ _ (.log _) fun _ => .throw _ nofun

theorem unnumbered_cleanUp :
    Unnumbered (·.transmits = false) (cleanUp : SessionAttempt F ε Unit) :=
  .bind _ _ (.ask _ _ rfl) fun _ => .ask _ _ rfl

theorem madeOf_cleanUp : MadeOf (·.isSend = false) (cleanUp : SessionAttempt F ε Unit) :=
  unnumbered_cleanUp.madeOf_not_isSend

end Session

namespace Initiator

open Session

variable {F ε : Type}

/-- Send a Poll that has its sequence number. -/
def launch (config : Config) (poll : Poll) : SessionAttempt F ε Unit := do
  Attempt.resetReceiver
  Attempt.clearStatus (Status.receiveDone ||| Status.sent)
  Attempt.setReceiveDelay config.timeouts.responseDelay
  Attempt.setReceiveTimeout config.timeouts.responseTimeout
  Attempt.storeFrame poll.bytes
  match ← Attempt.send .now true with
  | .started => enter (.awaitingPeer .response)
  | .tooLate => throw .transmitFailure

/-- A Poll is given the next sequence number and sent. -/
theorem sendPoll_eq (target : UInt16) :
    (sendPoll target : SessionAttempt F ε Unit) = getConfig >>= fun config =>
      takeSeq >>= fun seq => launch config ⟨seq, config.pan, target, config.addr⟩ := rfl

theorem unnumbered_launch (config : Config) (poll : Poll) :
    Unnumbered (·.storesOnly poll.bytes) (launch config poll : SessionAttempt F ε Unit) := by
  refine .bind _ _ (.ask _ _ trivial) fun _ => .bind _ _ (.ask _ _ trivial) fun _ => ?_
  refine .bind _ _ (.ask _ _ trivial) fun _ => .bind _ _ (.ask _ _ trivial) fun _ => ?_
  refine .bind _ _ (.ask _ _ rfl) fun _ => .bind _ _ (.ask _ _ trivial) fun start => ?_
  cases start with
  | started => exact .enter _
  | tooLate => exact .throw _ nofun

theorem unnumbered_receiveResponse (target : UInt16) : Unnumbered (·.transmits = false)
    (receiveResponse target : SessionAttempt F ε Response) := by
  refine .bind _ _ .getConfig fun config => .bind _ _ (.await _ _ rfl) fun status => ?_
  exact .bind _ _ (unnumbered_receiveBytes _ _) fun frame => unnumbered_acceptFrame _ _ _ _ _

theorem unnumbered_measureDistance [Scalar F] (target : UInt16) (response : Response) :
    Unnumbered (·.transmits = false)
      (measureDistance target response : SessionAttempt F ε F) := by
  refine .bind _ _ .getConfig fun config => .bind _ _ (.ask _ _ rfl) fun _ => ?_
  refine .bind _ _ (.ask _ _ rfl) fun _ => .bind _ _ (.ask _ _ rfl) fun _ => ?_
  exact .bind _ _ (.log _) fun _ => .pure _

/-- What an initiator does after it has sent its Poll. -/
def afterPoll [Scalar F] (target : UInt16) : SessionAttempt F ε F := do
  let response ← receiveResponse target
  measureDistance target response

theorem unnumbered_afterPoll [Scalar F] (target : UInt16) :
    Unnumbered (·.transmits = false) (afterPoll target : SessionAttempt F ε F) :=
  .bind _ _ (unnumbered_receiveResponse target) fun response =>
    unnumbered_measureDistance target response

theorem madeOf_sendPoll (target : UInt16) :
    MadeOf (fun _ => True) (sendPoll target : SessionAttempt F ε Unit) := by
  rw [sendPoll_eq]
  refine .bind _ _ (.step _ internal_getConfig) fun config => ?_
  refine .bind _ _ (.bind _ _ (.step _ internal_getSeq) fun seq =>
    .bind _ _ (.step _ internal_advanceSeq) fun _ => .step _ (internal_pure seq)) fun seq => ?_
  exact (unnumbered_launch config _).madeOf.mono fun _ _ => trivial

/-- All that an initiator does once it has a sequence number is done with that number. -/
theorem exchange_eq [Scalar F] (target : UInt16) :
    (exchange target : SessionAttempt F ε F) = getConfig >>= fun config =>
      takeSeq >>= fun seq =>
        launch config ⟨seq, config.pan, target, config.addr⟩ >>= fun _ => afterPoll target := by
  change sendPoll target >>= (fun _ => afterPoll target) = _
  simp only [sendPoll_eq, bind_assoc]

theorem madeOf_exchange [Scalar F] (target : UInt16) :
    MadeOf (fun _ => True) (exchange target : SessionAttempt F ε F) :=
  .bind _ _ (madeOf_sendPoll target) fun _ =>
    (unnumbered_afterPoll target).madeOf.mono fun _ _ => trivial

end Initiator

namespace Responder

open Session

variable {F ε : Type}

theorem unnumbered_listen :
    Unnumbered (·.transmits = false) (listen : SessionAttempt F ε Unit) := by
  refine .bind _ _ .getConfig fun config => .bind _ _ (.ask _ _ rfl) fun _ => ?_
  exact .bind _ _ (.ask _ _ rfl) fun _ => .bind _ _ (.ask _ _ rfl) fun _ => .enter _

theorem unnumbered_receivePoll :
    Unnumbered (·.transmits = false) (receivePoll : SessionAttempt F ε Poll) := by
  refine .bind _ _ .getConfig fun config => .bind _ _ (.await _ _ rfl) fun status => ?_
  exact .bind _ _ (unnumbered_receiveBytes _ _) fun frame => unnumbered_acceptFrame _ _ _ _ _

theorem madeOf_listen : MadeOf (·.isSend = false) (listen : SessionAttempt F ε Unit) :=
  unnumbered_listen.madeOf_not_isSend

theorem madeOf_receivePoll :
    MadeOf (·.isSend = false) (receivePoll : SessionAttempt F ε Poll) :=
  unnumbered_receivePoll.madeOf_not_isSend

/-- The Response to a Poll that was received at an instant, with a sequence number. -/
def response (config : Config) (poll : Poll) (received : Instant) (seq : UInt8) : Response :=
  Response.ofInstants config.pan config.addr poll.src received
    (departure config (replySlot config received)) seq

/-- Schedule the Response to a Poll that was received at an instant, with its sequence
number. -/
def schedule (config : Config) (poll : Poll) (received : Instant) (seq : UInt8) :
    SessionAttempt F ε Reply := do
  Attempt.storeFrame (response config poll received seq).bytes
  match ← Attempt.send (.delayed (replySlot config received)) false with
  | .started => return ⟨poll.src, received, departure config (replySlot config received)⟩
  | .tooLate => do
      log (.slotMissed poll.src)
      throw .transmitFailure

/-- A Response carries the sequence number that the session has then. -/
theorem sendResponse_eq (poll : Poll) :
    (sendResponse poll : SessionAttempt F ε Reply) = getConfig >>= fun config =>
      Attempt.receiveTime >>= fun received => getSeq >>= schedule config poll received := rfl

theorem unnumbered_schedule (config : Config) (poll : Poll) (received : Instant) (seq : UInt8) :
    Unnumbered
      (fun request => request.storesOnly (response config poll received seq).bytes ∧
        request ≠ .clearStatus Status.sent)
      (schedule config poll received seq : SessionAttempt F ε Reply) := by
  refine .bind _ _ (.ask _ _ ⟨rfl, nofun⟩) fun _ => .bind _ _ (.ask _ _ ⟨trivial, nofun⟩) ?_
  intro start
  cases start with
  | started => exact .pure _
  | tooLate => exact .bind _ _ (.log _) fun _ => .throw _ nofun

theorem madeOf_sendResponse (poll : Poll) :
    MadeOf (fun _ => True) (sendResponse poll : SessionAttempt F ε Reply) := by
  rw [sendResponse_eq]
  refine .bind _ _ (.step _ internal_getConfig) fun config => ?_
  refine .bind _ _ (.ask _ _ trivial) fun received => ?_
  refine .bind _ _ (.step _ internal_getSeq) fun seq => ?_
  exact (unnumbered_schedule config poll received seq).madeOf.mono fun _ _ => trivial

/-- Wait for the Response to be sent. -/
def confirm : SessionAttempt F ε Unit := do
  let config ← getConfig
  let _ ← await Status.sent config.timeouts.sendWait
  Attempt.clearStatus Status.sent

theorem confirmSent_eq :
    (confirmSent : SessionAttempt F ε Unit) = confirm >>= fun _ => advanceSeq := by
  simp only [confirmSent, confirm, bind_assoc]

theorem unnumbered_confirm :
    Unnumbered (fun request => request = .readStatus ∨ request = .clearStatus Status.sent)
      (confirm : SessionAttempt F ε Unit) := by
  refine .bind _ _ .getConfig fun config => .bind _ _ (.await _ _ (.inl rfl)) fun _ => ?_
  exact .ask _ _ (.inr rfl)

theorem madeOf_confirmSent :
    MadeOf (·.isSend = false) (confirmSent : SessionAttempt F ε Unit) := by
  rw [confirmSent_eq]
  refine .bind _ _ (unnumbered_confirm.madeOf.mono ?_) fun _ => .step _ internal_advanceSeq
  intro request h
  rcases h with rfl | rfl
  · rfl
  · rfl

/-- What a responder does up to the transmission of its Response. -/
def answer : SessionAttempt F ε Reply := do
  listen
  let poll ← receivePoll
  sendResponse poll

/-- A responder goes on to the next sequence number when its Response was sent. -/
theorem exchange_eq :
    (exchange : SessionAttempt F ε Reply) = answer >>= fun reply =>
      confirm >>= fun _ => advanceSeq >>= fun _ => pure reply := by
  simp only [exchange, answer, confirmSent_eq, bind_assoc]

theorem madeOf_exchange :
    MadeOf (fun _ => True) (exchange : SessionAttempt F ε Reply) := by
  refine .bind _ _ (madeOf_listen.mono fun _ _ => trivial) fun _ => ?_
  refine .bind _ _ (madeOf_receivePoll.mono fun _ _ => trivial) fun poll => ?_
  refine .bind _ _ (madeOf_sendResponse poll) fun reply => ?_
  refine .bind _ _ (madeOf_confirmSent.mono fun _ _ => trivial) fun _ => ?_
  exact .step _ (internal_pure reply)

end Responder

namespace Session

variable {F ε : Type}

/-- The exchange of an initiator, in either scheme. -/
theorem madeOf_initiateIn [Scalar F] (target : UInt16) (scheme : Scheme) :
    MadeOf (fun _ => True) (initiateIn target scheme : SessionAttempt F ε F) := by
  cases scheme with
  | singleSided => exact Initiator.madeOf_exchange target
  | doubleSided =>
      exact .bind _ _ (.step _ (internal_log _)) fun _ => .step _ (internal_throw _ nofun)

/-- The exchange of a responder, in either scheme. -/
theorem madeOf_respondIn (scheme : Scheme) :
    MadeOf (fun _ => True) (respondIn scheme : SessionAttempt F ε Reply) := by
  cases scheme with
  | singleSided => exact Responder.madeOf_exchange
  | doubleSided =>
      exact .bind _ _ (.step _ (internal_log _)) fun _ => .step _ (internal_throw _ nofun)

end Session

end Ranging

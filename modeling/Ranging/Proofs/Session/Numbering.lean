import Ranging.Proofs.Session.Course
import Ranging.Proofs.Session.Reception

/-!
# The sequence numbers of a session

An initiator takes its sequence number before anything else, so every exchange that it
begins uses one up. A responder goes on to the next number only when its Response has been
sent: when the wait for the end of the transmission and the clearing of its flag have both
succeeded, which `sendConfirmed` reads off the events. Every other exchange leaves the
number as it is. The frame that an exchange stores carries the number that the session had
when the exchange began.
-/

namespace Ranging

/-- A frame that is stored carries the sequence number. -/
def Request.carries (seq : UInt8) : Request → Prop
  | .storeFrame frame => frame[2]? = some seq
  | _ => True

theorem Request.carries_of_storesOnly {frame : List UInt8} {seq : UInt8}
    (hframe : frame[2]? = some seq) (request : Request) (h : request.storesOnly frame) :
    request.carries seq := by
  cases request with
  | storeFrame stored =>
      obtain rfl : stored = frame := h
      exact hframe
  | _ => trivial

theorem Request.carries_of_not_transmits (seq : UInt8) (request : Request)
    (h : request.transmits = false) : request.carries seq := by
  cases request with
  | storeFrame stored => cases h
  | _ => trivial

section Confirmation

variable {L ε : Type}

/-- The clearing of the flag that a frame was sent. -/
def sentCleared : Event L ε := .call (.clearStatus Status.sent) (.ok ())

/-- Whether a reading shows that a frame was sent and its flag is cleared next. -/
def Event.confirms : Event L ε → Event L ε → Bool
  | .call .readStatus (.ok status), .call (.clearStatus flags) (.ok _) =>
      status.intersects Status.sent && flags == Status.sent
  | _, _ => false

/-- Whether the end of a transmission was waited for and its flag cleared. -/
def sendConfirmed : List (Event L ε) → Bool
  | first :: second :: rest => first.confirms second || sendConfirmed (second :: rest)
  | _ => false

theorem Event.eq_sentCleared_of_confirms (first second : Event L ε)
    (h : first.confirms second = true) : second = sentCleared := by
  unfold Event.confirms at h
  split at h
  · obtain ⟨-, hflags⟩ := Bool.and_eq_true_iff.1 h
    rw [eq_of_beq hflags]
    rfl
  · cases h

theorem mem_of_sendConfirmed (events : List (Event L ε)) (h : sendConfirmed events = true) :
    sentCleared ∈ events := by
  induction events with
  | nil => cases h
  | cons first rest ih =>
      cases rest with
      | nil => cases h
      | cons second rest =>
          rcases Bool.or_eq_true_iff.1 h with h | h
          · rw [first.eq_sentCleared_of_confirms second h]
            simp
          · exact List.mem_cons_of_mem _ (ih h)

theorem sendConfirmed_append_left (before after : List (Event L ε))
    (h : sendConfirmed before = true) : sendConfirmed (before ++ after) = true := by
  induction before with
  | nil => cases h
  | cons first rest ih =>
      cases rest with
      | nil => cases h
      | cons second rest =>
          rcases Bool.or_eq_true_iff.1 h with h | h
          · exact Bool.or_eq_true_iff.2 (.inl h)
          · exact Bool.or_eq_true_iff.2 (.inr (ih h))

theorem sendConfirmed_append_right (before after : List (Event L ε))
    (h : sendConfirmed after = true) : sendConfirmed (before ++ after) = true := by
  induction before with
  | nil => exact h
  | cons event rest ih =>
      rw [List.cons_append]
      cases hrest : rest ++ after with
      | nil =>
          rw [hrest] at ih
          cases ih
      | cons next tail =>
          rw [hrest] at ih
          exact Bool.or_eq_true_iff.2 (.inr ih)

theorem sendConfirmed_confirmation (before after : List (Event L ε)) (status : Status)
    (h : status.intersects Status.sent = true) :
    sendConfirmed (before ++ .call .readStatus (.ok status) :: sentCleared :: after) = true := by
  apply sendConfirmed_append_right
  exact Bool.or_eq_true_iff.2 (.inl (Bool.and_eq_true_iff.2 ⟨h, beq_self_eq_true _⟩))

end Confirmation

namespace Session

variable {F ε α : Type}

/-- The attempt keeps the sequence number, and with that number it makes allowed requests. -/
def KeepsSeq (allowed : UInt8 → Request → Prop) (attempt : SessionAttempt F ε α) : Prop :=
  ∀ s events result t, attempt.ends s events result t →
    t.seq = s.seq ∧ ∀ event ∈ events, event.within (allowed s.seq)

theorem Unnumbered.keepsSeq {base : Request → Prop} {allowed : UInt8 → Request → Prop}
    {attempt : SessionAttempt F ε α} (h : Unnumbered base attempt)
    (himp : ∀ seq request, base request → allowed seq request) : KeepsSeq allowed attempt :=
  fun s => (h.mono (himp s.seq)).keeps s

theorem KeepsSeq.bind {β : Type} {allowed : UInt8 → Request → Prop}
    {attempt : SessionAttempt F ε α} {rest : α → SessionAttempt F ε β}
    (hattempt : KeepsSeq allowed attempt) (hrest : ∀ value, KeepsSeq allowed (rest value)) :
    KeepsSeq allowed (attempt >>= rest) := by
  intro s events result t hends
  rcases (Attempt.ends_bind _ _ _ _ _ _).1 hends with
    ⟨error, hfirst, rfl⟩ | ⟨first, second, value, u, rfl, hfirst, hsecond⟩
  · exact hattempt _ _ _ _ hfirst
  · obtain ⟨hu, hwithin⟩ := hattempt _ _ _ _ hfirst
    obtain ⟨ht, hlater⟩ := hrest value _ _ _ _ hsecond
    rw [hu] at ht hlater
    exact ⟨ht, List.forall_mem_append.2 ⟨hwithin, hlater⟩⟩

theorem KeepsSeq.getSeq_bind {allowed : UInt8 → Request → Prop}
    {rest : UInt8 → SessionAttempt F ε α} (h : ∀ seq, Unnumbered (allowed seq) (rest seq)) :
    KeepsSeq allowed (getSeq >>= rest) := by
  intro s events result t hends
  rw [ends_getSeq_bind] at hends
  exact (h s.seq).keeps s events result t hends

end Session

namespace Initiator

open Session

variable {F ε : Type}

/-- An exchange of an initiator uses its number up, whatever comes of it. -/
theorem numbers_exchange [Scalar F] (target : UInt16) (s : Session)
    (events : List (Event (Line F) ε)) (result : Except (Error ε) F) (t : Session)
    (h : (exchange target).ends s events result t) :
    t.seq = s.seq + 1 ∧ ∀ event ∈ events, event.within (·.carries s.seq) := by
  rw [exchange_eq, ends_getConfig_bind, ends_takeSeq_bind] at h
  let poll : Poll := ⟨s.seq, s.config.pan, target, s.config.addr⟩
  have hlaunch : Unnumbered (·.carries s.seq) (launch s.config poll : SessionAttempt F ε Unit) :=
    (unnumbered_launch s.config poll).mono (Request.carries_of_storesOnly rfl)
  have hrest := Unnumbered.bind _ _ hlaunch fun _ =>
    (unnumbered_afterPoll (F := F) (ε := ε) target).mono (Request.carries_of_not_transmits s.seq)
  exact hrest.keeps _ _ _ _ h

end Initiator

namespace Responder

open Session

variable {F ε : Type}

/-- What a responder may request before it waits for its Response to be sent. -/
def preparing (seq : UInt8) (request : Request) : Prop :=
  request.carries seq ∧ request ≠ .clearStatus Status.sent

theorem preparing_of_not_transmits (seq : UInt8) (request : Request)
    (h : request.transmits = false) : preparing seq request := by
  refine ⟨request.carries_of_not_transmits seq h, ?_⟩
  intro hclear
  rw [hclear] at h
  cases h

theorem keepsSeq_answer : KeepsSeq preparing (answer : SessionAttempt F ε Reply) := by
  refine .bind (unnumbered_listen.keepsSeq preparing_of_not_transmits) fun _ => ?_
  refine .bind (unnumbered_receivePoll.keepsSeq preparing_of_not_transmits) fun poll => ?_
  rw [sendResponse_eq]
  have hconfig : Unnumbered (·.transmits = false) (getConfig : SessionAttempt F ε Config) :=
    .getConfig
  have htime : Unnumbered (·.transmits = false)
      (Attempt.receiveTime : SessionAttempt F ε Instant) := .ask _ _ rfl
  refine .bind (hconfig.keepsSeq preparing_of_not_transmits) fun config => ?_
  refine .bind (htime.keepsSeq preparing_of_not_transmits) fun received => ?_
  refine .getSeq_bind fun seq => (unnumbered_schedule config poll received seq).mono ?_
  intro request h
  exact ⟨Request.carries_of_storesOnly rfl request h.1, h.2⟩

/-- The wait for the end of the transmission ends well just when it is confirmed. -/
theorem outcome_confirm (s : Session) (events : List (Event (Line F) ε))
    (result : Except (Error ε) Unit) (t : Session) (h : confirm.ends s events result t) :
    (result = .ok () ∧ sendConfirmed events = true) ∨
      (∃ error, result = .error error) ∧ sentCleared ∉ events := by
  rw [confirm, ends_getConfig_bind] at h
  have hreads : ∀ first status u,
      (await Status.sent s.config.timeouts.sendWait).ends s first status u →
        (sentCleared : Event (Line F) ε) ∉ first := by
    intro first status u hwait hmem
    have hmade : MadeOf (· = .readStatus)
        (await Status.sent s.config.timeouts.sendWait : SessionAttempt F ε Status) :=
      .await _ _ rfl
    cases hmade.within _ _ _ _ hwait _ hmem
  rw [Attempt.ends_bind] at h
  rcases h with ⟨error, hwait, rfl⟩ | ⟨first, second, status, u, rfl, hwait, hclear⟩
  · exact .inr ⟨⟨error, rfl⟩, hreads _ _ _ hwait⟩
  · rw [Attempt.clearStatus, Attempt.ends_ask] at hclear
    rcases hclear with ⟨cause, rfl, rfl, -⟩ | ⟨_, rfl, rfl, -⟩
    · refine .inr ⟨⟨_, rfl⟩, ?_⟩
      rw [List.mem_append, not_or]
      exact ⟨hreads _ _ _ hwait, by simp [sentCleared]⟩
    · obtain ⟨-, houtcome⟩ := outcome_await _ _ _ _ _ _ hwait
      cases houtcome with
      | shown misses status _ _ hshown =>
          refine .inl ⟨rfl, ?_⟩
          rw [List.append_assoc]
          exact sendConfirmed_confirmation _ [] status hshown

/-- The session goes on to the next number when the transmission is confirmed. -/
theorem numbers_confirmation (reply : Reply) (s : Session) (events : List (Event (Line F) ε))
    (result : Except (Error ε) Reply) (t : Session)
    (h : (confirm >>= fun _ => advanceSeq >>= fun _ => pure reply).ends s events result t) :
    (∀ event ∈ events, ∀ seq, event.within (·.carries seq)) ∧
      ((sendConfirmed events = true ∧ t.seq = s.seq + 1) ∨
        (sentCleared ∉ events ∧ t.seq = s.seq)) := by
  have hcarries : ∀ (event : Event (Line F) ε) seq,
      event.within (fun request => request = .readStatus ∨ request = .clearStatus Status.sent) →
        event.within (·.carries seq) := by
    intro event seq
    refine event.within_mono ?_
    intro request hrequest
    rcases hrequest with rfl | rfl
    · trivial
    · trivial
  rw [Attempt.ends_bind] at h
  rcases h with ⟨error, hconfirm, rfl⟩ | ⟨first, second, _, u, rfl, hconfirm, hadvance⟩
  · obtain ⟨hseq, hwithin⟩ := unnumbered_confirm.keeps _ _ _ _ hconfirm
    refine ⟨fun event hmem seq => hcarries event seq (hwithin event hmem), ?_⟩
    rcases outcome_confirm _ _ _ _ hconfirm with ⟨hresult, -⟩ | ⟨-, hmem⟩
    · cases hresult
    · exact .inr ⟨hmem, hseq⟩
  · obtain ⟨hseq, hwithin⟩ := unnumbered_confirm.keeps _ _ _ _ hconfirm
    rw [ends_advanceSeq_bind] at hadvance
    obtain ⟨rfl, -, rfl⟩ := hadvance
    rw [List.append_nil]
    refine ⟨fun event hmem seq => hcarries event seq (hwithin event hmem), ?_⟩
    rcases outcome_confirm _ _ _ _ hconfirm with ⟨-, hsent⟩ | ⟨⟨_, hresult⟩, -⟩
    · exact .inl ⟨hsent, congrArg (· + 1) hseq⟩
    · cases hresult

/-- An exchange of a responder uses its number up when its Response was sent. -/
theorem numbers_exchange (s : Session) (events : List (Event (Line F) ε))
    (result : Except (Error ε) Reply) (t : Session) (h : exchange.ends s events result t) :
    (∀ event ∈ events, event.within (·.carries s.seq)) ∧
      ((sendConfirmed events = true ∧ t.seq = s.seq + 1) ∨
        (sentCleared ∉ events ∧ t.seq = s.seq)) := by
  have hcarries : ∀ event : Event (Line F) ε, event.within (preparing s.seq) →
      event.within (·.carries s.seq) := fun event => event.within_mono fun _ => And.left
  rw [exchange_eq, Attempt.ends_bind] at h
  rcases h with ⟨error, hanswer, rfl⟩ | ⟨first, second, reply, u, rfl, hanswer, hconfirm⟩
  · -- The flag is cleared nowhere but after the wait for it, which was not come to.
    obtain ⟨hseq, hwithin⟩ := keepsSeq_answer _ _ _ _ hanswer
    exact ⟨fun event hmem => hcarries event (hwithin event hmem),
      .inr ⟨fun hmem => (hwithin _ hmem).2 rfl, hseq⟩⟩
  · obtain ⟨hseq, hwithin⟩ := keepsSeq_answer _ _ _ _ hanswer
    obtain ⟨hlater, hconfirmed⟩ := numbers_confirmation _ _ _ _ _ hconfirm
    refine ⟨List.forall_mem_append.2 ⟨?_, fun event hmem => hlater event hmem s.seq⟩, ?_⟩
    · exact fun event hmem => hcarries event (hwithin event hmem)
    · rw [hseq] at hconfirmed
      rcases hconfirmed with ⟨hsent, ht⟩ | ⟨hmem, ht⟩
      · exact .inl ⟨sendConfirmed_append_right _ _ hsent, ht⟩
      · refine .inr ⟨?_, ht⟩
        rw [List.mem_append, not_or]
        exact ⟨fun hmem => (hwithin _ hmem).2 rfl, hmem⟩

end Responder

/-! ## One exchange -/

section Exchanges

variable {F ε ρ : Type}

/-- Whether an exchange in a scheme that has left these events used its number up. -/
def Turn.advances {L : Type} (turn : Turn) (scheme : Scheme) (events : List (Event L ε)) : Bool :=
  decide (scheme = .singleSided) &&
    match turn with
    | .initiate _ => true
    | .respond => sendConfirmed events

/-- After its body, an exchange neither stores a frame nor touches the number. -/
theorem Session.numbers_finishing {α : Type} (body : SessionAttempt F ε α) (s : Session)
    (events : List (Event (Line F) ε)) (result : Except (Error ε) α) (t : Session)
    (h : (Session.finishing body).ends s events result t) :
    ∃ first second outcome u, events = first ++ second ∧ body.ends s first outcome u ∧
      t.seq = u.seq ∧ ∀ event ∈ second, event.within (·.transmits = false) := by
  obtain ⟨first, second, outcome, cleaned, u, rfl, hbody, hclean, -⟩ :=
    (Session.ends_finishing _ _ _ _ _).1 h
  obtain ⟨hseq, hwithin⟩ := Session.unnumbered_cleanUp.keeps _ _ _ _ hclean
  exact ⟨first, second, outcome, u, rfl, hbody, hseq, hwithin⟩

section CleanedUp

variable {L : Type} {first second : List (Event L ε)}

theorem forall_carries_append {seq : UInt8}
    (hfirst : ∀ event ∈ first, event.within (·.carries seq))
    (hsecond : ∀ event ∈ second, event.within (·.transmits = false)) :
    ∀ event ∈ first ++ second, event.within (·.carries seq) := by
  refine List.forall_mem_append.2 ⟨hfirst, ?_⟩
  intro event hmem
  exact event.within_mono (Request.carries_of_not_transmits seq) (hsecond event hmem)

theorem not_sendConfirmed_append (hfirst : sentCleared ∉ first)
    (hsecond : ∀ event ∈ second, event.within (·.transmits = false)) :
    sendConfirmed (first ++ second) = false := by
  rw [Bool.eq_false_iff]
  intro hsent
  rcases List.mem_append.1 (mem_of_sendConfirmed _ hsent) with hmem | hmem
  · exact hfirst hmem
  · cases hsecond _ hmem

end CleanedUp

theorem Session.numbers_refusal {α : Type} (line : Line F) (error : Error ε)
    (hown : ∀ cause, error ≠ .radio cause) (s : Session) (events : List (Event (Line F) ε))
    (result : Except (Error ε) α) (t : Session)
    (h : (Session.log line >>= fun _ => throw error).ends s events result t) :
    t.seq = s.seq ∧ ∀ event ∈ events, event.within (·.carries s.seq) := by
  have hrefusal : Session.Unnumbered (·.carries s.seq)
      (Session.log line >>= fun _ => throw error : SessionAttempt F ε α) :=
    .bind _ _ (.log line) fun _ => .throw error hown
  exact hrefusal.keeps _ _ _ _ h

theorem Turn.advances_doubleSided {L : Type} (turn : Turn) (events : List (Event L ε)) :
    turn.advances .doubleSided events = false := rfl

theorem Turn.advances_respond {L : Type} (events : List (Event L ε)) :
    Turn.respond.advances .singleSided events = sendConfirmed events := rfl

variable [Scalar F]

/-- An exchange stores no frame but with the number that the session has, and uses the number up
or not. -/
theorem Turn.numbers (turn : Turn) (s : Session) (events : List (Event (Line F) ε))
    (finding : Finding F ε) (t : Session) (h : turn.program.endsAlong s events finding t) :
    (∀ event ∈ events, event.within (·.carries s.seq)) ∧
      t.seq = s.seq + if turn.advances s.config.scheme events then 1 else 0 := by
  cases turn with
  | initiate target =>
      obtain ⟨result, hends, -⟩ := (Program.endsAlong_map _ _ _ _ _ _).1 h
      obtain ⟨first, second, outcome, u, rfl, hbody, ht, hsecond⟩ :=
        Session.numbers_finishing _ _ _ _ _ hends
      rw [Session.ends_getConfig_bind] at hbody
      rw [ht]
      cases hscheme : s.config.scheme with
      | singleSided =>
          rw [hscheme] at hbody
          obtain ⟨hu, hfirst⟩ := Initiator.numbers_exchange _ _ _ _ _ hbody
          exact ⟨forall_carries_append hfirst hsecond, hu⟩
      | doubleSided =>
          rw [hscheme] at hbody
          obtain ⟨hu, hfirst⟩ := Session.numbers_refusal _ _ nofun _ _ _ _ hbody
          exact ⟨forall_carries_append hfirst hsecond, by simp [hu, Turn.advances_doubleSided]⟩
  | respond =>
      obtain ⟨result, hends, -⟩ := (Program.endsAlong_map _ _ _ _ _ _).1 h
      obtain ⟨first, second, outcome, u, rfl, hbody, ht, hsecond⟩ :=
        Session.numbers_finishing _ _ _ _ _ hends
      rw [Session.ends_getConfig_bind] at hbody
      rw [ht]
      cases hscheme : s.config.scheme with
      | singleSided =>
          rw [hscheme] at hbody
          obtain ⟨hfirst, hnumber⟩ := Responder.numbers_exchange _ _ _ _ hbody
          refine ⟨forall_carries_append hfirst hsecond, ?_⟩
          rw [Turn.advances_respond]
          rcases hnumber with ⟨hsent, hu⟩ | ⟨hmem, hu⟩
          · simp [sendConfirmed_append_left _ _ hsent, hu]
          · simp [not_sendConfirmed_append hmem hsecond, hu]
      | doubleSided =>
          rw [hscheme] at hbody
          obtain ⟨hu, hfirst⟩ := Session.numbers_refusal _ _ nofun _ _ _ _ hbody
          exact ⟨forall_carries_append hfirst hsecond, by simp [hu, Turn.advances_doubleSided]⟩

/-- Whether an exchange that was carried out used its number up. -/
def Played.advances (played : Played F ε) : Bool :=
  played.turn.advances played.before.config.scheme played.run.events

theorem toNat_add_if (seq : UInt8) (advances : Bool) :
    (seq + if advances then 1 else 0).toNat = (seq.toNat + if advances then 1 else 0) % 256 := by
  cases advances with
  | true => exact UInt8.toNat_add seq 1
  | false => exact UInt8.toNat_add seq 0

/-- The number of a session after a course of exchanges, and what holds of each of them. -/
theorem numbers_course (radio : Radio ε ρ) (turns : List Turn) (s : Session) (start : ρ) :
    (∀ played ∈ (radio.course (F := F) turns s start).played,
      played.before.config = s.config ∧
      (∀ event ∈ played.run.events, event.within (·.carries played.before.seq)) ∧
      played.run.state.seq = played.before.seq + if played.advances then 1 else 0) ∧
    (radio.course (F := F) turns s start).session.seq.toNat =
      (s.seq.toNat + (radio.course (F := F) turns s start).played.countP Played.advances) %
        256 := by
  induction turns generalizing s start with
  | nil =>
      refine ⟨fun played hmem => absurd hmem List.not_mem_nil, ?_⟩
      exact (Nat.mod_eq_of_lt s.seq.toNat_lt).symm
  | cons turn rest ih =>
      have hends := radio.endsAlong_run (turn.program : SessionProgram F ε (Finding F ε)) s start
      let played : Played F ε := ⟨turn, s, radio.run turn.program s start⟩
      obtain ⟨hcarries, hnext⟩ := turn.numbers s _ _ _ hends
      have hseq : played.run.state.seq = s.seq + if played.advances then 1 else 0 := hnext
      have hconfig := turn.config_eq s _ _ _ hends
      obtain ⟨hrest, hlast⟩ := ih (radio.run (turn.program (F := F)) s start).state
        (radio.after (turn.program : SessionProgram F ε (Finding F ε)) s start)
      rw [radio.played_course_cons, radio.session_course_cons]
      refine ⟨List.forall_mem_cons.2 ⟨⟨rfl, hcarries, hseq⟩, ?_⟩, ?_⟩
      · intro played hmem
        obtain ⟨hsame, hnumber⟩ := hrest played hmem
        exact ⟨hsame.trans hconfig, hnumber⟩
      · rw [hlast, hseq, toNat_add_if, Nat.mod_add_mod, List.countP_cons, Nat.add_assoc,
          Nat.add_comm (List.countP _ _)]

end Exchanges

/-- However many exchanges a session takes part in, and whatever the radio does, every frame
carries the number that the session had before the exchange, and the number moves on by one for
every exchange that used it up. -/
theorem sequence_numbers_accounted {F ε ρ : Type} [Scalar F] (radio : Radio ε ρ) (start : ρ)
    (s : Session) (turns : List Turn) :
    let course := radio.course (F := F) turns s start
    course.played.map Played.turn = turns ∧
    (∀ played ∈ course.played, played.before.config = s.config ∧
      (∀ frame answer, .call (.storeFrame frame) answer ∈ played.run.events →
        frame[2]? = some played.before.seq) ∧
      played.run.state.seq = played.before.seq + if played.advances then 1 else 0) ∧
    course.session.seq.toNat = (s.seq.toNat + course.played.countP Played.advances) % 256 := by
  intro course
  obtain ⟨hplayed, hseq⟩ := numbers_course (F := F) radio turns s start
  refine ⟨radio.turns_course turns s start, ?_, hseq⟩
  intro played hmem
  obtain ⟨hconfig, hcarries, hnext⟩ := hplayed played hmem
  exact ⟨hconfig, fun frame answer hstore => hcarries _ hstore, hnext⟩

end Ranging

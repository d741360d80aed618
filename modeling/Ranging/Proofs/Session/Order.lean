import Ranging.Proofs.Session.Composition

/-!
# Rules on the order of requests

When a request may be made depends on what happened before. A rule decides it by the events so
far, and a list of events obeys the rule if each of its requests is made when it may be, the
events of an earlier time counting too. Some requests may be made at any time from a certain
point on: they are `Granted`, and nothing that consists of such requests can break the rule.
-/

namespace Ranging

/-- Whether a request may be made after these events. -/
abbrev Rule (L ε : Type) : Type := List (Event L ε) → Request → Prop

namespace Rule

variable {L ε : Type}

/-- After the past events, each request is made when it may be. -/
def Obeyed (rule : Rule L ε) : List (Event L ε) → List (Event L ε) → Prop
  | _, [] => True
  | past, .call request answer :: rest =>
      rule past request ∧ Obeyed rule (past ++ [.call request answer]) rest
  | past, .pause length :: rest => Obeyed rule (past ++ [.pause length]) rest
  | past, .log line :: rest => Obeyed rule (past ++ [.log line]) rest

/-- The request may be made at any time from now on. -/
def Granted (rule : Rule L ε) (past : List (Event L ε)) (request : Request) : Prop :=
  ∀ more, rule (past ++ more) request

@[simp] theorem obeyed_nil (rule : Rule L ε) (past : List (Event L ε)) : rule.Obeyed past [] :=
  trivial

theorem obeyed_call (rule : Rule L ε) (past : List (Event L ε)) (request : Request)
    (answer : Except ε request.Answer) (rest : List (Event L ε)) :
    rule.Obeyed past (.call request answer :: rest) ↔
      rule past request ∧ rule.Obeyed (past ++ [.call request answer]) rest := Iff.rfl

theorem obeyed_append (rule : Rule L ε) (past xs ys : List (Event L ε)) :
    rule.Obeyed past (xs ++ ys) ↔ rule.Obeyed past xs ∧ rule.Obeyed (past ++ xs) ys := by
  induction xs generalizing past with
  | nil => rw [List.nil_append, List.append_nil, and_iff_right (obeyed_nil rule past)]
  | cons event xs ih =>
      have hpast : past ++ event :: xs = past ++ [event] ++ xs := (List.append_cons past event xs)
      rw [List.cons_append, hpast]
      cases event with
      | call request answer => rw [obeyed_call, obeyed_call, ih, and_assoc]
      | pause length => exact ih _
      | log line => exact ih _

/-- Each request of obedient events was permitted by those before it. -/
theorem Obeyed.permitted {rule : Rule L ε} {past before after : List (Event L ε)}
    {request : Request} {answer : Except ε request.Answer}
    (h : rule.Obeyed past (before ++ .call request answer :: after)) :
    rule (past ++ before) request := by
  rw [obeyed_append, obeyed_call] at h
  exact h.2.1

/-- What is granted stays so. -/
theorem Granted.append {rule : Rule L ε} {past : List (Event L ε)} {request : Request}
    (h : rule.Granted past request) (later : List (Event L ε)) :
    rule.Granted (past ++ later) request := by
  intro more
  rw [List.append_assoc]
  exact h _

theorem Granted.permitted {rule : Rule L ε} {past : List (Event L ε)} {request : Request}
    (h : rule.Granted past request) : rule past request := by
  rw [← List.append_nil past]
  exact h []

/-- Requests that are granted break no rule. -/
theorem obeyed_of_granted (rule : Rule L ε) (past events : List (Event L ε))
    (h : ∀ event ∈ events, event.within (rule.Granted past)) : rule.Obeyed past events := by
  induction events generalizing past with
  | nil => trivial
  | cons event events ih =>
      obtain ⟨hhead, htail⟩ := List.forall_mem_cons.1 h
      have hrest : rule.Obeyed (past ++ [event]) events :=
        ih _ fun other hmem => Event.within_mono (fun _ hgranted => hgranted.append _) other
          (htail other hmem)
      cases event with
      | call request answer => exact ⟨Granted.permitted hhead, hrest⟩
      | pause length => exact hrest
      | log line => exact hrest

end Rule

namespace Session

variable {F ε α β : Type}

/-- After the past events, an attempt of a session with this configuration makes each of its
requests when it may be made. -/
def Follows (rule : Rule (Line F) ε) (config : Config) (past : List (Event (Line F) ε))
    (attempt : SessionAttempt F ε α) : Prop :=
  ∀ s events result t, s.config = config → attempt.ends s events result t →
    rule.Obeyed past events

variable {rule : Rule (Line F) ε} {config : Config} {past : List (Event (Line F) ε)}

theorem follows_throw (error : Error ε) :
    Follows rule config past (throw error : SessionAttempt F ε α) := by
  intro s events result t _ h
  obtain ⟨rfl, -, -⟩ := h
  trivial

/-- What is made of requests that are granted breaks no rule. -/
theorem follows_of_madeOf {attempt : SessionAttempt F ε α}
    (h : MadeOf (rule.Granted past) attempt) : Follows rule config past attempt := by
  intro s events result t _ hends
  exact rule.obeyed_of_granted past events (h.within s events result t hends)

theorem follows_ask_bind (request : Request) (read : request.Answer → α)
    (rest : α → SessionAttempt F ε β) (hrequest : rule past request)
    (hrest : ∀ answer, Follows rule config (past ++ [.call request (.ok answer)])
      (rest (read answer))) : Follows rule config past (Attempt.ask request read >>= rest) := by
  intro s events result t hconfig h
  rcases (Attempt.ends_ask_bind _ _ _ _ _ _ _).1 h with ⟨_, rfl, -⟩ | ⟨answer, tail, rfl, htail⟩
  · exact ⟨hrequest, trivial⟩
  · exact ⟨hrequest, hrest answer s tail result t hconfig htail⟩

theorem follows_log_bind (line : Line F) (rest : Unit → SessionAttempt F ε α)
    (hrest : Follows rule config (past ++ [.log line]) (rest ())) :
    Follows rule config past (log line >>= rest) := by
  intro s events result t hconfig h
  obtain ⟨tail, rfl, htail⟩ := (ends_log_bind _ _ _ _ _ _).1 h
  exact hrest s tail result t hconfig htail

theorem follows_getConfig_bind (rest : Config → SessionAttempt F ε α)
    (hrest : Follows rule config past (rest config)) :
    Follows rule config past (getConfig >>= rest) := by
  intro s events result t hconfig h
  rw [ends_getConfig_bind, hconfig] at h
  exact hrest s events result t hconfig h

theorem follows_getSeq_bind (rest : UInt8 → SessionAttempt F ε α)
    (hrest : ∀ seq, Follows rule config past (rest seq)) :
    Follows rule config past (getSeq >>= rest) := by
  intro s events result t hconfig h
  rw [ends_getSeq_bind] at h
  exact hrest s.seq s events result t hconfig h

theorem follows_takeSeq_bind (rest : UInt8 → SessionAttempt F ε α)
    (hrest : ∀ seq, Follows rule config past (rest seq)) :
    Follows rule config past (takeSeq >>= rest) := by
  intro s events result t hconfig h
  rw [ends_takeSeq_bind] at h
  exact hrest s.seq { s with seq := s.seq + 1 } events result t hconfig h

theorem follows_enter_bind (state : ExchangeState) (rest : Unit → SessionAttempt F ε α)
    (hrest : Follows rule config past (rest ())) :
    Follows rule config past (enter state >>= rest) := by
  intro s events result t hconfig h
  rw [ends_enter_bind] at h
  exact hrest { s with state := state } events result t hconfig h

/-- A wait may be begun when the register may be read at any time. -/
theorem follows_await_bind (flags : Status) (timeout : UInt32)
    (rest : Status → SessionAttempt F ε α) (hread : rule.Granted past .readStatus)
    (hrest : ∀ misses status, Follows rule config
      (past ++ (missEvents config.timeouts.statusInterval misses ++
        [.call .readStatus (.ok status)])) (rest status)) :
    Follows rule config past (await flags timeout >>= rest) := by
  intro s events result t hconfig h
  have hwait : ∀ events result t, (await flags timeout).ends s events result t →
      rule.Obeyed past events := fun events result t =>
    follows_of_madeOf (.await flags timeout hread) s events result t hconfig
  rcases (Attempt.ends_bind _ _ _ _ _ _).1 h with
    ⟨_, hfirst, -⟩ | ⟨first, second, status, u, rfl, hfirst, hsecond⟩
  · exact hwait _ _ _ hfirst
  · refine (rule.obeyed_append past first second).2 ⟨hwait _ _ _ hfirst, ?_⟩
    rw [await, ends_getConfig_bind, hconfig] at hfirst
    obtain ⟨rfl, houtcome⟩ := Attempt.outcome_awaitStatus _ _ _ _ _ _ _ hfirst
    cases houtcome with
    | shown misses status _ _ _ => exact hrest misses status _ second result t hconfig hsecond

end Session

end Ranging

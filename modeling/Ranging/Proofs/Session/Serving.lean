import Mathlib.Data.List.Basic
import Ranging.Proofs.Run.Sequence
import Ranging.Proofs.Session.CleanUp
import Ranging.Session.Serve

/-!
# The accounts of a serving node

`Radio.exchanges` are the exchanges of a node that answers Polls on a radio, each
begun as the one before it has left the session and the radio. What the node logs
about an exchange depends on its result and on the results before it: `report`
counts the replies and the failures among these instead of carrying two counters
along. That the counters of the loop are these counts modulo `2 ^ 32` is the
invariant of `events_serveFrom`, which every round preserves.
-/

namespace Ranging

namespace Session

variable {F ε : Type}

/-- The replies among the results of exchanges. -/
def replies (results : List (Except (Error ε) Reply)) : List Reply :=
  results.filterMap Except.toOption

/-- The error of an exchange, unless no Poll came in time. -/
def failure? : Except (Error ε) Reply → Option (Error ε)
  | .ok _ => none
  | .error .timeout => none
  | .error error => some error

def failures (results : List (Except (Error ε) Reply)) : List (Error ε) :=
  results.filterMap failure?

/-- What is logged about an exchange that comes after others with the given results. -/
def report (earlier : List (Except (Error ε) Reply)) :
    Except (Error ε) Reply → Option (Line F)
  | .ok reply =>
      some (.answered reply.peer (UInt32.ofNat ((replies earlier).length + 1))
        (UInt32.ofNat (failures earlier).length))
  | .error error => (failure? (.error error)).map fun error => .exchangeFailed error.kind

/-- What is logged about every one of the exchanges that come after others. -/
def reports (earlier : List (Except (Error ε) Reply)) :
    List (Except (Error ε) Reply) → List (Option (Line F))
  | [] => []
  | result :: rest => report earlier result :: reports (earlier ++ [result]) rest

@[simp] theorem replies_nil : replies ([] : List (Except (Error ε) Reply)) = [] := rfl

@[simp] theorem replies_cons_ok (reply : Reply) (rest : List (Except (Error ε) Reply)) :
    replies (.ok reply :: rest) = reply :: replies rest := rfl

@[simp] theorem replies_cons_error (error : Error ε) (rest : List (Except (Error ε) Reply)) :
    replies (.error error :: rest) = replies rest := rfl

theorem failures_cons (result : Except (Error ε) Reply) (rest : List (Except (Error ε) Reply)) :
    failures (result :: rest) = (failure? result).toList ++ failures rest := by
  simp only [failures, List.filterMap_eq_flatMap_toList, List.flatMap_cons]

theorem replies_concat (earlier : List (Except (Error ε) Reply))
    (result : Except (Error ε) Reply) :
    replies (earlier ++ [result]) = replies earlier ++ result.toOption.toList := by
  simp only [replies, List.filterMap_eq_flatMap_toList, List.flatMap_append,
    List.flatMap_singleton]

theorem failures_concat (earlier : List (Except (Error ε) Reply))
    (result : Except (Error ε) Reply) :
    failures (earlier ++ [result]) = failures earlier ++ (failure? result).toList := by
  simp only [failures, List.filterMap_eq_flatMap_toList, List.flatMap_append,
    List.flatMap_singleton]

/-- A round is an exchange, the report about it, and the rounds that follow. -/
theorem serveFrom_succ (earlier : List (Except (Error ε) Reply)) (rounds : Nat) :
    (serveFrom (rounds + 1) (UInt32.ofNat (replies earlier).length)
        (UInt32.ofNat (failures earlier).length) : SessionProgram F ε Unit) =
      respond.run >>= fun result =>
        Program.logAll (report earlier result).toList >>= fun _ =>
          serveFrom rounds (UInt32.ofNat (replies (earlier ++ [result])).length)
            (UInt32.ofNat (failures (earlier ++ [result])).length) := by
  rw [serveFrom]
  congr 1
  funext result
  cases result with
  | ok reply =>
      simp [replies_concat, failures_concat, failure?, report, Except.toOption,
        Program.logAll_cons]
  | error error =>
      rw [replies_concat, failures_concat, report]
      cases error with
      | timeout => simp [failure?, Except.toOption]
      | _ => simp [failure?, Except.toOption, Program.logAll_cons]

end Session

namespace Radio

variable {F ε ρ : Type}

/-- The exchanges of a node that answers Polls for a number of rounds. -/
def exchanges (radio : Radio ε ρ) :
    Nat → Session → ρ → List (Run (Line F) ε Session (Except (Error ε) Reply))
  | 0, _, _ => []
  | rounds + 1, s, start =>
      radio.respond start s :: radio.exchanges rounds (radio.respond (F := F) start s).state
        (radio.after (Session.respond : SessionAttempt F ε Reply).run s start)

theorem length_exchanges (radio : Radio ε ρ) (rounds : Nat) (s : Session) (start : ρ) :
    (radio.exchanges (F := F) rounds s start).length = rounds := by
  induction rounds generalizing s start with
  | zero => rfl
  | succ rounds ih => rw [exchanges, List.length_cons, ih]

/-- The events of a serving node are those of its exchanges, each followed by its report. -/
theorem events_serveFrom (radio : Radio ε ρ) (earlier : List (Except (Error ε) Reply))
    (rounds : Nat) (s : Session) (start : ρ) :
    let exchanges : List (Run (Line F) ε Session (Except (Error ε) Reply)) :=
      radio.exchanges rounds s start
    (radio.run (Session.serveFrom rounds (UInt32.ofNat (Session.replies earlier).length)
        (UInt32.ofNat (Session.failures earlier).length)) s start).events =
      (exchanges.zip (Session.reports earlier (exchanges.map Run.value))).flatMap
        fun exchange => exchange.1.events ++ exchange.2.toList.map .log := by
  induction rounds generalizing earlier s start with
  | zero => rfl
  | succ rounds ih =>
      intro exchanges
      rw [Session.serveFrom_succ, run_bind, run_bind, run_logAll, after_logAll]
      simp only [Run.andThen, ih]
      exact (List.append_assoc _ _ _).symm

end Radio

namespace Session

variable {F ε : Type}

/-- The lines of a level that are logged about exchanges that come after others. -/
def reportedAt (level : Level) (earlier results : List (Except (Error ε) Reply)) :
    List (Line F) :=
  ((reports earlier results).flatMap Option.toList).filter fun line => line.level = level

theorem reportedAt_cons (level : Level) (earlier : List (Except (Error ε) Reply))
    (result : Except (Error ε) Reply) (rest : List (Except (Error ε) Reply)) :
    (reportedAt level earlier (result :: rest) : List (Line F)) =
      (report earlier result).toList.filter (fun line => line.level = level) ++
        reportedAt level (earlier ++ [result]) rest :=
  List.filter_append _ _

/-- Every failure is warned of once, in order. -/
theorem reportedAt_warn (earlier results : List (Except (Error ε) Reply)) :
    (reportedAt .warn earlier results : List (Line F)) =
      (failures results).map fun error => .exchangeFailed error.kind := by
  induction results generalizing earlier with
  | nil => rfl
  | cons result rest ih =>
      rw [reportedAt_cons, ih]
      cases result with
      | ok reply => rfl
      | error error =>
          rw [report, failures_cons]
          cases failure? (.error error : Except (Error ε) Reply) with
          | none => rfl
          | some error => rfl

theorem reportedAt_info_ok (earlier : List (Except (Error ε) Reply)) (reply : Reply)
    (rest : List (Except (Error ε) Reply)) :
    (reportedAt .info earlier (.ok reply :: rest) : List (Line F)) =
      .answered reply.peer (UInt32.ofNat ((replies earlier).length + 1))
          (UInt32.ofNat (failures earlier).length) ::
        reportedAt .info (earlier ++ [.ok reply]) rest :=
  reportedAt_cons _ _ _ _

theorem reportedAt_info_error (earlier : List (Except (Error ε) Reply)) (error : Error ε)
    (rest : List (Except (Error ε) Reply)) :
    (reportedAt .info earlier (.error error :: rest) : List (Line F)) =
      reportedAt .info (earlier ++ [.error error]) rest := by
  rw [reportedAt_cons, report]
  cases failure? (.error error : Except (Error ε) Reply) with
  | none => rfl
  | some error => rfl

theorem exists_reply_cons_iff (P : List (Except (Error ε) Reply) → Reply → Prop)
    (result : Except (Error ε) Reply) (rest : List (Except (Error ε) Reply)) :
    (∃ before reply after, result :: rest = before ++ .ok reply :: after ∧ P before reply) ↔
      (∃ reply, result = .ok reply ∧ P [] reply) ∨
        ∃ before reply after, rest = before ++ .ok reply :: after ∧ P (result :: before) reply := by
  constructor
  · intro h
    obtain ⟨before, reply, after, hsplit, hP⟩ := h
    rcases List.cons_eq_append_iff.1 hsplit with ⟨rfl, hrest⟩ | ⟨before, rfl, rfl⟩
    · obtain ⟨rfl, rfl⟩ := List.cons.inj hrest
      exact .inl ⟨reply, rfl, hP⟩
    · exact .inr ⟨before, reply, after, rfl, hP⟩
  · intro h
    rcases h with ⟨reply, rfl, hP⟩ | ⟨before, reply, after, rfl, hP⟩
    · exact ⟨[], reply, rest, rfl, hP⟩
    · exact ⟨result :: before, reply, after, rfl, hP⟩

/-- The lines that report replies, by their number. -/
theorem getElem?_reportedAt_info (earlier results : List (Except (Error ε) Reply)) (k : Nat)
    (line : Line F) :
    (reportedAt .info earlier results)[k]? = some line ↔
      ∃ before reply after, results = before ++ .ok reply :: after ∧
        (replies before).length = k ∧
        line = .answered reply.peer (UInt32.ofNat ((replies earlier).length + k + 1))
          (UInt32.ofNat (failures (earlier ++ before)).length) := by
  induction results generalizing earlier k with
  | nil => simp [reportedAt, reports]
  | cons result rest ih =>
      rw [exists_reply_cons_iff fun before reply => (replies before).length = k ∧
        line = .answered reply.peer (UInt32.ofNat ((replies earlier).length + k + 1))
          (UInt32.ofNat (failures (earlier ++ before)).length)]
      cases result with
      | ok reply =>
          rw [reportedAt_info_ok]
          -- The first line is about this reply, and later lines count it among the earlier ones.
          cases k with
          | zero =>
              rw [List.getElem?_cons_zero, Option.some.injEq]
              constructor
              · intro h
                exact .inl ⟨reply, rfl, rfl, by rw [← h, List.append_nil, Nat.add_zero]⟩
              · intro h
                rcases h with ⟨reply', hreply, -, rfl⟩ | ⟨before, _, _, -, hlength, -⟩
                · cases hreply
                  rw [List.append_nil, Nat.add_zero]
                · cases hlength
          | succ k =>
              have hcount : (replies (earlier ++ [.ok reply])).length + k + 1 =
                  (replies earlier).length + (k + 1) + 1 := by
                simp [replies_concat, Except.toOption]
                omega
              rw [List.getElem?_cons_succ, ih, hcount]
              simp
      | error error =>
          rw [reportedAt_info_error, ih]
          simp [replies_concat, Except.toOption]

theorem length_reports (earlier results : List (Except (Error ε) Reply)) :
    (reports earlier results : List (Option (Line F))).length = results.length := by
  induction results generalizing earlier with
  | nil => rfl
  | cons result rest ih => rw [reports, List.length_cons, ih, List.length_cons]

/-- Every reply and every failure is reported in one line, and nothing else is. -/
theorem length_flatMap_reports (earlier results : List (Except (Error ε) Reply)) :
    ((reports earlier results).flatMap Option.toList : List (Line F)).length =
      (replies results).length + (failures results).length := by
  induction results generalizing earlier with
  | nil => rfl
  | cons result rest ih =>
      rw [reports, List.flatMap_cons, List.length_append, ih, failures_cons, List.length_append]
      cases result with
      | ok reply =>
          simp [report, failure?]
          omega
      | error error =>
          rw [report]
          cases failure? (.error error : Except (Error ε) Reply) with
          | none => simp
          | some error =>
              simp
              omega

end Session

/-- However many rounds a node serves, and whatever the radio does, it carries out one exchange
after the other and logs nothing between them but a line for each reply and each failure. The
line of a failure names its kind. The line of a reply names the initiator, and how many replies
there were up to it and failures before it, both modulo `2 ^ 32`. -/
theorem serve_accounts_for_exchanges {F ε ρ : Type} (radio : Radio ε ρ) (s : Session) (start : ρ)
    (rounds : Nat) :
    let exchanges : List (Run (Line F) ε Session (Except (Error ε) Reply)) :=
      radio.exchanges rounds s start
    let results := exchanges.map Run.value
    let reports : List (Option (Line F)) := Session.reports [] results
    exchanges.length = rounds ∧ reports.length = rounds ∧
      (radio.run (Session.serve rounds) s start).events =
        (exchanges.zip reports).flatMap
          (fun exchange => exchange.1.events ++ exchange.2.toList.map .log) ∧
      (reports.flatMap Option.toList).length =
        (Session.replies results).length + (Session.failures results).length ∧
      (Session.reportedAt .warn [] results : List (Line F)) =
        (Session.failures results).map (fun error => .exchangeFailed error.kind) ∧
      ∀ k (line : Line F), (Session.reportedAt .info [] results)[k]? = some line ↔
        ∃ before reply after, results = before ++ .ok reply :: after ∧
          (Session.replies before).length = k ∧
          line = .answered reply.peer (UInt32.ofNat (k + 1))
            (UInt32.ofNat (Session.failures before).length) := by
  intro exchanges results reports
  have hlength : exchanges.length = rounds := radio.length_exchanges rounds s start
  refine ⟨hlength, ?_, radio.events_serveFrom [] rounds s start,
    Session.length_flatMap_reports [] results, Session.reportedAt_warn [] results, ?_⟩
  · rw [Session.length_reports, List.length_map, hlength]
  · intro k line
    rw [Session.getElem?_reportedAt_info]
    simp

end Ranging

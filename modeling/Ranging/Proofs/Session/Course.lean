import Ranging.Proofs.Run.Sequence
import Ranging.Proofs.Session.CleanUp

/-!
# Exchanges one after the other

In the course of its life a session takes its turn in many exchanges, as an initiator or
as a responder. `Radio.course` carries them out on a radio, each on the session and the
radio that the one before it has left, whatever came of that one, and keeps what was to be
seen of every one of them.
-/

namespace Ranging

/-- The part that a node takes in an exchange. -/
inductive Turn where
  | initiate (target : UInt16)
  | respond

/-- What came of an exchange. -/
inductive Finding (F ε : Type) where
  | distance (result : Except (Error ε) F)
  | reply (result : Except (Error ε) Reply)

section Exchanges

variable {F ε ρ : Type} [Scalar F]

def Turn.program : Turn → SessionProgram F ε (Finding F ε)
  | .initiate target => .distance <$> (Session.initiate target).run
  | .respond => .reply <$> Session.respond.run

/-- An exchange that was carried out. -/
structure Played (F ε : Type) where
  turn : Turn
  before : Session
  run : Run (Line F) ε Session (Finding F ε)

/-- Exchanges that were carried out, and how they left the session and the radio. -/
structure Course (F ε ρ : Type) where
  played : List (Played F ε)
  session : Session
  device : ρ

namespace Radio

def course (radio : Radio ε ρ) : List Turn → Session → ρ → Course F ε ρ
  | [], s, start => ⟨[], s, start⟩
  | turn :: rest, s, start =>
      let run : Run (Line F) ε Session (Finding F ε) := radio.run turn.program s start
      let later := radio.course rest run.state
        (radio.after (turn.program : SessionProgram F ε (Finding F ε)) s start)
      ⟨⟨turn, s, run⟩ :: later.played, later.session, later.device⟩

theorem played_course_cons (radio : Radio ε ρ) (turn : Turn) (rest : List Turn) (s : Session)
    (start : ρ) :
    (radio.course (F := F) (turn :: rest) s start).played =
      ⟨turn, s, radio.run turn.program s start⟩ ::
        (radio.course rest (radio.run (turn.program (F := F)) s start).state
          (radio.after (turn.program : SessionProgram F ε (Finding F ε)) s start)).played := rfl

theorem session_course_cons (radio : Radio ε ρ) (turn : Turn) (rest : List Turn) (s : Session)
    (start : ρ) :
    (radio.course (F := F) (turn :: rest) s start).session =
      (radio.course (F := F) rest (radio.run (turn.program (F := F)) s start).state
        (radio.after (turn.program : SessionProgram F ε (Finding F ε)) s start)).session := rfl

theorem turns_course (radio : Radio ε ρ) (turns : List Turn) (s : Session) (start : ρ) :
    (radio.course (F := F) turns s start).played.map Played.turn = turns := by
  induction turns generalizing s start with
  | nil => rfl
  | cons turn rest ih => exact congrArg (turn :: ·) (ih _ _)

end Radio

/-- An exchange leaves the configuration alone. -/
theorem Turn.config_eq (turn : Turn) (s : Session) (events : List (Event (Line F) ε))
    (finding : Finding F ε) (t : Session) (h : turn.program.endsAlong s events finding t) :
    t.config = s.config := by
  cases turn with
  | initiate target =>
      obtain ⟨result, hends, -⟩ := (Program.endsAlong_map _ _ _ _ _ _).1 h
      refine Session.config_finishing _ ?_ _ _ _ _ hends
      exact .bind _ _ (.step _ Session.internal_getConfig) fun _ => Session.madeOf_initiateIn _ _
  | respond =>
      obtain ⟨result, hends, -⟩ := (Program.endsAlong_map _ _ _ _ _ _).1 h
      refine Session.config_finishing _ ?_ _ _ _ _ hends
      exact .bind _ _ (.step _ Session.internal_getConfig) fun _ => Session.madeOf_respondIn _

theorem Radio.config_course (radio : Radio ε ρ) (turns : List Turn) (s : Session) (start : ρ) :
    (radio.course (F := F) turns s start).session.config = s.config := by
  induction turns generalizing s start with
  | nil => rfl
  | cons turn rest ih =>
      have hturn := turn.config_eq s _ _ _
        (radio.endsAlong_run (turn.program : SessionProgram F ε (Finding F ε)) s start)
      exact (ih _ _).trans hturn

end Exchanges

end Ranging

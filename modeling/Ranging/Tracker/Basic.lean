import Ranging.Position.AnchorTable
import Ranging.Position.Trilateration
import Ranging.Session.Exchange
import Ranging.Tracker.Publish

/-!
# Tracking a position

A `Tracker` is a node that finds its own position: a session to range with, the
anchors of the deployment, the last fix, and the queue of fixes that have not
been sent downstream. Until there is a fix, the origin stands in for it.

One cycle ranges with the four anchors nearest to the last fix, in the order of
nearness, and solves for the position. A failed exchange ends the cycle, as no
distance is guessed; the last fix then stays as it is.
-/

namespace Ranging

/-- A node that finds its own position. -/
structure Tracker (F : Type) where
  /-- The session that the node ranges with. -/
  session : Session
  table : AnchorTable F
  lastFix : Position F
  config : CycleConfig
  /-- The fixes that have not been sent downstream. -/
  queue : FixQueue F

abbrev TrackerProgram (F ε : Type) : Type → Type :=
  Program (Line F) ε (Tracker F)

abbrev TrackerAttempt (F ε : Type) : Type → Type :=
  Attempt (Line F) ε (Tracker F)

namespace Tracker

/-- A tracker that has no fix yet. -/
def start {F : Type} [Scalar F] (session : Session) (table : AnchorTable F)
    (config : CycleConfig) : Tracker F :=
  ⟨session, table, Position.origin, config, FixQueue.empty⟩

def withSession {F ε α : Type} (attempt : SessionAttempt F ε α) : TrackerAttempt F ε α :=
  attempt.zoom Tracker.session fun session tracker => { tracker with session := session }

def runSession {F ε α : Type} (program : SessionProgram F ε α) : TrackerProgram F ε α :=
  program.zoom Tracker.session fun session tracker => { tracker with session := session }

def withQueue {F ε α : Type} (program : Program (Line F) ε (FixQueue F) α) :
    TrackerProgram F ε α :=
  program.zoom Tracker.queue fun queue tracker => { tracker with queue := queue }

/-- Range with an anchor; a failure is logged. -/
def rangeWith {F ε : Type} [Scalar F] (anchor : UInt16) : TrackerAttempt F ε F :=
  ExceptT.mk do
    match ← (withSession (Session.initiate anchor)).run with
    | .ok distance => return .ok distance
    | .error error => do
        Program.log (.anchorFailed anchor error.kind)
        return .error error

/-- Measure the distance to an anchor and leave it time before the next
exchange. -/
def measure {F ε : Type} [Scalar F] (gap : UInt32) (anchor : Anchor F) :
    TrackerAttempt F ε (Measurement F) := do
  let distance ← rangeWith anchor.addr
  Attempt.lift (Program.pauseMillis gap)
  return ⟨anchor.pos, distance⟩

/-- The log line that says that four anchors determine no position. -/
def coplanarLine {F : Type} (anchors : Quad (Anchor F)) : Line F :=
  .coplanar anchors.first.addr anchors.second.addr anchors.third.addr anchors.fourth.addr

/-- Take over a fix as the last one. -/
def keepFix {F ε : Type} (fix : Fix F) : TrackerProgram F ε Unit := do
  Program.modifyState fun tracker => { tracker with lastFix := fix.pos }
  Program.log (.fixed fix.pos.x fix.pos.y fix.pos.z fix.error)

/-- Find the position of the node once. -/
def perform {F ε : Type} [Scalar F] : TrackerAttempt F ε (Fix F) := do
  let tracker ← Attempt.lift Program.getState
  let anchors := (tracker.table.nearest tracker.lastFix).map RankedAnchor.anchor
  let measurements ← anchors.mapM (measure tracker.config.exchangeGap)
  match Trilateration.locate? measurements with
  | some fix => do
      Attempt.lift (keepFix fix)
      return fix
  | none => do
      Attempt.lift (Program.log (coplanarLine anchors))
      throw .degenerateGeometry

/-- Find the position of the node once and queue the fix, if there is one. -/
def step {F ε : Type} [Scalar F] : TrackerAttempt F ε (Fix F) := do
  let fix ← perform
  let _ ← Attempt.lift (withQueue (FixQueue.publish fix))
  return fix

/-- Send all queued fixes downstream. -/
def drain {F ε : Type} [Scalar F] (accepts : Nat → Location → Bool) :
    TrackerProgram F ε (Drained F) :=
  withQueue (FixQueue.serve accepts)

end Tracker

end Ranging

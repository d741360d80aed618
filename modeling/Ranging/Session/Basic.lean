import Ranging.Log
import Ranging.Node.Config
import Ranging.Radio.Wait

/-!
# Sessions

A `Session` is what a ranging node keeps while it lives: its configuration, the
sequence number of the next frame, and whether an exchange is under way. The
transceiver is no part of it; it is what the programs of a session run on.
-/

namespace Ranging

/-- The frame that a node waits for. -/
inductive AwaitedFrame where
  /-- A responder waits for a Poll. -/
  | poll
  /-- An initiator waits for a Response. -/
  | response
deriving DecidableEq

/-- How far the current exchange has come. -/
inductive ExchangeState where
  /-- There is no exchange. -/
  | idle
  /-- A frame of the peer is awaited. -/
  | awaitingPeer (frame : AwaitedFrame)
deriving DecidableEq

namespace ExchangeState

def text : ExchangeState → String
  | idle => "Idle"
  | awaitingPeer .poll => "AwaitingPeer(Poll)"
  | awaitingPeer .response => "AwaitingPeer(Response)"

end ExchangeState

/-- What a responder did to answer a Poll. -/
structure Reply where
  /-- The initiator. -/
  peer : UInt16
  pollReceived : Instant
  /-- When the Response leaves the antenna. -/
  responseSent : Instant
deriving DecidableEq

/-- A ranging node. -/
structure Session where
  config : Config
  /-- The sequence number that the next frame carries. -/
  seq : UInt8
  /-- How far the current exchange has come. -/
  state : ExchangeState
deriving DecidableEq

/-- A program of a session, which logs lines with numbers of type `F`. -/
abbrev SessionProgram (F ε : Type) : Type → Type :=
  Program (Line F) ε Session

abbrev SessionAttempt (F ε : Type) : Type → Type :=
  Attempt (Line F) ε Session

namespace Session

/-- A session that has not made an exchange yet. -/
def fresh (config : Config) : Session := ⟨config, 0, .idle⟩

def log {F ε : Type} (line : Line F) : SessionAttempt F ε Unit :=
  Attempt.lift (Program.log line)

def getConfig {F ε : Type} : SessionAttempt F ε Config :=
  Attempt.lift do return (← Program.getState).config

/-- The sequence number that the next frame carries. -/
def getSeq {F ε : Type} : SessionAttempt F ε UInt8 :=
  Attempt.lift do return (← Program.getState).seq

/-- Note how far the exchange has come. -/
def enter {F ε : Type} (state : ExchangeState) : SessionAttempt F ε Unit :=
  Attempt.lift (Program.modifyState fun session => { session with state := state })

/-- Go on to the next sequence number, from the last one to zero. -/
def advanceSeq {F ε : Type} : SessionAttempt F ε Unit :=
  Attempt.lift (Program.modifyState fun session => { session with seq := session.seq + 1 })

/-- The sequence number for a frame, which no later frame carries again until
all others were used. -/
def takeSeq {F ε : Type} : SessionAttempt F ε UInt8 := do
  let seq ← getSeq
  advanceSeq
  return seq

/-- Wait for a status flag, reading the register as often as configured. -/
def await {F ε : Type} (flags : Status) (timeout : UInt32) : SessionAttempt F ε Status := do
  let config ← getConfig
  Attempt.awaitStatus flags timeout config.timeouts.statusInterval

end Session

end Ranging

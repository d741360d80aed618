import Ranging.Session.Initiator
import Ranging.Session.Responder

/-!
# Exchanges

`Session.initiate` and `Session.respond` carry out one exchange in the scheme
of the node. Whatever comes of it, the receiver is reset afterwards and the
session is idle, so that no frame and no flag is left for the next exchange.
The failure of an exchange takes precedence over a failure to clean up after it.
-/

namespace Ranging

namespace Session

/-- Clear the flags that an exchange may have left and reset the receiver. -/
def cleanUp {F ε : Type} : SessionAttempt F ε Unit := do
  Attempt.clearStatus (Status.receiveDone ||| Status.sent)
  Attempt.resetReceiver

/-- Carry out an exchange and clean up after it. -/
def finishing {F ε α : Type} (body : SessionAttempt F ε α) : SessionAttempt F ε α :=
  ExceptT.mk do
    let result ← body.run
    Program.modifyState fun session => { session with state := .idle }
    let cleaned ← cleanUp.run
    match result, cleaned with
    | .error error, _ => return .error error
    | .ok _, .error error => return .error error
    | .ok value, .ok _ => return .ok value

/-- The exchange of an initiator in a scheme. Double-sided ranging is refused
without touching the transceiver. -/
def initiateIn {F ε : Type} [Scalar F] (target : UInt16) : Scheme → SessionAttempt F ε F
  | .singleSided => Initiator.exchange target
  | .doubleSided => do
      log (.cannotRange target)
      throw .unsupported

/-- The exchange of a responder in a scheme. Double-sided ranging is refused
without touching the transceiver. -/
def respondIn {F ε : Type} : Scheme → SessionAttempt F ε Reply
  | .singleSided => Responder.exchange
  | .doubleSided => do
      log .cannotAnswer
      throw .unsupported

/-- Range with a node and return its distance in metres. -/
def initiate {F ε : Type} [Scalar F] (target : UInt16) : SessionAttempt F ε F :=
  finishing do
    let config ← getConfig
    initiateIn target config.scheme

/-- Wait for a Poll and answer it. -/
def respond {F ε : Type} : SessionAttempt F ε Reply :=
  finishing do
    let config ← getConfig
    respondIn config.scheme

end Session

end Ranging

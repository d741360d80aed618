import Ranging.Clock.Slot
import Ranging.Session.Reception

/-!
# The responder of a single-sided exchange

The responder listens for a Poll and answers it in a slot that it chooses before
it writes its Response, as the Response carries the time at which it is sent.
The transceiver adds the antenna delay to the beginning of the slot, so the
time in the Response is that at which it leaves the antenna.
-/

namespace Ranging

namespace Responder

open Session

/-- Turn to receiving a Poll. -/
def listen {F ε : Type} : SessionAttempt F ε Unit := do
  let config ← getConfig
  Attempt.clearStatus (Status.receiveDone ||| Status.sent)
  Attempt.setReceiveTimeout config.timeouts.pollTimeout
  Attempt.enableReceiver
  enter (.awaitingPeer .poll)

/-- What a Poll looks like that is to be answered, up to the bytes left out of
`pollMask`. -/
def pollTemplate (config : Config) : Poll :=
  ⟨0, config.pan, config.addr, config.acceptFrom.getD 0⟩

/-- The bytes of a Poll that are compared. The initiator is among them only if
a certain one is to be answered. -/
def pollMask (config : Config) : Mask :=
  if config.acceptFrom.isSome then Mask.poll else Mask.pollFromAny

def receivePoll {F ε : Type} : SessionAttempt F ε Poll := do
  let config ← getConfig
  let status ← await Status.receiveDone config.timeouts.pollWait
  let frame ← receiveBytes Poll.size status
  acceptFrame Poll (pollMask config) (pollTemplate config).bytes frame (.unexpectedPoll frame)

/-- The slot for the Response to a Poll that was received at an instant. -/
def replySlot (config : Config) (pollReceived : Instant) : UInt32 :=
  (pollReceived + Duration.ofMicros config.timeouts.replyDelay).slot

/-- The instant at which a Response in the given slot leaves the antenna. -/
def departure (config : Config) (slot : UInt32) : Instant :=
  Instant.ofSlot slot + Duration.ofDelay config.antennaDelay.send

/-- Schedule the Response to a Poll. -/
def sendResponse {F ε : Type} (poll : Poll) : SessionAttempt F ε Reply := do
  let config ← getConfig
  let pollReceived ← Attempt.receiveTime
  let slot := replySlot config pollReceived
  let reply : Reply := ⟨poll.src, pollReceived, departure config slot⟩
  let seq ← getSeq
  let response :=
    Response.ofInstants config.pan config.addr poll.src pollReceived reply.responseSent seq
  Attempt.storeFrame response.bytes
  match ← Attempt.send (.delayed slot) false with
  | .started => return reply
  | .tooLate => do
      log (.slotMissed poll.src)
      throw .transmitFailure

/-- Wait for the Response to be sent. Only then is its sequence number used up. -/
def confirmSent {F ε : Type} : SessionAttempt F ε Unit := do
  let config ← getConfig
  let _ ← await Status.sent config.timeouts.sendWait
  Attempt.clearStatus Status.sent
  advanceSeq

/-- Wait for a Poll and answer it. -/
def exchange {F ε : Type} : SessionAttempt F ε Reply := do
  listen
  let poll ← receivePoll
  let reply ← sendResponse poll
  confirmSent
  return reply

end Responder

end Ranging

import Ranging.Clock.Flight
import Ranging.Radio.Carrier
import Ranging.Session.Reception

/-!
# The initiator of a single-sided exchange

The initiator sends a Poll and listens for the Response, which carries the time
at which the Poll was received and the time at which the Response was sent.
With its own two times it then knows the round trip and the reply interval, and
it corrects the latter by the drift that the carrier of the Response shows.
-/

namespace Ranging

namespace Initiator

open Session

/-- Send a Poll and turn to receiving its Response. The sequence number is used
up whatever becomes of the Poll. -/
def sendPoll {F ε : Type} (target : UInt16) : SessionAttempt F ε Unit := do
  let config ← getConfig
  let seq ← takeSeq
  let poll : Poll := ⟨seq, config.pan, target, config.addr⟩
  Attempt.resetReceiver
  Attempt.clearStatus (Status.receiveDone ||| Status.sent)
  Attempt.setReceiveDelay config.timeouts.responseDelay
  Attempt.setReceiveTimeout config.timeouts.responseTimeout
  Attempt.storeFrame poll.bytes
  match ← Attempt.send .now true with
  | .started => enter (.awaitingPeer .response)
  | .tooLate => throw .transmitFailure

/-- What the Response of a node looks like, up to its sequence number and its
times. -/
def responseTemplate (config : Config) (target : UInt16) : Response :=
  ⟨0, config.pan, target, config.addr, 0, 0⟩

def receiveResponse {F ε : Type} (target : UInt16) : SessionAttempt F ε Response := do
  let config ← getConfig
  let status ← await Status.receiveDone config.timeouts.responseWait
  let frame ← receiveBytes Response.size status
  acceptFrame Response Mask.response (responseTemplate config target).bytes frame
    (.unexpectedResponse target frame)

/-- Find the distance to the node that sent a Response. -/
def measureDistance {F ε : Type} [Scalar F] (target : UInt16) (response : Response) :
    SessionAttempt F ε F := do
  let config ← getConfig
  let pollSent ← Attempt.sendTime
  let responseReceived ← Attempt.receiveTime
  let integrator ← Attempt.carrierIntegrator
  let offset : CarrierOffset F :=
    CarrierOffset.ofIntegrator integrator config.radio.bitrate config.radio.channel
  let time := timeOfFlight pollSent.low32 response.pollReceived response.responseSent
    responseReceived.low32 offset.clockRatio
  log (.ranged target time offset.millionths)
  return distanceOfFlight time

/-- Carry out an exchange with a node and return its distance in metres. -/
def exchange {F ε : Type} [Scalar F] (target : UInt16) : SessionAttempt F ε F := do
  sendPoll target
  let response ← receiveResponse target
  measureDistance target response

end Initiator

end Ranging

import Ranging.Frame.Mask
import Ranging.Frame.Reader
import Ranging.Session.Basic

/-!
# Receiving a frame

Once the receive wait has ended, `receiveBytes` takes the frame out of the
transceiver. Only a status with a good check sequence stands for a frame; the
others end the exchange as if nothing had arrived, and errors are logged. The
frame has to be as long as the one expected, so it can always be read.

`acceptFrame` compares it with its template and reads its fields.
-/

namespace Ranging

namespace Session

/-- Take a frame of the given length out of the transceiver, which ended its
reception with the given status. -/
def receiveBytes {F ε : Type} (length : Nat) (status : Status) :
    SessionAttempt F ε (List UInt8) := do
  if status.contains Status.received then
    Attempt.clearStatus (Status.received ||| Status.sent)
    let actual ← Attempt.frameLength
    if actual = length then Attempt.frameBytes length
    else throw (.lengthMismatch length actual)
  else if status.intersects Status.receiveErrors then
    log (.receptionFailed status.bits)
    throw .timeout
  else throw .timeout

/-- Read a received frame that has to agree with a template; any other frame is
logged. -/
def acceptFrame {F ε : Type} (φ : Type) [Readable φ] (mask : Mask)
    (template received : List UInt8) (other : Line F) : SessionAttempt F ε φ :=
  if mask.accepts template received then
    Attempt.ofExcept ((readFrame φ received 0).1.mapError .unreadable)
  else do
    log other
    throw .contentMismatch

end Session

end Ranging

import Ranging.Frame.Reader
import Ranging.Text.Quoted

/-!
# Failures of ranging and positioning

An `Error` is the cause for which an exchange or a positioning cycle came to
nothing. Its kind is the name of the cause; its message adds the details.
-/

namespace Ranging

/-- Why there is no distance, no reply or no fix. `ε` is the type of the errors
of the driver. -/
inductive Error (ε : Type) where
  /-- A request to the transceiver failed. -/
  | radio (cause : ε)
  /-- The awaited frame or flag did not come in time. -/
  | timeout
  /-- The received frame has another length than the expected one. -/
  | lengthMismatch (expected actual : Nat)
  /-- The received frame does not agree with the template. -/
  | contentMismatch
  /-- The received frame could not be read. -/
  | unreadable (cause : ReadError)
  /-- The transmission could not be started. -/
  | transmitFailure
  /-- The ranging scheme cannot be carried out. -/
  | unsupported
  /-- The selected anchors lie in one plane. -/
  | degenerateGeometry
  /-- The transceiver could not be brought up. -/
  | initializationFailure
deriving DecidableEq

namespace ReadError

def message : ReadError → String
  | badOffset offset => "BadOffset(" ++ toString offset ++ ")"
  | incomplete => "Incomplete"

end ReadError

namespace Error

/-- The name of a cause, without details. -/
def kind {ε : Type} : Error ε → String
  | radio _ => "Radio"
  | timeout => "Timeout"
  | lengthMismatch _ _ => "FrameLengthMismatch"
  | contentMismatch => "FrameContentMismatch"
  | unreadable _ => "Frame"
  | transmitFailure => "TransmitFailure"
  | unsupported => "Unsupported"
  | degenerateGeometry => "DegenerateGeometry"
  | initializationFailure => "InitializationFailure"

/-- The text of a failure. `cause` gives the text of a driver error. -/
def message {ε : Type} (cause : ε → String) : Error ε → String
  | radio error => "Radio(" ++ cause error ++ ")"
  | timeout => "Timeout"
  | lengthMismatch expected actual =>
      "FrameLengthMismatch \x7b expected: " ++ toString expected ++ ", actual: " ++
        toString actual ++ " \x7d"
  | contentMismatch => "FrameContentMismatch"
  | unreadable error => "Frame(" ++ error.message ++ ")"
  | transmitFailure => "TransmitFailure"
  | unsupported => "Unsupported"
  | degenerateGeometry => "DegenerateGeometry"
  | initializationFailure => "InitializationFailure"

/-- A failure without details has its kind as its message. -/
theorem message_eq_kind {ε : Type} (cause : ε → String) (error : Error ε)
    (hradio : ∀ e, error ≠ .radio e) (hlength : ∀ m n, error ≠ .lengthMismatch m n)
    (hframe : ∀ e, error ≠ .unreadable e) : error.message cause = error.kind := by
  cases error with
  | radio e => exact absurd rfl (hradio e)
  | lengthMismatch m n => exact absurd rfl (hlength m n)
  | unreadable e => exact absurd rfl (hframe e)
  | timeout => rfl
  | contentMismatch => rfl
  | transmitFailure => rfl
  | unsupported => rfl
  | degenerateGeometry => rfl
  | initializationFailure => rfl

end Error

end Ranging

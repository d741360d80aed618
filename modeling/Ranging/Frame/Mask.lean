import Ranging.Frame.Basic

/-!
# Masked comparison

A received frame is compared with a template, which is a frame made by the same
encoder. A mask marks the bytes that have to agree. The sequence number and the
timestamps, which differ from exchange to exchange, are left out of it.
-/

namespace Ranging

/-- The bytes of a frame that are compared with a template. -/
abbrev Mask : Type := List Bool

namespace Mask

/-- Whether a received frame agrees with the template in every marked byte.
Mask, template and frame have to be equally long. -/
def accepts : Mask → List UInt8 → List UInt8 → Bool
  | [], [], [] => true
  | checked :: mask, t :: template, b :: received =>
      (!checked || t == b) && accepts mask template received
  | _, _, _ => false

@[simp] theorem accepts_nil : accepts [] [] [] = true := rfl

@[simp] theorem accepts_cons (checked : Bool) (mask : Mask) (t b : UInt8)
    (template received : List UInt8) :
    accepts (checked :: mask) (t :: template) (b :: received) =
      ((!checked || t == b) && accepts mask template received) := rfl

/-- What a responder compares of a Poll from a known initiator. The destination
is its own address, which the frame filter of the transceiver has checked. -/
def poll : Mask :=
  [true, true, false, true, true, false, false, true, true, true]

/-- What a responder compares of a Poll from any initiator. -/
def pollFromAny : Mask :=
  [true, true, false, true, true, false, false, false, false, true]

/-- What an initiator compares of a Response: all up to the function code but
the sequence number. -/
def response : Mask :=
  [true, true, false, true, true, true, true, true, true, true,
    false, false, false, false, false, false, false, false]

end Mask

end Ranging

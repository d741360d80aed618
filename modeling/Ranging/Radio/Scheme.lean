import Ranging.Text.Named

/-!
# Ranging schemes

A scheme is the sequence of frames by which two nodes find their distance.
-/

namespace Ranging

/-- The two-way ranging schemes. -/
inductive Scheme where
  /-- Poll and Response; the drift of the clocks is taken from the carrier. -/
  | singleSided
  /-- Poll, Response and Final. It can be configured but not carried out. -/
  | doubleSided
deriving DecidableEq

instance : Named Scheme where
  all := [.singleSided, .doubleSided]
  name
    | .singleSided => "SingleSided"
    | .doubleSided => "DoubleSided"
  find?_name a := by cases a <;> rfl

end Ranging

/-!
# Status flags

The transceiver reports what happened in a status register of flags. The
receive flags fall into one for a good frame, those for an error and those for
a timeout; together they are the flags that end a reception.
-/

namespace Ranging

/-- A set of flags of the status register. -/
structure Status where
  /-- The flags as the register holds them. -/
  bits : UInt32
deriving DecidableEq

namespace Status

def empty : Status := ⟨0⟩

/-- The flag at a bit of the register. -/
def flag (bit : UInt32) : Status := ⟨1 <<< bit⟩

/-- The flags of either set. -/
def union (s t : Status) : Status := ⟨s.bits ||| t.bits⟩

instance : OrOp Status := ⟨union⟩

/-- Whether all of the given flags are set. -/
def contains (s flags : Status) : Bool := s.bits &&& flags.bits == flags.bits

/-- Whether any of the given flags is set. -/
def intersects (s flags : Status) : Bool := s.bits &&& flags.bits != 0

/-- A frame was sent. -/
def sent : Status := flag 7

/-- The header of a frame could not be corrected. -/
def headerError : Status := flag 12

/-- A frame with a good check sequence was received. -/
def received : Status := flag 14

/-- A frame with a bad check sequence was received. -/
def checkError : Status := flag 15

/-- The data of a frame could not be corrected. -/
def syncLoss : Status := flag 16

/-- No frame arrived in the time set for it. -/
def frameTimeout : Status := flag 17

/-- The arrival time of a frame could not be found. -/
def edgeError : Status := flag 18

/-- No preamble was detected in time. -/
def preambleTimeout : Status := flag 21

/-- No start-of-frame delimiter was detected in time. -/
def delimiterTimeout : Status := flag 26

/-- A frame was dropped by the frame filter. -/
def filtered : Status := flag 29

/-- Every flag that reports a failed reception. -/
def receiveErrors : Status :=
  headerError ||| checkError ||| syncLoss ||| delimiterTimeout ||| filtered ||| edgeError

/-- Every flag that reports a reception given up. -/
def receiveTimeouts : Status := frameTimeout ||| preambleTimeout

/-- Every flag that ends a reception, good or bad. -/
def receiveDone : Status := received ||| receiveErrors ||| receiveTimeouts

end Status

end Ranging

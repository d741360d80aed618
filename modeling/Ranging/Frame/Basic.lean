import Ranging.Clock.Instant
import Ranging.Frame.Bytes

/-!
# Ranging frames

An exchange consists of two data frames with PAN id compression and short
addresses, closed by a one-byte function code. The frame check sequence is
added and removed by the transceiver and is no part of them.

```text
Poll     (10 bytes): 41 88 | seq | pan(2) | dst(2) | src(2) | E0
Response (18 bytes): 41 88 | seq | pan(2) | src(2) | dst(2) | E1 | received(4) | sent(4)
```

The two addresses are in opposite order, so the responder's address stands at
the same place in both frames.
-/

namespace Ranging

/-- The frame control field: data frame, PAN id compression, short addresses. -/
def frameControl : List UInt8 := [0x41, 0x88]

/-- A request for a Response, sent by the initiator. -/
structure Poll where
  seq : UInt8
  /-- The network. -/
  pan : UInt16
  /-- The responder that is polled. -/
  dst : UInt16
  /-- The initiator. -/
  src : UInt16
deriving DecidableEq

/-- The answer to a Poll, sent by the responder. -/
structure Response where
  seq : UInt8
  /-- The network. -/
  pan : UInt16
  /-- The responder. -/
  src : UInt16
  /-- The initiator. -/
  dst : UInt16
  /-- The low 32 bits of the time at which the Poll was received. -/
  pollReceived : UInt32
  /-- The low 32 bits of the time at which this frame is sent. -/
  responseSent : UInt32
deriving DecidableEq

namespace Poll

/-- The last byte of every Poll. -/
def functionCode : UInt8 := 0xE0

/-- The number of bytes of a Poll. -/
def size : Nat := 10

def bytes (poll : Poll) : List UInt8 :=
  frameControl ++ [poll.seq] ++ bytes16 poll.pan ++ bytes16 poll.dst ++ bytes16 poll.src ++
    [functionCode]

@[simp] theorem length_bytes (poll : Poll) : poll.bytes.length = size := rfl

end Poll

namespace Response

/-- The byte of every Response that follows its addresses. -/
def functionCode : UInt8 := 0xE1

/-- The number of bytes of a Response. -/
def size : Nat := 18

def bytes (response : Response) : List UInt8 :=
  frameControl ++ [response.seq] ++ bytes16 response.pan ++ bytes16 response.src ++
    bytes16 response.dst ++ [functionCode] ++ bytes32 response.pollReceived ++
    bytes32 response.responseSent

@[simp] theorem length_bytes (response : Response) : response.bytes.length = size := rfl

/-- The Response that carries two instants, of which only the low 32 bits are
sent. -/
def ofInstants (pan src dst : UInt16) (pollReceived responseSent : Instant) (seq : UInt8) :
    Response :=
  ⟨seq, pan, src, dst, pollReceived.low32, responseSent.low32⟩

end Response

end Ranging

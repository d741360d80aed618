/-!
# Log lines

Every line that a node logs, with its level and its text. A line keeps the
values it reports, so that what was logged can be compared as values; the text
is made only at the end.

The numbers of a `Line` are those of the arithmetic that ranging and
positioning are carried out in. `Line.text` is given a way to write them.
-/

namespace Ranging

/-- The severity of a log line. -/
inductive Level where
  /-- The node cannot go on. -/
  | error
  /-- Something was lost. -/
  | warn
  /-- Something was achieved. -/
  | info
  /-- What an exchange met with. -/
  | debug
  /-- The details of every exchange. -/
  | trace
deriving DecidableEq

namespace Level

def name : Level → String
  | error => "error"
  | warn => "warn"
  | info => "info"
  | debug => "debug"
  | trace => "trace"

end Level

/-- A line in the log of a node. -/
inductive Line (F : Type) where
  /-- The transceiver could not be initialized and will be tried again. -/
  | powerUpFailed
  /-- The transceiver could not be initialized for the given milliseconds. -/
  | powerUpGivenUp (window : Nat)
  /-- The transceiver is ready to receive at an address. -/
  | ready (pan addr : UInt16)
  /-- A Poll was answered; the counts are those since the node began to serve. -/
  | answered (peer : UInt16) (replies failures : UInt32)
  /-- An exchange of a serving node failed. -/
  | exchangeFailed (kind : String)
  /-- An exchange in a scheme that cannot be carried out was asked for. -/
  | cannotRange (target : UInt16)
  /-- An answer in a scheme that cannot be carried out was asked for. -/
  | cannotAnswer
  /-- Something else than the expected Response was received. -/
  | unexpectedResponse (target : UInt16) (frame : List UInt8)
  /-- Something else than the expected Poll was received. -/
  | unexpectedPoll (frame : List UInt8)
  /-- A Response could not be sent in time. -/
  | slotMissed (peer : UInt16)
  /-- A reception ended in an error. -/
  | receptionFailed (status : UInt32)
  /-- The time of flight to a node was measured. -/
  | ranged (target : UInt16) (time millionths : F)
  /-- An anchor could not be ranged with. -/
  | anchorFailed (anchor : UInt16) (kind : String)
  /-- Four anchors do not determine a position. -/
  | coplanar (first second third fourth : UInt16)
  /-- A position was found. -/
  | fixed (x y z error : F)
  /-- The next cycle starts after the given milliseconds. -/
  | cycleDue (wait : UInt32)
  /-- A cycle took longer than its period. -/
  | cycleOverran (excess : UInt32)
  /-- A fix was dropped because the queue is full. -/
  | fixDropped
  | published (x y z : Int16)
  /-- A location could not be sent. -/
  | publishFailed

/-- The text of a frame in a log line. -/
def frameText (frame : List UInt8) : String :=
  "[" ++ String.intercalate ", " (frame.map fun b => toString b.toNat) ++ "]"

namespace Line

def level {F : Type} : Line F → Level
  | powerUpFailed => .debug
  | powerUpGivenUp _ => .error
  | ready _ _ => .info
  | answered _ _ _ => .info
  | exchangeFailed _ => .warn
  | cannotRange _ => .warn
  | cannotAnswer => .warn
  | unexpectedResponse _ _ => .debug
  | unexpectedPoll _ => .debug
  | slotMissed _ => .warn
  | receptionFailed _ => .debug
  | ranged _ _ _ => .trace
  | anchorFailed _ _ => .warn
  | coplanar _ _ _ _ => .warn
  | fixed _ _ _ _ => .info
  | cycleDue _ => .debug
  | cycleOverran _ => .warn
  | fixDropped => .warn
  | published _ _ _ => .info
  | publishFailed => .warn

def text {F : Type} (number : F → String) : Line F → String
  | powerUpFailed => "transceiver initialization failed, retrying"
  | powerUpGivenUp window =>
      "transceiver did not initialize within " ++ toString window ++ " ms"
  | ready pan addr =>
      "transceiver ready: pan " ++ toString pan.toNat ++ " addr " ++ toString addr.toNat
  | answered peer replies failures =>
      "answered " ++ toString peer.toNat ++ " (" ++ toString replies.toNat ++ " replies, " ++
        toString failures.toNat ++ " failures)"
  | exchangeFailed kind => "exchange failed: " ++ kind
  | cannotRange target =>
      "double-sided ranging with " ++ toString target.toNat ++ " is not supported"
  | cannotAnswer => "double-sided ranging is not supported"
  | unexpectedResponse target frame =>
      "unexpected response from " ++ toString target.toNat ++ ": " ++ frameText frame
  | unexpectedPoll frame => "unexpected poll: " ++ frameText frame
  | slotMissed peer => "response to " ++ toString peer.toNat ++ " missed its slot"
  | receptionFailed status => "receive error, status " ++ toString status.toNat
  | ranged target time millionths =>
      "ranged " ++ toString target.toNat ++ ": tof " ++ number time ++ " s, clock offset " ++
        number millionths ++ " ppm"
  | anchorFailed anchor kind =>
      "ranging with anchor " ++ toString anchor.toNat ++ " failed: " ++ kind
  | coplanar first second third fourth =>
      "no fix, anchors " ++ toString first.toNat ++ " " ++ toString second.toNat ++ " " ++
        toString third.toNat ++ " " ++ toString fourth.toNat ++ " are coplanar"
  | fixed x y z error =>
      "fix " ++ number x ++ " / " ++ number y ++ " / " ++ number z ++ ", error " ++ number error
  | cycleDue wait => "next positioning in " ++ toString wait.toNat ++ " ms"
  | cycleOverran excess =>
      "positioning overran its period by " ++ toString excess.toNat ++ " ms"
  | fixDropped => "fix queue is full, dropping fix"
  | published x y z =>
      "published location " ++ toString x.toInt ++ " / " ++ toString y.toInt ++ " / " ++
        toString z.toInt ++ " mm"
  | publishFailed => "publishing location failed"

/-- A line as it is written to the log: its level and its text. -/
def write {F : Type} (number : F → String) (line : Line F) : String :=
  line.level.name ++ ": " ++ line.text number

end Line

end Ranging

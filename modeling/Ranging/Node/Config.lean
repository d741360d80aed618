import Ranging.Radio.Settings

/-!
# Node configuration

What a node is set up with: its address, the ranging scheme, the settings of
its radio, its antenna delays and the times of an exchange. All of it is fixed
when the node is deployed.
-/

namespace Ranging

/-- The antenna delays, in ticks. -/
structure AntennaDelay where
  /-- What the transceiver subtracts from the time of a reception. -/
  receive : UInt16
  /-- What the transceiver adds to the time of a transmission. -/
  send : UInt16
deriving DecidableEq

namespace AntennaDelay

/-- The antenna delay of the reference hardware, in both directions. -/
def reference : UInt16 := 16436

/-- The antenna delays of the reference hardware. -/
def default : AntennaDelay := ⟨reference, reference⟩

end AntennaDelay

/-- The delays and timeouts of an exchange. Those that the transceiver observes
are in UWB microseconds, those that the node observes in microseconds. -/
structure Timeouts where
  /-- Initiator: the transceiver waits this long after a Poll before it listens. -/
  responseDelay : UInt32
  /-- Initiator: the transceiver listens this long for a Response. -/
  responseTimeout : UInt16
  /-- Responder: the transceiver listens this long for a Poll. -/
  pollTimeout : UInt16
  /-- Responder: the time from the reception of a Poll to its Response. -/
  replyDelay : UInt16
  /-- Initiator: the node waits this long for a Response. -/
  responseWait : UInt32
  /-- Responder: the node waits this long for a Poll. -/
  pollWait : UInt32
  /-- The node waits this long for a transmission to end. -/
  sendWait : UInt32
  /-- The node reads the status register this often while it waits. -/
  statusInterval : UInt32
deriving DecidableEq

namespace Timeouts

/-- The times measured on the reference hardware. -/
def default : Timeouts where
  responseDelay := 140 + 800
  responseTimeout := 210
  pollTimeout := 65535
  replyDelay := 330 + 800
  responseWait := 10000
  pollWait := 80000
  sendWait := 5000
  statusInterval := 10

end Timeouts

/-- The configuration of a node. -/
structure Config where
  /-- The network that frames are sent in and accepted from. -/
  pan : UInt16
  addr : UInt16
  scheme : Scheme
  /-- The settings of the physical layer. -/
  radio : RadioSettings
  antennaDelay : AntennaDelay
  /-- The times of an exchange. -/
  timeouts : Timeouts
  /-- The only initiator that a responder answers; any one if there is none. -/
  acceptFrom : Option UInt16
deriving DecidableEq

namespace Config

/-- The network of a node that is not given another one. -/
def defaultPan : UInt16 := 0xDECA

/-- A configuration for single-sided ranging at an address. -/
def standard (pan addr : UInt16) : Config where
  pan := pan
  addr := addr
  scheme := .singleSided
  radio := RadioSettings.ofScheme .singleSided
  antennaDelay := AntennaDelay.default
  timeouts := Timeouts.default
  acceptFrom := none

end Config

/-- The configuration of the positioning cycle, in milliseconds. -/
structure CycleConfig where
  /-- The time from the start of one cycle to the start of the next. -/
  period : UInt32
  /-- The pause after every exchange of a cycle. -/
  exchangeGap : UInt32
deriving DecidableEq

namespace CycleConfig

/-- Five cycles a second. -/
def default : CycleConfig := ⟨200, 10⟩

end CycleConfig

end Ranging

import Ranging.Clock.Slot
import Ranging.Radio.Settings
import Ranging.Radio.Status

/-!
# Requests to the transceiver

A node works its transceiver through sixteen requests. `Request` is the type of
all of them with their arguments, and `Request.Answer` says what each returns
when it succeeds. Every request may also fail with an error of the driver,
which is not fixed here.

A request to read a frame asks for a number of bytes and is answered by exactly
that many, so the length of what was read needs no second check.
-/

namespace Ranging

/-- The bytes of a frame of known length. -/
abbrev Frame (length : Nat) : Type := { bytes : List UInt8 // bytes.length = length }

/-- When a transmission starts. -/
inductive SendTime where
  /-- As soon as possible. -/
  | now
  /-- At the beginning of a slot. -/
  | delayed (slot : UInt32)
deriving DecidableEq

/-- What came of the start of a transmission. -/
inductive SendStart where
  /-- The frame is being sent or will be. -/
  | started
  /-- The slot had passed already and nothing is sent. -/
  | tooLate
deriving DecidableEq

/-- A request to the transceiver. -/
inductive Request where
  /-- Reset the chip and apply the settings. -/
  | powerUp (settings : RadioSettings)
  /-- Set the antenna delays, in ticks. -/
  | setAntennaDelay (receive send : UInt16)
  /-- Set the addresses that the frame filter lets through. -/
  | setAddress (pan addr : UInt16)
  | readStatus
  | clearStatus (flags : Status)
  | resetReceiver
  /-- Set the time after which a reception is given up, in UWB microseconds. -/
  | setReceiveTimeout (micros : UInt16)
  /-- Set the pause between a transmission and the reception of its answer, in
  UWB microseconds. -/
  | setReceiveDelay (micros : UInt32)
  | enableReceiver
  | frameLength
  /-- Read the first bytes of the received frame. -/
  | frameBytes (length : Nat)
  /-- Store the frame that is sent next. -/
  | storeFrame (frame : List UInt8)
  /-- Start sending the stored frame, and receiving after it if an answer is
  expected. -/
  | send (time : SendTime) (answerExpected : Bool)
  | sendTime
  | receiveTime
  /-- Read the carrier integrator of the last reception. -/
  | carrierIntegrator
deriving DecidableEq

namespace Request

/-- What a request returns when it succeeds. -/
@[reducible] def Answer : Request → Type
  | powerUp _ => Unit
  | setAntennaDelay _ _ => Unit
  | setAddress _ _ => Unit
  | readStatus => Status
  | clearStatus _ => Unit
  | resetReceiver => Unit
  | setReceiveTimeout _ => Unit
  | setReceiveDelay _ => Unit
  | enableReceiver => Unit
  | frameLength => Nat
  | frameBytes length => Frame length
  | storeFrame _ => Unit
  | send _ _ => SendStart
  | sendTime => Instant
  | receiveTime => Instant
  | carrierIntegrator => Int32

end Request

end Ranging

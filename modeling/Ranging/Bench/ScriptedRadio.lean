import Ranging.Bench.Operation
import Ranging.Radio.Device

/-!
# The scripted radio

On the bench the programs of a node run on a radio whose behaviour is written
down beforehand. A script lists the receptions that the receiver meets with one
after the other, the calls that fail, the transmissions that are too late, the
number of calls after which the radio hangs, and the readings of the clock.

Turning on the receiver, directly or after a transmission, goes on to the next
reception and to the first of its status words. Every successful reading of the
status register goes on to the next word, and the last word stays.
-/

namespace Ranging

/-- What the receiver meets with after it was turned on. -/
structure Reception where
  /-- The status words that are read one after the other. -/
  status : List UInt32
  frame : List UInt8
  /-- The length that is reported for the frame. -/
  length : Nat
  /-- The register with the time of the last reception. -/
  received : UInt64
  /-- The register with the time of the last transmission. -/
  sent : UInt64
  carrier : Int32

namespace Reception

/-- Nothing is received. -/
def blank : Reception := ⟨[], [], 0, 0, 0, 0⟩

end Reception

/-- Which calls of an operation fail, counted from zero. -/
inductive Fault where
  /-- The calls with the given numbers. -/
  | calls (numbers : List Nat)
  /-- The first calls. -/
  | first (count : Nat)

namespace Fault

/-- Whether the call with a number fails. -/
def hits : Fault → Nat → Bool
  | calls numbers, number => numbers.contains number
  | first count, number => decide (number < count)

end Fault

/-- The behaviour of a radio, written down beforehand. -/
structure Script where
  /-- The receptions, in order. -/
  receptions : List Reception
  /-- The faults of each operation. -/
  faults : List (Operation × Fault)
  /-- The numbers of the transmissions that are too late. -/
  late : List Nat
  /-- The number of calls after which the radio hangs. -/
  budget : Option Nat
  /-- The readings of the clock, in order. -/
  uptime : List UInt32

/-- A scripted radio in the course of a run. -/
structure ScriptedRadio where
  /-- What is left of the script. -/
  script : Script
  /-- What the receiver met with last. -/
  current : Reception
  /-- The status words that have not been read. -/
  status : List UInt32
  /-- How often each operation was called. -/
  counts : List (Operation × Nat)

namespace ScriptedRadio

def start (script : Script) : ScriptedRadio :=
  ⟨script, .blank, [], []⟩

/-- Turn on the receiver. -/
def arm (radio : ScriptedRadio) : ScriptedRadio :=
  let next := radio.script.receptions.headD .blank
  { radio with
    script := { radio.script with receptions := radio.script.receptions.tail }
    current := next
    status := next.status }

/-- The status word that is read next, and the radio after reading it. -/
def nextStatus (radio : ScriptedRadio) : Status × ScriptedRadio :=
  match radio.status with
  | [] => (.empty, radio)
  | [last] => (⟨last⟩, radio)
  | word :: rest => (⟨word⟩, { radio with status := rest })

/-- The given number of bytes of a frame, filled up with zeros. -/
def bytesOf (frame : List UInt8) (length : Nat) : Frame length :=
  ⟨(frame ++ List.replicate length 0).take length, by simp⟩

/-- The number of the next call of an operation, and the radio after it. -/
def count (radio : ScriptedRadio) (operation : Operation) : Nat × ScriptedRadio :=
  let number := (radio.counts.lookup operation).getD 0
  let others := radio.counts.filter fun entry => entry.1 != operation
  (number, { radio with counts := (operation, number + 1) :: others })

/-- Whether the call of an operation with a number fails. -/
def fails (radio : ScriptedRadio) (operation : Operation) (number : Nat) : Bool :=
  radio.script.faults.any fun entry => entry.1 == operation && entry.2.hits number

/-- The answer to a request that does not fail, with the number of the call. -/
def serve (radio : ScriptedRadio) (number : Nat) :
    (request : Request) → request.Answer × ScriptedRadio
  | .powerUp _ => ((), radio)
  | .setAntennaDelay _ _ => ((), radio)
  | .setAddress _ _ => ((), radio)
  | .readStatus => radio.nextStatus
  | .clearStatus _ => ((), radio)
  | .resetReceiver => ((), radio)
  | .setReceiveTimeout _ => ((), radio)
  | .setReceiveDelay _ => ((), radio)
  | .enableReceiver => ((), radio.arm)
  | .frameLength => (radio.current.length, radio)
  | .frameBytes length => (bytesOf radio.current.frame length, radio)
  | .storeFrame _ => ((), radio)
  | .send _ answerExpected =>
      if radio.script.late.contains number then (.tooLate, radio)
      else if answerExpected then (.started, radio.arm)
      else (.started, radio)
  | .sendTime => (Instant.ofRegister radio.current.sent, radio)
  | .receiveTime => (Instant.ofRegister radio.current.received, radio)
  | .carrierIntegrator => (radio.current.carrier, radio)

/-- The radio with one call of its budget spent, none if there is none left. -/
def spend? (radio : ScriptedRadio) : Option ScriptedRadio :=
  match radio.script.budget with
  | none => some radio
  | some 0 => none
  | some (left + 1) => some { radio with script := { radio.script with budget := some left } }

def answer (request : Request) (radio : ScriptedRadio) :
    Option (Except Operation request.Answer × ScriptedRadio) := do
  let radio ← radio.spend?
  let (number, radio) := radio.count request.operation
  if radio.fails request.operation number then some (.error request.operation, radio)
  else
    let (answer, radio) := radio.serve number request
    some (.ok answer, radio)

/-- The next reading of the clock. -/
def clock (radio : ScriptedRadio) : Option (UInt32 × ScriptedRadio) :=
  match radio.script.uptime with
  | [] => none
  | now :: rest => some (now, { radio with script := { radio.script with uptime := rest } })

/-- The scripted radio as a device, on which no time passes by itself. -/
def device : Device Operation ScriptedRadio where
  answer := answer
  elapse _ radio := radio
  clock := clock

end ScriptedRadio

end Ranging

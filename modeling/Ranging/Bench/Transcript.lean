import Ranging.Bench.Operation
import Ranging.Error
import Ranging.Log
import Ranging.Number.Bits
import Ranging.Radio.Device
import Ranging.Text.Hex
import Ranging.Text.Quoted

/-!
# Transcripts

A transcript is the text of what a program did on the bench: one line for each
call, in order. Reading the status register in a wait, and initializing the
transceiver again and again, is summed up in one line together with the pauses
in between. The log is a list of lines of its own, in which a line that is
repeated is written once with the number of its repetitions.
-/

namespace Ranging

/-- A line of a transcript. -/
inductive Entry where
  /-- A call with its text. -/
  | call (text : String) (failed : Bool)
  /-- A wait for a status flag. -/
  | wait (reads micros : Nat) (failed : Bool)
  /-- The initialization of the transceiver. -/
  | powerUp (settings : String) (calls failures millis : Nat)
  | pause (millis : Nat)

namespace Transcript

/-- The text of a truth value. -/
def boolText (b : Bool) : String := if b then "true" else "false"

/-- The text of the settings that a transceiver is initialized with. -/
def settingsText (settings : RadioSettings) : String :=
  Named.name settings.channel ++ "/" ++ Named.name settings.bitrate

/-- The arguments of a request. -/
def arguments : Request → List String
  | .powerUp settings => [settingsText settings]
  | .setAntennaDelay receive send => [toString receive.toNat, toString send.toNat]
  | .setAddress pan addr => [toString pan.toNat, toString addr.toNat]
  | .readStatus => []
  | .clearStatus flags => [toString flags.bits.toNat]
  | .resetReceiver => []
  | .setReceiveTimeout micros => [toString micros.toNat]
  | .setReceiveDelay micros => [toString micros.toNat]
  | .enableReceiver => []
  | .frameLength => []
  | .frameBytes length => [toString length]
  | .storeFrame frame => [hexOfBytes frame]
  | .send .now answerExpected => ["now", boolText answerExpected]
  | .send (.delayed slot) answerExpected =>
      ["delayed", toString slot.toNat, boolText answerExpected]
  | .sendTime => []
  | .receiveTime => []
  | .carrierIntegrator => []

/-- The text of a request: its operation and its arguments. -/
def requestText (request : Request) : String :=
  String.intercalate " " (Named.name request.operation :: arguments request)

/-- One more for a failure. -/
def failureCount (failed : Bool) : Nat := if failed then 1 else 0

/-- A transcript, the last line first, with one more call. -/
def addCall (request : Request) (failed : Bool) (entries : List Entry) : List Entry :=
  match request, entries with
  | .readStatus, .wait reads micros before :: rest =>
      .wait (reads + 1) micros (before || failed) :: rest
  | .readStatus, entries => .wait 1 0 failed :: entries
  | .powerUp _, .powerUp text calls failures millis :: rest =>
      .powerUp text (calls + 1) (failures + failureCount failed) millis :: rest
  | .powerUp settings, entries =>
      .powerUp (settingsText settings) 1 (failureCount failed) 0 :: entries
  | request, entries => .call (requestText request) failed :: entries

/-- A transcript, the last line first, with one more pause. -/
def addPause (length : Pause) (entries : List Entry) : List Entry :=
  match length, entries with
  | .micros count, .wait reads micros failed :: rest =>
      .wait reads (micros + count.toNat) failed :: rest
  | .micros count, entries => .wait 0 count.toNat false :: entries
  | .millis count, .powerUp settings calls failures millis :: rest =>
      .powerUp settings calls failures (millis + count.toNat) :: rest
  | .millis count, entries => .pause count.toNat :: entries

/-- A transcript, the last line first, with one more event. -/
def add {L ε : Type} (entries : List Entry) : Event L ε → List Entry
  | .call request (.ok _) => addCall request false entries
  | .call request (.error _) => addCall request true entries
  | .pause length => addPause length entries
  | .log _ => entries

def ofEvents {L ε : Type} (events : List (Event L ε)) : List Entry :=
  (events.foldl add []).reverse

/-- The mark of a failure behind a line. -/
def failureMark (failed : Bool) : String := if failed then " !" else ""

def entryText : Entry → String
  | .call text failed => text ++ failureMark failed
  | .wait reads micros failed =>
      "wait reads=" ++ toString reads ++ " delay_us=" ++ toString micros ++ failureMark failed
  | .powerUp settings calls failures millis =>
      Named.name Operation.powerUp ++ " " ++ settings ++ " n=" ++ toString calls ++ " failed=" ++
        toString failures ++ " delay_ms=" ++ toString millis
  | .pause millis => "delay_ms " ++ toString millis

def calls {L ε : Type} (events : List (Event L ε)) : List String :=
  (ofEvents events).map entryText

def loggedLines {L ε : Type} (events : List (Event L ε)) : List L :=
  events.filterMap fun event =>
    match event with
    | .log line => some line
    | _ => none

/-- Lines with their numbers of repetitions, before lines that are counted
already. -/
def countRepeated : List String → List (String × Nat)
  | [] => []
  | line :: rest =>
      match countRepeated rest with
      | (next, count) :: others =>
          if line = next then (next, count + 1) :: others
          else (line, 1) :: (next, count) :: others
      | [] => [(line, 1)]

/-- The text of a line with its number of repetitions. -/
def repeatedText (line : String × Nat) : String :=
  if line.2 = 1 then line.1 else line.1 ++ " x" ++ toString line.2

def logText (lines : List (Line Float)) : List String :=
  (countRepeated (lines.map (Line.write bitsText))).map repeatedText

def log {ε : Type} (events : List (Event (Line Float) ε)) : List String :=
  logText (loggedLines events)

/-- The text of a failure on the bench. -/
def errorText (error : Error Operation) : String :=
  error.message fun operation => quoted (Named.name operation)

end Transcript

end Ranging

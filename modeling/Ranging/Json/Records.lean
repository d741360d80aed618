import Ranging.Clock.Instant
import Ranging.Json.Codec
import Ranging.Node.Config
import Ranging.Position.Basic
import Ranging.Radio.Carrier
import Ranging.Tracker.Location

/-!
# The records of a deployment

The codecs of all data that are stored or exchanged: times, the configuration of
a node with its parts, positions, anchors, fixes and locations. A time is a bare
number of ticks, which is not checked against the width of the counter.
-/

namespace Ranging

namespace Json

open Codec (encode decode?)

instance : Codec Instant where
  encode i := encode i.ticks
  decode? v := (decode? v).map Instant.mk

instance : Codec Duration where
  encode d := encode d.ticks
  decode? v := (decode? v).map Duration.mk

instance : Codec Scheme where
  encode a := .string (Named.name a)
  decode? := Codec.choice?

instance : Codec Bitrate where
  encode a := .string (Named.name a)
  decode? := Codec.choice?

instance : Codec PulseRate where
  encode a := .string (Named.name a)
  decode? := Codec.choice?

instance : Codec PreambleLength where
  encode a := .string (Named.name a)
  decode? := Codec.choice?

instance : Codec ChunkSize where
  encode a := .string (Named.name a)
  decode? := Codec.choice?

instance : Codec Delimiter where
  encode a := .string (Named.name a)
  decode? := Codec.choice?

instance : Codec Channel where
  encode a := .string (Named.name a)
  decode? := Codec.choice?

instance : Codec AntennaDelay where
  encode d := .object [("rx", encode d.receive), ("tx", encode d.send)]
  decode? v := do
    match ← Codec.fields? ["rx", "tx"] v with
    | [receive, send] => return ⟨← decode? receive, ← decode? send⟩
    | _ => none

/-- The names of the fields of a `Timeouts` record. -/
def timeoutsFields : List String :=
  ["poll_tx_to_resp_rx_uus", "resp_rx_timeout_uus", "poll_rx_timeout_uus",
    "poll_rx_to_resp_tx_uus", "response_wait_us", "poll_wait_us", "tx_done_wait_us",
    "status_poll_interval_us"]

instance : Codec Timeouts where
  encode t :=
    .object (timeoutsFields.zip
      [encode t.responseDelay, encode t.responseTimeout, encode t.pollTimeout,
        encode t.replyDelay, encode t.responseWait, encode t.pollWait, encode t.sendWait,
        encode t.statusInterval])
  decode? v := do
    match ← Codec.fields? timeoutsFields v with
    | [responseDelay, responseTimeout, pollTimeout, replyDelay, responseWait, pollWait, sendWait,
        statusInterval] =>
        return {
          responseDelay := ← decode? responseDelay
          responseTimeout := ← decode? responseTimeout
          pollTimeout := ← decode? pollTimeout
          replyDelay := ← decode? replyDelay
          responseWait := ← decode? responseWait
          pollWait := ← decode? pollWait
          sendWait := ← decode? sendWait
          statusInterval := ← decode? statusInterval }
    | _ => none

/-- The names of the fields of a `RadioSettings` record. -/
def radioFields : List String :=
  ["channel", "pulse_repetition_frequency", "preamble_length", "pac_size", "tx_preamble_code",
    "rx_preamble_code", "sfd_sequence", "bitrate", "sfd_timeout", "frame_filtering"]

instance : Codec RadioSettings where
  encode r :=
    .object (radioFields.zip
      [encode r.channel, encode r.pulseRate, encode r.preambleLength, encode r.chunkSize,
        encode r.sendCode, encode r.receiveCode, encode r.delimiter, encode r.bitrate,
        encode r.delimiterTimeout, encode r.frameFiltering])
  decode? v := do
    match ← Codec.fields? radioFields v with
    | [channel, pulseRate, preambleLength, chunkSize, sendCode, receiveCode, delimiter, bitrate,
        delimiterTimeout, frameFiltering] =>
        return {
          channel := ← decode? channel
          pulseRate := ← decode? pulseRate
          preambleLength := ← decode? preambleLength
          chunkSize := ← decode? chunkSize
          sendCode := ← decode? sendCode
          receiveCode := ← decode? receiveCode
          delimiter := ← decode? delimiter
          bitrate := ← decode? bitrate
          delimiterTimeout := ← decode? delimiterTimeout
          frameFiltering := ← decode? frameFiltering }
    | _ => none

/-- The names of the fields of a `Config` record. -/
def configFields : List String :=
  ["pan_id", "addr", "mode", "radio", "antenna_delay", "timeouts", "accept_from"]

instance : Codec Config where
  encode c :=
    .object (configFields.zip
      [encode c.pan, encode c.addr, encode c.scheme, encode c.radio, encode c.antennaDelay,
        encode c.timeouts, encode c.acceptFrom])
  decode? v := do
    match ← Codec.fields? configFields v with
    | [pan, addr, scheme, radio, antennaDelay, timeouts, acceptFrom] =>
        return {
          pan := ← decode? pan
          addr := ← decode? addr
          scheme := ← decode? scheme
          radio := ← decode? radio
          antennaDelay := ← decode? antennaDelay
          timeouts := ← decode? timeouts
          acceptFrom := ← decode? acceptFrom }
    | _ => none

instance : Codec CycleConfig where
  encode c := .object [("period_ms", encode c.period), ("exchange_gap_ms", encode c.exchangeGap)]
  decode? v := do
    match ← Codec.fields? ["period_ms", "exchange_gap_ms"] v with
    | [period, exchangeGap] => return ⟨← decode? period, ← decode? exchangeGap⟩
    | _ => none

instance {F : Type} [Codec F] : Codec (Position F) where
  encode p := .object [("x", encode p.x), ("y", encode p.y), ("z", encode p.z)]
  decode? v := do
    match ← Codec.fields? ["x", "y", "z"] v with
    | [x, y, z] => return ⟨← decode? x, ← decode? y, ← decode? z⟩
    | _ => none

instance {F : Type} [Codec F] : Codec (Anchor F) where
  encode a := .object [("addr", encode a.addr), ("pos", encode a.pos)]
  decode? v := do
    match ← Codec.fields? ["addr", "pos"] v with
    | [addr, pos] => return ⟨← decode? addr, ← decode? pos⟩
    | _ => none

instance {F : Type} [Codec F] : Codec (Fix F) where
  encode f := .object [("pos", encode f.pos), ("error", encode f.error)]
  decode? v := do
    match ← Codec.fields? ["pos", "error"] v with
    | [pos, error] => return ⟨← decode? pos, ← decode? error⟩
    | _ => none

instance : Codec Location where
  encode l :=
    .object [("x", encode l.x), ("y", encode l.y), ("z", encode l.z), ("err", encode l.error)]
  decode? v := do
    match ← Codec.fields? ["x", "y", "z", "err"] v with
    | [x, y, z, error] => return ⟨← decode? x, ← decode? y, ← decode? z, ← decode? error⟩
    | _ => none

instance {F : Type} [Codec F] : Codec (CarrierOffset F) where
  encode o := .object [("f_offset_hz", encode o.hertz), ("f_offset_ppm", encode o.millionths)]
  decode? v := do
    match ← Codec.fields? ["f_offset_hz", "f_offset_ppm"] v with
    | [hertz, millionths] => return ⟨← decode? hertz, ← decode? millionths⟩
    | _ => none

end Json

end Ranging

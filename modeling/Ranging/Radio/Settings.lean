import Ranging.Radio.Scheme
import Ranging.Text.Named

/-!
# Radio settings

The settings of the physical layer, which both ends of an exchange share: the
alternatives for each of them, what follows from a channel and from a preamble
length, and the settings that suit a ranging scheme.
-/

namespace Ranging

/-- The data rate of a transmission. -/
inductive Bitrate where
  /-- 110 kilobits per second, beyond what the standard asks for. -/
  | kbps110
  | kbps850
  | kbps6800
deriving DecidableEq

instance : Named Bitrate where
  all := [.kbps110, .kbps850, .kbps6800]
  name
    | .kbps110 => "Kbps110"
    | .kbps850 => "Kbps850"
    | .kbps6800 => "Kbps6800"
  find?_name a := by cases a <;> rfl

/-- The pulse repetition frequency. -/
inductive PulseRate where
  | mhz16
  | mhz64
deriving DecidableEq

instance : Named PulseRate where
  all := [.mhz16, .mhz64]
  name
    | .mhz16 => "Mhz16"
    | .mhz64 => "Mhz64"
  find?_name a := by cases a <;> rfl

/-- The length of the preamble. A long one is received more reliably and from farther
away, at the cost of airtime and power. -/
inductive PreambleLength where
  | symbols64
  | symbols128
  | symbols256
  | symbols512
  | symbols1024
  | symbols1536
  | symbols2048
  | symbols4096
deriving DecidableEq

instance : Named PreambleLength where
  all :=
    [.symbols64, .symbols128, .symbols256, .symbols512, .symbols1024, .symbols1536, .symbols2048,
      .symbols4096]
  name
    | .symbols64 => "Symbols64"
    | .symbols128 => "Symbols128"
    | .symbols256 => "Symbols256"
    | .symbols512 => "Symbols512"
    | .symbols1024 => "Symbols1024"
    | .symbols1536 => "Symbols1536"
    | .symbols2048 => "Symbols2048"
    | .symbols4096 => "Symbols4096"
  find?_name a := by cases a <;> rfl

/-- The size of the chunks in which a preamble is acquired. -/
inductive ChunkSize where
  | symbols8
  | symbols16
  | symbols32
  | symbols64
deriving DecidableEq

instance : Named ChunkSize where
  all := [.symbols8, .symbols16, .symbols32, .symbols64]
  name
    | .symbols8 => "Symbols8"
    | .symbols16 => "Symbols16"
    | .symbols32 => "Symbols32"
    | .symbols64 => "Symbols64"
  find?_name a := by cases a <;> rfl

/-- The symbol sequence that delimits the start of a frame. -/
inductive Delimiter where
  /-- The sequence of the standard. -/
  | ieee
  /-- A longer sequence, beyond the standard, that is found more reliably. -/
  | decawave
deriving DecidableEq

instance : Named Delimiter where
  all := [.ieee, .decawave]
  name
    | .ieee => "Ieee"
    | .decawave => "Decawave"
  find?_name a := by cases a <;> rfl

/-- The channels that the transceiver supports. -/
inductive Channel where
  /-- Centre frequency 3494.4 MHz. -/
  | channel1
  /-- Centre frequency 3993.6 MHz. -/
  | channel2
  /-- Centre frequency 4492.8 MHz. -/
  | channel3
  /-- Centre frequency 3993.6 MHz, wide band. -/
  | channel4
  /-- Centre frequency 6489.6 MHz. -/
  | channel5
  /-- Centre frequency 6489.6 MHz, wide band. -/
  | channel7
deriving DecidableEq

instance : Named Channel where
  all := [.channel1, .channel2, .channel3, .channel4, .channel5, .channel7]
  name
    | .channel1 => "Channel1"
    | .channel2 => "Channel2"
    | .channel3 => "Channel3"
    | .channel4 => "Channel4"
    | .channel5 => "Channel5"
    | .channel7 => "Channel7"
  find?_name a := by cases a <;> rfl

namespace Channel

/-- The centre frequency of a channel, in hertz. -/
def centerHz : Channel → UInt64
  | channel1 => 3494400000
  | channel2 => 3993600000
  | channel3 => 4492800000
  | channel4 => 3993600000
  | channel5 => 6489600000
  | channel7 => 6489600000

/-- The preamble code that suits a channel and a pulse repetition frequency. -/
def preambleCode : Channel → PulseRate → UInt8
  | channel1, .mhz16 => 1
  | channel2, .mhz16 => 3
  | channel3, .mhz16 => 5
  | channel4, .mhz16 => 7
  | channel5, .mhz16 => 4
  | channel7, .mhz16 => 8
  | channel4, .mhz64 => 17
  | channel7, .mhz64 => 17
  | _, .mhz64 => 9

end Channel

namespace PreambleLength

/-- The acquisition chunk size that suits a preamble length. -/
def chunkSize : PreambleLength → ChunkSize
  | symbols64 => .symbols8
  | symbols128 => .symbols8
  | symbols256 => .symbols16
  | symbols512 => .symbols16
  | symbols1024 => .symbols32
  | symbols1536 => .symbols64
  | symbols2048 => .symbols64
  | symbols4096 => .symbols64

end PreambleLength

/-- The settings of the physical layer. -/
structure RadioSettings where
  /-- The channel to transmit and listen on. -/
  channel : Channel
  /-- The pulse repetition frequency. -/
  pulseRate : PulseRate
  /-- The preamble length of transmissions. -/
  preambleLength : PreambleLength
  /-- The acquisition chunk size of receptions. -/
  chunkSize : ChunkSize
  /-- The preamble code of transmissions. -/
  sendCode : UInt8
  /-- The preamble code of receptions. -/
  receiveCode : UInt8
  /-- The start-of-frame delimiter. -/
  delimiter : Delimiter
  /-- The data rate. -/
  bitrate : Bitrate
  /-- The symbols after which a reception without delimiter is given up. -/
  delimiterTimeout : UInt16
  /-- Whether frames for other nodes are dropped by the transceiver. -/
  frameFiltering : Bool
deriving DecidableEq

namespace RadioSettings

/-- The settings that suit a ranging scheme. Single-sided ranging keeps the
exchange short, since the clocks drift apart during the reply; double-sided
ranging gives airtime for range. The delimiter is given up after the preamble
and the delimiter, less one chunk. -/
def ofScheme : Scheme → RadioSettings
  | .singleSided =>
      { channel := .channel2
        pulseRate := .mhz64
        preambleLength := .symbols128
        chunkSize := .symbols8
        sendCode := Channel.preambleCode .channel2 .mhz64
        receiveCode := Channel.preambleCode .channel2 .mhz64
        delimiter := .ieee
        bitrate := .kbps6800
        delimiterTimeout := 129 + 8 - 8
        frameFiltering := true }
  | .doubleSided =>
      { channel := .channel2
        pulseRate := .mhz64
        preambleLength := .symbols1024
        chunkSize := .symbols32
        sendCode := Channel.preambleCode .channel2 .mhz64
        receiveCode := Channel.preambleCode .channel2 .mhz64
        delimiter := .decawave
        bitrate := .kbps110
        delimiterTimeout := 1025 + 64 - 32
        frameFiltering := true }

end RadioSettings

end Ranging

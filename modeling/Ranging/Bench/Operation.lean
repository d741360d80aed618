import Ranging.Radio.Request
import Ranging.Text.Named

/-!
# Operations of the bench

On the bench a request is known by its operation, which is the request without
its arguments. Faults are set per operation, and an operation that fails reports
itself as the error of the driver.
-/

namespace Ranging

/-- A request without its arguments. -/
inductive Operation where
  | powerUp
  | setAntennaDelay
  | setAddress
  | readStatus
  | clearStatus
  | resetReceiver
  | setReceiveTimeout
  | setReceiveDelay
  | enableReceiver
  | frameLength
  | frameBytes
  | storeFrame
  | send
  | sendTime
  | receiveTime
  | carrierIntegrator
deriving DecidableEq

instance : Named Operation where
  all :=
    [.powerUp, .setAntennaDelay, .setAddress, .readStatus, .clearStatus, .resetReceiver,
      .setReceiveTimeout, .setReceiveDelay, .enableReceiver, .frameLength, .frameBytes,
      .storeFrame, .send, .sendTime, .receiveTime, .carrierIntegrator]
  name
    | .powerUp => "initialize"
    | .setAntennaDelay => "set_antenna_delay"
    | .setAddress => "set_address"
    | .readStatus => "read_status"
    | .clearStatus => "clear_status"
    | .resetReceiver => "rx_reset"
    | .setReceiveTimeout => "set_rx_timeout"
    | .setReceiveDelay => "set_rx_after_tx_delay"
    | .enableReceiver => "enable_rx"
    | .frameLength => "rx_frame_len"
    | .frameBytes => "read_rx_data"
    | .storeFrame => "write_tx_data"
    | .send => "start_tx"
    | .sendTime => "tx_timestamp"
    | .receiveTime => "rx_timestamp"
    | .carrierIntegrator => "carrier_integrator"
  find?_name a := by cases a <;> rfl

def Request.operation : Request → Operation
  | powerUp _ => .powerUp
  | setAntennaDelay _ _ => .setAntennaDelay
  | setAddress _ _ => .setAddress
  | readStatus => .readStatus
  | clearStatus _ => .clearStatus
  | resetReceiver => .resetReceiver
  | setReceiveTimeout _ => .setReceiveTimeout
  | setReceiveDelay _ => .setReceiveDelay
  | enableReceiver => .enableReceiver
  | frameLength => .frameLength
  | frameBytes _ => .frameBytes
  | storeFrame _ => .storeFrame
  | send _ _ => .send
  | sendTime => .sendTime
  | receiveTime => .receiveTime
  | carrierIntegrator => .carrierIntegrator

end Ranging

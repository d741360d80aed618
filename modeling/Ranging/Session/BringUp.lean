import Ranging.Session.Basic

/-!
# Bringing up a node

The transceiver may not answer right after it is powered up. Its initialization
is tried again every ten milliseconds until two seconds have passed; then its
antenna delays and its address are set.
-/

namespace Ranging

namespace Session

/-- How long initialization is tried again, in milliseconds. -/
def powerUpWindow : Nat := 2000

/-- The pause between two tries, in milliseconds. -/
def powerUpPause : Nat := 10

/-- Initialize the transceiver, of the time for which a part has passed. -/
def powerUpFrom {F ε : Type} (settings : RadioSettings) (waited : Nat) :
    SessionAttempt F ε Unit := do
  match ← Attempt.lift (Attempt.powerUp settings).run with
  | .ok _ => return ()
  | .error _ =>
      if _h : waited < powerUpWindow then
        log .powerUpFailed
        Attempt.lift (Program.pauseMillis (UInt32.ofNat powerUpPause))
        powerUpFrom settings (waited + powerUpPause)
      else
        log (.powerUpGivenUp powerUpWindow)
        throw .initializationFailure
termination_by powerUpWindow - waited
decreasing_by
  simp only [powerUpWindow, powerUpPause] at *
  omega

/-- Initialize the transceiver and set its antenna delays and its address. -/
def bringUp {F ε : Type} : SessionAttempt F ε Unit := do
  let config ← getConfig
  powerUpFrom config.radio 0
  Attempt.setAntennaDelay config.antennaDelay.receive config.antennaDelay.send
  Attempt.setAddress config.pan config.addr
  log (.ready config.pan config.addr)

end Session

end Ranging

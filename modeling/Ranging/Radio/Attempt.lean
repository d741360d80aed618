import Ranging.Error
import Ranging.Radio.Program

/-!
# Attempts

An `Attempt` is a program that may end in an `Error` instead of a value. It
stops at the first error, so what follows a failed request is not carried out.
-/

namespace Ranging

/-- A program that may fail. -/
abbrev Attempt (L ε σ : Type) : Type → Type :=
  ExceptT (Error ε) (Program L ε σ)

namespace Attempt

/-- Make a request and take what is wanted from its answer. The attempt fails if
the request does. -/
def ask {L ε σ α : Type} (request : Request) (read : request.Answer → α) : Attempt L ε σ α :=
  ExceptT.mk (.step (.call request) fun result : Except ε request.Answer =>
    match result with
    | .ok answer => pure (.ok (read answer))
    | .error cause => pure (.error (.radio cause)))

/-- Carry out a program as an attempt, which cannot fail. -/
def lift {L ε σ α : Type} (program : Program L ε σ α) : Attempt L ε σ α :=
  ExceptT.lift program

/-- What follows a request is carried out with what was taken from its answer,
and not at all if the request fails. -/
theorem run_ask_bind {L ε σ α β : Type} (request : Request) (read : request.Answer → α)
    (rest : α → Attempt L ε σ β) :
    (ask request read >>= rest).run =
      .step (.call request) fun result : Except ε request.Answer =>
        match result with
        | .ok answer => (rest (read answer)).run
        | .error cause => pure (.error (.radio cause)) := by
  change Program.step _ _ = Program.step _ _
  congr 1
  funext result
  cases result with
  | ok answer => rfl
  | error cause => rfl

/-- What follows a program that cannot fail is carried out with its value. -/
theorem run_lift_bind {L ε σ α β : Type} (program : Program L ε σ α)
    (rest : α → Attempt L ε σ β) :
    (lift program >>= rest).run = program >>= fun value => (rest value).run := by
  simp [lift]

/-- Initialize the transceiver. -/
def powerUp {L ε σ : Type} (settings : RadioSettings) : Attempt L ε σ Unit :=
  ask (.powerUp settings) id

def setAntennaDelay {L ε σ : Type} (receive send : UInt16) : Attempt L ε σ Unit :=
  ask (.setAntennaDelay receive send) id

/-- Set the addresses of the frame filter. -/
def setAddress {L ε σ : Type} (pan addr : UInt16) : Attempt L ε σ Unit :=
  ask (.setAddress pan addr) id

def readStatus {L ε σ : Type} : Attempt L ε σ Status :=
  ask .readStatus id

def clearStatus {L ε σ : Type} (flags : Status) : Attempt L ε σ Unit :=
  ask (.clearStatus flags) id

def resetReceiver {L ε σ : Type} : Attempt L ε σ Unit :=
  ask .resetReceiver id

/-- Set the time after which a reception is given up. -/
def setReceiveTimeout {L ε σ : Type} (micros : UInt16) : Attempt L ε σ Unit :=
  ask (.setReceiveTimeout micros) id

/-- Set the pause between a transmission and the reception of its answer. -/
def setReceiveDelay {L ε σ : Type} (micros : UInt32) : Attempt L ε σ Unit :=
  ask (.setReceiveDelay micros) id

def enableReceiver {L ε σ : Type} : Attempt L ε σ Unit :=
  ask .enableReceiver id

/-- Read the length of the received frame. -/
def frameLength {L ε σ : Type} : Attempt L ε σ Nat :=
  ask .frameLength id

/-- Read the first bytes of the received frame. -/
def frameBytes {L ε σ : Type} (length : Nat) : Attempt L ε σ (List UInt8) :=
  ask (.frameBytes length) Subtype.val

/-- Store the frame that is sent next. -/
def storeFrame {L ε σ : Type} (frame : List UInt8) : Attempt L ε σ Unit :=
  ask (.storeFrame frame) id

/-- Start sending the stored frame. -/
def send {L ε σ : Type} (time : SendTime) (answerExpected : Bool) : Attempt L ε σ SendStart :=
  ask (.send time answerExpected) id

/-- Read the time of the last transmission. -/
def sendTime {L ε σ : Type} : Attempt L ε σ Instant :=
  ask .sendTime id

/-- Read the time of the last reception. -/
def receiveTime {L ε σ : Type} : Attempt L ε σ Instant :=
  ask .receiveTime id

/-- Read the carrier integrator of the last reception. -/
def carrierIntegrator {L ε σ : Type} : Attempt L ε σ Int32 :=
  ask .carrierIntegrator id

/-- The attempt to produce a value that may be missing for a reason. -/
def ofExcept {L ε σ α : Type} : Except (Error ε) α → Attempt L ε σ α
  | .ok value => pure value
  | .error error => throw error

/-- Run an attempt whose state is a part of a larger state. -/
def zoom {L ε σ τ α : Type} (part : τ → σ) (replace : σ → τ → τ) (attempt : Attempt L ε σ α) :
    Attempt L ε τ α :=
  ExceptT.mk (Program.zoom part replace attempt.run)

end Attempt

end Ranging

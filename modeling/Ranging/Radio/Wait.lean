import Ranging.Radio.Attempt

/-!
# Waiting for a status flag

The only waiting that a node does is for a flag of the status register. The
register is read once at first and then once after every interval, until a flag
shows up or the intervals waited make up the timeout. An interval of zero
counts as one microsecond, so that the wait comes to an end.

The time waited so far is a 32-bit number of microseconds that stays at its
largest value when it would exceed it. It reaches the timeout all the same.
-/

namespace Ranging

/-- The sum of two 32-bit numbers, or the largest such number if that is less. -/
def saturatingAdd (a b : UInt32) : UInt32 :=
  UInt32.ofNat (min (a.toNat + b.toNat) 0xffffffff)

theorem toNat_saturatingAdd (a b : UInt32) :
    (saturatingAdd a b).toNat = min (a.toNat + b.toNat) 0xffffffff := by
  simp only [saturatingAdd, UInt32.toNat_ofNat']
  exact Nat.mod_eq_of_lt (by omega)

namespace Attempt

/-- Read the status register once. There is a result if any of the given flags
is set. -/
def pollStatus {L ε σ : Type} (flags : Status) : Attempt L ε σ (Option Status) := do
  let status ← readStatus
  return if status.intersects flags then some status else none

/-- The interval between two readings of the status register. -/
def effectiveInterval (interval : UInt32) : UInt32 :=
  if interval = 0 then 1 else interval

theorem toNat_effectiveInterval (interval : UInt32) :
    (effectiveInterval interval).toNat = max interval.toNat 1 := by
  unfold effectiveInterval
  split
  · next h => subst h; rfl
  · next h =>
      have hpos : interval.toNat ≠ 0 := fun hzero => h (UInt32.toNat_inj.1 hzero)
      omega

/-- Wait for any of the given flags, of a time of which a part has passed. -/
def awaitStatusFrom {L ε σ : Type} (flags : Status) (timeout interval : UInt32)
    (waited : UInt32) : Attempt L ε σ Status := do
  match ← pollStatus flags with
  | some status => return status
  | none =>
      if _h : timeout.toNat ≤ waited.toNat then throw .timeout
      else
        lift (Program.pauseMicros (effectiveInterval interval))
        awaitStatusFrom flags timeout interval (saturatingAdd waited (effectiveInterval interval))
termination_by timeout.toNat - waited.toNat
decreasing_by
  have hlt := timeout.toNat_lt
  have hstep := toNat_effectiveInterval interval
  rw [toNat_saturatingAdd]
  omega

/-- Wait until any of the given flags is set, for about `timeout` microseconds,
reading the status register every `interval` microseconds. -/
def awaitStatus {L ε σ : Type} (flags : Status) (timeout interval : UInt32) :
    Attempt L ε σ Status :=
  awaitStatusFrom flags timeout interval 0

end Attempt

end Ranging

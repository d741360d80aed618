import Ranging.Log
import Ranging.Tracker.Location

/-!
# The queue of fixes

Fixes go downstream through a queue with room for three of them, so that a slow
transport does not hold up ranging. A fix that finds the queue full is dropped.
Draining offers every queued fix to the transport once, oldest first; one that
the transport refuses is dropped as well.
-/

namespace Ranging

/-- The number of slots of a queue. One of them always stays free. -/
def queueSlots : Nat := 4

/-- The number of fixes that a queue has room for. -/
def queueCapacity : Nat := queueSlots - 1

/-- The fixes that wait for the transport, the oldest first. -/
structure FixQueue (F : Type) where
  fixes : List (Fix F)
  /-- There is room for all of them. -/
  length_le : fixes.length ≤ queueCapacity

namespace FixQueue

def empty {F : Type} : FixQueue F := ⟨[], Nat.zero_le _⟩

/-- The number of waiting fixes. -/
def size {F : Type} (queue : FixQueue F) : Nat := queue.fixes.length

/-- The queue with one more fix, if there is room for it. -/
def push? {F : Type} (queue : FixQueue F) (fix : Fix F) : Option (FixQueue F) :=
  if room : queue.fixes.length < queueCapacity then
    some ⟨queue.fixes ++ [fix], by rw [List.length_append]; exact room⟩
  else none

@[simp] theorem fixes_empty {F : Type} : (empty : FixQueue F).fixes = [] := rfl

/-- A fix that is taken goes to the end of the queue. -/
theorem fixes_push? {F : Type} {queue queue' : FixQueue F} {fix : Fix F}
    (h : queue.push? fix = some queue') : queue'.fixes = queue.fixes ++ [fix] := by
  unfold push? at h
  split at h
  · cases h
    rfl
  · cases h

/-- A fix is refused just when the queue is full. -/
theorem push?_eq_none_iff {F : Type} (queue : FixQueue F) (fix : Fix F) :
    queue.push? fix = none ↔ queue.fixes.length = queueCapacity := by
  have h := queue.length_le
  unfold push?
  split
  · next room => simp; omega
  · next room => simp; omega

/-- The oldest fix and the queue without it, if a fix waits. -/
def pop? {F : Type} (queue : FixQueue F) : Option (Fix F × FixQueue F) :=
  queue.fixes.head?.map fun fix => (fix, ⟨queue.fixes.tail, by
    have hlength := queue.length_le
    rw [List.length_tail]
    omega⟩)

theorem pop?_eq_none_iff {F : Type} (queue : FixQueue F) :
    queue.pop? = none ↔ queue.fixes = [] := by
  rw [pop?, Option.map_eq_none_iff, List.head?_eq_none_iff]

/-- A fix that is taken off was the first of the queue. -/
theorem fixes_of_pop? {F : Type} {queue rest : FixQueue F} {fix : Fix F}
    (h : queue.pop? = some (fix, rest)) : queue.fixes = fix :: rest.fixes := by
  obtain ⟨fixes, hlength⟩ := queue
  cases fixes with
  | nil => cases h
  | cons first later =>
      cases h
      rfl

end FixQueue

/-- What came of offering fixes to the transport. -/
structure Drained (F : Type) where
  /-- The locations offered, in order. -/
  offered : List Location
  /-- The number of locations taken. -/
  sent : Nat
  /-- The lines logged. -/
  log : List (Line F)

namespace Drained

/-- Nothing was offered yet. -/
def start {F : Type} : Drained F := ⟨[], 0, []⟩

/-- Offer one more location to the transport. `accepts` says whether it takes the
location with a number, counted from zero. -/
def offer {F : Type} (accepts : Nat → Location → Bool) (drained : Drained F)
    (location : Location) : Drained F :=
  if accepts drained.offered.length location then
    ⟨drained.offered ++ [location], drained.sent + 1,
      drained.log ++ [.published location.x location.y location.z]⟩
  else ⟨drained.offered ++ [location], drained.sent, drained.log ++ [.publishFailed]⟩

@[simp] theorem offered_offer {F : Type} (accepts : Nat → Location → Bool) (drained : Drained F)
    (location : Location) :
    (drained.offer accepts location).offered = drained.offered ++ [location] := by
  rw [offer]
  split <;> rfl

theorem sent_offer {F : Type} (accepts : Nat → Location → Bool) (drained : Drained F)
    (location : Location) :
    (drained.offer accepts location).sent =
      drained.sent + if accepts drained.offered.length location then 1 else 0 := by
  rw [offer]
  split <;> rfl

end Drained

namespace FixQueue

/-- Take fixes off the queue and offer them to the transport until none is left. -/
def drainFrom {F : Type} [Scalar F] (accepts : Nat → Location → Bool) (drained : Drained F)
    (queue : FixQueue F) : Drained F × FixQueue F :=
  match _ : queue.pop? with
  | none => (drained, queue)
  | some (fix, rest) => drainFrom accepts (drained.offer accepts (Location.ofFix fix)) rest
termination_by queue.size
decreasing_by
  rename_i hpop
  rw [size, size, fixes_of_pop? hpop]
  exact Nat.lt_succ_self _

/-- Offer all queued fixes to the transport. -/
def drain {F : Type} [Scalar F] (queue : FixQueue F) (accepts : Nat → Location → Bool) :
    Drained F × FixQueue F :=
  drainFrom accepts .start queue

end FixQueue

end Ranging

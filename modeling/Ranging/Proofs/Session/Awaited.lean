import Ranging.Proofs.Session.Reception

/-!
# What the wait for a frame brings

Both roles wait for one frame in an exchange. `Received` lists what such a wait can bring, and
`Awaited.Brings` says how the events of an exchange tell which of these it was: from the first
status within the wait that ends the reception, the length that was told and the bytes that were
taken out. The events never tell two of them (`Awaited.Brings.unique`), and what stands before and
after the reception does not change what they tell.

A status counts only within the wait. One that is read after the wait had to be over does not make
up for it.
-/

namespace Ranging

/-! ## Readings within a wait -/

section Within

variable {L ε : Type} {flags : Status} {timeout interval : UInt32}
  {before events after : List (Event L ε)}

/-- The first status word that shows any of the given flags, among those that a wait has the time to
read. It reads once more than it pauses. -/
def shownWithin (flags : Status) (timeout interval : UInt32) (events : List (Event L ε)) :
    Option Status :=
  ((statusesRead events).take (waitPauses timeout interval 0 + 1)).find? (·.intersects flags)

/-- If nothing is read after the wait, all readings are within it. -/
theorem shownWithin_eq_firstShowing
    (h : (statusesRead events).length ≤ waitPauses timeout interval 0 + 1) :
    shownWithin flags timeout interval events = firstShowing flags events := by
  rw [shownWithin, List.take_of_length_le h, firstShowing]

/-- A wait that went by has shown nothing. -/
theorem shownWithin_of_expired {misses : List Status} {last : Status}
    (hmisses : ∀ miss ∈ misses, miss.intersects flags = false)
    (hlength : misses.length = waitPauses timeout interval 0)
    (hlast : last.intersects flags = false) :
    shownWithin flags timeout interval
      (missEvents interval misses ++ [.call .readStatus (.ok last)] : List (Event L ε)) = none := by
  have hreads : statusesRead (missEvents interval misses ++ [.call .readStatus (.ok last)] :
      List (Event L ε)) = misses ++ [last] := by simp
  rw [shownWithin_eq_firstShowing (by simp [hreads, hlength])]
  refine firstShowing_eq_none _ _ ?_
  rw [hreads]
  exact List.forall_mem_append.2 ⟨hmisses, List.forall_mem_singleton.2 hlast⟩

/-- A wait that ends with a status has shown this one first. -/
theorem shownWithin_of_shown {misses : List Status} {status : Status}
    (hreads : statusesRead events = misses ++ [status])
    (hmisses : ∀ miss ∈ misses, miss.intersects flags = false)
    (hlength : misses.length ≤ waitPauses timeout interval 0)
    (hshown : status.intersects flags = true) :
    shownWithin flags timeout interval events = some status := by
  have hwithin : (statusesRead events).length ≤ waitPauses timeout interval 0 + 1 := by
    rw [hreads, List.length_append]
    exact Nat.add_le_add_right hlength 1
  rw [shownWithin_eq_firstShowing hwithin]
  exact firstShowing_eq_some _ misses status _ hreads hmisses hshown

theorem shownWithin_of_nil (h : statusesRead events = []) :
    shownWithin flags timeout interval events = none := by
  rw [shownWithin, h, List.take_nil, List.find?_nil]

theorem shownWithin_behind (h : statusesRead before = []) :
    shownWithin flags timeout interval (before ++ events) =
      shownWithin flags timeout interval events := by
  rw [shownWithin, statusesRead_append, h, List.nil_append, shownWithin]

theorem shownWithin_followed (h : statusesRead after = []) :
    shownWithin flags timeout interval (events ++ after) =
      shownWithin flags timeout interval events := by
  rw [shownWithin, statusesRead_append, h, List.append_nil, shownWithin]

/-- What is read after a status was shown does not change which one was the first. -/
theorem shownWithin_append_of_eq_some {status : Status}
    (h : shownWithin flags timeout interval events = some status) :
    shownWithin flags timeout interval (events ++ after) = some status := by
  rw [shownWithin] at h
  rw [shownWithin, statusesRead_append, List.take_append, List.find?_append, h, Option.some_or]

end Within

/-- What the wait for a frame of a given length can bring. -/
inductive Received (size : Nat) where
  /-- The wait went by. -/
  | nothing
  /-- The reception ended without a good frame. -/
  | garbled
  | mislengthed (actual : Nat)
  | frame (frame : Frame size)

/-- The frame that a node waits for in an exchange. -/
structure Awaited where
  wait : UInt32
  interval : UInt32
  size : Nat
  mask : Mask
  template : List UInt8

section Brings

variable {L ε : Type} {awaited : Awaited} {events : List (Event L ε)}

namespace Awaited

/-- The status that ended the reception, if there was one within the wait. -/
def ending (awaited : Awaited) (events : List (Event L ε)) : Option Status :=
  shownWithin Status.receiveDone awaited.wait awaited.interval events

/-- The reception ended within the wait, with a good frame or without one. -/
def Ended (awaited : Awaited) (events : List (Event L ε)) (good : Bool) : Prop :=
  ∃ status, awaited.ending events = some status ∧ status.contains Status.received = good

/-- The events tell what the wait for the frame has brought. -/
def Brings (awaited : Awaited) (events : List (Event L ε)) : Received awaited.size → Prop
  | .nothing => awaited.ending events = none
  | .garbled => awaited.Ended events false
  | .mislengthed actual =>
      awaited.Ended events true ∧ answersTo .frameLength events = [.ok actual] ∧
        actual ≠ awaited.size
  | .frame frame =>
      awaited.Ended events true ∧ answersTo .frameLength events = [.ok awaited.size] ∧
        answersTo (.frameBytes awaited.size) events = [.ok frame]

/-- The frame agrees with the template. -/
def accepts (awaited : Awaited) (frame : Frame awaited.size) : Bool :=
  awaited.mask.accepts awaited.template frame.val

/-- The error to which it leads that a wait brings this. -/
def refusal (awaited : Awaited) : Received awaited.size → Option (Error ε)
  | .nothing | .garbled => some .timeout
  | .mislengthed actual => some (.lengthMismatch awaited.size actual)
  | .frame frame => if awaited.accepts frame then none else some .contentMismatch

theorem refusal_of_accepts {frame : Frame awaited.size} (h : awaited.accepts frame = true) :
    awaited.refusal (.frame frame) = (none : Option (Error ε)) :=
  if_pos h

theorem refusal_of_rejects {frame : Frame awaited.size} (h : awaited.accepts frame = false) :
    awaited.refusal (.frame frame) = some (.contentMismatch : Error ε) :=
  if_neg (Bool.eq_false_iff.1 h)

/-! ## The events tell one thing only -/

theorem Ended.ending_ne_none {good : Bool} (h : awaited.Ended events good) :
    awaited.ending events ≠ none := by
  obtain ⟨status, hending, -⟩ := h
  rw [hending]
  exact Option.some_ne_none status

theorem Ended.unique {good good' : Bool} (h : awaited.Ended events good)
    (h' : awaited.Ended events good') : good = good' := by
  obtain ⟨status, hending, rfl⟩ := h
  obtain ⟨status', hending', rfl⟩ := h'
  rw [hending] at hending'
  cases hending'
  rfl

/-- The events never tell two things of a reception. -/
theorem Brings.unique {received received' : Received awaited.size}
    (h : awaited.Brings events received) (h' : awaited.Brings events received') :
    received = received' := by
  cases received with
  | nothing =>
    cases received' with
    | nothing => rfl
    | garbled => exact absurd h (Ended.ending_ne_none h')
    | mislengthed actual => exact absurd h h'.1.ending_ne_none
    | frame frame => exact absurd h h'.1.ending_ne_none
  | garbled =>
    cases received' with
    | nothing => exact absurd h' (Ended.ending_ne_none h)
    | garbled => rfl
    | mislengthed actual => cases Ended.unique h h'.1
    | frame frame => cases Ended.unique h h'.1
  | mislengthed actual =>
    cases received' with
    | nothing => exact absurd h' h.1.ending_ne_none
    | garbled => cases Ended.unique h.1 h'
    | mislengthed actual' =>
      have hlengths := h.2.1.symm.trans h'.2.1
      cases hlengths
      rfl
    | frame frame =>
      have hlengths := h.2.1.symm.trans h'.2.1
      cases hlengths
      exact absurd rfl h.2.2
  | frame frame =>
    cases received' with
    | nothing => exact absurd h' h.1.ending_ne_none
    | garbled => cases Ended.unique h.1 h'
    | mislengthed actual =>
      have hlengths := h.2.1.symm.trans h'.2.1
      cases hlengths
      exact absurd rfl h'.2.2
    | frame frame' =>
      have hframes := h.2.2.symm.trans h'.2.2
      cases hframes
      rfl

/-- If no status is read, the wait brings nothing. -/
theorem Brings.eq_nothing {received : Received awaited.size} (h : awaited.Brings events received)
    (hreads : statusesRead events = []) : received = .nothing :=
  h.unique (shownWithin_of_nil hreads : awaited.Brings events .nothing)

end Awaited

end Brings

/-! ## Receptions among other events -/

section Surrounded

variable {L ε : Type} {awaited : Awaited} {before events after : List (Event L ε)}

/-- No frame of the given length is taken out of the transceiver. -/
structure NoFrame (size : Nat) (events : List (Event L ε)) : Prop where
  no_length : answersTo .frameLength events = []
  no_bytes : answersTo (.frameBytes size) events = []

theorem NoFrame.append {size : Nat} (hbefore : NoFrame size before) (hafter : NoFrame size after) :
    NoFrame size (before ++ after) where
  no_length := by rw [answersTo_append, hbefore.no_length, hafter.no_length, List.append_nil]
  no_bytes := by rw [answersTo_append, hbefore.no_bytes, hafter.no_bytes, List.append_nil]

namespace Awaited

theorem Ended.behind {good : Bool} (h : awaited.Ended events good)
    (hbefore : statusesRead before = []) : awaited.Ended (before ++ events) good := by
  obtain ⟨status, hending, hgood⟩ := h
  exact ⟨status, (shownWithin_behind hbefore).trans hending, hgood⟩

theorem Ended.followed {good : Bool} (h : awaited.Ended events good) :
    awaited.Ended (events ++ after) good := by
  obtain ⟨status, hending, hgood⟩ := h
  exact ⟨status, shownWithin_append_of_eq_some hending, hgood⟩

/-- Before the wait, nothing is told of the frame. -/
theorem Brings.behind {received : Received awaited.size} (h : awaited.Brings events received)
    (hreads : statusesRead before = []) (hbefore : NoFrame awaited.size before) :
    awaited.Brings (before ++ events) received := by
  cases received with
  | nothing => exact (shownWithin_behind hreads).trans h
  | garbled => exact Ended.behind h hreads
  | mislengthed actual =>
    refine ⟨h.1.behind hreads, ?_, h.2.2⟩
    rw [answersTo_append, hbefore.no_length, List.nil_append, h.2.1]
  | frame frame =>
    refine ⟨h.1.behind hreads, ?_, ?_⟩
    · rw [answersTo_append, hbefore.no_length, List.nil_append, h.2.1]
    · rw [answersTo_append, hbefore.no_bytes, List.nil_append, h.2.2]

/-- After the wait, nothing is told of the frame, and if the wait went by no status is read. -/
theorem Brings.followed {received : Received awaited.size} (h : awaited.Brings events received)
    (hreads : received = .nothing → statusesRead after = [])
    (hafter : NoFrame awaited.size after) : awaited.Brings (events ++ after) received := by
  cases received with
  | nothing => exact (shownWithin_followed (hreads rfl)).trans h
  | garbled => exact Ended.followed h
  | mislengthed actual =>
    refine ⟨h.1.followed, ?_, h.2.2⟩
    rw [answersTo_append, hafter.no_length, List.append_nil, h.2.1]
  | frame frame =>
    refine ⟨h.1.followed, ?_, ?_⟩
    · rw [answersTo_append, hafter.no_length, List.append_nil, h.2.1]
    · rw [answersTo_append, hafter.no_bytes, List.append_nil, h.2.2]

/-- A reception that is turned down tells what leads to its error. -/
theorem exists_brings_of_receptionRefusal (awaited : Awaited) {error : Error ε}
    (h : ReceptionRefusal awaited.interval awaited.wait awaited.size events error) :
    ∃ received, awaited.Brings events received ∧ awaited.refusal received = some error := by
  cases h with
  | silent misses last hmisses hlength hlast =>
    exact ⟨.nothing, shownWithin_of_expired hmisses hlength hlast, rfl⟩
  | garbled misses status lines hmisses hlength hdone hbad =>
    exact ⟨.garbled, ⟨status, shownWithin_of_shown (by simp) hmisses hlength hdone, hbad⟩, rfl⟩
  | mislengthed misses status actual hheard hactual =>
    refine ⟨.mislengthed actual, ⟨⟨status, ?_, hheard.good⟩, by simp, hactual⟩, rfl⟩
    exact shownWithin_of_shown (by simp) hheard.not_done hheard.in_time hheard.done

/-- A reception in which a frame is taken out brings this frame, if no other is taken out later. -/
theorem brings_receptionEvents_append (awaited : Awaited) {misses : List Status} {status : Status}
    (hheard : FrameHeard awaited.interval awaited.wait misses status) (frame : Frame awaited.size)
    (hafter : NoFrame awaited.size after) :
    awaited.Brings (receptionEvents awaited.interval misses status frame ++ after)
      (.frame frame) := by
  refine Brings.followed ⟨⟨status, ?_, hheard.good⟩, ?_, ?_⟩ (fun h => by cases h) hafter
  · exact shownWithin_of_shown (by simp) hheard.not_done hheard.in_time hheard.done
  · simp [receptionEvents]
  · simp [receptionEvents]

end Awaited

end Surrounded

end Ranging

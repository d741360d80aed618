import Ranging.Proofs.Run.FailStop
import Ranging.Radio.Wait

/-!
# What a wait can come to

A wait reads the status register until a flag shows up. Before the reading that
ends it stand the misses, each followed by a pause, and there are at most
`waitPauses` of them: as many intervals as it takes to make up the timeout. The
last reading shows a flag, or it is a miss as well after all the pauses, or it
fails.

The time waited is kept at its largest value instead of wrapping. No timeout is
larger, so the number of intervals that are missing is not changed by that; this
is `waitPauses_saturatingAdd`, which the induction over the wait rests on.
-/

namespace Ranging

/-- How often a wait pauses at most, when a part of its time has passed. -/
def waitPauses (timeout interval waited : UInt32) : Nat :=
  (timeout.toNat - waited.toNat + (max interval.toNat 1 - 1)) / max interval.toNat 1

/-- The events of the readings that a wait goes on after. -/
def missEvents {L ε : Type} (interval : UInt32) (misses : List Status) : List (Event L ε) :=
  misses.flatMap fun miss =>
    [.call .readStatus (.ok miss), .pause (.micros (Attempt.effectiveInterval interval))]

/-- What a wait with at most `limit` pauses can come to. -/
inductive WaitOutcome {L ε : Type} (flags : Status) (interval : UInt32) (limit : Nat) :
    List (Event L ε) → Except (Error ε) Status → Prop where
  | shown (misses : List Status) (status : Status) :
      (∀ miss ∈ misses, miss.intersects flags = false) → misses.length ≤ limit →
      status.intersects flags = true →
      WaitOutcome flags interval limit
        (missEvents interval misses ++ [.call .readStatus (.ok status)]) (.ok status)
  /-- No flag showed up in time. -/
  | expired (misses : List Status) (last : Status) :
      (∀ miss ∈ misses, miss.intersects flags = false) → misses.length = limit →
      last.intersects flags = false →
      WaitOutcome flags interval limit
        (missEvents interval misses ++ [.call .readStatus (.ok last)]) (.error .timeout)
  /-- A reading failed. -/
  | broken (misses : List Status) (cause : ε) :
      (∀ miss ∈ misses, miss.intersects flags = false) → misses.length ≤ limit →
      WaitOutcome flags interval limit
        (missEvents interval misses ++ [.call .readStatus (.error cause)]) (.error (.radio cause))

theorem waitPauses_eq_zero (timeout interval waited : UInt32)
    (h : timeout.toNat ≤ waited.toNat) : waitPauses timeout interval waited = 0 := by
  have hzero : timeout.toNat - waited.toNat = 0 := by omega
  rw [waitPauses, hzero, Nat.zero_add]
  exact Nat.div_eq_of_lt (by omega)

/-- Every pause brings the wait one interval closer to its end. -/
theorem waitPauses_saturatingAdd (timeout interval waited : UInt32)
    (h : ¬timeout.toNat ≤ waited.toNat) :
    waitPauses timeout interval waited =
      waitPauses timeout interval
        (saturatingAdd waited (Attempt.effectiveInterval interval)) + 1 := by
  have hlt := timeout.toNat_lt
  have hleft : timeout.toNat -
        (saturatingAdd waited (Attempt.effectiveInterval interval)).toNat =
      timeout.toNat - waited.toNat - max interval.toNat 1 := by
    rw [toNat_saturatingAdd, Attempt.toNat_effectiveInterval]
    omega
  have hpos : 0 < max interval.toNat 1 := by omega
  rw [waitPauses, waitPauses, hleft]
  generalize max interval.toNat 1 = i at hpos
  generalize hd : timeout.toNat - waited.toNat = d
  have hd_pos : 0 < d := by omega
  by_cases hle : d ≤ i
  · have hzero : d - i + (i - 1) = i - 1 := by omega
    have hone : d + (i - 1) = d - 1 + i := by omega
    rw [hzero, hone, Nat.add_div_right _ hpos, Nat.div_eq_of_lt (by omega),
      Nat.div_eq_of_lt (by omega)]
  · have hsplit : d + (i - 1) = d - i + (i - 1) + i := by omega
    rw [hsplit, Nat.add_div_right _ hpos]

/-- What holds of successful readings and of pauses holds of all misses. -/
theorem forall_mem_missEvents {L ε : Type} (P : Event L ε → Prop) (interval : UInt32)
    (misses : List Status) (hread : ∀ status, P (.call .readStatus (.ok status)))
    (hpause : ∀ length, P (.pause length)) : ∀ event ∈ missEvents interval misses, P event := by
  intro event hmem
  obtain ⟨miss, -, hmem⟩ := List.mem_flatMap.1 hmem
  rcases List.mem_cons.1 hmem with rfl | hmem
  · exact hread miss
  · rw [List.mem_singleton.1 hmem]
    exact hpause _

theorem not_isSend_missEvents {L ε : Type} (interval : UInt32) (misses : List Status) :
    ∀ event ∈ (missEvents interval misses : List (Event L ε)), event.isSend = false :=
  forall_mem_missEvents (·.isSend = false) interval misses (fun _ => rfl) fun _ => rfl

@[simp] theorem missEvents_cons {L ε : Type} (interval : UInt32) (miss : Status)
    (misses : List Status) :
    (missEvents interval (miss :: misses) : List (Event L ε)) =
      .call .readStatus (.ok miss) ::
        .pause (.micros (Attempt.effectiveInterval interval)) :: missEvents interval misses := rfl

@[simp] theorem statusesRead_missEvents {L ε : Type} (interval : UInt32) (misses : List Status) :
    statusesRead (missEvents interval misses : List (Event L ε)) = misses := by
  induction misses with
  | nil => rfl
  | cons miss misses ih => rw [missEvents_cons, statusesRead_ok, statusesRead_pause, ih]

@[simp] theorem answersTo_missEvents {L ε : Type} (request : Request) (interval : UInt32)
    (misses : List Status) (h : .readStatus ≠ request) :
    answersTo request (missEvents interval misses : List (Event L ε)) = [] := by
  induction misses with
  | nil => rfl
  | cons miss misses ih =>
      rw [missEvents_cons, answersTo_call_of_ne _ _ _ _ h, answersTo_pause, ih]

@[simp] theorem framesStored_missEvents {L ε : Type} (interval : UInt32) (misses : List Status) :
    framesStored (missEvents interval misses : List (Event L ε)) = [] := by
  induction misses with
  | nil => rfl
  | cons miss misses ih =>
      rw [missEvents_cons, framesStored_call_of_ne .readStatus _ _ fun _ => nofun,
        framesStored_pause, ih]

namespace WaitOutcome

variable {L ε : Type}

/-- One more miss in front of a wait. -/
theorem cons (flags : Status) (interval : UInt32) (limit : Nat) (miss : Status)
    (events : List (Event L ε)) (result : Except (Error ε) Status)
    (hmiss : miss.intersects flags = false)
    (h : WaitOutcome flags interval limit events result) :
    WaitOutcome flags interval (limit + 1)
      (.call .readStatus (.ok miss) ::
        .pause (.micros (Attempt.effectiveInterval interval)) :: events) result := by
  have hcons : ∀ misses : List Status, (∀ other ∈ misses, other.intersects flags = false) →
      ∀ other ∈ miss :: misses, other.intersects flags = false := by
    intro misses hmisses other hmem
    rcases List.mem_cons.1 hmem with rfl | hmem
    · exact hmiss
    · exact hmisses other hmem
  cases h with
  | shown misses status hmisses hlength hstatus =>
      exact .shown (miss :: misses) status (hcons misses hmisses) (Nat.succ_le_succ hlength) hstatus
  | expired misses last hmisses hlength hlast =>
      exact .expired (miss :: misses) last (hcons misses hmisses) (congrArg _ hlength) hlast
  | broken misses cause hmisses hlength =>
      exact .broken (miss :: misses) cause (hcons misses hmisses) (Nat.succ_le_succ hlength)

/-- Whatever a wait comes to, it has done nothing but read the register and pause. -/
theorem exists_events_eq (flags : Status) (interval : UInt32) (limit : Nat)
    (events : List (Event L ε)) (result : Except (Error ε) Status)
    (h : WaitOutcome flags interval limit events result) :
    ∃ misses answer, events = missEvents interval misses ++ [.call .readStatus answer] := by
  cases h with
  | shown misses status _ _ _ => exact ⟨misses, .ok status, rfl⟩
  | expired misses last _ _ _ => exact ⟨misses, .ok last, rfl⟩
  | broken misses cause _ _ => exact ⟨misses, .error cause, rfl⟩

end WaitOutcome

namespace Attempt

variable {L ε σ : Type}

/-- A reading of the register fails, or it shows one of the flags, or it shows none. -/
theorem cases_of_ends_pollStatus (flags : Status) (s : σ) (events : List (Event L ε))
    (result : Except (Error ε) (Option Status)) (t : σ)
    (h : (pollStatus flags : Attempt L ε σ (Option Status)).ends s events result t) :
    t = s ∧ ((∃ cause, events = [.call .readStatus (.error cause)] ∧
        result = .error (.radio cause)) ∨
      (∃ status, events = [.call .readStatus (.ok status)] ∧ status.intersects flags = true ∧
        result = .ok (some status)) ∨
      ∃ status, events = [.call .readStatus (.ok status)] ∧ status.intersects flags = false ∧
        result = .ok none) := by
  rw [pollStatus, readStatus, ends_ask_bind] at h
  rcases h with ⟨cause, rfl, rfl, rfl⟩ | ⟨status, tail, rfl, rfl, rfl, rfl⟩
  · exact ⟨rfl, .inl ⟨cause, rfl, rfl⟩⟩
  · refine ⟨rfl, .inr ?_⟩
    cases hshown : status.intersects flags with
    | true => exact .inl ⟨status, rfl, hshown, by rw [id_eq, hshown, if_pos rfl]⟩
    | false => exact .inr ⟨status, rfl, hshown, by rw [id_eq, hshown, if_neg Bool.false_ne_true]⟩

/-- The outcome of a wait of which a part has passed. -/
theorem outcome_awaitStatusFrom (flags : Status) (timeout interval waited : UInt32) (s : σ)
    (events : List (Event L ε)) (result : Except (Error ε) Status) (t : σ)
    (h : (awaitStatusFrom flags timeout interval waited).ends s events result t) :
    t = s ∧ WaitOutcome flags interval (waitPauses timeout interval waited) events result := by
  have hnil : ∀ miss ∈ ([] : List Status), miss.intersects flags = false :=
    fun _ hmem => absurd hmem List.not_mem_nil
  induction waited using awaitStatusFrom.induct timeout interval generalizing events with
  | case1 waited ih =>
      rw [awaitStatusFrom, ends_bind] at h
      rcases h with ⟨e, hread, rfl⟩ | ⟨first, second, shown, u, rfl, hread, hrest⟩
      · obtain ⟨rfl, ⟨cause, rfl, he⟩ | ⟨status, -, -, he⟩ | ⟨status, -, -, he⟩⟩ :=
          cases_of_ends_pollStatus flags s _ _ t hread <;> cases he
        exact ⟨rfl, .broken [] cause hnil (Nat.zero_le _)⟩
      · obtain ⟨rfl, ⟨cause, rfl, he⟩ | ⟨status, rfl, hshown, he⟩ | ⟨status, rfl, hmiss, he⟩⟩ :=
          cases_of_ends_pollStatus flags s _ _ u hread <;> cases he
        · obtain ⟨rfl, rfl, rfl⟩ := hrest
          exact ⟨rfl, .shown [] status hnil (Nat.zero_le _) hshown⟩
        · by_cases hover : timeout.toNat ≤ waited.toNat
          · simp only [dif_pos hover] at hrest
            obtain ⟨rfl, rfl, rfl⟩ := hrest
            rw [waitPauses_eq_zero timeout interval waited hover]
            exact ⟨rfl, .expired [] status hnil rfl hmiss⟩
          · simp only [dif_neg hover] at hrest
            obtain ⟨tail, rfl, htail⟩ := (ends_pause_bind _ _ _ _ _ _).1 hrest
            obtain ⟨rfl, houtcome⟩ := ih hover tail htail
            rw [waitPauses_saturatingAdd timeout interval waited hover]
            exact ⟨rfl, houtcome.cons flags interval _ status tail result hmiss⟩

theorem outcome_awaitStatus (flags : Status) (timeout interval : UInt32) (s : σ)
    (events : List (Event L ε)) (result : Except (Error ε) Status) (t : σ)
    (h : (awaitStatus flags timeout interval).ends s events result t) :
    t = s ∧ WaitOutcome flags interval (waitPauses timeout interval 0) events result :=
  outcome_awaitStatusFrom flags timeout interval 0 s events result t h

theorem failStop_awaitStatus (flags : Status) (timeout interval : UInt32) :
    (awaitStatus flags timeout interval : Attempt L ε σ Status).failStop := by
  intro s events result t h
  obtain ⟨-, houtcome⟩ := outcome_awaitStatus flags timeout interval s events result t h
  have hmisses := fun misses => forall_mem_missEvents (L := L) (ε := ε) Event.succeeds interval
    misses (fun _ => Event.succeeds_ok _ _) fun _ => Event.succeeds_pause _
  have hread : ∀ misses (status : Status) (event : Event L ε),
      event ∈ missEvents interval misses ++ [.call .readStatus (.ok status)] → event.succeeds := by
    intro misses status event hmem
    rcases List.mem_append.1 hmem with hmem | hmem
    · exact hmisses misses event hmem
    · rw [List.mem_singleton.1 hmem]
      exact Event.succeeds_ok _ _
  cases houtcome with
  | shown misses status _ _ _ => exact .inl ⟨hread misses status, nofun⟩
  | expired misses last _ _ _ => exact .inl ⟨hread misses last, nofun⟩
  | broken misses cause _ _ =>
      exact .inr ⟨missEvents interval misses, .readStatus, cause, rfl, hmisses misses, rfl⟩

end Attempt

end Ranging

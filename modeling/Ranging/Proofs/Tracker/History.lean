import Ranging.Proofs.Run.Sequence
import Ranging.Proofs.Tracker.Perform

/-!
# Positioning again and again

A tracker that finds its position a number of times goes from cycle to cycle with its
session and its last fix; nothing else of it changes. `History` says how the cycles
hang together: each ranges with the anchors nearest to the position found last, and
with those nearest to the origin as long as none was found.
-/

namespace Ranging

namespace Tracker

variable {F ε : Type} [Scalar F]

/-- Find the position of the node a number of times, and return what came of it each time. -/
def performTimes : Nat → TrackerProgram F ε (List (Except (Error ε) (Fix F)))
  | 0 => return []
  | count + 1 => do
      let result ← perform.run
      let later ← performTimes count
      return result :: later

/-- The position found last, the origin if none was found. -/
def lastPosition (results : List (Except (Error ε) (Fix F))) : Position F :=
  ((results.filterMap Except.toOption).getLast?.map Fix.pos).getD Position.origin

/-- A cycle moves the position found last as it moves the last fix of the tracker. -/
theorem lastPosition_concat (results : List (Except (Error ε) (Fix F)))
    (result : Except (Error ε) (Fix F)) :
    lastPosition (results ++ [result]) = fixAfter (lastPosition results) result := by
  cases result with
  | ok fix => simp [lastPosition, fixAfter, Except.toOption]
  | error error => simp [lastPosition, fixAfter, Except.toOption]

/-- A cycle that was carried out: what happened in it and what it came to. -/
structure Cycle (F ε : Type) where
  events : List (Event (Line F) ε)
  result : Except (Error ε) (Fix F)

/-- The cycles that a tracker may go through one after the other from a session on, and
the session afterwards. -/
inductive History (table : AnchorTable F) (gap : UInt32) (start : Session) :
    List (Cycle F ε) → Session → Prop where
  | nil : History table gap start [] start
  /-- The anchors of the next cycle are selected by the position found last. -/
  | concat {cycles : List (Cycle F ε)} {s : Session} {next : Cycle F ε} {t : Session}
      (before : History table gap start cycles s)
      (h : CycleOutcome gap (selection table (lastPosition (cycles.map Cycle.result))) s
        next.events next.result t) :
      History table gap start (cycles ++ [next]) t

/-- A tracker with the session and the last fix that cycles have left it. -/
def afterCycles (tracker : Tracker F) (cycles : List (Cycle F ε)) (session : Session) :
    Tracker F :=
  { tracker with session := session, lastFix := lastPosition (cycles.map Cycle.result) }

/-- One more cycle continues a history. -/
theorem history_perform (tracker : Tracker F) (start : Session) (cycles : List (Cycle F ε))
    (s : Session) (hcycles : History tracker.table tracker.config.exchangeGap start cycles s)
    (events : List (Event (Line F) ε)) (result : Except (Error ε) (Fix F)) (after : Tracker F)
    (h : perform.ends (tracker.afterCycles cycles s) events result after) :
    ∃ t, History tracker.table tracker.config.exchangeGap start (cycles ++ [⟨events, result⟩]) t ∧
      after = tracker.afterCycles (cycles ++ [⟨events, result⟩]) t := by
  obtain ⟨t, houtcome, rfl⟩ := outcome_perform _ _ _ _ h
  refine ⟨t, hcycles.concat houtcome, ?_⟩
  rw [afterCycles, afterCycles, List.map_append, List.map_singleton, lastPosition_concat]

/-- Any number of cycles continues a history. -/
theorem history_performTimes (tracker : Tracker F) (start : Session) (count : Nat)
    (cycles : List (Cycle F ε)) (s : Session)
    (hcycles : History tracker.table tracker.config.exchangeGap start cycles s)
    (events : List (Event (Line F) ε)) (results : List (Except (Error ε) (Fix F)))
    (after : Tracker F)
    (h : (performTimes count).endsAlong (tracker.afterCycles cycles s) events results after) :
    ∃ later t, later.length = count ∧ results = later.map Cycle.result ∧
      events = later.flatMap Cycle.events ∧
      History tracker.table tracker.config.exchangeGap start (cycles ++ later) t ∧
      after = tracker.afterCycles (cycles ++ later) t := by
  -- The cycles before the run are kept, since they decide which anchors are selected in it.
  induction count generalizing cycles s events results with
  | zero =>
      obtain ⟨rfl, rfl, rfl⟩ := h
      rw [← List.append_nil cycles] at hcycles
      exact ⟨[], s, rfl, rfl, rfl, hcycles, by rw [List.append_nil]⟩
  | succ count ih =>
      rw [performTimes, Program.endsAlong_bind] at h
      obtain ⟨first, rest, result, between, rfl, hfirst, hrest⟩ := h
      rw [Program.endsAlong_bind] at hrest
      obtain ⟨rest, none, others, _, rfl, hrest, rfl, rfl, rfl⟩ := hrest
      obtain ⟨t, hnext, rfl⟩ := history_perform _ _ _ _ hcycles _ _ _ hfirst
      obtain ⟨later, t', hlength, rfl, rfl, hlater, rfl⟩ := ih _ _ hnext _ _ hrest
      rw [List.append_assoc] at hlater ⊢
      exact ⟨⟨first, result⟩ :: later, t', congrArg Nat.succ hlength, rfl,
        by rw [List.append_nil, List.flatMap_cons], hlater, rfl⟩

end Tracker

/-- However often a tracker finds its position, and whatever the radio does, every cycle is
one of a history, and the tracker ends with the position found last. -/
theorem positioning_all_or_nothing {F ε ρ : Type} [Scalar F] (radio : Radio ε ρ) (start : ρ)
    (session : Session) (table : AnchorTable F) (config : CycleConfig) (count : Nat) :
    let tracker := Tracker.start session table config
    let run := radio.run (Tracker.performTimes count) tracker start
    ∃ cycles : List (Tracker.Cycle F ε), cycles.length = count ∧
      run.value = cycles.map Tracker.Cycle.result ∧
      run.events = cycles.flatMap Tracker.Cycle.events ∧
      Tracker.History table config.exchangeGap session cycles run.state.session ∧
      run.state = { tracker with
        session := run.state.session, lastFix := Tracker.lastPosition run.value } := by
  intro tracker run
  obtain ⟨cycles, t, hlength, hvalue, hevents, hhistory, hstate⟩ :=
    Tracker.history_performTimes tracker session count [] session .nil _ _ _
      (radio.endsAlong_run (Tracker.performTimes count) tracker start)
  have hsession : run.state.session = t := congrArg Tracker.session hstate
  refine ⟨cycles, hlength, hvalue, hevents, ?_, ?_⟩
  · rw [hsession]
    exact hhistory
  · have hresults : run.value = cycles.map Tracker.Cycle.result := hvalue
    rw [hsession, hresults]
    exact hstate

end Ranging

import Ranging.Proofs.Run.Outcome
import Ranging.Tracker.Basic

/-!
# One positioning cycle

A cycle ranges with its four anchors one after the other, and ranging stops at the
first exchange that fails: `RangesWith` says how it can go. Only a ranging that went
through is solved for a position, and it is solved with the distances that were
measured, each to its own anchor; `CycleOutcome` says what a cycle can come to. The
last fix of the tracker is replaced where a new one is found and nowhere else.
-/

namespace Ranging

theorem Quad.toList_mapM {m : Type → Type} [Monad m] [LawfulMonad m] {α β : Type} (f : α → m β)
    (q : Quad α) : Quad.toList <$> q.mapM f = q.toList.mapM f := by
  simp [Quad.mapM, Quad.toList]

namespace Attempt

variable {L ε σ α β : Type}

theorem ends_map (f : α → β) (attempt : Attempt L ε σ α) (s : σ) (events : List (Event L ε))
    (result : Except (Error ε) β) (t : σ) :
    (f <$> attempt).ends s events result t ↔
      ∃ mapped, attempt.ends s events mapped t ∧ result = mapped.map f := by
  rw [map_eq_pure_bind, ends_bind]
  constructor
  · intro h
    rcases h with ⟨e, h, rfl⟩ | ⟨first, second, x, u, rfl, h, rfl, rfl, rfl⟩
    · exact ⟨.error e, h, rfl⟩
    · rw [List.append_nil]
      exact ⟨.ok x, h, rfl⟩
  · intro h
    obtain ⟨mapped, h, rfl⟩ := h
    cases mapped with
    | error e => exact .inl ⟨e, h, rfl⟩
    | ok x => exact .inr ⟨events, [], x, t, (List.append_nil _).symm, h, rfl, rfl, rfl⟩

end Attempt

namespace Tracker

variable {F ε α : Type}

/-- How ranging with anchors, one after the other and with a gap after each, can go from
a session on: the events, the measurements or the error, and the session afterwards. -/
inductive RangesWith [Scalar F] (gap : UInt32) : List (Anchor F) → Session →
    List (Event (Line F) ε) → Except (Error ε) (List (Measurement F)) → Session → Prop where
  | done (s : Session) : RangesWith gap [] s [] (.ok []) s
  /-- The exchange with the next anchor fails, and the rest are not ranged with. -/
  | failed {anchor : Anchor F} {s : Session} {exchange : List (Event (Line F) ε)}
      {error : Error ε} {t : Session} (rest : List (Anchor F))
      (h : (Session.initiate anchor.addr).ends s exchange (.error error) t) :
      RangesWith gap (anchor :: rest) s
        (exchange ++ [.log (.anchorFailed anchor.addr error.kind)]) (.error error) t
  /-- The distance to the next anchor is measured, and then the rest are ranged with. -/
  | ranged {anchor : Anchor F} {rest : List (Anchor F)} {s u t : Session} {distance : F}
      {exchange later : List (Event (Line F) ε)}
      {result : Except (Error ε) (List (Measurement F))}
      (h : (Session.initiate anchor.addr).ends s exchange (.ok distance) u)
      (hrest : RangesWith gap rest u later result t) :
      RangesWith gap (anchor :: rest) s (exchange ++ [.pause (.millis gap)] ++ later)
        (result.map fun measurements => ⟨anchor.pos, distance⟩ :: measurements) t

/-- What a cycle can come to that ranges with four anchors from a session on. -/
inductive CycleOutcome [Scalar F] (gap : UInt32) (anchors : Quad (Anchor F)) (s : Session) :
    List (Event (Line F) ε) → Except (Error ε) (Fix F) → Session → Prop where
  /-- An exchange failed, and its error is that of the cycle. -/
  | unranged {events : List (Event (Line F) ε)} {error : Error ε} {t : Session}
      (h : RangesWith gap anchors.toList s events (.error error) t) :
      CycleOutcome gap anchors s events (.error error) t
  /-- The four measurements determine no position. -/
  | coplanar {events : List (Event (Line F) ε)} {measurements : Quad (Measurement F)}
      {t : Session} (h : RangesWith gap anchors.toList s events (.ok measurements.toList) t)
      (hsolve : Trilateration.locate? measurements = none) :
      CycleOutcome gap anchors s (events ++ [.log (coplanarLine anchors)])
        (.error .degenerateGeometry) t
  /-- The four measurements determine a position. -/
  | fixed {events : List (Event (Line F) ε)} {measurements : Quad (Measurement F)}
      {t : Session} {fix : Fix F}
      (h : RangesWith gap anchors.toList s events (.ok measurements.toList) t)
      (hsolve : Trilateration.locate? measurements = some fix) :
      CycleOutcome gap anchors s
        (events ++ [.log (.fixed fix.pos.x fix.pos.y fix.pos.z fix.error)]) (.ok fix) t

/-- The anchors that a tracker ranges with next if this is its last fix. -/
def selection [Scalar F] (table : AnchorTable F) (lastFix : Position F) : Quad (Anchor F) :=
  (table.nearest lastFix).map RankedAnchor.anchor

/-- The last fix after a cycle. -/
def fixAfter (lastFix : Position F) : Except (Error ε) (Fix F) → Position F
  | .ok fix => fix.pos
  | .error _ => lastFix

theorem isPart_session : Program.IsPart (Tracker.session (F := F)) fun session tracker =>
    { tracker with session := session } :=
  ⟨fun _ _ => rfl, fun _ => rfl, fun _ _ _ => rfl⟩

theorem ends_withSession (attempt : SessionAttempt F ε α) (tracker : Tracker F)
    (events : List (Event (Line F) ε)) (result : Except (Error ε) α) (after : Tracker F) :
    (withSession attempt).ends tracker events result after ↔
      ∃ t, attempt.ends tracker.session events result t ∧
        after = { tracker with session := t } :=
  Program.endsAlong_zoom isPart_session attempt.run tracker events result after

theorem ends_keepFix (fix : Fix F) (tracker : Tracker F) (events : List (Event (Line F) ε))
    (after : Tracker F) (h : (keepFix fix).endsAlong tracker events () after) :
    events = [.log (.fixed fix.pos.x fix.pos.y fix.pos.z fix.error)] ∧
      after = { tracker with lastFix := fix.pos } := by
  rw [keepFix, Program.modifyState_bind, Program.endsAlong_get, Program.endsAlong_set] at h
  obtain ⟨_, rfl, rfl, -, rfl⟩ := (Program.endsAlong_log _ _ _ _ _ _).1 h
  exact ⟨rfl, rfl⟩

variable [Scalar F]

/-- Ranging with an anchor is one exchange; a failure of it is logged. -/
theorem ends_rangeWith (anchor : UInt16) (tracker : Tracker F)
    (events : List (Event (Line F) ε)) (result : Except (Error ε) F) (after : Tracker F)
    (h : (rangeWith anchor).ends tracker events result after) :
    ∃ t, after = { tracker with session := t } ∧
      ((∃ distance, result = .ok distance ∧
          (Session.initiate anchor).ends tracker.session events (.ok distance) t) ∨
        ∃ error exchange, result = .error error ∧
          events = exchange ++ [.log (.anchorFailed anchor error.kind)] ∧
          (Session.initiate anchor).ends tracker.session exchange (.error error) t) := by
  rw [Attempt.ends, rangeWith, ExceptT.run_mk, Program.endsAlong_bind] at h
  obtain ⟨exchange, second, middle, u, rfl, hfirst, hsecond⟩ := h
  obtain ⟨t, hexchange, rfl⟩ := (ends_withSession _ _ _ _ _).1 hfirst
  cases middle with
  | ok distance =>
      obtain ⟨rfl, rfl, rfl⟩ := hsecond
      rw [List.append_nil]
      exact ⟨t, rfl, .inl ⟨distance, rfl, hexchange⟩⟩
  | error error =>
      obtain ⟨_, rfl, rfl, rfl, rfl⟩ := (Program.endsAlong_log _ _ _ _ _ _).1 hsecond
      exact ⟨t, rfl, .inr ⟨error, exchange, rfl, rfl, hexchange⟩⟩

theorem ends_measure (gap : UInt32) (anchor : Anchor F) (tracker : Tracker F)
    (events : List (Event (Line F) ε)) (result : Except (Error ε) (Measurement F))
    (after : Tracker F) (h : (measure gap anchor).ends tracker events result after) :
    ∃ exchange t, after = { tracker with session := t } ∧
      ((∃ distance, result = .ok ⟨anchor.pos, distance⟩ ∧
          events = exchange ++ [.pause (.millis gap)] ∧
          (Session.initiate anchor.addr).ends tracker.session exchange (.ok distance) t) ∨
        ∃ error, result = .error error ∧
          events = exchange ++ [.log (.anchorFailed anchor.addr error.kind)] ∧
          (Session.initiate anchor.addr).ends tracker.session exchange (.error error) t) := by
  rw [measure, Attempt.ends_bind] at h
  rcases h with ⟨error, h, rfl⟩ | ⟨first, second, distance, u, rfl, h, hrest⟩
  · obtain ⟨t, hafter, ⟨_, hresult, -⟩ | ⟨_, exchange, hresult, rfl, hexchange⟩⟩ :=
      ends_rangeWith _ _ _ _ _ h
    · cases hresult
    · cases hresult
      exact ⟨exchange, t, hafter, .inr ⟨error, rfl, rfl, hexchange⟩⟩
  · obtain ⟨t, rfl, ⟨_, hresult, hexchange⟩ | ⟨_, _, hresult, -⟩⟩ := ends_rangeWith _ _ _ _ _ h
    · cases hresult
      obtain ⟨_, rfl, rfl, rfl, rfl⟩ := (Attempt.ends_pause_bind (.millis gap) _ _ _ _ _).1 hrest
      exact ⟨first, t, rfl, .inl ⟨distance, rfl, rfl, hexchange⟩⟩
    · cases hresult

theorem rangesWith_mapM (gap : UInt32) (anchors : List (Anchor F)) (tracker : Tracker F)
    (events : List (Event (Line F) ε)) (result : Except (Error ε) (List (Measurement F)))
    (after : Tracker F)
    (h : (anchors.mapM (measure gap)).ends tracker events result after) :
    ∃ t, RangesWith gap anchors tracker.session events result t ∧
      after = { tracker with session := t } := by
  induction anchors generalizing tracker events result after with
  | nil =>
      obtain ⟨rfl, rfl, rfl⟩ := h
      exact ⟨_, .done _, rfl⟩
  | cons anchor rest ih =>
      rw [List.mapM_cons, Attempt.ends_bind] at h
      rcases h with ⟨error, h, rfl⟩ | ⟨first, later, measurement, u, rfl, h, hrest⟩
      · -- The exchange failed, so the measurements of the rest are never asked for.
        obtain ⟨exchange, t, hafter, ⟨_, hresult, -⟩ | ⟨_, hresult, rfl, hexchange⟩⟩ :=
          ends_measure _ _ _ _ _ _ h
        · cases hresult
        · cases hresult
          exact ⟨t, .failed rest hexchange, hafter⟩
      · obtain ⟨exchange, t, rfl, ⟨distance, hresult, rfl, hexchange⟩ | ⟨_, hresult, -⟩⟩ :=
          ends_measure _ _ _ _ _ _ h
        · cases hresult
          rw [← map_eq_pure_bind, Attempt.ends_map] at hrest
          obtain ⟨measured, hmeasured, rfl⟩ := hrest
          obtain ⟨t', hranges, rfl⟩ := ih _ _ _ _ hmeasured
          exact ⟨t', .ranged hexchange hranges, rfl⟩
        · cases hresult

theorem rangesWith_of_ends_mapM (gap : UInt32) (anchors : Quad (Anchor F)) (tracker : Tracker F)
    (events : List (Event (Line F) ε)) (result : Except (Error ε) (Quad (Measurement F)))
    (after : Tracker F) (h : (anchors.mapM (measure gap)).ends tracker events result after) :
    ∃ t, RangesWith gap anchors.toList tracker.session events (result.map Quad.toList) t ∧
      after = { tracker with session := t } := by
  have hlist := (Attempt.ends_map Quad.toList _ _ _ _ _).2 ⟨result, h, rfl⟩
  rw [Quad.toList_mapM] at hlist
  exact rangesWith_mapM _ _ _ _ _ _ hlist

/-- What a cycle comes to, and the tracker after it: the session is what ranging made of it,
and the last fix is replaced only by a new one. -/
theorem outcome_perform (tracker : Tracker F) (events : List (Event (Line F) ε))
    (result : Except (Error ε) (Fix F)) (after : Tracker F)
    (h : perform.ends tracker events result after) :
    ∃ t, CycleOutcome tracker.config.exchangeGap (selection tracker.table tracker.lastFix)
        tracker.session events result t ∧
      after = { tracker with session := t, lastFix := fixAfter tracker.lastFix result } := by
  rw [perform, Attempt.ends_getState_bind, Attempt.ends_bind] at h
  rcases h with ⟨error, h, rfl⟩ | ⟨first, last, measurements, u, rfl, h, hsolved⟩
  · obtain ⟨t, hranges, rfl⟩ := rangesWith_of_ends_mapM _ _ _ _ _ _ h
    exact ⟨t, .unranged hranges, rfl⟩
  obtain ⟨t, hranges, rfl⟩ := rangesWith_of_ends_mapM _ _ _ _ _ _ h
  split at hsolved
  next fix hsolve =>
    rw [Attempt.ends, Attempt.run_lift_bind, Program.endsAlong_bind] at hsolved
    obtain ⟨kept, none, _, _, rfl, hkept, rfl, rfl, rfl⟩ := hsolved
    obtain ⟨rfl, rfl⟩ := ends_keepFix _ _ _ _ hkept
    rw [List.append_nil]
    exact ⟨t, .fixed hranges hsolve, rfl⟩
  next hsolve =>
    rw [Attempt.ends, Attempt.run_lift_bind, Program.log_bind, Program.endsAlong_log] at hsolved
    obtain ⟨_, rfl, rfl, rfl, rfl⟩ := hsolved
    exact ⟨t, .coplanar hranges hsolve, rfl⟩

end Tracker

end Ranging

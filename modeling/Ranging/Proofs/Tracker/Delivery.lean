import Ranging.Proofs.Run.Sequence
import Ranging.Proofs.Tracker.Perform

/-!
# From the tracker to the transport

Fixes enter the queue at one end, one at a time, and are offered to the transport at the
other end, all that wait at once. Between the two ends none is lost, repeated or
overtaken: what has been offered so far, followed by what still waits, is what has
entered. A fix is turned away only where the queue is full, and then the fixes that wait
are not touched. To drain the queue is to take its oldest fix off and to offer it, again
and again until none is left.

What an operation did at the two ends is its `Traffic`. One operation keeps the account
between them, and so does any sequence of operations.
-/

namespace Ranging

namespace FixQueue

variable {F ε : Type}

/-- A fix enters a queue that has room for it, behind all others, and is dropped by one that
is full. -/
theorem outcome_publish {fix : Fix F} {queue after : FixQueue F}
    {events : List (Event (Line F) ε)} {queued : Bool}
    (h : (publish fix).endsAlong queue events queued after) :
    (queued = true ∧ queue.fixes.length < queueCapacity ∧ after.fixes = queue.fixes ++ [fix]) ∨
      (queued = false ∧ queue.fixes.length = queueCapacity ∧ after = queue) := by
  rw [publish, Program.getState_bind, Program.endsAlong_get] at h
  cases hpush : queue.push? fix with
  | some pushed =>
      rw [hpush] at h
      change Program.endsAlong (.step (.set pushed) fun _ => pure true) _ _ _ _ at h
      obtain ⟨-, rfl, rfl⟩ := (Program.endsAlong_set _ _ _ _ _ _).1 h
      have hroom : queue.fixes.length ≠ queueCapacity := by
        rw [ne_eq, ← push?_eq_none_iff queue fix, hpush]
        exact Option.some_ne_none _
      exact .inl ⟨rfl, Nat.lt_of_le_of_ne queue.length_le hroom, fixes_push? hpush⟩
  | none =>
      rw [hpush] at h
      change Program.endsAlong (.step (.log Line.fixDropped) fun _ => pure false) _ _ _ _ at h
      obtain ⟨_, -, -, rfl, rfl⟩ := (Program.endsAlong_log _ _ _ _ _ _).1 h
      exact .inr ⟨rfl, (push?_eq_none_iff _ _).1 hpush, rfl⟩

theorem fixes_publish {fix : Fix F} {queue after : FixQueue F}
    {events : List (Event (Line F) ε)} {queued : Bool}
    (h : (publish fix).endsAlong queue events queued after) :
    after.fixes = queue.fixes ++ if queued then [fix] else [] := by
  rcases outcome_publish h with ⟨rfl, -, hfixes⟩ | ⟨rfl, -, rfl⟩
  · exact hfixes
  · exact (List.append_nil _).symm

variable [Scalar F]

/-- To take fixes off until none is left is to offer all of them, in order. -/
theorem drainFrom_eq (accepts : Nat → Location → Bool) (drained : Drained F) (queue : FixQueue F) :
    drainFrom accepts drained queue =
      ((queue.fixes.map Location.ofFix).foldl (Drained.offer accepts) drained, empty) := by
  fun_induction drainFrom accepts drained queue with
  | case1 drained queue hpop =>
      obtain ⟨fixes, hlength⟩ := queue
      obtain rfl : fixes = [] := (pop?_eq_none_iff _).1 hpop
      rfl
  | case2 drained queue fix rest hpop ih =>
      rw [ih, fixes_of_pop? hpop, List.map_cons, List.foldl_cons]

/-- Serving the transport empties the queue. -/
theorem endsAlong_serve (accepts : Nat → Location → Bool) (queue : FixQueue F)
    (events : List (Event (Line F) ε)) (drained : Drained F) (after : FixQueue F)
    (h : (serve accepts).endsAlong queue events drained after) :
    drained = (queue.fixes.map Location.ofFix).foldl (Drained.offer accepts) .start ∧
      after = empty ∧ events = drained.log.map .log := by
  rw [serve, Program.getState_bind, Program.endsAlong_get, drain, drainFrom_eq] at h
  change Program.endsAlong
    (.step (.set empty) fun _ => Program.logAll _ >>= fun _ => pure _) _ _ _ _ at h
  rw [Program.endsAlong_set, Program.endsAlong_bind] at h
  obtain ⟨logged, none, _, _, rfl, hlog, rfl, rfl, rfl⟩ := h
  obtain ⟨rfl, rfl⟩ := (Program.endsAlong_logAll _ _ _ _ _).1 hlog
  exact ⟨rfl, rfl, List.append_nil _⟩

end FixQueue

namespace Drained

variable {F : Type}

/-- Every location is offered once and in order, whatever the transport takes. -/
theorem offered_foldl_offer (accepts : Nat → Location → Bool) (drained : Drained F)
    (locations : List Location) :
    (locations.foldl (offer accepts) drained).offered = drained.offered ++ locations := by
  induction locations generalizing drained with
  | nil => exact (List.append_nil _).symm
  | cons location rest ih =>
      rw [List.foldl_cons, ih, offered_offer, List.append_assoc, List.singleton_append]

theorem sent_foldl_offer (accepts : Nat → Location → Bool) (drained : Drained F)
    (locations : List Location) :
    (locations.foldl (offer accepts) drained).sent =
      drained.sent + (locations.zipIdx drained.offered.length).countP fun offered =>
        accepts offered.2 offered.1 := by
  induction locations generalizing drained with
  | nil => rfl
  | cons location rest ih =>
      rw [List.foldl_cons, ih, offered_offer, sent_offer, List.length_append, List.length_singleton,
        List.zipIdx_cons, List.countP_cons]
      dsimp only
      omega

end Drained

namespace Tracker

variable {F ε : Type}

theorem isPart_queue : Program.IsPart (Tracker.queue (F := F)) fun queue tracker =>
    { tracker with queue := queue } :=
  ⟨fun _ _ => rfl, fun _ => rfl, fun _ _ _ => rfl⟩

theorem endsAlong_withQueue {α : Type} (program : Program (Line F) ε (FixQueue F) α)
    (tracker : Tracker F) (events : List (Event (Line F) ε)) (value : α) (after : Tracker F) :
    (withQueue program).endsAlong tracker events value after ↔
      ∃ queue, program.endsAlong tracker.queue events value queue ∧
        after = { tracker with queue := queue } :=
  Program.endsAlong_zoom isPart_queue program tracker events value after

variable [Scalar F]

/-- Find the position of the node once and queue the fix, and return with it whether it was
queued. -/
def reportedStep : TrackerAttempt F ε (Fix F × Bool) := do
  let fix ← perform
  let queued ← Attempt.lift (withQueue (FixQueue.publish fix))
  return (fix, queued)

/-- A step does not tell whether its fix was queued, and is the same otherwise. -/
theorem map_fst_reportedStep : Prod.fst <$> reportedStep = (step : TrackerAttempt F ε (Fix F)) := by
  simp only [reportedStep, step, map_bind, map_pure]

/-- A step that finds no position leaves the queue alone, and one that finds a position takes
it over and publishes it. -/
theorem outcome_reportedStep (tracker : Tracker F) (events : List (Event (Line F) ε))
    (result : Except (Error ε) (Fix F × Bool)) (after : Tracker F)
    (h : reportedStep.ends tracker events result after) :
    (∃ error, result = .error error ∧ after.queue = tracker.queue) ∨
      ∃ fix queued published, result = .ok (fix, queued) ∧ after.lastFix = fix.pos ∧
        (FixQueue.publish fix).endsAlong tracker.queue (published : List (Event (Line F) ε))
          queued after.queue := by
  rw [reportedStep, Attempt.ends_bind] at h
  rcases h with ⟨error, h, rfl⟩ | ⟨first, second, fix, between, rfl, h, hpublish⟩
  · obtain ⟨t, -, rfl⟩ := outcome_perform _ _ _ _ h
    exact .inl ⟨error, rfl, rfl⟩
  · obtain ⟨t, -, rfl⟩ := outcome_perform _ _ _ _ h
    rw [Attempt.ends, Attempt.run_lift_bind, Program.endsAlong_bind] at hpublish
    obtain ⟨published, none, queued, _, rfl, hpublish, rfl, rfl, rfl⟩ := hpublish
    obtain ⟨queue, hqueued, rfl⟩ := (endsAlong_withQueue _ _ _ _ _).1 hpublish
    exact .inr ⟨fix, queued, published, rfl, rfl, hqueued⟩

/-- The tracker after a step, which has its new fix even where the queue is full. -/
theorem outcome_step (tracker : Tracker F) (events : List (Event (Line F) ε))
    (result : Except (Error ε) (Fix F)) (after : Tracker F)
    (h : step.ends tracker events result after) :
    (∀ error, result = .error error → after.queue = tracker.queue) ∧
      ∀ fix, result = .ok fix → after.lastFix = fix.pos ∧
        after.queue.fixes =
          if tracker.queue.fixes.length = queueCapacity then tracker.queue.fixes
          else tracker.queue.fixes ++ [fix] := by
  rw [← map_fst_reportedStep, Attempt.ends_map] at h
  obtain ⟨reported, h, rfl⟩ := h
  rcases outcome_reportedStep _ _ _ _ h with
    ⟨error, rfl, hqueue⟩ | ⟨fix, queued, published, rfl, hfix, hpublish⟩
  · exact ⟨fun _ _ => hqueue, nofun⟩
  · refine ⟨nofun, ?_⟩
    intro found hfound
    obtain rfl : fix = found := Except.ok.inj hfound
    refine ⟨hfix, ?_⟩
    rcases FixQueue.outcome_publish hpublish with ⟨-, hroom, hfixes⟩ | ⟨-, hfull, hsame⟩
    · rw [if_neg (Nat.ne_of_lt hroom), hfixes]
    · rw [if_pos hfull, hsame]

/-- An operation at one of the two ends of the queue. -/
inductive QueueOp (F : Type) where
  | step
  | publish (fix : Fix F)
  /-- Serve the transport, which takes some of the locations. -/
  | drain (accepts : Nat → Location → Bool)

/-- What passed the two ends of the queue. -/
structure Traffic (F : Type) where
  /-- The fixes that entered, in order. -/
  entered : List (Fix F)
  /-- The locations that the transport was offered, in order. -/
  offered : List Location

namespace Traffic

def publishing (fix : Fix F) (queued : Bool) : Traffic F :=
  ⟨if queued then [fix] else [], []⟩

def stepping : Except (Error ε) (Fix F × Bool) → Traffic F
  | .ok (fix, queued) => publishing fix queued
  | .error _ => ⟨[], []⟩

def total (traffic : List (Traffic F)) : Traffic F :=
  ⟨traffic.flatMap entered, traffic.flatMap offered⟩

end Traffic

/-- Carry out an operation and return its traffic. -/
def operate : QueueOp F → TrackerProgram F ε (Traffic F)
  | .step => Traffic.stepping <$> reportedStep.run
  | .publish fix => Traffic.publishing fix <$> withQueue (FixQueue.publish fix)
  | .drain accepts => (fun drained => ⟨[], drained.offered⟩) <$> drain accepts

/-- Carry out operations one after the other and return the traffic of all. -/
def operateAll : List (QueueOp F) → TrackerProgram F ε (List (Traffic F))
  | [] => return []
  | op :: rest => do
      let first ← operate op
      let later ← operateAll rest
      return first :: later

/-- The account of a queue between its two ends: what was offered, followed by what waits
afterwards, is what waited before, followed by what entered. -/
def Accounts (before : FixQueue F) (traffic : Traffic F) (after : FixQueue F) : Prop :=
  traffic.offered ++ after.fixes.map Location.ofFix =
    (before.fixes ++ traffic.entered).map Location.ofFix

namespace Accounts

theorem refl (queue : FixQueue F) : Accounts queue ⟨[], []⟩ queue := by
  rw [Accounts, List.nil_append, List.append_nil]

theorem trans {before between after : FixQueue F} {first later : Traffic F}
    (hfirst : Accounts before first between) (hlater : Accounts between later after) :
    Accounts before ⟨first.entered ++ later.entered, first.offered ++ later.offered⟩ after := by
  rw [Accounts, List.map_append] at hfirst hlater ⊢
  rw [List.append_assoc, hlater, ← List.append_assoc, hfirst, List.map_append, List.append_assoc]

theorem publishing {fix : Fix F} {queue after : FixQueue F} {events : List (Event (Line F) ε)}
    {queued : Bool} (h : (FixQueue.publish fix).endsAlong queue events queued after) :
    Accounts queue (.publishing fix queued) after :=
  congrArg (List.map Location.ofFix) (FixQueue.fixes_publish h)

end Accounts

/-- Every operation leaves the account of the queue right. -/
theorem accounts_operate (op : QueueOp F) (tracker : Tracker F)
    (events : List (Event (Line F) ε)) (traffic : Traffic F) (after : Tracker F)
    (h : (operate op).endsAlong tracker events traffic after) :
    Accounts tracker.queue traffic after.queue := by
  cases op with
  | step =>
      obtain ⟨result, hstep, rfl⟩ := (Program.endsAlong_map _ _ _ _ _ _).1 h
      rcases outcome_reportedStep _ _ _ _ hstep with
        ⟨error, rfl, hqueue⟩ | ⟨fix, queued, published, rfl, -, hpublish⟩
      · rw [hqueue]
        exact .refl _
      · exact .publishing hpublish
  | publish fix =>
      obtain ⟨queued, hpublish, rfl⟩ := (Program.endsAlong_map _ _ _ _ _ _).1 h
      obtain ⟨queue, hqueued, rfl⟩ := (endsAlong_withQueue _ _ _ _ _).1 hpublish
      exact .publishing hqueued
  | drain accepts =>
      obtain ⟨drained, hdrain, rfl⟩ := (Program.endsAlong_map _ _ _ _ _ _).1 h
      obtain ⟨queue, hserve, rfl⟩ := (endsAlong_withQueue _ _ _ _ _).1 hdrain
      obtain ⟨rfl, rfl, -⟩ := FixQueue.endsAlong_serve _ _ _ _ _ hserve
      rw [Accounts, Drained.offered_foldl_offer, Drained.start, FixQueue.fixes_empty,
        List.nil_append, List.map_nil, List.append_nil, List.append_nil]

theorem accounts_operateAll (ops : List (QueueOp F)) (tracker : Tracker F)
    (events : List (Event (Line F) ε)) (traffic : List (Traffic F)) (after : Tracker F)
    (h : (operateAll ops).endsAlong tracker events traffic after) :
    Accounts tracker.queue (.total traffic) after.queue := by
  induction ops generalizing tracker events traffic with
  | nil =>
      obtain ⟨rfl, rfl, rfl⟩ := h
      exact .refl _
  | cons op rest ih =>
      rw [operateAll, Program.endsAlong_bind] at h
      obtain ⟨_, _, first, between, rfl, hfirst, h⟩ := h
      rw [Program.endsAlong_bind] at h
      obtain ⟨_, _, later, _, rfl, hlater, rfl, rfl, rfl⟩ := h
      exact (accounts_operate _ _ _ _ _ hfirst).trans (ih _ _ _ hlater)

/-- A step is a search for the position, and the fix that is found is published. -/
theorem run_step_eq : (step : TrackerAttempt F ε (Fix F)).run = perform.run >>= fun result =>
    match result with
    | .ok fix => withQueue (FixQueue.publish fix) >>= fun _ => pure (.ok fix)
    | .error error => pure (.error error) := by
  rw [step, ExceptT.run_bind]
  congr 1
  funext result
  cases result with
  | ok fix => exact Attempt.run_lift_bind _ _
  | error error => rfl

end Tracker

namespace Radio

/-- A step returns what the search for a position comes to, whatever becomes of the fix in the
queue. -/
theorem value_step {F ε ρ : Type} [Scalar F] (radio : Radio ε ρ) (tracker : Tracker F)
    (start : ρ) :
    (radio.run Tracker.step.run tracker start).value =
      (radio.run Tracker.perform.run tracker start).value := by
  rw [Tracker.run_step_eq, run_bind, Run.andThen]
  generalize radio.run Tracker.perform.run tracker start = performed
  cases performed.value with
  | error error => rfl
  | ok fix =>
      dsimp only
      rw [run_bind]
      rfl

end Radio

/-- The publish path is a queue of at most three fixes from which nothing is lost but what it
turns away. Whatever operations are carried out, what the transport was offered, followed by
what waits, is what waited before, followed by what entered. -/
theorem publish_path_delivers {F ε ρ : Type} [Scalar F] (radio : Radio ε ρ) (start : ρ)
    (tracker : Tracker F) :
    (∀ ops : List (Tracker.QueueOp F),
      let run := radio.run (Tracker.operateAll ops) tracker start
      let traffic := Tracker.Traffic.total run.value
      traffic.offered ++ run.state.queue.fixes.map Location.ofFix =
          (tracker.queue.fixes ++ traffic.entered).map Location.ofFix ∧
        run.state.queue.fixes.length ≤ 3) ∧
    (∀ fix : Fix F,
      let run := radio.run (Tracker.withQueue (FixQueue.publish fix)) tracker start
      (run.value = false ↔ tracker.queue.fixes.length = 3) ∧
        (run.value = false → run.state = tracker) ∧
        (run.value = true → run.state.queue.fixes = tracker.queue.fixes ++ [fix])) ∧
    (let performed := radio.run Tracker.perform.run tracker start
      let stepped := radio.run Tracker.step.run tracker start
      stepped.value = performed.value ∧
        (∀ error, stepped.value = .error error → stepped.state.queue = tracker.queue) ∧
        ∀ fix, stepped.value = .ok fix → stepped.state.lastFix = fix.pos ∧
          stepped.state.queue.fixes =
            if tracker.queue.fixes.length = 3 then tracker.queue.fixes
            else tracker.queue.fixes ++ [fix]) ∧
    ∀ accepts : Nat → Location → Bool,
      let run := radio.run (Tracker.drain accepts) tracker start
      run.state.queue.fixes = [] ∧
        run.value.offered = tracker.queue.fixes.map Location.ofFix ∧
        run.value.sent = run.value.offered.zipIdx.countP fun offered =>
          accepts offered.2 offered.1 := by
  refine ⟨?_, ?_, ?_, ?_⟩
  · intro ops run traffic
    exact ⟨Tracker.accounts_operateAll ops tracker _ _ _ (radio.endsAlong_run _ tracker start),
      run.state.queue.length_le⟩
  · intro fix run
    obtain ⟨queue, hpublish, hstate⟩ := (Tracker.endsAlong_withQueue _ _ _ _ _).1
      (radio.endsAlong_run (Tracker.withQueue (FixQueue.publish fix)) tracker start)
    change run.state = _ at hstate
    rw [hstate]
    rcases FixQueue.outcome_publish hpublish with ⟨hvalue, hroom, hfixes⟩ | ⟨hvalue, hfull, rfl⟩
    · have hvalue : run.value = true := hvalue
      rw [hvalue]
      exact ⟨⟨nofun, fun hfull => absurd hfull (Nat.ne_of_lt hroom)⟩, nofun, fun _ => hfixes⟩
    · have hvalue : run.value = false := hvalue
      rw [hvalue]
      exact ⟨⟨fun _ => hfull, fun _ => rfl⟩, fun _ => rfl, nofun⟩
  · intro performed stepped
    exact ⟨radio.value_step tracker start, Tracker.outcome_step _ _ _ _
      (radio.endsAlong_run Tracker.step.run tracker start)⟩
  · intro accepts run
    obtain ⟨queue, hserve, hstate⟩ := (Tracker.endsAlong_withQueue _ _ _ _ _).1
      (radio.endsAlong_run (Tracker.drain accepts) tracker start)
    obtain ⟨hvalue, rfl, -⟩ := FixQueue.endsAlong_serve _ _ _ _ _ hserve
    change run.value = _ at hvalue
    change run.state = _ at hstate
    rw [hstate, hvalue, Drained.sent_foldl_offer, Drained.offered_foldl_offer]
    exact ⟨rfl, rfl, Nat.zero_add _⟩

end Ranging

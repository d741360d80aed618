import Mathlib
import Ranging.Proofs.Session.CleanUp
import Ranging.Proofs.Session.Initiator

/-!
# When an initiator reports a distance

What a node needs to have been told for a distance is gathered in `Answered`: no
request failed, the Poll was sent, and the frame that came in is the encoding of
a Response to it. An initiator reports a distance if and only if it has been
answered in this sense, and the distance is the one that follows from the
Response and from the three readings that the node takes after it.
-/

namespace Ranging

/-- The events of an exchange in which a node was answered with a Response. -/
structure Answered {L ε : Type} (config : Config) (response : Response)
    (events : List (Event L ε)) : Prop where
  /-- No request failed, those of the cleaning up included. -/
  all_succeed : ∀ event ∈ events, event.succeeds
  poll_started : answersTo (.send .now true) events = [.ok .started]
  in_time : (statusesRead events).length ≤
    waitPauses config.timeouts.responseWait config.timeouts.statusInterval 0 + 1
  heard : ∃ status, firstShowing Status.receiveDone events = some status ∧
    status.contains Status.received = true
  has_length : answersTo .frameLength events = [.ok 18]
  has_bytes : ∃ frame : Frame 18,
    answersTo (.frameBytes 18) events = [.ok frame] ∧ frame.val = response.bytes

namespace Initiator

open Session

variable {F ε : Type}

/-- An initiator that was not refused has been answered. -/
theorem answered_of_ends_ok [Scalar F] (target : UInt16) (s : Session)
    (events : List (Event (Line F) ε)) (distance : F) (t : Session)
    (h : (finishing (exchange target)).ends s events (.ok distance) t) :
    ∃ seq p r sent received integrator,
      Answered s.config ⟨seq, s.config.pan, target, s.config.addr, p, r⟩ events ∧
      answersTo .sendTime events = [.ok sent] ∧ answersTo .receiveTime events = [.ok received] ∧
      answersTo .carrierIntegrator events = [.ok integrator] ∧
      distance = distanceTo s.config ⟨seq, s.config.pan, target, s.config.addr, p, r⟩ sent received
        integrator := by
  have hall :=
    succeeds_of_ends_finishing_ok _ (madeOf_exchange target).failStop s events distance t h
  obtain ⟨first, u, rfl, hexchange, -⟩ := ends_finishing_ok _ s events distance t h
  obtain ⟨-, misses, status, frame, seq, p, r, sent, received, integrator, line, hheard, hframe,
    rfl, hdistance⟩ := ends_exchange_ok target s first distance u hexchange
  refine ⟨seq, p, r, sent, received, integrator, ⟨hall, ?_, ?_, ?_, ?_, ?_⟩, ?_, ?_, ?_, hdistance⟩
  · simp [pollEvents, receptionEvents, measureEvents, cleanUpEvents]
  · simp [pollEvents, measureEvents, cleanUpEvents, hheard.in_time]
  · refine ⟨status, firstShowing_eq_some _ misses status _ ?_ hheard.not_done hheard.done,
      hheard.good⟩
    simp [pollEvents, measureEvents, cleanUpEvents]
  · simp [pollEvents, receptionEvents, measureEvents, cleanUpEvents, Response.size]
  · refine ⟨frame, ?_, hframe⟩
    simp [pollEvents, receptionEvents, measureEvents, cleanUpEvents, Response.size]
  · simp [pollEvents, receptionEvents, measureEvents, cleanUpEvents]
  · simp [pollEvents, receptionEvents, measureEvents, cleanUpEvents]
  · simp [pollEvents, receptionEvents, measureEvents, cleanUpEvents]

/-- An initiator that has been answered ends well. -/
theorem exists_eq_ok_of_answered [Scalar F] (target : UInt16) (s : Session)
    (events : List (Event (Line F) ε)) (result : Except (Error ε) F) (t : Session)
    (seq : UInt8) (p r : UInt32)
    (h : (finishing (exchange target)).ends s events result t)
    (hanswered : Answered s.config ⟨seq, s.config.pan, target, s.config.addr, p, r⟩ events) :
    ∃ distance, result = .ok distance := by
  cases result with
  | ok distance => exact ⟨distance, rfl⟩
  | error e =>
      obtain ⟨first, u, rfl, hfirst, -⟩ :=
        refuses_finishing _ s events e t ⟨h, hanswered.all_succeed⟩
      have hrefusal := refusal_of_refuses_exchange target s first e u hfirst
      refine absurd hrefusal (not_initiatorRefusal s target first cleanUpEvents e
        statusesRead_cleanUpEvents ?_ hanswered.heard ?_ ?_)
      · intro hmem
        have hmem := (mem_answersTo _ _ _).2 (List.mem_append_left cleanUpEvents hmem)
        rw [hanswered.poll_started, List.mem_singleton] at hmem
        cases hmem
      · intro actual hmem
        have hmem := (mem_answersTo _ _ _).2 (List.mem_append_left cleanUpEvents hmem)
        rw [hanswered.has_length, List.mem_singleton] at hmem
        exact Except.ok.inj hmem
      · intro frame hmem
        obtain ⟨other, hother, hbytes⟩ := hanswered.has_bytes
        have hmem : .ok frame ∈ answersTo (.frameBytes 18) (first ++ cleanUpEvents) :=
          (mem_answersTo _ _ _).2 (List.mem_append_left cleanUpEvents hmem)
        rw [hother, List.mem_singleton] at hmem
        cases hmem
        exact ⟨seq, p, r, hbytes⟩

end Initiator

/-- No distance is made up: a node reports one if and only if it has been answered
with a Response, and it is the distance that follows from the answers. -/
theorem initiate_ok_iff_answered {F ε ρ : Type} [Scalar F] (radio : Radio ε ρ) (start : ρ)
    (s : Session) (target : UInt16) (hscheme : s.config.scheme = .singleSided) :
    ((∃ distance : F, (radio.initiate start s target).value = .ok distance) ↔
      ∃ seq p r, Answered s.config ⟨seq, s.config.pan, target, s.config.addr, p, r⟩
        (radio.initiate (F := F) start s target).events) ∧
    ∀ distance : F, (radio.initiate start s target).value = .ok distance →
      ∃ seq p r sent received integrator,
        Answered s.config ⟨seq, s.config.pan, target, s.config.addr, p, r⟩
          (radio.initiate (F := F) start s target).events ∧
        answersTo .sendTime (radio.initiate (F := F) start s target).events = [.ok sent] ∧
        answersTo .receiveTime (radio.initiate (F := F) start s target).events =
          [.ok received] ∧
        answersTo .carrierIntegrator (radio.initiate (F := F) start s target).events =
          [.ok integrator] ∧
        distance = distanceOfFlight (timeOfFlight sent.low32 p r received.low32
          (CarrierOffset.ofIntegrator integrator s.config.radio.bitrate s.config.radio.channel :
            CarrierOffset F).clockRatio) := by
  have hends := radio.ends_initiate (F := F) start s target hscheme
  refine ⟨⟨?_, ?_⟩, ?_⟩
  · intro h
    obtain ⟨distance, hvalue⟩ := h
    rw [hvalue] at hends
    obtain ⟨seq, p, r, _, _, _, hanswered, -⟩ :=
      Initiator.answered_of_ends_ok target s _ distance _ hends
    exact ⟨seq, p, r, hanswered⟩
  · intro h
    obtain ⟨seq, p, r, hanswered⟩ := h
    exact Initiator.exists_eq_ok_of_answered target s _ _ _ seq p r hends hanswered
  · intro distance hvalue
    rw [hvalue] at hends
    exact Initiator.answered_of_ends_ok target s _ distance _ hends

/-- The Response to a node at address 1 whose Poll was under way for 1000 ticks. -/
def sampleResponse : Response := ⟨7, Config.defaultPan, 2, 1, 300, 2300⟩

/-- What comes of ranging with the node that sends this Response. -/
def sampleInitiation : Run (Line Rat) String Session (Except (Error String) Rat) :=
  (Radio.prompt sampleResponse.bytes ⟨5000⟩ ⟨1000⟩).initiate ()
    (Session.fresh (Config.standard Config.defaultPan 1)) 2

theorem sampleInitiation_answered :
    (Config.standard Config.defaultPan 1).scheme = .singleSided ∧
      sampleInitiation.value = .ok (distanceOfFlight (1000 * tickSeconds)) ∧
      ∃ seq p r, Answered (Config.standard Config.defaultPan 1)
        ⟨seq, Config.defaultPan, 2, 1, p, r⟩ sampleInitiation.events := by
  have hvalue : sampleInitiation.value = .ok (distanceOfFlight (1000 * tickSeconds)) := by
    cbv
  obtain ⟨hiff, -⟩ := initiate_ok_iff_answered (F := Rat)
    (Radio.prompt sampleResponse.bytes ⟨5000⟩ ⟨1000⟩) ()
    (Session.fresh (Config.standard Config.defaultPan 1)) 2 rfl
  exact ⟨rfl, hvalue, hiff.1 ⟨_, hvalue⟩⟩

end Ranging

import Ranging.Proofs.Frame.Template
import Ranging.Proofs.Run.Translation
import Ranging.Proofs.Session.Distance

/-!
# Clocks may start anywhere

Of the four times of an exchange only two differences enter the distance, one on the clock of the
initiator and one on that of the responder. A radio whose clock is ahead, and a responder
whose clock is ahead by another amount, therefore make no difference to an initiator: it finds the
same distance or the same error, with the same requests and pauses. This holds across every turn of
the counters, also when only one of the two times of a difference has turned over.

The radios are compared by `Radio.Translates`. What the initiator makes of the translated answers
is followed through its parts: the words at the end of the frame move, the frame is accepted or
not as before, and the differences of the times stay.
-/

namespace Ranging

/-- The four bytes of a word, moved by a number. -/
def moveWord (shift : UInt32) : List UInt8 → List UInt8
  | [b0, b1, b2, b3] => bytes32 (word32 b0 b1 b2 b3 + shift)
  | bytes => bytes

@[simp] theorem moveWord_bytes32 (shift w : UInt32) :
    moveWord shift (bytes32 w) = bytes32 (w + shift) := by
  rw [bytes32, moveWord, word32_bytes]

@[simp] theorem length_moveWord (shift : UInt32) (bytes : List UInt8) :
    (moveWord shift bytes).length = bytes.length := by
  unfold moveWord
  split
  · exact length_bytes32 _
  · rfl

/-- A frame of the length of a Response with its two times moved, any other frame as it is. -/
def moveTimes (shift : UInt32) (frame : List UInt8) : List UInt8 :=
  if frame.length = Response.size then
    frame.take 10 ++ moveWord shift ((frame.drop 10).take 4) ++ moveWord shift (frame.drop 14)
  else frame

theorem length_moveTimes (shift : UInt32) (frame : List UInt8) :
    (moveTimes shift frame).length = frame.length := by
  rw [moveTimes]
  split
  · next h =>
      rw [Response.size] at h
      simp [h]
  · rfl

/-- The Response of a responder whose clock is ahead. -/
def Response.ahead (shift : UInt32) (response : Response) : Response :=
  { response with
    pollReceived := response.pollReceived + shift
    responseSent := response.responseSent + shift }

theorem moveTimes_append (shift p r : UInt32) (head : List UInt8) (h : head.length = 10) :
    moveTimes shift (head ++ bytes32 p ++ bytes32 r) =
      head ++ bytes32 (p + shift) ++ bytes32 (r + shift) := by
  have hsize : (head ++ bytes32 p ++ bytes32 r).length = Response.size := by
    simp [h, Response.size]
  have hfirst : ((head ++ bytes32 p ++ bytes32 r).drop 10).take 4 = bytes32 p := by
    rw [List.append_assoc, List.drop_left' h, List.take_left' (length_bytes32 p)]
  rw [moveTimes, if_pos hsize, hfirst, List.drop_left' (by simp [h]), List.append_assoc head,
    List.take_left' h, moveWord_bytes32, moveWord_bytes32]

/-- The bytes of a Response up to its times. -/
def Response.header (response : Response) : List UInt8 :=
  frameControl ++ [response.seq] ++ bytes16 response.pan ++ bytes16 response.src ++
    bytes16 response.dst ++ [functionCode]

theorem Response.bytes_eq_header_append (response : Response) :
    response.bytes = response.header ++ bytes32 response.pollReceived ++
      bytes32 response.responseSent := rfl

theorem moveTimes_bytes (shift : UInt32) (response : Response) :
    moveTimes shift response.bytes = (response.ahead shift).bytes := by
  rw [response.bytes_eq_header_append, moveTimes_append shift _ _ response.header rfl]
  rfl

/-- A frame of the length of a Response ends in two words. -/
theorem exists_times (frame : List UInt8) (h : frame.length = Response.size) :
    ∃ head p r, head.length = 10 ∧ frame = head ++ bytes32 p ++ bytes32 r := by
  rw [Response.size] at h
  obtain ⟨p, r, htimes⟩ := (length_eq_eight_iff (frame.drop 10)).1 (by simp [h])
  refine ⟨frame.take 10, p, r, by simp [h], ?_⟩
  rw [List.append_assoc, ← htimes, List.take_append_drop]

/-- Whether a frame is accepted depends on its bytes up to the times. -/
theorem accepts_times_iff (template : Response) (head : List UInt8) (p r : UInt32)
    (hhead : head.length = 10) :
    Mask.response.accepts template.bytes (head ++ bytes32 p ++ bytes32 r) = true ↔
      ∃ seq, head = Response.header { template with seq := seq } := by
  rw [Mask.accepts_response_iff]
  constructor
  · intro h
    obtain ⟨seq, p', r', h⟩ := h
    rw [Response.bytes_eq_header_append, List.append_assoc, List.append_assoc] at h
    exact ⟨seq, List.append_inj_left h hhead⟩
  · intro h
    obtain ⟨seq, rfl⟩ := h
    exact ⟨seq, p, r, rfl⟩

theorem accepts_moveTimes (shift : UInt32) (template : Response) (frame : List UInt8)
    (h : frame.length = Response.size) :
    Mask.response.accepts template.bytes (moveTimes shift frame) =
      Mask.response.accepts template.bytes frame := by
  obtain ⟨head, p, r, hhead, rfl⟩ := exists_times frame h
  rw [Bool.eq_iff_iff, moveTimes_append _ _ _ _ hhead, accepts_times_iff _ _ _ _ hhead,
    accepts_times_iff _ _ _ _ hhead]

/-- The answers of a radio whose clock is ahead by a duration, while that of the responder is ahead
by a number of ticks. -/
def Translation.ahead (own : Duration) (peer : UInt32) : Translation
  | .sendTime, time => time + own
  | .receiveTime, time => time + own
  | .frameBytes _, frame => ⟨moveTimes peer frame.1, (length_moveTimes peer frame.1).trans frame.2⟩
  | _, answer => answer

/-- The low bits of an instant move with it. -/
theorem Instant.low32_add (i : Instant) (d : Duration) :
    (i + d).low32 = i.low32 + d.ticks.toUInt32 := by
  apply UInt32.toNat_inj.1
  rw [toNat_low32, toNat_add, UInt32.toNat_add, toNat_low32, UInt64.toNat_toUInt32]
  simp only [UInt32.size, clockTurn]
  omega

theorem moved_sub_moved (a b shift : UInt32) : b + shift - (a + shift) = b - a := by
  grind

/-- Two clocks that are ahead show the same time of flight. -/
theorem timeOfFlight_add {F : Type} [Scalar F] (sent pollReceived responseSent received own
    peer : UInt32) (offset : F) :
    timeOfFlight (sent + own) (pollReceived + peer) (responseSent + peer) (received + own) offset =
      timeOfFlight sent pollReceived responseSent received offset := by
  rw [timeOfFlight, timeOfFlight, ticksBetween, ticksBetween, ticksBetween, ticksBetween,
    moved_sub_moved, moved_sub_moved]

namespace Session

variable {F ε α : Type}

@[simp] theorem through_log (translation : Translation) (line : Line F) :
    Attempt.through translation (log line : SessionAttempt F ε Unit) = pure () := rfl

@[simp] theorem through_getConfig (translation : Translation) :
    (getConfig : SessionAttempt F ε Config).through translation = getConfig := rfl

@[simp] theorem through_takeSeq (translation : Translation) :
    (takeSeq : SessionAttempt F ε UInt8).through translation = takeSeq := rfl

theorem through_await (translation : Translation)
    (h : ∀ status, translation .readStatus status = status) (flags : Status) (timeout : UInt32) :
    (await flags timeout : SessionAttempt F ε Status).through translation =
      await flags timeout := by
  rw [await, Attempt.through_bind, through_getConfig]
  exact congrArg _ (funext fun config => Attempt.through_awaitStatusFrom translation h _ _ _ 0)

/-- In the received frame the times are moved, and nothing else is different. -/
theorem through_receiveBytes_bind (own : Duration) (peer : UInt32) (status : Status)
    (rest rest' : List UInt8 → SessionAttempt F ε α)
    (h : ∀ frame, frame.length = Response.size → rest (moveTimes peer frame) = rest' frame) :
    (receiveBytes Response.size status).through (.ahead own peer) >>= rest =
      (receiveBytes Response.size status).through .literal >>= rest' := by
  rw [receiveBytes]
  cases status.contains Status.received with
  | true =>
      simp only [if_true, Attempt.clearStatus, Attempt.frameLength, Attempt.through_bind,
        Attempt.through_ask, bind_assoc]
      refine Attempt.ask_bind_congr _ fun _ => Attempt.ask_bind_congr _ fun actual => ?_
      change Nat at actual
      have hleft : id (Translation.ahead own peer .frameLength actual) = actual := rfl
      have hright : id (Translation.literal .frameLength actual) = actual := rfl
      rw [hleft, hright]
      by_cases hactual : actual = Response.size
      · rw [if_pos hactual, Attempt.frameBytes, Attempt.through_ask, Attempt.through_ask]
        exact Attempt.ask_bind_congr _ fun frame => h frame.1 frame.2
      · rw [if_neg hactual]
        rfl
  | false =>
      simp only [Bool.false_eq_true, if_false]
      split
      · rfl
      · rfl

/-- A frame is accepted wherever its times are, and they are read where they are. -/
theorem through_acceptFrame_bind (translation translation' : Translation) (peer : UInt32)
    (template : Response) (frame : List UInt8) (hlength : frame.length = Response.size)
    (other other' : Line F) (rest rest' : Response → SessionAttempt F ε α)
    (h : ∀ response : Response, rest (response.ahead peer) = rest' response) :
    (acceptFrame Response Mask.response template.bytes (moveTimes peer frame) other).through
        translation >>= rest =
      (acceptFrame Response Mask.response template.bytes frame other').through translation' >>=
        rest' := by
  rw [acceptFrame, acceptFrame, accepts_moveTimes peer template frame hlength]
  cases haccepts : Mask.response.accepts template.bytes frame with
  | true =>
      obtain ⟨seq, p, r, rfl⟩ := (Mask.accepts_response_iff template frame).1 haccepts
      rw [moveTimes_bytes, readFrame_bytes_response, readFrame_bytes_response]
      exact h _
  | false => rfl

end Session

namespace Initiator

open Session

variable {F ε : Type}

/-- The distance is found from the differences of the times. -/
theorem through_measureDistance [Scalar F] (own : Duration) (peer : UInt32) (target : UInt16)
    (response : Response) :
    (measureDistance target (response.ahead peer) : SessionAttempt F ε F).through
        (.ahead own peer) =
      (measureDistance target response).through .literal := by
  simp only [measureDistance, Attempt.sendTime, Attempt.receiveTime, Attempt.carrierIntegrator,
    Attempt.through_bind, Attempt.through_ask, through_getConfig, through_log]
  refine congrArg _ (funext fun config => ?_)
  refine Attempt.ask_bind_congr _ fun sent => Attempt.ask_bind_congr _ fun received => ?_
  refine Attempt.ask_bind_congr _ fun integrator => ?_
  change Instant at sent received
  have htime : ∀ offset : F, timeOfFlight (sent + own).low32 (response.ahead peer).pollReceived
        (response.ahead peer).responseSent (received + own).low32 offset =
      timeOfFlight sent.low32 response.pollReceived response.responseSent received.low32
        offset := by
    intro offset
    rw [Instant.low32_add, Instant.low32_add]
    exact timeOfFlight_add _ _ _ _ _ _ offset
  exact congrArg (fun time => (pure (distanceOfFlight time) : SessionAttempt F ε F)) (htime _)

theorem through_receiveResponse_bind {α : Type} (own : Duration) (peer : UInt32) (target : UInt16)
    (rest rest' : Response → SessionAttempt F ε α)
    (h : ∀ response : Response, rest (response.ahead peer) = rest' response) :
    (receiveResponse target).through (.ahead own peer) >>= rest =
      (receiveResponse target).through .literal >>= rest' := by
  simp only [receiveResponse, Attempt.through_bind, through_getConfig, bind_assoc]
  refine congrArg _ (funext fun config => ?_)
  rw [through_await _ (fun _ => rfl), through_await _ (fun _ => rfl)]
  refine congrArg _ (funext fun status => ?_)
  refine through_receiveBytes_bind own peer status _ _ fun frame hlength => ?_
  exact through_acceptFrame_bind _ _ peer _ frame hlength _ _ _ _ h

theorem through_launch (own : Duration) (peer : UInt32) (config : Config) (poll : Poll) :
    (launch config poll : SessionAttempt F ε Unit).through (.ahead own peer) =
      (launch config poll).through .literal := by
  simp only [launch, Attempt.resetReceiver, Attempt.clearStatus, Attempt.setReceiveDelay,
    Attempt.setReceiveTimeout, Attempt.storeFrame, Attempt.send, Attempt.through_bind,
    Attempt.through_ask]
  refine Attempt.ask_bind_congr _ fun _ => Attempt.ask_bind_congr _ fun _ => ?_
  refine Attempt.ask_bind_congr _ fun _ => Attempt.ask_bind_congr _ fun _ => ?_
  refine Attempt.ask_bind_congr _ fun _ => Attempt.ask_bind_congr _ fun start => ?_
  cases start with
  | started => rfl
  | tooLate => rfl

theorem through_exchange [Scalar F] (own : Duration) (peer : UInt32) (target : UInt16) :
    (exchange target : SessionAttempt F ε F).through (.ahead own peer) =
      (exchange target).through .literal := by
  simp only [exchange_eq, afterPoll, Attempt.through_bind, through_getConfig, through_takeSeq,
    through_launch own peer]
  refine congrArg _ (funext fun config => congrArg _ (funext fun seq => ?_))
  refine congrArg _ (funext fun _ => ?_)
  exact through_receiveResponse_bind own peer target _ _ fun response =>
    through_measureDistance own peer target response

end Initiator

namespace Session

variable {F ε : Type}

/-- Cleaning up takes nothing from the answers. -/
theorem through_settle {α : Type} (own : Duration) (peer : UInt32)
    (outcome : Except (Error ε) α) :
    (settle outcome : SessionProgram F ε (Except (Error ε) α)).through (.ahead own peer) =
      (settle outcome).through .literal := by
  have hclean : (cleanUp : SessionAttempt F ε Unit).through (.ahead own peer) =
      cleanUp.through .literal := by
    simp only [cleanUp, Attempt.clearStatus, Attempt.resetReceiver, Attempt.through_bind,
      Attempt.through_ask]
  have hrun : (cleanUp : SessionAttempt F ε Unit).run.through (.ahead own peer) =
      cleanUp.run.through .literal := congrArg ExceptT.run hclean
  simp only [settle, Program.through_bind, hrun]
  rfl

theorem through_initiate [Scalar F] (own : Duration) (peer : UInt32) (target : UInt16) :
    (initiate target : SessionAttempt F ε F).run.through (.ahead own peer) =
      (initiate target).run.through .literal := by
  have hbody : (getConfig >>= fun config => initiateIn target config.scheme :
        SessionAttempt F ε F).through (.ahead own peer) =
      (getConfig >>= fun config => initiateIn target config.scheme).through .literal := by
    rw [Attempt.through_bind, Attempt.through_bind, through_getConfig, through_getConfig]
    refine congrArg _ (funext fun config => ?_)
    cases config.scheme with
    | singleSided => exact Initiator.through_exchange own peer target
    | doubleSided => rfl
  have hrun := congrArg ExceptT.run hbody
  simp only [Attempt.through, ExceptT.run_mk] at hrun
  rw [initiate, run_finishing, Program.through_bind, Program.through_bind, hrun]
  exact congrArg _ (funext fun outcome => through_settle own peer outcome)

end Session

/-- Ranging does not depend on where the clocks start: on a radio whose clock is ahead, with a
responder whose clock is ahead too, an initiator finds the same as before, in the same way. -/
theorem ranging_forgets_clock_origins {F ε ρ ρ' : Type} [Scalar F] (radio : Radio ε ρ)
    (other : Radio ε ρ') (own : Duration) (peer : UInt32) (related : ρ → ρ' → Prop)
    (hradio : radio.Translates other (.ahead own peer) related) (start : ρ) (start' : ρ')
    (hstart : related start start') (s : Session) (target : UInt16) :
    let run : Run (Line F) ε Session (Except (Error ε) F) := radio.initiate start s target
    let run' : Run (Line F) ε Session (Except (Error ε) F) := other.initiate start' s target
    run'.value = run.value ∧ run'.state = run.state ∧ outward run'.events = outward run.events := by
  intro run run'
  have hsame : radio.Translates radio .literal (· = ·) := Radio.translates_literal radio
  have hother := hradio.run_through (Session.initiate target : SessionAttempt F ε F).run s start
    start' hstart
  have hself := hsame.run_through (Session.initiate target : SessionAttempt F ε F).run s start
    start rfl
  -- Both runs are those of one program on the same radio.
  rw [Session.through_initiate] at hother
  exact ⟨hother.value_eq.trans hself.value_eq.symm, hother.state_eq.trans hself.state_eq.symm,
    hother.outward_eq.trans hself.outward_eq.symm⟩

/-- The radio on which a Response is received, with its clock and the responder's ahead. -/
theorem Radio.translates_prompt (response : Response) (received sent : Instant) (own : Duration)
    (peer : UInt32) : (Radio.prompt response.bytes received sent).Translates
      (Radio.prompt (response.ahead peer).bytes (received + own) (sent + own)) (.ahead own peer)
      fun _ _ => True where
  answer request _ _ _ := by
    refine ⟨?_, trivial⟩
    cases request with
    | frameBytes length =>
        change dite _ _ _ = Except.map _ (dite _ _ _)
        by_cases h : Response.size = length
        · subst h
          exact congrArg Except.ok (Subtype.ext (moveTimes_bytes peer response).symm)
        · have hlength : ∀ sized : Response, ¬sized.bytes.length = length := fun _ => h
          rw [dif_neg (hlength _), dif_neg (hlength _)]
          rfl
    | _ => rfl
  elapse _ _ _ _ := trivial
  clock _ _ _ := ⟨rfl, trivial⟩

/-- Both clocks turn over between the two times that they show. -/
theorem sampleResponse_across_turns :
    let radio := Radio.prompt sampleResponse.bytes ⟨5000⟩ ⟨1000⟩
    let other := Radio.prompt (sampleResponse.ahead 0xfffffc18).bytes ⟨2000⟩ ⟨0xfffffff830⟩
    let s := Session.fresh (Config.standard Config.defaultPan 1)
    let run : Run (Line Rat) String Session (Except (Error String) Rat) := radio.initiate () s 2
    let run' : Run (Line Rat) String Session (Except (Error String) Rat) := other.initiate () s 2
    run.value = .ok (distanceOfFlight (1000 * tickSeconds)) ∧ run'.value = run.value ∧
      run'.state = run.state ∧ outward run'.events = outward run.events := by
  intro radio other s run run'
  have hvalue : run.value = .ok (distanceOfFlight (1000 * tickSeconds)) := by cbv
  have hradio := Radio.translates_prompt sampleResponse ⟨5000⟩ ⟨1000⟩ ⟨0xfffffff448⟩ 0xfffffc18
  exact ⟨hvalue, ranging_forgets_clock_origins _ _ _ _ _ hradio () () trivial s 2⟩

end Ranging

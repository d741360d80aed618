import Ranging.Radio.Device

/-!
# What the events of a run tell

The answers that a run got to a request, the status words that it read and the
frames that it stored are read off its events. Each is a list in the order of
the run, and the list of a run in two parts is that of the first part followed
by that of the second.
-/

namespace Ranging

namespace Event

/-- The event is no failed request. -/
def succeeds {L ε : Type} : Event L ε → Prop
  | .call _ (.error _) => False
  | _ => True

def answerTo? {L ε : Type} (request : Request) : Event L ε → Option (Except ε request.Answer)
  | .call asked answer => if h : asked = request then some (h ▸ answer) else none
  | _ => none

/-- The status word that was read, if the event is a successful reading. -/
def status? {L ε : Type} : Event L ε → Option Status
  | .call .readStatus (.ok status) => some status
  | _ => none

def stored? {L ε : Type} : Event L ε → Option (List UInt8)
  | .call (.storeFrame frame) (.ok _) => some frame
  | _ => none

/-- Whether the event is the start of a transmission, successful or not. -/
def isSend {L ε : Type} : Event L ε → Bool
  | .call (.send _ _) _ => true
  | _ => false

@[simp] theorem succeeds_ok {L ε : Type} (request : Request) (answer : request.Answer) :
    (Event.call request (.ok answer) : Event L ε).succeeds := trivial

@[simp] theorem not_succeeds_error {L ε : Type} (request : Request) (cause : ε) :
    ¬(Event.call request (.error cause) : Event L ε).succeeds := id

@[simp] theorem succeeds_pause {L ε : Type} (length : Pause) :
    (Event.pause length : Event L ε).succeeds := trivial

@[simp] theorem succeeds_log {L ε : Type} (line : L) :
    (Event.log line : Event L ε).succeeds := trivial

end Event

/-- The answers that were given to a request. -/
def answersTo {L ε : Type} (request : Request) (events : List (Event L ε)) :
    List (Except ε request.Answer) :=
  events.filterMap (Event.answerTo? request)

/-- The status words that were read. -/
def statusesRead {L ε : Type} (events : List (Event L ε)) : List Status :=
  events.filterMap Event.status?

/-- The frames that were stored for sending. -/
def framesStored {L ε : Type} (events : List (Event L ε)) : List (List UInt8) :=
  events.filterMap Event.stored?

/-- The first status word read that shows any of the given flags. -/
def firstShowing {L ε : Type} (flags : Status) (events : List (Event L ε)) : Option Status :=
  (statusesRead events).find? (·.intersects flags)

section Reading

variable {L ε : Type}

@[simp] theorem answersTo_nil (request : Request) :
    answersTo request ([] : List (Event L ε)) = [] := rfl

@[simp] theorem answersTo_call_self (request : Request) (answer : Except ε request.Answer)
    (events : List (Event L ε)) :
    answersTo request (.call request answer :: events) = answer :: answersTo request events := by
  simp [answersTo, Event.answerTo?]

@[simp] theorem answersTo_call_of_ne (request asked : Request) (answer : Except ε asked.Answer)
    (events : List (Event L ε)) (h : asked ≠ request) :
    answersTo request (.call asked answer :: events) = answersTo request events := by
  simp [answersTo, Event.answerTo?, h]

@[simp] theorem answersTo_pause (request : Request) (length : Pause) (events : List (Event L ε)) :
    answersTo request (.pause length :: events) = answersTo request events := rfl

@[simp] theorem answersTo_log (request : Request) (line : L) (events : List (Event L ε)) :
    answersTo request (.log line :: events) = answersTo request events := rfl

@[simp] theorem answersTo_append (request : Request) (xs ys : List (Event L ε)) :
    answersTo request (xs ++ ys) = answersTo request xs ++ answersTo request ys :=
  List.filterMap_append

theorem mem_answersTo (request : Request) (answer : Except ε request.Answer)
    (events : List (Event L ε)) :
    answer ∈ answersTo request events ↔ .call request answer ∈ events := by
  induction events with
  | nil => simp
  | cons event events ih =>
      cases event with
      | pause length => simp [ih]
      | log line => simp [ih]
      | call asked given =>
          by_cases h : asked = request
          · subst h
            simp [ih]
          · have hne : Event.call request answer ≠ (.call asked given : Event L ε) := by
              intro heq
              cases heq
              exact h rfl
            rw [answersTo_call_of_ne _ _ _ _ h, ih, List.mem_cons, or_iff_right hne]

@[simp] theorem statusesRead_nil : statusesRead ([] : List (Event L ε)) = [] := rfl

@[simp] theorem statusesRead_ok (status : Status) (events : List (Event L ε)) :
    statusesRead (.call .readStatus (.ok status : Except ε Status) :: events) =
      status :: statusesRead events := rfl

@[simp] theorem statusesRead_call_of_ne (asked : Request) (answer : Except ε asked.Answer)
    (events : List (Event L ε)) (h : asked ≠ .readStatus) :
    statusesRead (.call asked answer :: events) = statusesRead events := by
  cases asked <;> first | rfl | exact absurd rfl h

@[simp] theorem statusesRead_pause (length : Pause) (events : List (Event L ε)) :
    statusesRead (.pause length :: events) = statusesRead events := rfl

@[simp] theorem statusesRead_log (line : L) (events : List (Event L ε)) :
    statusesRead (.log line :: events) = statusesRead events := rfl

@[simp] theorem statusesRead_append (xs ys : List (Event L ε)) :
    statusesRead (xs ++ ys) = statusesRead xs ++ statusesRead ys :=
  List.filterMap_append

@[simp] theorem statusesRead_map_log (lines : List L) :
    statusesRead (lines.map .log : List (Event L ε)) = [] := by
  induction lines with
  | nil => rfl
  | cons line lines ih => rw [List.map_cons, statusesRead_log, ih]

@[simp] theorem framesStored_nil : framesStored ([] : List (Event L ε)) = [] := rfl

@[simp] theorem framesStored_ok (frame : List UInt8) (events : List (Event L ε)) :
    framesStored (.call (.storeFrame frame) (.ok () : Except ε Unit) :: events) =
      frame :: framesStored events := rfl

@[simp] theorem framesStored_call_of_ne (asked : Request) (answer : Except ε asked.Answer)
    (events : List (Event L ε)) (h : ∀ frame, asked ≠ .storeFrame frame) :
    framesStored (.call asked answer :: events) = framesStored events := by
  cases asked <;> first | rfl | exact absurd rfl (h _)

@[simp] theorem framesStored_pause (length : Pause) (events : List (Event L ε)) :
    framesStored (.pause length :: events) = framesStored events := rfl

@[simp] theorem framesStored_log (line : L) (events : List (Event L ε)) :
    framesStored (.log line :: events) = framesStored events := rfl

@[simp] theorem framesStored_append (xs ys : List (Event L ε)) :
    framesStored (xs ++ ys) = framesStored xs ++ framesStored ys :=
  List.filterMap_append

/-- The first reading that shows a flag, if none of those before it does. -/
theorem firstShowing_eq_some (flags : Status) (misses : List Status) (status : Status)
    (events : List (Event L ε)) (hreads : statusesRead events = misses ++ [status])
    (hmisses : ∀ miss ∈ misses, miss.intersects flags = false)
    (hstatus : status.intersects flags = true) : firstShowing flags events = some status := by
  have hnone : misses.find? (·.intersects flags) = none := by
    rw [List.find?_eq_none]
    intro miss hmem
    rw [hmisses miss hmem]
    exact Bool.false_ne_true
  rw [firstShowing, hreads, List.find?_append, hnone, Option.none_or]
  exact List.find?_cons_of_pos hstatus

theorem firstShowing_eq_none (flags : Status) (events : List (Event L ε))
    (h : ∀ status ∈ statusesRead events, status.intersects flags = false) :
    firstShowing flags events = none := by
  rw [firstShowing, List.find?_eq_none]
  intro status hmem
  rw [h status hmem]
  exact Bool.false_ne_true

end Reading

end Ranging

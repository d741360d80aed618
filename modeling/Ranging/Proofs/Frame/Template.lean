import Ranging.Frame.Mask
import Ranging.Frame.Reader

/-!
# What a template accepts

A template is a frame made by the encoder, and a mask leaves out the fields that
may differ. Field by field, a mask of marked bytes accepts the bytes of the
template only, and a mask of unmarked bytes accepts any bytes of that number.
The frames that are accepted are therefore exactly the encodings in which only
the unmarked fields differ: a Response with any sequence number and any times, a
Poll with any sequence number and any destination, and from any source if the
source is left out as well.

An accepted frame can always be read, and its fields are those that it was made
from.
-/

namespace Ranging

namespace Mask

/-- A mask is taken apart together with its template. -/
theorem accepts_append_iff (first second : Mask) (t u received : List UInt8)
    (hlength : first.length = t.length) :
    accepts (first ++ second) (t ++ u) received = true ↔
      ∃ r s, received = r ++ s ∧ accepts first t r = true ∧ accepts second u s = true := by
  induction first generalizing t received with
  | nil =>
      cases t with
      | cons b t => cases hlength
      | nil =>
          constructor
          · intro h
            exact ⟨[], received, rfl, rfl, h⟩
          · intro h
            obtain ⟨r, s, rfl, hr, hs⟩ := h
            cases r with
            | nil => exact hs
            | cons b r => cases hr
  | cons checked first ih =>
      cases t with
      | nil => cases hlength
      | cons b t =>
          cases received with
          | nil =>
              constructor
              · intro h
                cases h
              · intro h
                obtain ⟨r, s, h, hr, -⟩ := h
                obtain ⟨rfl, rfl⟩ := List.append_eq_nil_iff.1 h.symm
                cases hr
          | cons c received =>
              rw [List.cons_append, List.cons_append, accepts_cons, Bool.and_eq_true,
                ih t received (Nat.succ.inj hlength)]
              constructor
              · intro h
                obtain ⟨hhead, r, s, rfl, hr, hs⟩ := h
                refine ⟨c :: r, s, rfl, ?_, hs⟩
                rw [accepts_cons, hhead, hr, Bool.and_self]
              · intro h
                obtain ⟨r, s, h, hr, hs⟩ := h
                cases r with
                | nil => cases hr
                | cons d r =>
                    obtain ⟨rfl, rfl⟩ := List.cons.inj h
                    rw [accepts_cons, Bool.and_eq_true] at hr
                    exact ⟨hr.1, r, s, rfl, hr.2, hs⟩

/-- Marked bytes have to be those of the template. -/
theorem accepts_marked_iff (n : Nat) (t received : List UInt8) (hlength : t.length = n) :
    accepts (List.replicate n true) t received = true ↔ received = t := by
  subst hlength
  induction t generalizing received with
  | nil => cases received <;> simp [accepts]
  | cons b t ih =>
      cases received with
      | nil => simp [accepts]
      | cons c received =>
          rw [List.length_cons, List.replicate_succ, accepts_cons, Bool.and_eq_true, ih,
            Bool.not_true, Bool.false_or, beq_iff_eq, List.cons.injEq, @eq_comm _ b c]

/-- Unmarked bytes may be any bytes. -/
theorem accepts_unmarked_iff (n : Nat) (t received : List UInt8) (hlength : t.length = n) :
    accepts (List.replicate n false) t received = true ↔ received.length = n := by
  subst hlength
  induction t generalizing received with
  | nil => cases received <;> simp [accepts]
  | cons b t ih =>
      cases received with
      | nil => simp [accepts]
      | cons c received =>
          rw [List.length_cons, List.replicate_succ, accepts_cons, Bool.and_eq_true, ih]
          simp

/-- A mask that begins with marked bytes. -/
theorem accepts_marked_append_iff (n : Nat) (second : Mask) (t u received : List UInt8)
    (hlength : t.length = n) :
    accepts (List.replicate n true ++ second) (t ++ u) received = true ↔
      ∃ s, received = t ++ s ∧ accepts second u s = true := by
  rw [accepts_append_iff _ _ _ _ _ (by rw [List.length_replicate, hlength])]
  constructor
  · intro h
    obtain ⟨r, s, rfl, hr, hs⟩ := h
    rw [(accepts_marked_iff n t r hlength).1 hr]
    exact ⟨s, rfl, hs⟩
  · intro h
    obtain ⟨s, rfl, hs⟩ := h
    exact ⟨t, s, rfl, (accepts_marked_iff n t t hlength).2 rfl, hs⟩

/-- A mask that begins with unmarked bytes. -/
theorem accepts_unmarked_append_iff (n : Nat) (second : Mask) (t u received : List UInt8)
    (hlength : t.length = n) :
    accepts (List.replicate n false ++ second) (t ++ u) received = true ↔
      ∃ r s, received = r ++ s ∧ r.length = n ∧ accepts second u s = true := by
  rw [accepts_append_iff _ _ _ _ _ (by rw [List.length_replicate, hlength])]
  simp only [accepts_unmarked_iff n t _ hlength]

end Mask

/-- Two bytes are those of a word. -/
theorem length_eq_two_iff (bytes : List UInt8) : bytes.length = 2 ↔ ∃ w, bytes = bytes16 w := by
  constructor
  · intro h
    match bytes, h with
    | [b0, b1], _ => exact ⟨word16 b0 b1, (bytes16_word16 b0 b1).symm⟩
  · intro h
    obtain ⟨w, rfl⟩ := h
    exact length_bytes16 w

/-- Eight bytes are those of two words. -/
theorem length_eq_eight_iff (bytes : List UInt8) :
    bytes.length = 8 ↔ ∃ v w, bytes = bytes32 v ++ bytes32 w := by
  constructor
  · intro h
    match bytes, h with
    | [b0, b1, b2, b3, c0, c1, c2, c3], _ =>
        refine ⟨word32 b0 b1 b2 b3, word32 c0 c1 c2 c3, ?_⟩
        rw [bytes32_word32, bytes32_word32]
        rfl
  · intro h
    obtain ⟨v, w, rfl⟩ := h
    rfl

/-- The fields of a Response, in the parts in which they are compared. -/
theorem Response.bytes_eq_append (r : Response) : r.bytes = frameControl ++ ([r.seq] ++
    ((bytes16 r.pan ++ bytes16 r.src ++ bytes16 r.dst ++ [functionCode]) ++
      (bytes32 r.pollReceived ++ bytes32 r.responseSent))) := rfl

/-- The fields of a Poll, in the parts in which they are compared. -/
theorem Poll.bytes_eq_append (p : Poll) : p.bytes = frameControl ++ ([p.seq] ++ (bytes16 p.pan ++
    (bytes16 p.dst ++ (bytes16 p.src ++ [functionCode])))) := rfl

namespace Mask

/-- A Response is accepted whatever its sequence number and its times are. -/
theorem accepts_response_iff (template : Response) (received : List UInt8) :
    response.accepts template.bytes received = true ↔
      ∃ seq p r, received =
        Response.bytes ⟨seq, template.pan, template.src, template.dst, p, r⟩ := by
  have hmask : response = List.replicate 2 true ++ (List.replicate 1 false ++
      (List.replicate 7 true ++ List.replicate 8 false)) := rfl
  rw [hmask, template.bytes_eq_append, accepts_marked_append_iff 2 _ _ _ _ rfl]
  simp only [accepts_unmarked_append_iff 1 _ [template.seq] _ _ rfl,
    accepts_marked_append_iff 7 _ (bytes16 template.pan ++ bytes16 template.src ++
      bytes16 template.dst ++ [Response.functionCode]) _ _ rfl,
    accepts_unmarked_iff 8 (bytes32 template.pollReceived ++ bytes32 template.responseSent) _ rfl]
  constructor
  · intro h
    obtain ⟨_, rfl, seq, _, rfl, hseq, times, rfl, htimes⟩ := h
    obtain ⟨seq, rfl⟩ := List.length_eq_one_iff.1 hseq
    obtain ⟨p, r, rfl⟩ := (length_eq_eight_iff times).1 htimes
    exact ⟨seq, p, r, rfl⟩
  · intro h
    obtain ⟨seq, p, r, rfl⟩ := h
    exact ⟨_, rfl, [seq], _, rfl, rfl, bytes32 p ++ bytes32 r, rfl, rfl⟩

/-- A Poll is accepted whatever its sequence number and its destination are. -/
theorem accepts_poll_iff (template : Poll) (received : List UInt8) :
    poll.accepts template.bytes received = true ↔
      ∃ seq dst, received = Poll.bytes ⟨seq, template.pan, dst, template.src⟩ := by
  have hmask : poll = List.replicate 2 true ++ (List.replicate 1 false ++
      (List.replicate 2 true ++ (List.replicate 2 false ++ List.replicate 3 true))) := rfl
  rw [hmask, template.bytes_eq_append, accepts_marked_append_iff 2 _ _ _ _ rfl]
  simp only [accepts_unmarked_append_iff 1 _ [template.seq] _ _ rfl,
    accepts_marked_append_iff 2 _ (bytes16 template.pan) _ _ rfl,
    accepts_unmarked_append_iff 2 _ (bytes16 template.dst) _ _ rfl,
    accepts_marked_iff 3 (bytes16 template.src ++ [Poll.functionCode]) _ rfl]
  constructor
  · intro h
    obtain ⟨_, rfl, seq, _, rfl, hseq, _, rfl, dst, _, rfl, hdst, rfl⟩ := h
    obtain ⟨seq, rfl⟩ := List.length_eq_one_iff.1 hseq
    obtain ⟨dst, rfl⟩ := (length_eq_two_iff dst).1 hdst
    exact ⟨seq, dst, rfl⟩
  · intro h
    obtain ⟨seq, dst, rfl⟩ := h
    exact ⟨_, rfl, [seq], _, rfl, rfl, _, rfl, bytes16 dst, _, rfl, rfl, rfl⟩

/-- With the source left out, a Poll of any initiator of the network is accepted. -/
theorem accepts_pollFromAny_iff (template : Poll) (received : List UInt8) :
    pollFromAny.accepts template.bytes received = true ↔
      ∃ seq dst src, received = Poll.bytes ⟨seq, template.pan, dst, src⟩ := by
  have hmask : pollFromAny = List.replicate 2 true ++ (List.replicate 1 false ++
      (List.replicate 2 true ++ (List.replicate 2 false ++ (List.replicate 2 false ++
        List.replicate 1 true)))) := rfl
  rw [hmask, template.bytes_eq_append, accepts_marked_append_iff 2 _ _ _ _ rfl]
  simp only [accepts_unmarked_append_iff 1 _ [template.seq] _ _ rfl,
    accepts_marked_append_iff 2 _ (bytes16 template.pan) _ _ rfl,
    accepts_unmarked_append_iff 2 _ (bytes16 template.dst) _ _ rfl,
    accepts_unmarked_append_iff 2 _ (bytes16 template.src) _ _ rfl,
    accepts_marked_iff 1 [Poll.functionCode] _ rfl]
  constructor
  · intro h
    obtain ⟨_, rfl, seq, _, rfl, hseq, _, rfl, dst, _, rfl, hdst, src, _, rfl, hsrc, rfl⟩ := h
    obtain ⟨seq, rfl⟩ := List.length_eq_one_iff.1 hseq
    obtain ⟨dst, rfl⟩ := (length_eq_two_iff dst).1 hdst
    obtain ⟨src, rfl⟩ := (length_eq_two_iff src).1 hsrc
    exact ⟨seq, dst, src, rfl⟩
  · intro h
    obtain ⟨seq, dst, src, rfl⟩ := h
    exact ⟨_, rfl, [seq], _, rfl, rfl, _, rfl, bytes16 dst, _, rfl, rfl, bytes16 src, _, rfl, rfl,
      rfl⟩

end Mask

/-- A Response that makes up a whole buffer is read back. -/
theorem readFrame_bytes_response (response : Response) :
    readFrame Response response.bytes 0 = (.ok response, Response.size) := by
  have hread := readFrame_append response.decode?_bytes_append [] []
  rwa [List.nil_append, List.append_nil] at hread

/-- A Poll that makes up a whole buffer is read back. -/
theorem readFrame_bytes_poll (poll : Poll) :
    readFrame Poll poll.bytes 0 = (.ok poll, Poll.size) := by
  have hread := readFrame_append poll.decode?_bytes_append [] []
  rwa [List.nil_append, List.append_nil] at hread

/-- Two Responses of the same encoding are the same. -/
theorem Response.eq_of_bytes_eq (x y : Response) (h : x.bytes = y.bytes) : x = y := by
  have hx := readFrame_bytes_response x
  rw [h, readFrame_bytes_response y] at hx
  cases hx
  rfl

/-- Two Polls of the same encoding are the same. -/
theorem Poll.eq_of_bytes_eq (x y : Poll) (h : x.bytes = y.bytes) : x = y := by
  have hx := readFrame_bytes_poll x
  rw [h, readFrame_bytes_poll y] at hx
  cases hx
  rfl

/-! ## Accepted frames are encodings -/

/-- An instant of which the low 32 bits are given. -/
def Instant.ofLow32 (low : UInt32) : Instant := ⟨low.toUInt64⟩

@[simp] theorem Instant.low32_ofLow32 (low : UInt32) : (ofLow32 low).low32 = low := by
  simp [ofLow32, low32]

/-- A Poll can be read from the buffer, and its encoding is the buffer again. -/
def Poll.ReadsBack (buffer : List UInt8) : Prop :=
  ∃ poll : Poll, readFrame Poll buffer 0 = (.ok poll, Poll.size) ∧ poll.bytes = buffer

/-- A Response can be read from the buffer, and its encoding is the buffer again. -/
def Response.ReadsBack (buffer : List UInt8) : Prop :=
  ∃ response : Response, readFrame Response buffer 0 = (.ok response, Response.size) ∧
    (ofInstants response.pan response.src response.dst (.ofLow32 response.pollReceived)
      (.ofLow32 response.responseSent) response.seq).bytes = buffer

theorem Poll.readsBack_bytes (poll : Poll) : ReadsBack poll.bytes :=
  ⟨poll, readFrame_bytes_poll poll, rfl⟩

theorem Response.readsBack_bytes (response : Response) : ReadsBack response.bytes := by
  refine ⟨response, readFrame_bytes_response response, ?_⟩
  rw [ofInstants, Instant.low32_ofLow32, Instant.low32_ofLow32]

/-- Every Response is one that carries two instants. -/
theorem exists_ofInstants_iff (pan src dst : UInt16) (received : List UInt8) :
    (∃ seq p r, received = Response.bytes ⟨seq, pan, src, dst, p, r⟩) ↔
      ∃ p r seq, received = (Response.ofInstants pan src dst p r seq).bytes := by
  constructor
  · intro h
    obtain ⟨seq, p, r, rfl⟩ := h
    refine ⟨.ofLow32 p, .ofLow32 r, seq, ?_⟩
    rw [Response.ofInstants, Instant.low32_ofLow32, Instant.low32_ofLow32]
  · intro h
    obtain ⟨p, r, seq, rfl⟩ := h
    exact ⟨seq, p.low32, r.low32, rfl⟩

/-- Under each mask a template accepts the encodings that differ from it in the fields left
out of the mask, and nothing else, and what it accepts can be read back. -/
theorem accepts_exactly_encodings (pan src dst₀ : UInt16) (p₀ r₀ : Instant) (seq₀ : UInt8)
    (received : List UInt8) :
    let poll := Poll.bytes ⟨seq₀, pan, dst₀, src⟩
    let response := (Response.ofInstants pan src dst₀ p₀ r₀ seq₀).bytes
    (Mask.poll.accepts poll received = true ↔
      ∃ dst seq, received = Poll.bytes ⟨seq, pan, dst, src⟩) ∧
    (Mask.pollFromAny.accepts poll received = true ↔
      ∃ src' dst seq, received = Poll.bytes ⟨seq, pan, dst, src'⟩) ∧
    (Mask.response.accepts response received = true ↔
      ∃ p r seq, received = (Response.ofInstants pan src dst₀ p r seq).bytes) ∧
    (Mask.poll.accepts poll received = true → Poll.ReadsBack received) ∧
    (Mask.pollFromAny.accepts poll received = true → Poll.ReadsBack received) ∧
    (Mask.response.accepts response received = true → Response.ReadsBack received) := by
  intro poll response
  have hpoll : Mask.poll.accepts poll received = true ↔
      ∃ seq dst, received = Poll.bytes ⟨seq, pan, dst, src⟩ := Mask.accepts_poll_iff _ received
  have hany : Mask.pollFromAny.accepts poll received = true ↔
      ∃ seq dst src', received = Poll.bytes ⟨seq, pan, dst, src'⟩ :=
    Mask.accepts_pollFromAny_iff _ received
  have hresponse : Mask.response.accepts response received = true ↔
      ∃ seq p r, received = Response.bytes ⟨seq, pan, src, dst₀, p, r⟩ :=
    Mask.accepts_response_iff _ received
  refine ⟨hpoll.trans exists_comm, ?_, hresponse.trans (exists_ofInstants_iff ..), ?_, ?_, ?_⟩
  · rw [hany]
    constructor
    · intro h
      obtain ⟨seq, dst, src', h⟩ := h
      exact ⟨src', dst, seq, h⟩
    · intro h
      obtain ⟨src', dst, seq, h⟩ := h
      exact ⟨seq, dst, src', h⟩
  · intro h
    obtain ⟨seq, dst, rfl⟩ := hpoll.1 h
    exact Poll.readsBack_bytes _
  · intro h
    obtain ⟨seq, dst, src', rfl⟩ := hany.1 h
    exact Poll.readsBack_bytes _
  · intro h
    obtain ⟨seq, p, r, rfl⟩ := hresponse.1 h
    exact Response.readsBack_bytes _

end Ranging

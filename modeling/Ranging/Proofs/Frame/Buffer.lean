import Mathlib.Tactic.Ring
import Ranging.Frame.Reader

/-!
# Frames within a buffer

A frame is read back from wherever it stands in a buffer, and the offset moves behind it.

How much of a buffer a reading needs is the same whatever the bytes are. A Response is read up to
its last byte, so one that is cut off is refused. The last byte of a Poll is its function code. The
reading passes over it without looking whether it is there, so a Poll that lacks just this byte is
read and leaves the offset behind the end of the buffer. No other frame is taken for whole when it
is not.
-/

namespace Ranging

/-! ## Reading back an encoding -/

/-- An encoding is read back at its place in a buffer, whatever stands around it. All fields come
back, of the times what a frame has room for. -/
theorem readFrame_encoding_anywhere (before after : List UInt8) (pan src dst : UInt16)
    (seq : UInt8) (received sent : Instant) :
    readFrame Poll (before ++ Poll.bytes ⟨seq, pan, dst, src⟩ ++ after) before.length =
      (.ok ⟨seq, pan, dst, src⟩, before.length + 10) ∧
    ∃ response : Response,
      readFrame Response
          (before ++ (Response.ofInstants pan src dst received sent seq).bytes ++ after)
          before.length =
        (.ok response, before.length + 18) ∧
      response.seq = seq ∧ response.pan = pan ∧ response.src = src ∧ response.dst = dst ∧
      response.pollReceived.toNat = received.ticks.toNat % 2 ^ 32 ∧
      response.responseSent.toNat = sent.ticks.toNat % 2 ^ 32 := by
  have hpoll := readFrame_append (Poll.decode?_bytes_append ⟨seq, pan, dst, src⟩) before after
  have hresponse := readFrame_append
    (Response.ofInstants pan src dst received sent seq).decode?_bytes_append before after
  exact ⟨hpoll, _, hresponse, rfl, rfl, rfl, rfl, received.toNat_low32, sent.toNat_low32⟩

/-! ## Buffers that end within a frame -/

/-- Which buffers a kind of frame can be read from is a matter of their length. -/
def Takes (φ : Type) [Readable φ] (n : Nat) : Prop :=
  ∀ bytes : List UInt8, (Readable.decode? bytes : Option φ).isSome = true ↔ n ≤ bytes.length

theorem exists_nine_bytes {bytes : List UInt8} (h : 9 ≤ bytes.length) :
    ∃ b₀ b₁ b₂ b₃ b₄ b₅ b₆ b₇ b₈ rest,
      bytes = b₀ :: b₁ :: b₂ :: b₃ :: b₄ :: b₅ :: b₆ :: b₇ :: b₈ :: rest := by
  match bytes, h with
  | b₀ :: b₁ :: b₂ :: b₃ :: b₄ :: b₅ :: b₆ :: b₇ :: b₈ :: rest, _ =>
    exact ⟨b₀, b₁, b₂, b₃, b₄, b₅, b₆, b₇, b₈, rest, rfl⟩

/-- The function code of a Poll is not looked at. -/
theorem Poll.takes : Takes Poll 9 := by
  intro bytes
  constructor
  · intro h
    simp only [Readable.decode?] at h
    split at h
    · simp
    · cases h
  · intro h
    obtain ⟨b₀, b₁, b₂, b₃, b₄, b₅, b₆, b₇, b₈, rest, rfl⟩ := exists_nine_bytes h
    rfl

/-- The last byte of a Response belongs to the time at which it was sent. -/
theorem Response.takes : Takes Response 18 := by
  intro bytes
  constructor
  · intro h
    simp only [Readable.decode?] at h
    split at h
    · simp
    · cases h
  · intro h
    obtain ⟨b₀, b₁, b₂, b₃, b₄, b₅, b₆, b₇, b₈, rest, rfl⟩ :=
      exists_nine_bytes (Nat.le_trans (by decide) h)
    have hrest : 9 ≤ rest.length := by
      simp only [List.length_cons] at h
      omega
    obtain ⟨c₀, c₁, c₂, c₃, c₄, c₅, c₆, c₇, c₈, rest, rfl⟩ := exists_nine_bytes hrest
    rfl

section Takes

variable {φ : Type} [Readable φ] {n : Nat}

/-- A reading succeeds just when the bytes that it takes are there, and moves over the frame. It
fails for its offset if this lies behind the end, and else because the frame is cut off. -/
theorem Takes.readFrame_cases (htakes : Takes φ n) (buffer : List UInt8) (offset : Nat) :
    (offset + n ≤ buffer.length ∧
      ∃ frame, readFrame φ buffer offset = (.ok frame, offset + Readable.span φ)) ∨
    (buffer.length < offset + n ∧ readFrame φ buffer offset =
      (.error (if buffer.length < offset then .badOffset offset else .incomplete), offset)) := by
  have hrest := htakes (buffer.drop offset)
  rw [List.length_drop] at hrest
  rw [readFrame]
  by_cases hoffset : buffer.length < offset
  · rw [if_pos hoffset, if_pos hoffset]
    exact .inr ⟨by omega, rfl⟩
  · rw [if_neg hoffset, if_neg hoffset]
    cases hdecode : (Readable.decode? (buffer.drop offset) : Option φ) with
    | some frame =>
      rw [hdecode] at hrest
      have := hrest.1 rfl
      exact .inl ⟨by omega, frame, rfl⟩
    | none =>
      rw [hdecode] at hrest
      have : ¬ n ≤ buffer.length - offset := fun h => Bool.false_ne_true (hrest.2 h)
      exact .inr ⟨by omega, rfl⟩

/-- A Response that ends before its times. -/
example : readFrame Response [0x41, 0x88, 7, 0xca, 0xde, 2, 0, 1, 0] 0 = (.error .incomplete, 0) :=
  rfl

theorem Takes.readFrame_ok_iff (htakes : Takes φ n) (buffer : List UInt8) (offset : Nat) :
    (∃ frame, readFrame φ buffer offset = (.ok frame, offset + Readable.span φ)) ↔
      offset + n ≤ buffer.length := by
  obtain ⟨hlength, hread⟩ | ⟨hlength, hread⟩ := htakes.readFrame_cases buffer offset
  · exact iff_of_true hread hlength
  · refine iff_of_false ?_ (Nat.not_le_of_lt hlength)
    intro h
    obtain ⟨frame, hframe⟩ := h
    rw [hread] at hframe
    cases hframe

/-- A reading that gives a frame has all of it in the buffer and moves the offset behind it, and
one that gives none leaves the offset where it is. -/
def ReadsWhole (φ : Type) [Readable φ] (buffer : List UInt8) (offset : Nat) : Prop :=
  match readFrame φ buffer offset with
  | (.ok _, after) => after = offset + Readable.span φ ∧ after ≤ buffer.length
  | (.error _, after) => after = offset

/-- Only an end of the buffer within the bytes that are not taken goes unnoticed. -/
theorem Takes.readsWhole_iff (htakes : Takes φ n) (buffer : List UInt8) (offset : Nat) :
    ReadsWhole φ buffer offset ↔
      (offset + n ≤ buffer.length → offset + Readable.span φ ≤ buffer.length) := by
  rw [ReadsWhole]
  obtain ⟨hlength, frame, hread⟩ | ⟨hlength, hread⟩ := htakes.readFrame_cases buffer offset
  · rw [hread]
    exact ⟨fun h _ => h.2, fun h => ⟨rfl, h hlength⟩⟩
  · rw [hread]
    exact ⟨fun _ h => absurd h (Nat.not_le_of_lt hlength), fun _ => rfl⟩

end Takes

/-- A Response is read just when all of its bytes are there. A Poll is read as soon as the bytes
before its function code are there, and this is the only way for a frame to be read that is not
whole: the Poll is taken, and the offset moves one byte past the end of the buffer. -/
theorem reads_whole_but_function_code (buffer : List UInt8) (offset : Nat) :
    ((∃ response, readFrame Response buffer offset = (.ok response, offset + 18)) ↔
      offset + 18 ≤ buffer.length) ∧
    ((∃ poll, readFrame Poll buffer offset = (.ok poll, offset + 10)) ↔
      offset + 9 ≤ buffer.length) ∧
    ReadsWhole Response buffer offset ∧
    (ReadsWhole Poll buffer offset ↔ buffer.length ≠ offset + 9) := by
  refine ⟨?_, ?_, ?_, ?_⟩
  · exact Response.takes.readFrame_ok_iff buffer offset
  · exact Poll.takes.readFrame_ok_iff buffer offset
  · exact (Response.takes.readsWhole_iff buffer offset).2 id
  · rw [Poll.takes.readsWhole_iff]
    change (offset + 9 ≤ buffer.length → offset + 10 ≤ buffer.length) ↔ _
    omega

/-- The nine bytes of a Poll without its function code are read as a Poll of ten. -/
theorem not_readsWhole_nine_bytes :
    ¬ ReadsWhole Poll [0x41, 0x88, 7, 0xca, 0xde, 2, 0, 1, 0] 0 := by
  rw [Poll.takes.readsWhole_iff]
  decide

end Ranging

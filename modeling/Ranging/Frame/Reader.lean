import Ranging.Frame.Basic

/-!
# Reading frames out of a buffer

A frame is read at an offset of a buffer that may hold more before and after
it. A successful reading moves the offset behind the frame, a failed one leaves
it where it is.

Only the offset at which a frame was asked for is reported as bad. Wherever the
buffer ends within the frame, even before a field that is stepped over to, the
frame is incomplete.

The frame control field and the function code are not looked at: they are
compared with a template before a frame is read (see `Ranging.Mask`). The bytes
of a Poll before its function code are all that reading it takes.
-/

namespace Ranging

/-- Why no frame could be read. -/
inductive ReadError where
  /-- The offset lies behind the end of the buffer. -/
  | badOffset (offset : Nat)
  /-- The buffer ends within the frame. -/
  | incomplete
deriving DecidableEq

/-- A kind of frame that can be read out of a buffer. -/
class Readable (φ : Type) where
  /-- The number of bytes by which a reading moves the offset. -/
  span : Nat
  /-- The frame at the head of a list of bytes. -/
  decode? : List UInt8 → Option φ

instance : Readable Poll where
  span := Poll.size
  decode?
    | _ :: _ :: seq :: pan0 :: pan1 :: dst0 :: dst1 :: src0 :: src1 :: _ =>
        some ⟨seq, word16 pan0 pan1, word16 dst0 dst1, word16 src0 src1⟩
    | _ => none

instance : Readable Response where
  span := Response.size
  decode?
    | _ :: _ :: seq :: pan0 :: pan1 :: src0 :: src1 :: dst0 :: dst1 :: _ ::
        p0 :: p1 :: p2 :: p3 :: r0 :: r1 :: r2 :: r3 :: _ =>
        some ⟨seq, word16 pan0 pan1, word16 src0 src1, word16 dst0 dst1,
          word32 p0 p1 p2 p3, word32 r0 r1 r2 r3⟩
    | _ => none

/-- The frame at an offset of a buffer, and the offset after reading it. -/
def readFrame (φ : Type) [Readable φ] (buffer : List UInt8) (offset : Nat) :
    Except ReadError φ × Nat :=
  if buffer.length < offset then (.error (.badOffset offset), offset)
  else
    match Readable.decode? (buffer.drop offset) with
    | some frame => (.ok frame, offset + Readable.span φ)
    | none => (.error .incomplete, offset)

/-- What decodes at the head of a list of bytes is read at the place where the list stands. -/
theorem readFrame_append {φ : Type} [Readable φ] {bytes : List UInt8} {frame : φ}
    (hdecode : ∀ rest, Readable.decode? (bytes ++ rest) = some frame) (before after : List UInt8) :
    readFrame φ (before ++ bytes ++ after) before.length =
      (.ok frame, before.length + Readable.span φ) := by
  have hlength : ¬(before ++ bytes ++ after).length < before.length := by
    rw [List.append_assoc, List.length_append]
    omega
  rw [readFrame, if_neg hlength, List.append_assoc, List.drop_left, hdecode]

namespace Poll

/-- The encoding of a Poll decodes to it, whatever follows. -/
@[simp] theorem decode?_bytes_append (poll : Poll) (rest : List UInt8) :
    Readable.decode? (poll.bytes ++ rest) = some poll := by
  simp [Readable.decode?, bytes, frameControl, bytes16]

end Poll

namespace Response

/-- The encoding of a Response decodes to it, whatever follows. -/
@[simp] theorem decode?_bytes_append (response : Response) (rest : List UInt8) :
    Readable.decode? (response.bytes ++ rest) = some response := by
  simp [Readable.decode?, bytes, frameControl, bytes16, bytes32]

end Response

end Ranging

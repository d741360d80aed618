/-!
# Little-endian fields

All fields of a frame that are wider than a byte are sent with their lowest
byte first. `bytes16` and `bytes32` split a word into its bytes and `word16` and
`word32` put them together again; each pair is inverse in both directions.
-/

namespace Ranging

/-- The bytes of a 16-bit word, lowest first. -/
def bytes16 (w : UInt16) : List UInt8 :=
  [w.toUInt8, (w / 256).toUInt8]

/-- The bytes of a 32-bit word, lowest first. -/
def bytes32 (w : UInt32) : List UInt8 :=
  [w.toUInt8, (w / 256).toUInt8, (w / 65536).toUInt8, (w / 16777216).toUInt8]

/-- The 16-bit word with the given bytes, lowest first. -/
def word16 (b0 b1 : UInt8) : UInt16 :=
  b0.toUInt16 + b1.toUInt16 * 256

/-- The 32-bit word with the given bytes, lowest first. -/
def word32 (b0 b1 b2 b3 : UInt8) : UInt32 :=
  b0.toUInt32 + b1.toUInt32 * 256 + b2.toUInt32 * 65536 + b3.toUInt32 * 16777216

@[simp] theorem length_bytes16 (w : UInt16) : (bytes16 w).length = 2 := rfl

@[simp] theorem length_bytes32 (w : UInt32) : (bytes32 w).length = 4 := rfl

theorem toNat_word16 (b0 b1 : UInt8) :
    (word16 b0 b1).toNat = b0.toNat + b1.toNat * 256 := by
  have h0 := b0.toNat_lt
  have h1 := b1.toNat_lt
  simp only [word16, UInt16.toNat_add, UInt16.toNat_mul, UInt8.toNat_toUInt16,
    UInt16.reduceToNat]
  omega

theorem toNat_word32 (b0 b1 b2 b3 : UInt8) :
    (word32 b0 b1 b2 b3).toNat =
      b0.toNat + b1.toNat * 256 + b2.toNat * 65536 + b3.toNat * 16777216 := by
  have h0 := b0.toNat_lt
  have h1 := b1.toNat_lt
  have h2 := b2.toNat_lt
  have h3 := b3.toNat_lt
  simp only [word32, UInt32.toNat_add, UInt32.toNat_mul, UInt8.toNat_toUInt32,
    UInt32.reduceToNat]
  omega

/-- The bytes of a word make up that word. -/
@[simp] theorem word16_bytes (w : UInt16) : word16 w.toUInt8 (w / 256).toUInt8 = w := by
  have h := w.toNat_lt
  apply UInt16.toNat_inj.1
  rw [toNat_word16]
  simp only [UInt16.toNat_toUInt8, UInt16.toNat_div, UInt16.reduceToNat]
  omega

/-- The bytes of a word make up that word. -/
@[simp] theorem word32_bytes (w : UInt32) :
    word32 w.toUInt8 (w / 256).toUInt8 (w / 65536).toUInt8 (w / 16777216).toUInt8 = w := by
  have h := w.toNat_lt
  apply UInt32.toNat_inj.1
  rw [toNat_word32]
  simp only [UInt32.toNat_toUInt8, UInt32.toNat_div, UInt32.reduceToNat]
  omega

/-- Every two bytes are the bytes of the word that they make up. -/
@[simp] theorem bytes16_word16 (b0 b1 : UInt8) : bytes16 (word16 b0 b1) = [b0, b1] := by
  have h0 := b0.toNat_lt
  have h1 := b1.toNat_lt
  simp only [bytes16, List.cons.injEq, and_true]
  constructor <;> apply UInt8.toNat_inj.1 <;>
    simp only [UInt16.toNat_toUInt8, UInt16.toNat_div, toNat_word16, UInt16.reduceToNat] <;>
    omega

/-- Every four bytes are the bytes of the word that they make up. -/
@[simp] theorem bytes32_word32 (b0 b1 b2 b3 : UInt8) :
    bytes32 (word32 b0 b1 b2 b3) = [b0, b1, b2, b3] := by
  have h0 := b0.toNat_lt
  have h1 := b1.toNat_lt
  have h2 := b2.toNat_lt
  have h3 := b3.toNat_lt
  simp only [bytes32, List.cons.injEq, and_true]
  refine ⟨?_, ?_, ?_, ?_⟩ <;> apply UInt8.toNat_inj.1 <;>
    simp only [UInt32.toNat_toUInt8, UInt32.toNat_div, toNat_word32, UInt32.reduceToNat] <;>
    omega

end Ranging

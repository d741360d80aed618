import Mathlib.Tactic.Ring
import Ranging.Json.Records
import Ranging.Proofs.Clock.Modular

/-!
# The times a program can get hold of

Adding, subtracting and taking the time between two instants keep the low 40 bits of what they
compute, so they lead back into the range of the counter from wherever they start. The checked ways
to make a time do not leave it either. A decoded time, however, is the integer that was given, if
only it fits the 64-bit word, and is the one way out of the range.
-/

namespace Ranging

open Json (Value)
open Json.Codec (decode?)

namespace Json

/-- Just the integers of the word are decoded as a word, and each as itself. -/
theorem decode?_word_eq_some_iff (v : Value) (ticks : UInt64) :
    decode? v = some ticks ↔ v = .nat ticks.toNat :=
  Codec.map_natBelow?_eq_some_iff UInt64.toNat_lt (fun _ h => UInt64.toNat_ofNat_of_lt' h)
    (fun _ => UInt64.ofNat_toNat) v ticks

theorem decode?_instant_eq_some_iff (v : Value) (i : Instant) :
    decode? v = some i ↔ v = .nat i.ticks.toNat := by
  rw [← decode?_word_eq_some_iff]
  change Option.map Instant.mk (decode? v) = Option.map Instant.mk (some i.ticks) ↔ _
  exact Option.map_inj_right fun _ _ h => congrArg Instant.ticks h

theorem decode?_duration_eq_some_iff (v : Value) (d : Duration) :
    decode? v = some d ↔ v = .nat d.ticks.toNat := by
  rw [← decode?_word_eq_some_iff]
  change Option.map Duration.mk (decode? v) = Option.map Duration.mk (some d.ticks) ↔ _
  exact Option.map_inj_right fun _ _ h => congrArg Duration.ticks h

end Json

theorem and_lastTick_le (ticks : UInt64) : ticks &&& lastTick ≤ lastTick := by
  rw [le_lastTick_iff, toNat_and_lastTick]
  exact Nat.mod_lt _ (by decide)

mutual

/-- The instants a program can get hold of, where it decodes the given values. -/
inductive Instant.Obtained (given : Value → Prop) : Instant → Prop
  | made (i : Instant) (h : i.Made) : Instant.Obtained given i
  | decoded (v : Value) (i : Instant) (hgiven : given v) (h : decode? v = some i) :
      Instant.Obtained given i
  | add (i : Instant) (d : Duration) (hi : Instant.Obtained given i)
      (hd : Duration.Obtained given d) : Instant.Obtained given (i + d)
  | sub (i : Instant) (d : Duration) (hi : Instant.Obtained given i)
      (hd : Duration.Obtained given d) : Instant.Obtained given (i - d)

/-- The durations a program can get hold of, where it decodes the given values. -/
inductive Duration.Obtained (given : Value → Prop) : Duration → Prop
  | made (d : Duration) (h : d.Made) : Duration.Obtained given d
  | decoded (v : Value) (d : Duration) (hgiven : given v) (h : decode? v = some d) :
      Duration.Obtained given d
  | since (i earlier : Instant) (hi : Instant.Obtained given i)
      (hearlier : Instant.Obtained given earlier) : Duration.Obtained given (i.since earlier)

end

variable (given : Value → Prop)

/-- The values that the counter can show and the integers that were given, and no others. -/
theorem Instant.obtained_iff (i : Instant) :
    i.Obtained given ↔ i.ticks ≤ lastTick ∨ given (.nat i.ticks.toNat) := by
  constructor
  · intro h
    cases h with
    | made _ h =>
      exact .inl ((le_lastTick_iff i.ticks).2 (i.made_iff.1 h))
    | decoded v _ hgiven h =>
      rw [Json.decode?_instant_eq_some_iff] at h
      exact .inr (h ▸ hgiven)
    -- The mask brings a result back into the range, whatever the operands are.
    | add i d => exact .inl (and_lastTick_le (i.ticks + d.ticks))
    | sub i d => exact .inl (and_lastTick_le (i.ticks - d.ticks))
  · intro h
    cases h with
    | inl hle => exact .made i (i.made_iff.2 ((le_lastTick_iff i.ticks).1 hle))
    | inr hgiven => exact .decoded _ i hgiven ((Json.decode?_instant_eq_some_iff _ i).2 rfl)

theorem Duration.obtained_iff (d : Duration) :
    d.Obtained given ↔ d.ticks ≤ lastTick ∨ given (.nat d.ticks.toNat) := by
  constructor
  · intro h
    cases h with
    | made _ h =>
      exact .inl ((le_lastTick_iff d.ticks).2 (d.made_iff.1 h))
    | decoded v _ hgiven h =>
      rw [Json.decode?_duration_eq_some_iff] at h
      exact .inr (h ▸ hgiven)
    | since i earlier => exact .inl (and_lastTick_le (i.ticks - earlier.ticks))
  · intro h
    cases h with
    | inl hle => exact .made d (d.made_iff.2 ((le_lastTick_iff d.ticks).1 hle))
    | inr hgiven => exact .decoded _ d hgiven ((Json.decode?_duration_eq_some_iff _ d).2 rfl)

/-- Every time the program can get hold of is one that the counter can show, so that no sum of an
instant and a duration leaves the 64-bit word. -/
structure KeepsRange : Prop where
  instant_le : ∀ i : Instant, i.Obtained given → i.ticks ≤ lastTick
  duration_le : ∀ d : Duration, d.Obtained given → d.ticks ≤ lastTick
  sum_lt : ∀ (i : Instant) (d : Duration), i.Obtained given → d.Obtained given →
    i.ticks.toNat + d.ticks.toNat < UInt64.size

theorem keepsRange_iff :
    KeepsRange given ↔ ∀ ticks : UInt64, given (.nat ticks.toNat) → ticks ≤ lastTick := by
  constructor
  · intro h ticks hgiven
    exact h.instant_le ⟨ticks⟩ ((Instant.obtained_iff given ⟨ticks⟩).2 (.inr hgiven))
  · intro h
    have hinstant : ∀ i : Instant, i.Obtained given → i.ticks ≤ lastTick := fun i hi =>
      ((i.obtained_iff given).1 hi).elim id (h i.ticks)
    have hduration : ∀ d : Duration, d.Obtained given → d.ticks ≤ lastTick := fun d hd =>
      ((d.obtained_iff given).1 hd).elim id (h d.ticks)
    refine ⟨hinstant, hduration, fun i d hi hd => ?_⟩
    have hlt := (le_lastTick_iff i.ticks).1 (hinstant i hi)
    have hlt' := (le_lastTick_iff d.ticks).1 (hduration d hd)
    simp only [clockTurn, UInt64.size] at hlt hlt' ⊢
    omega

/-- A program gets hold of the times that the counter can show and of those it decodes, whatever
their size. Nothing but decoding an integer beyond the counter takes it out of the range. -/
theorem in_range_unless_decoded :
    (∀ i : Instant, i.Obtained given ↔ i.ticks ≤ lastTick ∨ given (.nat i.ticks.toNat)) ∧
    (∀ d : Duration, d.Obtained given ↔ d.ticks ≤ lastTick ∨ given (.nat d.ticks.toNat)) ∧
    (KeepsRange given ↔ ∀ ticks : UInt64, given (.nat ticks.toNat) → ticks ≤ lastTick) :=
  ⟨Instant.obtained_iff given, Duration.obtained_iff given, keepsRange_iff given⟩

/-- A full turn of the counter is decoded as an instant. -/
theorem not_keepsRange_full_turn : ¬ KeepsRange fun v => v = .nat clockTurn := by
  rw [keepsRange_iff]
  intro h
  exact absurd (h 0x10000000000 rfl) (by decide)

end Ranging

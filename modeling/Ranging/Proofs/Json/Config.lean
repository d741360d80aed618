import Ranging.Json.Records
import Ranging.Proofs.Json.Record

/-!
# Spellings of a configuration

The configuration of a node is a record of three other records, words and named choices, with one
field that is optional. Each of these types is `Spelled`, so that a configuration is read from each
of its spellings and, among the values that texts stand for, from no other ones.
-/

namespace Ranging

namespace Json

open Codec (encode decode? fields?)

namespace Spelled

/-- A type of data each of which is only spelled as it is written. -/
@[reducible]
def ofWritten {α : Type} [Codec α] (hplain : ∀ a : α, (encode a).Plain)
    (h : ∀ (v : Value) (a : α), decode? v = some a ↔ v = encode a) : Spelled α where
  Spells a v := v = encode a
  plain_encode := hplain
  spells_encode _ := rfl
  decode?_of_spells {a v} hspells := (h v a).2 hspells
  spells_of_decode? {a v} _ hread := (h v a).1 hread

/-- A type of choices, which are spelled by their names. -/
@[reducible]
def ofChoice {α : Type} [Named α] [Codec α] (hencode : ∀ a : α, encode a = .string (Named.name a))
    (hdecode : ∀ v : Value, decode? v = (Codec.choice? v : Option α)) : Spelled α where
  Spells a v := v = .string (Named.name a) ∨ v = .object [(Named.name a, .null)]
  plain_encode a := hencode a ▸ .string (Named.name a)
  spells_encode a := .inl (hencode a)
  decode?_of_spells {_ v} h := (hdecode v).trans (Codec.choice?_eq_some_iff.2 h)
  spells_of_decode? {_ v} _ h := Codec.choice?_eq_some_iff.1 ((hdecode v).symm.trans h)

end Spelled

/-! ## Data that are spelled as they are written -/

theorem plain_nat {n : Nat} (h : n < UInt64.size) : (Value.nat n).Plain :=
  .int n ⟨by omega, Int.ofNat_lt.2 h⟩

instance : Spelled UInt8 :=
  .ofWritten (fun n => plain_nat (Nat.lt_trans n.toNat_lt (by decide)))
    (Codec.map_natBelow?_eq_some_iff UInt8.toNat_lt (fun _ h => UInt8.toNat_ofNat_of_lt' h)
      fun _ => UInt8.ofNat_toNat)

instance : Spelled UInt16 :=
  .ofWritten (fun n => plain_nat (Nat.lt_trans n.toNat_lt (by decide)))
    (Codec.map_natBelow?_eq_some_iff UInt16.toNat_lt (fun _ h => UInt16.toNat_ofNat_of_lt' h)
      fun _ => UInt16.ofNat_toNat)

instance : Spelled UInt32 :=
  .ofWritten (fun n => plain_nat (Nat.lt_trans n.toNat_lt (by decide)))
    (Codec.map_natBelow?_eq_some_iff UInt32.toNat_lt (fun _ h => UInt32.toNat_ofNat_of_lt' h)
      fun _ => UInt32.ofNat_toNat)

theorem decode?_bool_eq_some_iff (v : Value) (b : Bool) : decode? v = some b ↔ v = encode b := by
  cases v <;> simp [encode, decode?]

instance : Spelled Bool := .ofWritten .bool decode?_bool_eq_some_iff

/-! ## Optional data -/

theorem decode?_option_of_ne_null {α : Type} [Codec α] {v : Value} (h : v ≠ .null) :
    (decode? v : Option (Option α)) = (decode? v).map some := by
  cases v with
  | null => exact absurd rfl h
  | _ => rfl

/-- An optional datum is absent or spelled as the datum, if no datum is spelled as absent. -/
@[reducible]
def Spelled.option {α : Type} [Codec α] [Spelled α] (hnull : (decode? .null : Option α) = none) :
    Spelled (Option α) where
  Spells o v := o.elim (v = .null) fun a => Spelled.Spells a v
  plain_encode o := o.rec .null Spelled.plain_encode
  spells_encode o := o.rec rfl Spelled.spells_encode
  decode?_of_spells := by
    rintro (_ | a) v h
    · exact congrArg decode? h
    · have hread : decode? v = some a := Spelled.decode?_of_spells h
      have hv : v ≠ .null := by
        rintro rfl
        exact absurd (hnull.symm.trans hread) (by simp)
      rw [decode?_option_of_ne_null hv, hread]
      rfl
  spells_of_decode? := by
    intro o v hdistinct hread
    by_cases hv : v = .null
    · subst hv
      cases hread
      exact rfl
    · rw [decode?_option_of_ne_null hv] at hread
      obtain ⟨a, ha, rfl⟩ := Option.map_eq_some_iff.1 hread
      exact Spelled.spells_of_decode? hdistinct ha

instance : Spelled (Option UInt16) := .option rfl

/-! ## Choices -/

instance : Spelled Scheme := .ofChoice (fun _ => rfl) fun _ => rfl

instance : Spelled Bitrate := .ofChoice (fun _ => rfl) fun _ => rfl

instance : Spelled PulseRate := .ofChoice (fun _ => rfl) fun _ => rfl

instance : Spelled PreambleLength := .ofChoice (fun _ => rfl) fun _ => rfl

instance : Spelled ChunkSize := .ofChoice (fun _ => rfl) fun _ => rfl

instance : Spelled Delimiter := .ofChoice (fun _ => rfl) fun _ => rfl

instance : Spelled Channel := .ofChoice (fun _ => rfl) fun _ => rfl

/-! ## Records

Every codec of a record takes the values of its fields and reads them one by one, and it refuses
any other number of values.
-/

instance : Record AntennaDelay where
  names := ["rx", "tx"]
  fields d := [⟨"rx", d.receive⟩, ⟨"tx", d.send⟩]
  nodup_names := by decide
  map_name_fields _ := rfl
  encode_eq _ := rfl
  decode?_eq_some_iff _ _ := by
    refine Option.bind_eq_some_iff.trans (exists_congr fun items => and_congr_right fun _ => ?_)
    split
    · simp only [Option.bind_eq_bind, Option.bind_eq_some_iff, List.forall₂_cons, Field.Reads]
      constructor
      · rintro ⟨_, h₁, _, h₂, ⟨⟩⟩
        exact ⟨h₁, h₂, .nil⟩
      · rintro ⟨h₁, h₂, -⟩
        exact ⟨_, h₁, _, h₂, rfl⟩
    · refine iff_of_false (fun h => by cases h) fun h => ?_
      simp only [List.forall₂_cons_left_iff, List.forall₂_nil_left_iff] at h
      grind

instance : Record Timeouts where
  names := timeoutsFields
  fields t :=
    [⟨"poll_tx_to_resp_rx_uus", t.responseDelay⟩, ⟨"resp_rx_timeout_uus", t.responseTimeout⟩,
      ⟨"poll_rx_timeout_uus", t.pollTimeout⟩, ⟨"poll_rx_to_resp_tx_uus", t.replyDelay⟩,
      ⟨"response_wait_us", t.responseWait⟩, ⟨"poll_wait_us", t.pollWait⟩,
      ⟨"tx_done_wait_us", t.sendWait⟩, ⟨"status_poll_interval_us", t.statusInterval⟩]
  nodup_names := by decide
  map_name_fields _ := rfl
  encode_eq _ := rfl
  decode?_eq_some_iff _ _ := by
    refine Option.bind_eq_some_iff.trans (exists_congr fun items => and_congr_right fun _ => ?_)
    split
    · simp only [Option.bind_eq_bind, Option.bind_eq_some_iff, List.forall₂_cons, Field.Reads]
      constructor
      · rintro ⟨_, h₁, _, h₂, _, h₃, _, h₄, _, h₅, _, h₆, _, h₇, _, h₈, ⟨⟩⟩
        exact ⟨h₁, h₂, h₃, h₄, h₅, h₆, h₇, h₈, .nil⟩
      · rintro ⟨h₁, h₂, h₃, h₄, h₅, h₆, h₇, h₈, -⟩
        exact ⟨_, h₁, _, h₂, _, h₃, _, h₄, _, h₅, _, h₆, _, h₇, _, h₈, rfl⟩
    · refine iff_of_false (fun h => by cases h) fun h => ?_
      simp only [List.forall₂_cons_left_iff, List.forall₂_nil_left_iff] at h
      grind

instance : Record RadioSettings where
  names := radioFields
  fields r :=
    [⟨"channel", r.channel⟩, ⟨"pulse_repetition_frequency", r.pulseRate⟩,
      ⟨"preamble_length", r.preambleLength⟩, ⟨"pac_size", r.chunkSize⟩,
      ⟨"tx_preamble_code", r.sendCode⟩, ⟨"rx_preamble_code", r.receiveCode⟩,
      ⟨"sfd_sequence", r.delimiter⟩, ⟨"bitrate", r.bitrate⟩,
      ⟨"sfd_timeout", r.delimiterTimeout⟩, ⟨"frame_filtering", r.frameFiltering⟩]
  nodup_names := by decide
  map_name_fields _ := rfl
  encode_eq _ := rfl
  decode?_eq_some_iff _ _ := by
    refine Option.bind_eq_some_iff.trans (exists_congr fun items => and_congr_right fun _ => ?_)
    split
    · simp only [Option.bind_eq_bind, Option.bind_eq_some_iff, List.forall₂_cons, Field.Reads]
      constructor
      · rintro ⟨_, h₁, _, h₂, _, h₃, _, h₄, _, h₅, _, h₆, _, h₇, _, h₈, _, h₉, _, h₁₀, ⟨⟩⟩
        exact ⟨h₁, h₂, h₃, h₄, h₅, h₆, h₇, h₈, h₉, h₁₀, .nil⟩
      · rintro ⟨h₁, h₂, h₃, h₄, h₅, h₆, h₇, h₈, h₉, h₁₀, -⟩
        exact ⟨_, h₁, _, h₂, _, h₃, _, h₄, _, h₅, _, h₆, _, h₇, _, h₈, _, h₉, _, h₁₀, rfl⟩
    · refine iff_of_false (fun h => by cases h) fun h => ?_
      simp only [List.forall₂_cons_left_iff, List.forall₂_nil_left_iff] at h
      grind

instance : Record Config where
  names := configFields
  fields c :=
    [⟨"pan_id", c.pan⟩, ⟨"addr", c.addr⟩, ⟨"mode", c.scheme⟩, ⟨"radio", c.radio⟩,
      ⟨"antenna_delay", c.antennaDelay⟩, ⟨"timeouts", c.timeouts⟩, ⟨"accept_from", c.acceptFrom⟩]
  nodup_names := by decide
  map_name_fields _ := rfl
  encode_eq _ := rfl
  decode?_eq_some_iff _ _ := by
    refine Option.bind_eq_some_iff.trans (exists_congr fun items => and_congr_right fun _ => ?_)
    split
    · simp only [Option.bind_eq_bind, Option.bind_eq_some_iff, List.forall₂_cons, Field.Reads]
      constructor
      · rintro ⟨_, h₁, _, h₂, _, h₃, _, h₄, _, h₅, _, h₆, _, h₇, ⟨⟩⟩
        exact ⟨h₁, h₂, h₃, h₄, h₅, h₆, h₇, .nil⟩
      · rintro ⟨h₁, h₂, h₃, h₄, h₅, h₆, h₇, -⟩
        exact ⟨_, h₁, _, h₂, _, h₃, _, h₄, _, h₅, _, h₆, _, h₇, rfl⟩
    · refine iff_of_false (fun h => by cases h) fun h => ?_
      simp only [List.forall₂_cons_left_iff, List.forall₂_nil_left_iff] at h
      grind

/-! ## Configurations -/

/-- A configuration is read from its own text and from every spelling of it, a text is read as a
configuration only if it spells it, and what was once read survives being written and read again. -/
theorem config_read_in_every_spelling (c : Config) :
    decode? (encode c) = some c ∧
      (parse? (encode c).write).bind decode? = some c ∧
      (∀ v, SpellsRecord (Record.fields c) v → decode? v = some c) ∧
      (∀ text v, parse? text = some v → decode? v = some c → SpellsRecord (Record.fields c) v) ∧
      ∀ (v : Value) (read : Config), decode? v = some read → decode? (encode read) = some read := by
  have hwritten (c : Config) : decode? (encode c) = some c :=
    Spelled.decode?_of_spells (Spelled.spells_encode c)
  refine ⟨hwritten c, ?_, ?_, ?_, ?_⟩
  · rw [parse?_write (Spelled.plain_encode c), Option.bind_some, hwritten]
  · intro v hspells
    exact Spelled.decode?_of_spells (a := c) hspells
  · intro text v htext hread
    exact Spelled.spells_of_decode? (distinct_of_parse? htext) hread
  · intro _ read _
    exact hwritten read

/-- Antenna delays the other way round, with a remark. -/
def remarkedDelay : Value :=
  .object (List.reverse [("rx", .nat 16436), ("tx", .nat 16436), ("measured", .bool true)])

theorem spells_remarkedDelay : SpellsRecord (Record.fields AntennaDelay.default) remarkedDelay :=
  .object [("rx", .nat 16436), ("tx", .nat 16436)] [("measured", .bool true)] _
    (.cons _ _ rfl (.cons _ _ rfl .nil)) (by decide) (List.reverse_perm _)

/-- Times without their names. -/
def bareTimeouts : Value :=
  .array [.nat 940, .nat 210, .nat 65535, .nat 1130, .nat 10000, .nat 80000, .nat 5000, .nat 10]

theorem spells_bareTimeouts : SpellsRecord (Record.fields Timeouts.default) bareTimeouts :=
  .array _ (by repeat constructor)

/-- A configuration from back to front, with a remark and with nothing about whom to accept. -/
def remarkedConfig : Value :=
  .object
    (List.reverse
      [("pan_id", .nat 0xDECA), ("addr", .nat 7), ("mode", .object [("SingleSided", .null)]),
        ("radio", encode (RadioSettings.ofScheme .singleSided)),
        ("antenna_delay", remarkedDelay), ("timeouts", bareTimeouts),
        ("comment", .string "tag")])

theorem spellsFields_remarkedConfig :
    SpellsFields (Record.fields (Config.standard 0xDECA 7))
      [("pan_id", .nat 0xDECA), ("addr", .nat 7), ("mode", .object [("SingleSided", .null)]),
        ("radio", encode (RadioSettings.ofScheme .singleSided)),
        ("antenna_delay", remarkedDelay), ("timeouts", bareTimeouts)] :=
  .cons _ _ rfl <| .cons _ _ rfl <| .cons _ _ (.inr rfl) <|
    .cons _ _ (Spelled.spells_encode (RadioSettings.ofScheme .singleSided)) <|
    .cons _ _ spells_remarkedDelay <| .cons _ _ spells_bareTimeouts <| .leftOut _ rfl .nil

theorem standardConfig_remarked :
    SpellsRecord (Record.fields (Config.standard 0xDECA 7)) remarkedConfig ∧
      decode? remarkedConfig = some (Config.standard 0xDECA 7) := by
  have hspells : SpellsRecord (Record.fields (Config.standard 0xDECA 7)) remarkedConfig :=
    .object _ [("comment", .string "tag")] _ spellsFields_remarkedConfig (by decide)
      (List.reverse_perm _)
  exact ⟨hspells,
    (config_read_in_every_spelling (Config.standard 0xDECA 7)).2.2.1 remarkedConfig hspells⟩

end Json

end Ranging

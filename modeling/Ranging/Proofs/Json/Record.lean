import Mathlib.Data.List.Forall2
import Mathlib.Data.List.Nodup
import Ranging.Json.Codec
import Ranging.Proofs.Json.Distinct
import Ranging.Proofs.Json.Text

/-!
# Spellings

A datum can be spelled by more values than the one it is written as. A record is spelled by an
array of its fields in their order, and by any object that has a member for each field, whatever
the order of its members and whatever other members it has. Each field may in turn be spelled in
any way, and one that is spelled by no value at all may be left out of the object.

`Spelled` is the type of data for which this is said in full: the codec reads a value as a datum
just when the value spells the datum. `Record` reduces this to the fields. It only asks for the
fields of a record in their order, and that its codec reads them one by one.

A value in which two members of one object have the same name is read by the first of them, so that
it may be read without spelling anything. No text stands for such a value.
-/

namespace Ranging

namespace Json

open Codec (encode decode? fields?)

/-- A type of data whose codec reads just the spellings of a datum and writes one of them, which is
what its text stands for. -/
class Spelled (α : Type) [Codec α] where
  /-- The values that spell a datum. -/
  Spells : α → Value → Prop
  plain_encode (a : α) : (encode a).Plain
  spells_encode (a : α) : Spells a (encode a)
  decode?_of_spells {a : α} {v : Value} : Spells a v → decode? v = some a
  spells_of_decode? {a : α} {v : Value} : v.Distinct → decode? v = some a → Spells a v

/-- A field of a record with what is in it. -/
structure Field where
  name : String
  {Content : Type}
  [codec : Codec Content]
  [spelled : Spelled Content]
  content : Content

namespace Field

attribute [instance] codec spelled

/-- The member that a field is written as. -/
def written (field : Field) : String × Value :=
  (field.name, encode field.content)

/-- The values that spell what is in a field. -/
def Spells (field : Field) (v : Value) : Prop :=
  Spelled.Spells field.content v

/-- The values that are read as what is in a field. -/
def Reads (field : Field) (v : Value) : Prop :=
  decode? v = some field.content

end Field

/-- The members that spell the fields of a record, in their order. -/
inductive SpellsFields : List Field → List (String × Value) → Prop
  | nil : SpellsFields [] []
  | cons (field : Field) (v : Value) {fields : List Field} {members : List (String × Value)}
      (h : field.Spells v) (rest : SpellsFields fields members) :
      SpellsFields (field :: fields) ((field.name, v) :: members)
  /-- A field that is spelled by no value may be left out. -/
  | leftOut (field : Field) {fields : List Field} {members : List (String × Value)}
      (h : field.Spells .null) (rest : SpellsFields fields members) :
      SpellsFields (field :: fields) members

/-- The values that spell a record with the given fields. -/
inductive SpellsRecord (fields : List Field) : Value → Prop
  | array (items : List Value) (h : List.Forall₂ Field.Spells fields items) :
      SpellsRecord fields (.array items)
  | object (known unknown members : List (String × Value)) (hknown : SpellsFields fields known)
      (hunknown : ∀ member ∈ unknown, member.1 ∉ fields.map Field.name)
      (h : members.Perm (known ++ unknown)) : SpellsRecord fields (.object members)

/-- The members are in the order of the fields, with none left out. -/
theorem spellsFields_written (fields : List Field) :
    SpellsFields fields (fields.map Field.written) := by
  induction fields with
  | nil => exact .nil
  | cons field fields ih => exact .cons field _ (Spelled.spells_encode field.content) ih

theorem plain_written {fields : List Field} (hnames : (fields.map Field.name).Nodup) :
    (Value.object (fields.map Field.written)).Plain := by
  refine .object _ (by rwa [List.map_map]) fun member hmember => ?_
  obtain ⟨field, -, rfl⟩ := List.mem_map.1 hmember
  exact Spelled.plain_encode field.content

theorem spellsRecord_written (fields : List Field) :
    SpellsRecord fields (.object (fields.map Field.written)) :=
  .object _ [] _ (spellsFields_written fields) (fun _ h => absurd h List.not_mem_nil)
    (List.append_nil _ ▸ .refl _)

/-! ## Looking up a name -/

theorem find?_eq_none_iff {name : String} {members : List (String × Value)} :
    Value.find? name members = none ↔ ∀ v, (name, v) ∉ members := by
  rw [Value.find?, Option.map_eq_none_iff, List.find?_eq_none]
  constructor
  · intro h v hv
    exact h (name, v) hv (BEq.refl name)
  · intro h member hmember hname
    have heq : member.1 = name := eq_of_beq hname
    exact h member.2 (heq ▸ hmember)

theorem mem_of_find?_eq_some {name : String} {v : Value} {members : List (String × Value)}
    (h : Value.find? name members = some v) : (name, v) ∈ members := by
  obtain ⟨member, hmember, rfl⟩ := Option.map_eq_some_iff.1 h
  have hname := List.find?_some hmember
  have heq : member.1 = name := eq_of_beq hname
  exact heq ▸ List.mem_of_find?_eq_some hmember

theorem find?_eq_some_of_unique {name : String} {v : Value} {members : List (String × Value)}
    (h : ∀ w, (name, w) ∈ members ↔ w = v) : Value.find? name members = some v := by
  cases hfind : Value.find? name members with
  | some w => rw [(h w).1 (mem_of_find?_eq_some hfind)]
  | none => exact absurd ((h v).2 rfl) (find?_eq_none_iff.1 hfind v)

/-! ## Reading the fields -/

theorem SpellsFields.name_mem {fields : List Field} {members : List (String × Value)}
    (h : SpellsFields fields members) {member : String × Value} (hmember : member ∈ members) :
    member.1 ∈ fields.map Field.name := by
  induction h with
  | nil => cases hmember
  | cons field v _ _ ih =>
      cases hmember with
      | head => exact List.mem_cons_self
      | tail _ hmember => exact List.mem_cons_of_mem _ (ih hmember)
  | leftOut field _ _ ih => exact List.mem_cons_of_mem _ (ih hmember)

/-- The members either hold one spelling of a field, or the field is spelled by no value. -/
theorem SpellsFields.spells {fields : List Field} {members : List (String × Value)}
    (h : SpellsFields fields members) (hnames : (fields.map Field.name).Nodup) {field : Field}
    (hfield : field ∈ fields) :
    (∃ v, field.Spells v ∧ ∀ w, (field.name, w) ∈ members ↔ w = v) ∨
      (field.Spells .null ∧ ∀ w, (field.name, w) ∉ members) := by
  induction h with
  | nil => cases hfield
  | cons head v hv rest ih =>
      obtain ⟨hhead, hnames⟩ := List.nodup_cons.1 hnames
      cases hfield with
      | head =>
          refine .inl ⟨v, hv, fun w => ⟨fun hw => ?_, fun hw => hw ▸ List.mem_cons_self⟩⟩
          cases hw with
          | head => rfl
          | tail _ hw => exact absurd (rest.name_mem hw) hhead
      | tail _ hfield =>
          have hne : field.name ≠ head.name := fun heq =>
            hhead (heq ▸ List.mem_map_of_mem hfield)
          simpa [hne] using ih hnames hfield
  | leftOut head hv rest ih =>
      obtain ⟨hhead, hnames⟩ := List.nodup_cons.1 hnames
      cases hfield with
      | head => exact .inr ⟨hv, fun w hw => hhead (rest.name_mem hw)⟩
      | tail _ hfield => exact ih hnames hfield

/-- What an object is read to hold in a field, whether it has a member for it or not. -/
theorem SpellsFields.spells_find? {fields : List Field}
    {known unknown members : List (String × Value)} (h : SpellsFields fields known)
    (hnames : (fields.map Field.name).Nodup)
    (hunknown : ∀ member ∈ unknown, member.1 ∉ fields.map Field.name)
    (hmembers : members.Perm (known ++ unknown)) {field : Field} (hfield : field ∈ fields) :
    field.Spells ((Value.find? field.name members).getD .null) := by
  have hmem (w : Value) : (field.name, w) ∈ members ↔ (field.name, w) ∈ known := by
    rw [hmembers.mem_iff, List.mem_append]
    exact or_iff_left fun hw => hunknown _ hw (List.mem_map_of_mem hfield)
  obtain ⟨v, hv, hknown⟩ | ⟨hnull, hknown⟩ := h.spells hnames hfield
  · rw [find?_eq_some_of_unique fun w => (hmem w).trans (hknown w)]
    exact hv
  · rw [find?_eq_none_iff.2 fun w hw => hknown w ((hmem w).1 hw)]
    exact hnull

theorem SpellsRecord.fields? {fields : List Field} {v : Value} (h : SpellsRecord fields v)
    (hnames : (fields.map Field.name).Nodup) :
    ∃ items, fields? (fields.map Field.name) v = some items ∧
      List.Forall₂ Field.Spells fields items := by
  cases h with
  | array items h =>
      refine ⟨items, if_pos ?_, h⟩
      rw [List.length_map, h.length_eq]
  | object known unknown members hknown hunknown hmembers =>
      refine ⟨_, rfl, ?_⟩
      rw [List.map_map, List.forall₂_map_right_iff, List.forall₂_same]
      intro field hfield
      exact hknown.spells_find? hnames hunknown hmembers hfield

/-! ## Spelling what was read -/

theorem Value.Distinct.of_fields? {names : List String} {v : Value} {items : List Value}
    (h : v.Distinct) (hfields : fields? names v = some items) : ∀ item ∈ items, item.Distinct := by
  cases h with
  | array values h =>
      obtain ⟨-, hitems⟩ := Option.ite_none_right_eq_some.1 hfields
      cases hitems
      exact h
  | object members _ h =>
      cases hfields
      intro item hitem
      obtain ⟨name, -, rfl⟩ := List.mem_map.1 hitem
      cases hfind : Value.find? name members with
      | some w => exact h _ (mem_of_find?_eq_some hfind)
      | none => exact .null
  | _ => cases hfields

/-- The members for the fields of a record, in the order of the fields. -/
def knownMembers (fields : List Field) (members : List (String × Value)) :
    List (String × Value) :=
  fields.filterMap fun field => (Value.find? field.name members).map fun v => (field.name, v)

theorem spellsFields_knownMembers {fields : List Field} {members : List (String × Value)}
    (h : ∀ field ∈ fields, field.Spells ((Value.find? field.name members).getD .null)) :
    SpellsFields fields (knownMembers fields members) := by
  induction fields with
  | nil => exact .nil
  | cons field fields ih =>
      have hfield := h field List.mem_cons_self
      have hrest := ih fun f hf => h f (List.mem_cons_of_mem _ hf)
      rw [knownMembers]
      cases hfind : Value.find? field.name members with
      | some v =>
          rw [hfind] at hfield
          rw [List.filterMap_cons_some (by rw [hfind]; rfl)]
          exact .cons field v hfield hrest
      | none =>
          rw [hfind] at hfield
          rw [List.filterMap_cons_none (by rw [hfind]; rfl)]
          exact .leftOut field hfield hrest

theorem mem_knownMembers_iff {fields : List Field} {members : List (String × Value)}
    (hdistinct : (members.map Prod.fst).Nodup) (member : String × Value) :
    member ∈ knownMembers fields members ↔
      member ∈ members ∧ member.1 ∈ fields.map Field.name := by
  rw [knownMembers, List.mem_filterMap]
  constructor
  · rintro ⟨field, hfield, h⟩
    obtain ⟨v, hv, rfl⟩ := Option.map_eq_some_iff.1 h
    exact ⟨mem_of_find?_eq_some hv, List.mem_map_of_mem hfield⟩
  · rintro ⟨hmember, hname⟩
    obtain ⟨field, hfield, hname⟩ := List.mem_map.1 hname
    refine ⟨field, hfield, ?_⟩
    rw [hname, find?_eq_some_of_unique (v := member.2) ?_]
    · rfl
    · intro w
      constructor
      · intro hw
        exact congrArg Prod.snd (List.inj_on_of_nodup_map hdistinct hw hmember rfl)
      · rintro rfl
        exact hmember

theorem map_fst_knownMembers_sublist (fields : List Field) (members : List (String × Value)) :
    ((knownMembers fields members).map Prod.fst).Sublist (fields.map Field.name) := by
  induction fields with
  | nil => exact .slnil
  | cons field fields ih =>
      rw [knownMembers]
      cases hfind : Value.find? field.name members with
      | some v =>
          rw [List.filterMap_cons_some (by rw [hfind]; rfl)]
          exact ih.cons_cons field.name
      | none =>
          rw [List.filterMap_cons_none (by rw [hfind]; rfl)]
          exact ih.cons field.name

/-- Members of different names are those for the fields and the others. -/
theorem perm_knownMembers_append (fields : List Field) {members : List (String × Value)}
    (hnames : (fields.map Field.name).Nodup) (hdistinct : (members.map Prod.fst).Nodup) :
    members.Perm (knownMembers fields members ++
      members.filter fun member => member.1 ∉ fields.map Field.name) := by
  have hmembers : members.Nodup := hdistinct.of_map _
  have hknown : (knownMembers fields members).Nodup :=
    ((map_fst_knownMembers_sublist fields members).nodup hnames).of_map _
  have hdisjoint : List.Disjoint (knownMembers fields members)
      (members.filter fun member => member.1 ∉ fields.map Field.name) := by
    intro member hknown hunknown
    obtain ⟨-, hname⟩ := (mem_knownMembers_iff hdistinct member).1 hknown
    exact of_decide_eq_true (List.mem_filter.1 hunknown).2 hname
  refine (List.perm_ext_iff_of_nodup hmembers
    (hknown.append (hmembers.filter _) hdisjoint)).2 fun member => ?_
  rw [List.mem_append, mem_knownMembers_iff hdistinct, List.mem_filter, decide_eq_true_iff,
    ← and_or_left]
  exact (and_iff_left (Classical.em _)).symm

theorem spellsRecord_of_fields? {fields : List Field} {v : Value} {items : List Value}
    (hdistinct : v.Distinct) (hnames : (fields.map Field.name).Nodup)
    (hfields : fields? (fields.map Field.name) v = some items)
    (hitems : List.Forall₂ Field.Spells fields items) : SpellsRecord fields v := by
  cases hdistinct with
  | array values =>
      obtain ⟨-, hvalues⟩ := Option.ite_none_right_eq_some.1 hfields
      cases hvalues
      exact .array items hitems
  | object members hdistinct =>
      cases hfields
      rw [List.map_map, List.forall₂_map_right_iff, List.forall₂_same] at hitems
      refine .object _ _ members (spellsFields_knownMembers hitems) ?_
        (perm_knownMembers_append fields hnames hdistinct)
      intro member hmember
      exact of_decide_eq_true (List.mem_filter.1 hmember).2
  | _ => cases hfields

/-! ## Records -/

/-- A type of records whose codec reads and writes the fields one by one. -/
class Record (α : Type) [Codec α] where
  /-- The names of the fields, in their order. -/
  names : List String
  /-- The fields of a record, in their order. -/
  fields : α → List Field
  nodup_names : names.Nodup
  map_name_fields (a : α) : (fields a).map Field.name = names
  encode_eq (a : α) : encode a = .object ((fields a).map Field.written)
  decode?_eq_some_iff (v : Value) (a : α) :
    decode? v = some a ↔
      ∃ items, fields? names v = some items ∧ List.Forall₂ Field.Reads (fields a) items

theorem Field.Spells.reads {field : Field} {v : Value} (h : field.Spells v) : field.Reads v :=
  Spelled.decode?_of_spells h

theorem Field.spells_of_reads {fields : List Field} {items : List Value}
    (hdistinct : ∀ item ∈ items, item.Distinct) (h : List.Forall₂ Field.Reads fields items) :
    List.Forall₂ Field.Spells fields items := by
  induction h with
  | nil => exact .nil
  | cons hread _ ih =>
      exact .cons (Spelled.spells_of_decode? (hdistinct _ List.mem_cons_self) hread)
        (ih fun item hitem => hdistinct item (List.mem_cons_of_mem _ hitem))

/-- A record is read from just its spellings if each of its fields is. -/
instance {α : Type} [Codec α] [Record α] : Spelled α where
  Spells a v := SpellsRecord (Record.fields a) v
  plain_encode a :=
    Record.encode_eq a ▸ plain_written (Record.map_name_fields a ▸ Record.nodup_names)
  spells_encode a := Record.encode_eq a ▸ spellsRecord_written (Record.fields a)
  decode?_of_spells := by
    intro a v h
    have hnames := Record.map_name_fields a
    obtain ⟨items, hfields, hitems⟩ := h.fields? (hnames ▸ Record.nodup_names)
    exact (Record.decode?_eq_some_iff v a).2
      ⟨items, hnames ▸ hfields, hitems.imp fun _ _ h => h.reads⟩
  spells_of_decode? := by
    intro a v hdistinct h
    have hnames := Record.map_name_fields a
    obtain ⟨items, hfields, hitems⟩ := (Record.decode?_eq_some_iff v a).1 h
    exact spellsRecord_of_fields? hdistinct (hnames ▸ Record.nodup_names) (hnames ▸ hfields)
      (Field.spells_of_reads (hdistinct.of_fields? hfields) hitems)

end Json

end Ranging

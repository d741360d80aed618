import Ranging.Json.Value
import Ranging.Number.Scalar
import Ranging.Text.Named

/-!
# Codecs

A `Codec` says how a type is written as JSON and which values are read as it.
More values are read than are written. A record is written as an object and read
from an object in any order of its members, whatever else the object holds, or
from an array of exactly its fields in their order. A named choice is written as
its name and may also be read from an object whose only member is that name with
no value. An optional field may be left out.
-/

namespace Ranging

namespace Json

/-- How a type is written and read. -/
class Codec (α : Type) where
  /-- The value that stands for a datum. -/
  encode : α → Value
  /-- The datum that a value stands for. -/
  decode? : Value → Option α

open Codec (encode decode?)

namespace Codec

/-- The integer that a value stands for, within bounds. -/
def intBetween? (lo hi : Int) : Value → Option Int
  | .int n => if lo ≤ n ∧ n ≤ hi then some n else none
  | _ => none

/-- The natural number below a bound that a value stands for. -/
def natBelow? (bound : Nat) (v : Value) : Option Nat :=
  (intBetween? 0 (bound - 1) v).map Int.toNat

/-- The choice that a value stands for, by its name. -/
def choice? {α : Type} [Named α] : Value → Option α
  | .string name => Named.ofName? name
  | .object [(name, .null)] => Named.ofName? name
  | _ => none

/-- The values of the fields of a record, in their order. A field that an object
does not have is taken as absent. -/
def fields? (names : List String) : Value → Option (List Value)
  | .object members => some (names.map fun name => (Value.find? name members).getD .null)
  | .array items => if items.length = names.length then some items else none
  | _ => none

/-- A natural number below the bound is read as itself. -/
theorem natBelow?_nat {bound n : Nat} (h : n < bound) : natBelow? bound (.nat n) = some n := by
  have hn : 0 ≤ (n : Int) ∧ (n : Int) ≤ (bound : Int) - 1 := by omega
  simp [natBelow?, intBetween?, Value.nat, hn]

/-- Only the natural numbers below the bound are read. -/
theorem natBelow?_eq_some_iff {bound n : Nat} {v : Value} :
    natBelow? bound v = some n ↔ v = .nat n ∧ n < bound := by
  constructor
  · intro h
    obtain ⟨m, hm, hn⟩ := Option.map_eq_some_iff.1 h
    cases v with
    | int k =>
        obtain ⟨hk, hm⟩ := Option.ite_none_right_eq_some.1 hm
        cases hm
        have hnat : m = n := by omega
        exact ⟨congrArg Value.int hnat, by omega⟩
    | _ => cases hm
  · rintro ⟨rfl, hn⟩
    exact natBelow?_nat hn

/-- Just the natural numbers below the bound are read as words, and each as itself. -/
theorem map_natBelow?_eq_some_iff {α : Type} {bound : Nat} {ofNat : Nat → α} {toNat : α → Nat}
    (hlt : ∀ a, toNat a < bound) (hto : ∀ n < bound, toNat (ofNat n) = n)
    (hof : ∀ a, ofNat (toNat a) = a) (v : Value) (a : α) :
    (natBelow? bound v).map ofNat = some a ↔ v = .nat (toNat a) := by
  constructor
  · intro h
    obtain ⟨n, hn, rfl⟩ := Option.map_eq_some_iff.1 h
    obtain ⟨hv, hbound⟩ := natBelow?_eq_some_iff.1 hn
    rw [hv, hto n hbound]
  · intro h
    rw [h, natBelow?_nat (hlt a), Option.map_some, hof]

/-- The name of a choice is read as that choice. -/
@[simp] theorem choice?_name {α : Type} [Named α] (a : α) :
    choice? (.string (Named.name a)) = some a :=
  Named.ofName?_name a

/-- A choice is read from its name, alone or as the only member of an object. -/
theorem choice?_eq_some_iff {α : Type} [Named α] {v : Value} {a : α} :
    choice? v = some a ↔ v = .string (Named.name a) ∨ v = .object [(Named.name a, .null)] := by
  constructor
  · intro h
    unfold choice? at h
    split at h
    · exact .inl (congrArg Value.string (Named.name_of_ofName? h).symm)
    · rw [Named.name_of_ofName? h]
      exact .inr rfl
    · cases h
  · intro h
    obtain rfl | rfl := h
    · exact choice?_name a
    · exact Named.ofName?_name a

end Codec

instance : Codec UInt8 where
  encode n := .nat n.toNat
  decode? v := (Codec.natBelow? UInt8.size v).map UInt8.ofNat

instance : Codec UInt16 where
  encode n := .nat n.toNat
  decode? v := (Codec.natBelow? UInt16.size v).map UInt16.ofNat

instance : Codec UInt32 where
  encode n := .nat n.toNat
  decode? v := (Codec.natBelow? UInt32.size v).map UInt32.ofNat

instance : Codec UInt64 where
  encode n := .nat n.toNat
  decode? v := (Codec.natBelow? UInt64.size v).map UInt64.ofNat

instance : Codec Int16 where
  encode n := .int n.toInt
  decode? v := (Codec.intBetween? Int16.minValue.toInt Int16.maxValue.toInt v).map Int16.ofInt

instance : Codec Int32 where
  encode n := .int n.toInt
  decode? v := (Codec.intBetween? Int32.minValue.toInt Int32.maxValue.toInt v).map Int32.ofInt

instance : Codec Bool where
  encode b := .bool b
  decode?
    | .bool b => some b
    | _ => none

instance : Codec Float where
  encode x := .float x
  decode?
    | .int n => some (Float.ofInt n)
    | .float x => some x
    | _ => none

instance {α : Type} [Codec α] : Codec (Option α) where
  encode
    | none => .null
    | some a => encode a
  decode?
    | .null => some none
    | v => (decode? v).map some

end Json

end Ranging

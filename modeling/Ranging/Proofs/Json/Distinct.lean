import Mathlib.Data.List.Nodup
import Mathlib.Tactic.SplitIfs
import Ranging.Json.Parser

/-!
# What texts stand for

A text may give a name twice in one object, but the value that it stands for does not: the second
member replaces the first. So every value that is read from a text has members of different names
in each of its objects.
-/

namespace Ranging

namespace Json

/-- No two members of an object have the same name. -/
inductive Value.Distinct : Value → Prop
  | null : Distinct .null
  | bool (b : Bool) : Distinct (.bool b)
  | int (n : Int) : Distinct (.int n)
  | float (x : Float) : Distinct (.float x)
  | string (text : String) : Distinct (.string text)
  | array (items : List Value) (h : ∀ item ∈ items, item.Distinct) : Distinct (.array items)
  | object (members : List (String × Value)) (hnames : (members.map Prod.fst).Nodup)
      (h : ∀ member ∈ members, member.2.Distinct) : Distinct (.object members)

theorem mem_put {name : String} {v : Value} {members : List (String × Value)}
    {member : String × Value} (h : member ∈ Value.put name v members) :
    member = (name, v) ∨ member ∈ members := by
  induction members with
  | nil => exact .inl (List.mem_singleton.1 h)
  | cons head members ih =>
      rw [Value.put] at h
      split at h
      · exact (List.mem_cons.1 h).imp_right (List.mem_cons_of_mem head)
      · obtain rfl | h := List.mem_cons.1 h
        · exact .inr List.mem_cons_self
        · exact (ih h).imp_right (List.mem_cons_of_mem head)

theorem nodup_names_put {members : List (String × Value)} (h : (members.map Prod.fst).Nodup)
    (name : String) (v : Value) : ((Value.put name v members).map Prod.fst).Nodup := by
  induction members with
  | nil => exact List.nodup_singleton name
  | cons head members ih =>
      obtain ⟨hhead, hrest⟩ := List.nodup_cons.1 h
      rw [Value.put]
      split
      · next hname =>
        have heq : head.1 = name := eq_of_beq hname
        exact List.nodup_cons.2 ⟨heq ▸ hhead, hrest⟩
      · next hname =>
        refine List.nodup_cons.2 ⟨fun hmem => ?_, ih hrest⟩
        obtain ⟨member, hmember, heq⟩ := List.mem_map.1 hmem
        obtain rfl | hmember := mem_put hmember
        · exact hname (beq_iff_eq.2 heq.symm)
        · exact hhead (heq ▸ List.mem_map_of_mem hmember)

theorem Value.Distinct.put {members : List (String × Value)} (h : (Value.object members).Distinct)
    (name : String) {v : Value} (hv : v.Distinct) :
    (Value.object (put name v members)).Distinct := by
  cases h with
  | object _ hnames h =>
      refine .object _ (nodup_names_put hnames name v) fun member hmember => ?_
      obtain rfl | hmember := mem_put hmember
      · exact hv
      · exact h member hmember

theorem distinct_of_floatValue? {negative : Bool} {mantissa : Nat} {exponent : Int} {v : Value}
    (h : floatValue? negative mantissa exponent = some v) : v.Distinct := by
  obtain ⟨-, h⟩ := Option.ite_none_right_eq_some.1 h
  cases h
  exact .float _

theorem distinct_of_integerValue? {negative : Bool} {n : Nat} {v : Value}
    (h : integerValue? negative n = some v) : v.Distinct := by
  unfold integerValue? at h
  split_ifs at h
  · exact distinct_of_floatValue? h
  · cases h
    exact .int _
  · cases h
    exact .int _
  · exact distinct_of_floatValue? h

theorem distinct_of_number? {text rest : List Char} {v : Value}
    (h : number? text = some (v, rest)) : v.Distinct := by
  simp only [number?, Option.bind_eq_bind, Option.bind_eq_some_iff] at h
  obtain ⟨_, -, _, -, _, -, h⟩ := h
  split at h
  · obtain ⟨_, hvalue, ⟨⟩⟩ := Option.bind_eq_some_iff.1 h
    exact distinct_of_integerValue? hvalue
  · obtain ⟨_, hvalue, ⟨⟩⟩ := Option.bind_eq_some_iff.1 h
    exact distinct_of_floatValue? hvalue

/-- With this much fuel, nothing is read in which two members of an object have the same name. -/
structure ReadsDistinct (fuel : Nat) : Prop where
  value {text rest : List Char} {v : Value} : value? fuel text = some (v, rest) → v.Distinct
  items {text rest : List Char} {items : List Value} :
    items? fuel text = some (items, rest) → ∀ item ∈ items, item.Distinct
  members {before members : List (String × Value)} {text rest : List Char} :
    members? fuel before text = some (members, rest) → (Value.object before).Distinct →
      (Value.object members).Distinct

theorem ReadsDistinct.value_succ {fuel : Nat} (hfuel : ReadsDistinct fuel) {text rest : List Char}
    {v : Value} (h : value? (fuel + 1) text = some (v, rest)) : v.Distinct := by
  rw [value?] at h
  split at h
  · obtain ⟨_, -, ⟨⟩⟩ := Option.map_eq_some_iff.1 h
    exact .null
  · obtain ⟨_, -, ⟨⟩⟩ := Option.map_eq_some_iff.1 h
    exact .bool true
  · obtain ⟨_, -, ⟨⟩⟩ := Option.map_eq_some_iff.1 h
    exact .bool false
  · obtain ⟨_, -, ⟨⟩⟩ := Option.map_eq_some_iff.1 h
    exact .string _
  · split at h
    · cases h
      exact .array [] fun _ hitem => absurd hitem List.not_mem_nil
    · obtain ⟨_, hitems, ⟨⟩⟩ := Option.map_eq_some_iff.1 h
      exact .array _ (hfuel.items hitems)
  · have hempty : (Value.object []).Distinct :=
      .object [] .nil fun _ hmember => absurd hmember List.not_mem_nil
    split at h
    · cases h
      exact hempty
    · obtain ⟨_, hmembers, ⟨⟩⟩ := Option.map_eq_some_iff.1 h
      exact hfuel.members hmembers hempty
  · exact distinct_of_number? h

theorem ReadsDistinct.items_succ {fuel : Nat} (hfuel : ReadsDistinct fuel) {text rest : List Char}
    {items : List Value} (h : items? (fuel + 1) text = some (items, rest)) :
    ∀ item ∈ items, item.Distinct := by
  rw [items?] at h
  obtain ⟨⟨head, behind⟩, hhead, h⟩ := Option.bind_eq_some_iff.1 h
  have hdistinct := hfuel.value hhead
  simp only at h
  split at h
  · obtain ⟨⟨tail, _⟩, htail, ⟨⟩⟩ := Option.bind_eq_some_iff.1 h
    exact List.forall_mem_cons.2 ⟨hdistinct, hfuel.items htail⟩
  · cases h
    exact List.forall_mem_singleton.2 hdistinct
  · cases h

theorem ReadsDistinct.members_succ {fuel : Nat} (hfuel : ReadsDistinct fuel)
    {before members : List (String × Value)} {text rest : List Char}
    (h : members? (fuel + 1) before text = some (members, rest))
    (hbefore : (Value.object before).Distinct) : (Value.object members).Distinct := by
  rw [members?] at h
  split at h
  · simp only [Option.bind_eq_bind, Option.bind_eq_some_iff] at h
    obtain ⟨⟨name, _⟩, -, _, -, ⟨v, _⟩, hv, h⟩ := h
    have hput := hbefore.put (String.ofList name) (hfuel.value hv)
    split at h
    · exact hfuel.members h hput
    · cases h
      exact hput
    · cases h
  · cases h

theorem readsDistinct (fuel : Nat) : ReadsDistinct fuel := by
  induction fuel with
  | zero =>
      refine ⟨fun h => ?_, fun h => ?_, fun h => ?_⟩
      · rw [value?.eq_1] at h
        cases h
      · rw [items?.eq_1] at h
        cases h
      · rw [members?.eq_1] at h
        cases h
  | succ fuel ih => exact ⟨ih.value_succ, ih.items_succ, ih.members_succ⟩

/-- No text stands for an object in which two members have the same name. -/
theorem distinct_of_parse? {text : String} {v : Value} (h : parse? text = some v) : v.Distinct := by
  obtain ⟨⟨value, rest⟩, hvalue, h⟩ := Option.bind_eq_some_iff.1 h
  obtain ⟨-, h⟩ := Option.ite_none_right_eq_some.1 h
  cases h
  exact (readsDistinct _).value hvalue

end Json

end Ranging

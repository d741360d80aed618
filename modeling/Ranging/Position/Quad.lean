/-!
# Quadruples

A position in space is determined by four measurements, so anchors and
measurements come in fours. A `Quad` is four values in order.
-/

namespace Ranging

/-- Four values in order. -/
structure Quad (α : Type) where
  first : α
  second : α
  third : α
  fourth : α
deriving DecidableEq

namespace Quad

/-- The values in order. -/
def toList {α : Type} (q : Quad α) : List α :=
  [q.first, q.second, q.third, q.fourth]

theorem toList_injective {α : Type} : Function.Injective (toList : Quad α → List α) := by
  rintro ⟨a, b, c, d⟩ ⟨a', b', c', d'⟩ h
  simpa [toList] using h

/-- The value at an index. -/
def get {α : Type} (q : Quad α) (i : Fin 4) : α :=
  match i with
  | 0 => q.first
  | 1 => q.second
  | 2 => q.third
  | 3 => q.fourth

theorem get_mem_toList {α : Type} (q : Quad α) (i : Fin 4) : q.get i ∈ q.toList := by
  match i with
  | 0 => simp [toList, get]
  | 1 => simp [toList, get]
  | 2 => simp [toList, get]
  | 3 => simp [toList, get]

theorem forall_mem_toList_iff {α : Type} (q : Quad α) (P : α → Prop) :
    (∀ a ∈ q.toList, P a) ↔ ∀ i, P (q.get i) := by
  constructor
  · intro h i
    exact h _ (q.get_mem_toList i)
  · intro h
    have hfour : P q.first ∧ P q.second ∧ P q.third ∧ P q.fourth := ⟨h 0, h 1, h 2, h 3⟩
    simpa [toList] using hfour

/-- The first four values of a list that has as many. -/
def ofList {α : Type} (values : List α) (h : 4 ≤ values.length) : Quad α :=
  ⟨values[0], values[1], values[2], values[3]⟩

/-- A function applied to each value. -/
def map {α β : Type} (f : α → β) (q : Quad α) : Quad β :=
  ⟨f q.first, f q.second, f q.third, f q.fourth⟩

@[simp] theorem get_map {α β : Type} (f : α → β) (q : Quad α) (i : Fin 4) :
    (q.map f).get i = f (q.get i) := by
  match i with
  | 0 => rfl
  | 1 => rfl
  | 2 => rfl
  | 3 => rfl

@[simp] theorem toList_map {α β : Type} (f : α → β) (q : Quad α) :
    (q.map f).toList = q.toList.map f := rfl

theorem toList_ofList {α : Type} (values : List α) (h : 4 ≤ values.length) :
    (ofList values h).toList = values.take 4 := by
  match values, h with
  | a :: b :: c :: d :: rest, _ => rfl

/-- Carry out an action for each value, in order. -/
def mapM {m : Type → Type} [Monad m] {α β : Type} (f : α → m β) (q : Quad α) : m (Quad β) := do
  let first ← f q.first
  let second ← f q.second
  let third ← f q.third
  let fourth ← f q.fourth
  return ⟨first, second, third, fourth⟩

end Quad

end Ranging

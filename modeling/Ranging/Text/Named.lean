/-!
# Named choices

A setting that is one of a few alternatives is written by name. `Named` lists
the alternatives of a type with their names; the law says that a name leads
back to the alternative it was given to, so no two of them share one.
-/

namespace Ranging

/-- A type of finitely many alternatives, each of which has a name. -/
class Named (α : Type) where
  all : List α
  name : α → String
  /-- Searching the alternatives by the name of one of them finds that one. -/
  find?_name : ∀ a, all.find? (fun b => name b == name a) = some a

namespace Named

/-- The alternative with the given name. -/
def ofName? {α : Type} [Named α] (text : String) : Option α :=
  (all : List α).find? fun a => name a == text

@[simp] theorem ofName?_name {α : Type} [Named α] (a : α) : ofName? (name a) = some a :=
  find?_name a

/-- Only the name of an alternative is read as that alternative. -/
theorem name_of_ofName? {α : Type} [Named α] {text : String} {a : α}
    (h : ofName? text = some a) : name a = text := by
  have hfound := List.find?_some h
  simpa using hfound

end Named

end Ranging

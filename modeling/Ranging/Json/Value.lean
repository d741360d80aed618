/-!
# JSON values

The data that configurations and records are exchanged in. Integers are kept
apart from other numbers: an integer field takes only a number that was written
as one. The members of an object are in the order in which their names first
came up, and each name comes up once; a later member replaces an earlier one.
-/

namespace Ranging

namespace Json

/-- A JSON value. -/
inductive Value where
  | null
  | bool (value : Bool)
  /-- A number written as an integer. -/
  | int (value : Int)
  /-- Any other number. -/
  | float (value : Float)
  | string (value : String)
  | array (items : List Value)
  /-- Named values. -/
  | object (members : List (String × Value))

namespace Value

/-- The number of a natural number. -/
def nat (n : Nat) : Value := int n

/-- The value of a name among members. -/
def find? (name : String) (members : List (String × Value)) : Option Value :=
  (members.find? fun member => member.1 == name).map Prod.snd

/-- Members with the value of a name added or replaced. -/
def put (name : String) (value : Value) : List (String × Value) → List (String × Value)
  | [] => [(name, value)]
  | member :: rest =>
      if member.1 == name then (name, value) :: rest else member :: put name value rest

/-- The value of a name is the one that was put there last. -/
@[simp] theorem find?_put_self (name : String) (value : Value) (members : List (String × Value)) :
    find? name (put name value members) = some value := by
  induction members with
  | nil => simp [put, find?]
  | cons member rest ih =>
      unfold put
      split
      · next h => simp [find?]
      · next h =>
          simp only [find?] at ih ⊢
          rw [List.find?_cons_of_neg (by simpa using h)]
          exact ih

/-- The member of an object with a name. -/
def member? (name : String) : Value → Option Value
  | object members => find? name members
  | _ => none

mutual

/-- A value with changes laid over it: in an object every member that is changed
is changed in the same way, anything else is replaced. -/
def overlay (base : Value) : Value → Value
  | object changes =>
      match base with
      | object members => object (overlayMembers members changes)
      | _ => object changes
  | change => change

/-- Members with changes laid over them. -/
def overlayMembers (members : List (String × Value)) :
    List (String × Value) → List (String × Value)
  | [] => members
  | (name, change) :: rest =>
      let value :=
        match find? name members with
        | some base => overlay base change
        | none => change
      overlayMembers (put name value members) rest

end

end Value

end Json

end Ranging

import GaleraControl.Decimal
import GaleraControl.Table

/-!
# JSON values

The documents that the API server stores and exchanges.  Numbers are either
integers or decimal fractions; a fraction never equals an integer, so `1` and
`1.0` are different values.  Object members are a `Table`, so two objects with
the same members are the same value whatever the order they were written in.
-/

namespace GaleraControl

/-- A JSON number. -/
inductive Number where
  | integer (value : Int)
  | fraction (value : Decimal)
deriving DecidableEq, Repr, Inhabited

/-- A JSON document. -/
inductive Json where
  /-- The value `null`. -/
  | null
  | bool (value : Bool)
  | number (value : Number)
  | string (value : String)
  | array (items : List Json)
  /-- Named members, in increasing order of their names. -/
  | object (members : List (String × Json))
deriving Repr, Inhabited

namespace Json

mutual

/-- Equality of documents can be decided member by member. -/
def decideEq : (left right : Json) → Decidable (left = right)
  | .null, .null => isTrue rfl
  | .bool a, .bool b => if h : a = b then isTrue (by rw [h]) else isFalse (by simp [h])
  | .number a, .number b => if h : a = b then isTrue (by rw [h]) else isFalse (by simp [h])
  | .string a, .string b => if h : a = b then isTrue (by rw [h]) else isFalse (by simp [h])
  | .array a, .array b =>
      match decideItemsEq a b with
      | isTrue h => isTrue (by rw [h])
      | isFalse h => isFalse (by simp [h])
  | .object a, .object b =>
      match decideMembersEq a b with
      | isTrue h => isTrue (by rw [h])
      | isFalse h => isFalse (by simp [h])
  | .null, .bool _ | .null, .number _ | .null, .string _ | .null, .array _ | .null, .object _
  | .bool _, .null | .bool _, .number _ | .bool _, .string _ | .bool _, .array _
  | .bool _, .object _ | .number _, .null | .number _, .bool _ | .number _, .string _
  | .number _, .array _ | .number _, .object _ | .string _, .null | .string _, .bool _
  | .string _, .number _ | .string _, .array _ | .string _, .object _ | .array _, .null
  | .array _, .bool _ | .array _, .number _ | .array _, .string _ | .array _, .object _
  | .object _, .null | .object _, .bool _ | .object _, .number _ | .object _, .string _
  | .object _, .array _ => isFalse (by simp)

/-- Equality of sequences can be decided item by item. -/
def decideItemsEq : (left right : List Json) → Decidable (left = right)
  | [], [] => isTrue rfl
  | [], _ :: _ => isFalse (by simp)
  | _ :: _, [] => isFalse (by simp)
  | a :: as, b :: bs =>
      match decideEq a b with
      | isFalse h => isFalse (by simp [h])
      | isTrue h =>
          match decideItemsEq as bs with
          | isFalse hs => isFalse (by simp [hs])
          | isTrue hs => isTrue (by rw [h, hs])

/-- Equality of member lists can be decided member by member. -/
def decideMembersEq : (left right : List (String × Json)) → Decidable (left = right)
  | [], [] => isTrue rfl
  | [], _ :: _ => isFalse (by simp)
  | _ :: _, [] => isFalse (by simp)
  | (k, a) :: as, (l, b) :: bs =>
      if names : k = l then
        match decideEq a b with
        | isFalse h => isFalse (by simp [h])
        | isTrue h =>
            match decideMembersEq as bs with
            | isFalse hs => isFalse (by simp [hs])
            | isTrue hs => isTrue (by rw [names, h, hs])
      else isFalse (by simp [names])

end

instance : DecidableEq Json := decideEq

/-- The number of an integer. -/
def integer (value : Int) : Json := .number (.integer value)

/-- The members that have a value. -/
def presentMembers (members : List (String × Option Json)) : List (String × Json) :=
  members.filterMap fun member => member.2.map (member.1, ·)

/-- An object from members in increasing order of their names, without those that are unset. -/
def ofMembers (members : List (String × Option Json)) : Json :=
  .object (presentMembers members)

/-- An object from members in any order. -/
def ofEntries (members : List (String × Json)) : Json :=
  .object (Table.ofList members)

/-- The member of an object, or `none` for a missing member and for other documents. -/
def member? : Json → String → Option Json
  | .object members, name => Table.get? members name
  | _, _ => none

/-- The value of an optional entry, `null` when it is unset. -/
def ofOption : Option Json → Json
  | none => .null
  | some value => value

/-- The text of an optional entry, `null` when it is unset. -/
def ofOptionalText (text : Option String) : Json :=
  ofOption (text.map .string)

/-- The object whose members are texts. -/
def ofTexts (texts : Table String String) : Json :=
  .object (texts.map fun entry => (entry.1, .string entry.2))

@[simp]
theorem presentMembers_nil : presentMembers [] = [] := rfl

@[simp]
theorem presentMembers_unset (name : String) (members : List (String × Option Json)) :
    presentMembers ((name, none) :: members) = presentMembers members := rfl

@[simp]
theorem presentMembers_set (name : String) (value : Json)
    (members : List (String × Option Json)) :
    presentMembers ((name, some value) :: members) = (name, value) :: presentMembers members :=
  rfl

end Json

end GaleraControl

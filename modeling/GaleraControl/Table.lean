/-!
# Tables

A table is a list of keys with their values, kept in increasing order of the
keys.  JSON objects, label sets and the stores of the API server are tables:
what is read from them depends on the keys alone, and what is printed from them
comes in key order.

`get?_insert` and `get?_erase` say what each operation does to the view
`get?`; nothing else about the layout is used elsewhere.
-/

namespace GaleraControl

/-- Values under distinct keys, in increasing key order. -/
abbrev Table (Key Value : Type) := List (Key × Value)

namespace Table

variable {Key Value : Type} [DecidableEq Key]

/-- The value stored under a key. -/
def get? : List (Key × Value) → Key → Option Value
  | [], _ => none
  | (held, value) :: rest, key => if held = key then some value else get? rest key

/-- Whether a key is present. -/
def contains (table : List (Key × Value)) (key : Key) : Bool :=
  (get? table key).isSome

/-- Store a value under a key, replacing the value that was there. -/
def insert [LT Key] [DecidableLT Key] (key : Key) (value : Value) :
    List (Key × Value) → List (Key × Value)
  | [] => [(key, value)]
  | (held, old) :: rest =>
      if held = key then (key, value) :: rest
      else if key < held then (key, value) :: (held, old) :: rest
      else (held, old) :: insert key value rest

/-- Drop a key with its value. -/
def erase (key : Key) (table : List (Key × Value)) : List (Key × Value) :=
  table.filter fun entry => entry.1 ≠ key

/-- The keys in increasing order. -/
def keys (table : List (Key × Value)) : List Key :=
  table.map Prod.fst

/-- A table from entries in any order; of two entries with one key the later counts. -/
def ofList [LT Key] [DecidableLT Key] (entries : List (Key × Value)) : Table Key Value :=
  entries.foldl (fun table entry => insert entry.1 entry.2 table) []

/-- Change the value under a key, if there is one. -/
def modify (key : Key) (change : Value → Value) (table : List (Key × Value)) :
    List (Key × Value) :=
  table.map fun entry => if entry.1 = key then (entry.1, change entry.2) else entry

@[simp]
theorem get?_nil (key : Key) : get? ([] : List (Key × Value)) key = none := rfl

@[simp]
theorem get?_insert_self [LT Key] [DecidableLT Key] (key : Key) (value : Value)
    (table : List (Key × Value)) : get? (insert key value table) key = some value := by
  induction table with
  | nil => simp [insert, get?]
  | cons entry rest ih =>
      obtain ⟨held, old⟩ := entry
      unfold insert
      split
      · simp [get?]
      · split
        · simp [get?]
        · simp [get?, *]

theorem get?_insert_of_ne [LT Key] [DecidableLT Key] {key other : Key} (ne : key ≠ other)
    (value : Value) (table : List (Key × Value)) :
    get? (insert key value table) other = get? table other := by
  induction table with
  | nil => simp [insert, get?, ne]
  | cons entry rest ih =>
      obtain ⟨held, old⟩ := entry
      unfold insert
      split
      · next same => subst same; simp [get?, ne]
      · split
        · simp [get?, ne]
        · simp [get?, ih]

/-- Reading after a write sees the written value under its key and the old ones elsewhere. -/
theorem get?_insert [LT Key] [DecidableLT Key] (key other : Key) (value : Value)
    (table : List (Key × Value)) :
    get? (insert key value table) other =
      if key = other then some value else get? table other := by
  split
  · next same => subst same; simp
  · next ne => exact get?_insert_of_ne ne value table

/-- Reading after a removal sees nothing under the removed key and the old values elsewhere. -/
theorem get?_erase (key other : Key) (table : List (Key × Value)) :
    get? (erase key table) other = if key = other then none else get? table other := by
  induction table with
  | nil => simp [erase, get?]
  | cons entry rest ih =>
      obtain ⟨held, old⟩ := entry
      by_cases same : held = key
      · subst same
        have dropped : erase held ((held, old) :: rest) = erase held rest := by simp [erase]
        rw [dropped, ih]
        split
        · rfl
        · next ne => simp [get?, ne]
      · have kept : erase key ((held, old) :: rest) = (held, old) :: erase key rest := by
          simp [erase, same]
        rw [kept]
        by_cases found : held = other
        · subst found
          simp [get?, Ne.symm same]
        · simp [get?, found, ih]

end Table

end GaleraControl

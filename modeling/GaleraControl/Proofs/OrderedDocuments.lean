import GaleraControl.Proofs.Encoding
import Mathlib.Data.List.Nodup

/-!
# Documents in order

A document that was parsed has the members of each of its objects in increasing
order of their names.  Of such an object nothing but its view counts: two of them
that show the same under every name are the same.  This is what makes it irrelevant
in which order the members of an object were written.
-/

namespace GaleraControl

namespace Table

variable {Value : Type}

/-- The names of a table stand in increasing order. -/
def Increasing (table : List (String × Value)) : Prop :=
  table.Pairwise fun first second => first.1 < second.1

theorem Increasing.distinct {table : List (String × Value)} (increasing : Increasing table) :
    Distinct table := by
  refine List.pairwise_map.mpr (increasing.imp ?_)
  intro first second before same
  exact String.lt_irrefl _ (same ▸ before)

theorem Increasing.insert {table : List (String × Value)} (increasing : Increasing table)
    (name : String) (value : Value) : Increasing (insert name value table) := by
  induction table with
  | nil => exact List.pairwise_singleton _ _
  | cons entry rest ih =>
      rcases entry with ⟨held, old⟩
      rcases List.pairwise_cons.mp increasing with ⟨least, later⟩
      unfold Table.insert
      split_ifs with same before
      · exact List.pairwise_cons.mpr ⟨fun other present => same ▸ least other present, later⟩
      · refine List.pairwise_cons.mpr ⟨?_, increasing⟩
        intro other present
        rcases List.mem_cons.mp present with rfl | inRest
        · exact before
        · exact String.lt_trans before (least other inRest)
      · have after : held < name :=
          Decidable.byContradiction fun notAfter =>
            same (String.le_antisymm (String.not_lt.mp before) (String.not_lt.mp notAfter))
        refine List.pairwise_cons.mpr ⟨?_, ih later⟩
        intro other present
        rcases eq_or_mem_of_mem_insert present with rfl | inRest
        · exact after
        · exact least other inRest

theorem Increasing.erase {table : List (String × Value)} (increasing : Increasing table)
    (name : String) : Increasing (erase name table) :=
  increasing.sublist List.filter_sublist

/-- Tables in order are the same as soon as they show the same. -/
theorem Increasing.ext {first second : List (String × Value)} (left : Increasing first)
    (right : Increasing second) (same : ∀ name, get? first name = get? second name) :
    first = second := by
  have members (entry : String × Value) : entry ∈ first ↔ entry ∈ second := by
    constructor
    · intro present
      exact mem_of_get? ((same entry.1).symm.trans (get?_of_mem left.distinct present))
    · intro present
      exact mem_of_get? ((same entry.1).trans (get?_of_mem right.distinct present))
  have permuted : first.Perm second :=
    (List.perm_ext_iff_of_nodup left.distinct.of_map right.distinct.of_map).mpr members
  refine permuted.eq_of_pairwise ?_ left right
  intro entry other _ _ before after
  exact absurd after (String.lt_asymm before)

/-- Write a value under a name, or drop a name that is there. -/
def put? (name : String) (value : Option Value) (table : List (String × Value)) :
    Option (List (String × Value)) :=
  match value with
  | some value => some (insert name value table)
  | none => if contains table name then some (erase name table) else none

theorem put?_eq_none_iff {name : String} {value : Option Value}
    {table : List (String × Value)} :
    put? name value table = none ↔ value = none ∧ get? table name = none := by
  cases value with
  | none => cases shown : get? table name <;> simp [put?, contains, shown]
  | some value => simp [put?]

theorem get?_put? {name : String} {value : Option Value} {table changed : List (String × Value)}
    (put : put? name value table = some changed) (other : String) :
    get? changed other = if name = other then value else get? table other := by
  cases value with
  | none =>
      simp only [put?, Option.ite_none_right_eq_some, Option.some.injEq] at put
      rw [← put.2, get?_erase]
  | some value =>
      obtain rfl := Option.some.inj put
      exact get?_insert name other value table

theorem Increasing.put? {name : String} {value : Option Value}
    {table changed : List (String × Value)} (increasing : Increasing table)
    (put : put? name value table = some changed) : Increasing changed := by
  cases value with
  | none =>
      simp only [Table.put?, Option.ite_none_right_eq_some, Option.some.injEq] at put
      rw [← put.2]
      exact increasing.erase name
  | some value =>
      obtain rfl := Option.some.inj put
      exact increasing.insert name value

/-- Whether a change is possible does not hang on a change under another name. -/
theorem put?_put?_eq_none_iff {name later : String} (ne : name ≠ later)
    {value last : Option Value} {table changed : List (String × Value)}
    (put : put? name value table = some changed) :
    put? later last changed = none ↔ put? later last table = none := by
  rw [put?_eq_none_iff, put?_eq_none_iff, get?_put? put, if_neg ne]

/-- Changes under different names may be made in either order. -/
theorem Increasing.put?_comm {table : List (String × Value)} (increasing : Increasing table)
    {first second : String} (ne : first ≠ second) (one other : Option Value) :
    (Table.put? first one table).bind (Table.put? second other) =
      (Table.put? second other table).bind (Table.put? first one) := by
  cases left : Table.put? first one table with
  | none =>
      cases right : Table.put? second other table with
      | none => rfl
      | some after => exact ((put?_put?_eq_none_iff ne.symm right).mpr left).symm
  | some before =>
      cases right : Table.put? second other table with
      | none => exact (put?_put?_eq_none_iff ne left).mpr right
      | some after =>
          have free : Table.put? second other before ≠ none := fun stuck =>
            absurd (right.symm.trans ((put?_put?_eq_none_iff ne left).mp stuck)) (by simp)
          have free' : Table.put? first one after ≠ none := fun stuck =>
            absurd (left.symm.trans ((put?_put?_eq_none_iff ne.symm right).mp stuck)) (by simp)
          rcases Option.ne_none_iff_exists'.mp free with ⟨both, last⟩
          rcases Option.ne_none_iff_exists'.mp free' with ⟨both', last'⟩
          have same : both = both' := by
            refine ((increasing.put? left).put? last).ext ((increasing.put? right).put? last') ?_
            intro name
            rw [get?_put? last, get?_put? left, get?_put? last', get?_put? right]
            by_cases atFirst : first = name
            · have apart : second ≠ name := fun same => ne (atFirst.trans same.symm)
              rw [if_neg apart, if_pos atFirst, if_pos atFirst]
            · rw [if_neg atFirst, if_neg atFirst]
          rw [Option.bind_some, Option.bind_some, last, last', same]

end Table

namespace Json

/-- In every object of a document the names stand in increasing order. -/
inductive Ordered : Json → Prop where
  | null : Ordered .null
  | bool (value : Bool) : Ordered (.bool value)
  | number (value : Number) : Ordered (.number value)
  | string (value : String) : Ordered (.string value)
  | array {items : List Json} (each : ∀ item ∈ items, Ordered item) : Ordered (.array items)
  | object {members : List (String × Json)} (increasing : Table.Increasing members)
      (each : ∀ member ∈ members, Ordered member.2) : Ordered (.object members)

theorem Ordered.increasing {members : List (String × Json)} (ordered : (Json.object members).Ordered) :
    Table.Increasing members := by
  cases ordered with
  | object increasing _ => exact increasing

theorem Ordered.item {items : List Json} (ordered : (Json.array items).Ordered) {item : Json}
    (present : item ∈ items) : item.Ordered := by
  cases ordered with
  | array each => exact each item present

theorem Ordered.member {members : List (String × Json)} (ordered : (Json.object members).Ordered)
    {name : String} {shown : Json} (found : Table.get? members name = some shown) :
    shown.Ordered := by
  cases ordered with
  | object _ each => exact each _ (Table.mem_of_get? found)

theorem increasing_presentMembers {members : List (String × Option Json)}
    (names : (members.map Prod.fst).Pairwise (· < ·)) :
    Table.Increasing (presentMembers members) :=
  List.pairwise_map.mp (names.sublist (keys_presentMembers_sublist members))

end Json

end GaleraControl

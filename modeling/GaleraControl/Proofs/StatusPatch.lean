import GaleraControl.Cluster.StatusDiff
import GaleraControl.Pass.Persist
import GaleraControl.Proofs.Encoding
import Mathlib.Tactic.ByContra

/-!
# The effect of a status patch

The patch of a pass is computed from two typed statuses, but it is applied to a
document that may hold members the model does not know and may leave out fields
that have their default.  Whatever that document is, as long as it reads as the
status the patch was computed from, the patched document reads as the new one,
and every member that is not a changed field of the status is as it was.
-/

namespace GaleraControl

namespace Table

variable {Key Value : Type} [DecidableEq Key]

/-- Write several entries, one after another. -/
def insertAll [LT Key] [DecidableLT Key] (entries table : List (Key × Value)) :
    List (Key × Value) :=
  entries.foldl (fun table entry => insert entry.1 entry.2 table) table

/-- Drop several keys, one after another. -/
def eraseAll (dropped : List Key) (table : List (Key × Value)) : List (Key × Value) :=
  dropped.foldl (fun table key => erase key table) table

theorem get?_eq_none_iff {table : List (Key × Value)} {key : Key} :
    get? table key = none ↔ key ∉ keys table := by
  induction table with
  | nil => simp [keys]
  | cons entry rest ih =>
      rcases entry with ⟨held, old⟩
      by_cases same : held = key
      · simp [get?, keys, same]
      · have other : key ≠ held := fun equal => same equal.symm
        simp only [get?, same, if_false, ih]
        simp [keys, other]

theorem get?_filter {table : List (Key × Value)} (distinct : Distinct table)
    (kept : Key × Value → Bool) (key : Key) :
    get? (table.filter kept) key =
      (get? table key).filter fun value => kept (key, value) := by
  induction table with
  | nil => rfl
  | cons entry rest ih =>
      rcases entry with ⟨held, old⟩
      rcases List.nodup_cons.mp distinct with ⟨fresh, distinctRest⟩
      have later := ih distinctRest
      by_cases same : held = key
      · subst same
        have absent : get? rest held = none := get?_eq_none_iff.mpr fresh
        rw [absent] at later
        by_cases keep : kept (held, old)
        · simp [get?, keep, Option.filter_some]
        · simp [get?, keep, later, Option.filter_some]
      · by_cases keep : kept (held, old)
        · simp [get?, same, keep, later]
        · simp [get?, same, keep, later]

theorem get?_insertAll [LT Key] [DecidableLT Key] {entries : List (Key × Value)}
    (distinct : Distinct entries) (table : List (Key × Value)) (key : Key) :
    get? (insertAll entries table) key = (get? entries key).or (get? table key) := by
  induction entries generalizing table with
  | nil => rfl
  | cons entry rest ih =>
      rcases entry with ⟨held, new⟩
      rcases List.nodup_cons.mp distinct with ⟨fresh, distinctRest⟩
      have later := ih distinctRest (insert held new table)
      have folded : insertAll ((held, new) :: rest) table =
        insertAll rest (insert held new table) := rfl
      rw [folded, later, get?_insert]
      by_cases same : held = key
      · have absent : get? rest key = none := get?_eq_none_iff.mpr (by rwa [← same])
        simp [get?, same, absent]
      · simp [get?, same]

theorem get?_eraseAll (dropped : List Key) (table : List (Key × Value)) (key : Key) :
    get? (eraseAll dropped table) key =
      if key ∈ dropped then none else get? table key := by
  induction dropped generalizing table with
  | nil => rfl
  | cons head rest ih =>
      have folded : eraseAll (head :: rest) table = eraseAll rest (erase head table) := rfl
      rw [folded, ih, get?_erase]
      by_cases same : head = key
      · simp [same]
      · have other : key ≠ head := fun equal => same equal.symm
        simp [same, other]

theorem mem_insertAll [LT Key] [DecidableLT Key] {entries table : List (Key × Value)}
    {entry : Key × Value} (member : entry ∈ insertAll entries table) :
    entry ∈ entries ∨ entry ∈ table := by
  induction entries generalizing table with
  | nil => exact Or.inr member
  | cons head rest ih =>
      have folded : entry ∈ insertAll rest (insert head.1 head.2 table) := member
      rcases ih folded with later | kept
      · exact Or.inl (List.mem_cons_of_mem _ later)
      · rcases eq_or_mem_of_mem_insert kept with new | old
        · exact Or.inl (by rw [new]; exact List.mem_cons_self)
        · exact Or.inr old

theorem mem_eraseAll {dropped : List Key} {table : List (Key × Value)}
    {entry : Key × Value} (member : entry ∈ eraseAll dropped table) : entry ∈ table := by
  induction dropped generalizing table with
  | nil => exact member
  | cons head rest ih =>
      have kept : entry ∈ erase head table := ih member
      exact (List.mem_filter.mp kept).1

end Table

namespace ClusterStatus

open RecordReader

/-- The members of a stored status after the changes from one typed document to another. -/
def merged (before after : Table String Json) (members : List (String × Json)) :
    List (String × Json) :=
  Table.eraseAll ((before.filter fun member => !Table.contains after member.1).map Prod.fst)
    (Table.insertAll (after.filter fun member => Table.get? before member.1 ≠ some member.2)
      members)

/-- A changed field shows its new document, and every other member what it showed before. -/
theorem get?_merged {before after : Table String Json} (distinct : Table.Distinct after)
    (members : List (String × Json)) (field : String) :
    Table.get? (merged before after members) field =
      if Table.get? after field = Table.get? before field then Table.get? members field
      else Table.get? after field := by
  have distinctFilter : Table.Distinct
      (after.filter fun member => Table.get? before member.1 ≠ some member.2) :=
    distinct.sublist (List.filter_sublist.map Prod.fst)
  have dropped : field ∈ (before.filter fun member =>
      !Table.contains after member.1).map Prod.fst ↔
      Table.get? before field ≠ none ∧ Table.get? after field = none := by
    simp only [List.mem_map, List.mem_filter, Bool.not_eq_eq_eq_not, Bool.not_true]
    constructor
    · rintro ⟨member, ⟨present, absent⟩, rfl⟩
      refine ⟨?_, by simpa [Table.contains] using absent⟩
      intro missing
      exact Table.get?_eq_none_iff.mp missing (List.mem_map_of_mem present)
    · rintro ⟨present, absent⟩
      rcases Option.ne_none_iff_exists'.mp present with ⟨value, shown⟩
      exact ⟨(field, value), ⟨Table.mem_of_get? shown, by simp [Table.contains, absent]⟩, rfl⟩
  unfold merged
  rw [Table.get?_eraseAll, Table.get?_insertAll distinctFilter, Table.get?_filter distinct]
  simp only [dropped]
  cases new : Table.get? after field with
  | none =>
      by_cases old : Table.get? before field = none
      · simp [old]
      · have other : none ≠ Table.get? before field := fun equal => old equal.symm
        simp [old, other]
  | some value =>
      by_cases same : Table.get? before field = some value
      · simp [same, Option.filter_some]
      · have other : some value ≠ Table.get? before field := fun equal => same equal.symm
        simp [same, other, Option.filter_some]

theorem mem_merged {before after : Table String Json} {members : List (String × Json)}
    {member : String × Json} (present : member ∈ merged before after members) :
    member ∈ after ∨ member ∈ members := by
  rcases Table.mem_insertAll (Table.mem_eraseAll present) with new | old
  · exact Or.inl (List.mem_filter.mp new).1
  · exact Or.inr old

/-- A field that reads alike before and after is kept, and a changed one is replaced. -/
theorem ofMembers_merged {Field : Type} {name : String} {decode : Decoder Field}
    {absent : Option Field} {before after : Table String Json}
    (distinct : Table.Distinct after) {members : List (String × Json)} {old new : Field}
    (stored : (fieldWith name decode absent).ofMembers members = .ok old)
    (read : (fieldWith name decode absent).ofMembers before = .ok old)
    (wanted : (fieldWith name decode absent).ofMembers after = .ok new) :
    (fieldWith name decode absent).ofMembers (merged before after members) = .ok new := by
  have view : Table.get? (merged before after members) name = _ :=
    get?_merged distinct members name
  split at view
  · next same =>
      have alike : (fieldWith name decode absent).ofMembers after =
          (fieldWith name decode absent).ofMembers before := ofMembers_fieldWith_congr same
      rw [wanted, read] at alike
      rw [ofMembers_fieldWith_congr view, stored]
      exact alike.symm
  · rw [ofMembers_fieldWith_congr view, wanted]

theorem object_members (status : ClusterStatus) : reader.object status.members = .ok status :=
  inverts.reads status

/-- The merged members read as the status that was to be written. -/
theorem object_merged {members : List (String × Json)} {original changed : ClusterStatus}
    (stored : reader.object members = .ok original) :
    reader.object (merged original.members changed.members members) = .ok changed := by
  rcases object_eq_ok_iff.mp stored with ⟨storedPass, storedFields⟩
  rcases object_eq_ok_iff.mp original.object_members with ⟨_, originalFields⟩
  rcases object_eq_ok_iff.mp changed.object_members with ⟨changedPass, changedFields⟩
  refine object_eq_ok_iff.mpr ⟨?_, ?_⟩
  · intro member present
    rcases mem_merged present with new | old
    · exact changedPass member new
    · exact storedPass member old
  · rcases ofMembers_reader.mp storedFields with ⟨phase, stage, generation, source, reports⟩
    rcases ofMembers_reader.mp originalFields with ⟨phase', stage', generation', source', reports'⟩
    rcases ofMembers_reader.mp changedFields with
      ⟨newPhase, newStage, newGeneration, newSource, newReports⟩
    have distinct := changed.distinct_members
    exact ofMembers_reader.mpr ⟨ofMembers_merged distinct phase phase' newPhase,
      ofMembers_merged distinct stage stage' newStage,
      ofMembers_merged distinct generation generation' newGeneration,
      ofMembers_merged distinct source source' newSource,
      ofMembers_merged distinct reports reports' newReports⟩

/-- A status that differs in nothing from another one is that one. -/
theorem eq_of_diff_eq_nil {original : Option ClusterStatus} {changed : ClusterStatus}
    (nothing : diff original changed = []) : changed = original.getD {} := by
  cases original with
  | none =>
      by_contra differs
      have written : changed ≠ {} := differs
      simp [diff, written] at nothing
  | some original =>
      have parts := List.append_eq_nil_iff.mp nothing
      have kept : merged original.members changed.members original.members =
          original.members := by
        have written := List.map_eq_nil_iff.mp parts.1
        have dropped := List.map_eq_nil_iff.mp parts.2
        rw [merged, written, dropped]
        rfl
      have reads : reader.object (merged original.members changed.members original.members) =
          .ok changed := object_merged original.object_members
      rw [kept, original.object_members] at reads
      exact (Except.ok.inj reads).symm

/-- A status differs in nothing from itself. -/
theorem diff_self (status : ClusterStatus) : diff (some status) status = [] := by
  have held {member : String × Json} (present : member ∈ status.members) :
      Table.get? status.members member.1 = some member.2 :=
    Table.get?_of_mem status.distinct_members present
  refine List.append_eq_nil_iff.mpr ⟨List.map_eq_nil_iff.mpr ?_, List.map_eq_nil_iff.mpr ?_⟩
  · exact List.filter_eq_nil_iff.mpr fun member present => by simp [held present]
  · exact List.filter_eq_nil_iff.mpr fun member present => by
      simp [Table.contains, held present]

/-! ## Patches that are computed from two statuses -/

theorem perform?_add {members inner : List (String × Json)}
    (shown : Table.get? members "status" = some (.object inner)) (field : String)
    (value : Json) :
    (PatchOperation.add (fieldPath field) value).perform? (.object members) =
      some (.object (Table.insert "status" (.object (Table.insert field value inner))
        members)) := by
  simp [PatchOperation.perform?, fieldPath, Json.add?, shown]

theorem perform?_remove {members inner : List (String × Json)}
    (shown : Table.get? members "status" = some (.object inner)) {field : String}
    (present : Table.contains inner field = true) :
    (PatchOperation.remove (fieldPath field)).perform? (.object members) =
      some (.object (Table.insert "status" (.object (Table.erase field inner)) members)) := by
  simp [PatchOperation.perform?, fieldPath, Json.remove?, shown, present]

theorem patch?_written (entries inner members : List (String × Json)) :
    (Json.object (Table.insert "status" (.object inner) members)).patch?
        (entries.map fun member => .add (fieldPath member.1) member.2) =
      some (.object (Table.insert "status" (.object (Table.insertAll entries inner))
        members)) := by
  induction entries generalizing inner with
  | nil => rfl
  | cons entry rest ih =>
      rw [List.map_cons, Json.patch?_cons,
        perform?_add (Table.get?_insert_self "status" _ members) entry.1 entry.2]
      rw [Option.bind_some, Table.insert_insert]
      exact ih (Table.insert entry.1 entry.2 inner)

theorem patch?_cleared {dropped : List String} (distinct : dropped.Nodup)
    {inner : List (String × Json)}
    (present : ∀ field ∈ dropped, Table.contains inner field = true)
    (members : List (String × Json)) :
    (Json.object (Table.insert "status" (.object inner) members)).patch?
        (dropped.map fun field => .remove (fieldPath field)) =
      some (.object (Table.insert "status" (.object (Table.eraseAll dropped inner))
        members)) := by
  induction dropped generalizing inner with
  | nil => rfl
  | cons field rest ih =>
      rcases List.nodup_cons.mp distinct with ⟨fresh, distinctRest⟩
      have first := present field List.mem_cons_self
      have later : ∀ other ∈ rest, Table.contains (Table.erase field inner) other = true := by
        intro other member
        have ne : field ≠ other := fun same => fresh (same ▸ member)
        have held := present other (List.mem_cons_of_mem _ member)
        simpa [Table.contains, Table.get?_erase, ne] using held
      rw [List.map_cons, Json.patch?_cons,
        perform?_remove (Table.get?_insert_self "status" _ members) first]
      rw [Option.bind_some, Table.insert_insert]
      exact ih distinctRest later

/-- A field that a new status leaves out, but the old one has, is present in the store. -/
theorem contains_of_cleared {members : List (String × Json)}
    {original changed : ClusterStatus} (stored : reader.object members = .ok original)
    {field : String} (held : Table.get? original.members field ≠ none)
    (dropped : Table.get? changed.members field = none) :
    Table.contains members field = true := by
  rcases ofMembers_reader.mp (object_eq_ok_iff.mp stored).2 with ⟨_, _, _, source, reports⟩
  have known : field ∈ Table.keys original.members := by
    by_contra unknown
    exact held (Table.get?_eq_none_iff.mpr unknown)
  have listed := (Json.keys_presentMembers_sublist _).subset known
  have present : Table.get? members field ≠ none := by
    intro missing
    simp only [List.map_cons, List.map_nil, List.mem_cons, List.not_mem_nil, or_false]
      at listed
    rcases listed with rfl | rfl | rfl | rfl | rfl
    · have unset : none = original.bootstrapFrom :=
        Except.ok.inj ((ofMembers_fieldWith_absent missing).symm.trans source)
      exact held (by rw [get?_members_source, ← unset]; rfl)
    · exact absurd dropped (by simp [get?_members_phase])
    · exact absurd dropped (by simp [get?_members_stage])
    · exact absurd dropped (by simp [get?_members_generation])
    · have unset : [] = original.reports :=
        Except.ok.inj ((ofMembers_fieldWith_absent missing).symm.trans reports)
      exact held (by rw [get?_members_reports, ← unset]; rfl)
  exact Option.isSome_iff_ne_none.mpr present

/-- The operations of a patch, the removals after the writes. -/
theorem diff_some (original changed : ClusterStatus) :
    diff (some original) changed =
      (changed.members.filter fun member =>
        Table.get? original.members member.1 ≠ some member.2).map
          (fun member => .add (fieldPath member.1) member.2) ++
      ((original.members.filter fun member =>
        !Table.contains changed.members member.1).map Prod.fst).map
          (fun field => .remove (fieldPath field)) := by
  simp [diff, written, cleared, Function.comp_def]

/-- On members that show the status, the operations merge the two statuses into it. -/
theorem patch?_shown {inner : List (String × Json)} {original changed : ClusterStatus}
    (stored : reader.object inner = .ok original) (members : List (String × Json)) :
    (Json.object (Table.insert "status" (.object inner) members)).patch?
        (diff (some original) changed) =
      some (.object (Table.insert "status"
        (.object (merged original.members changed.members inner)) members)) := by
  have distinct : ((original.members.filter fun member =>
      !Table.contains changed.members member.1).map Prod.fst).Nodup :=
    original.distinct_members.sublist (List.filter_sublist.map Prod.fst)
  rw [diff_some, Json.patch?, List.foldlM_append, ← Json.patch?, patch?_written]
  refine patch?_cleared distinct ?_ members
  intro field dropped
  rcases List.mem_map.mp dropped with ⟨member, listed, rfl⟩
  rcases List.mem_filter.mp listed with ⟨present, absent⟩
  have gone : Table.get? changed.members member.1 = none := by
    simpa [Table.contains] using absent
  have held : Table.get? original.members member.1 ≠ none := by
    rw [Table.get?_of_mem original.distinct_members present]
    simp
  have kept := contains_of_cleared stored held gone
  rw [Table.contains, Table.get?_insertAll, Table.get?_filter changed.distinct_members, gone]
  · exact kept
  · exact changed.distinct_members.sublist (List.filter_sublist.map Prod.fst)

/-- Where the status is an object, it does not matter that this object is written again. -/
theorem perform?_rewritten {operation : PatchOperation} {field : String}
    (about : (∃ value, operation = .add (fieldPath field) value) ∨
      operation = .remove (fieldPath field))
    {members inner : List (String × Json)}
    (shown : Table.get? members "status" = some (.object inner)) :
    operation.perform? (.object (Table.insert "status" (.object inner) members)) =
      operation.perform? (.object members) := by
  rcases about with ⟨value, rfl⟩ | rfl
  · rw [perform?_add shown, perform?_add (Table.get?_insert_self "status" _ members),
      Table.insert_insert]
  · simp only [PatchOperation.perform?, fieldPath, Json.remove?, shown,
      Table.get?_insert_self, Table.insert_insert]

/-- An operation on a field needs a status that is an object, and replaces that object. -/
theorem perform?_field {operation : PatchOperation} {field : String}
    (about : (∃ value, operation = .add (fieldPath field) value) ∨
      operation = .remove (fieldPath field))
    {members : List (String × Json)} {result : Json}
    (performed : operation.perform? (.object members) = some result) :
    ∃ inner, Table.get? members "status" = some (.object inner) ∧
      operation.perform? (.object (Table.insert "status" (.object inner) members)) =
        some result := by
  have found : ∃ inner, Table.get? members "status" = some (.object inner) := by
    cases shown : Table.get? members "status" with
    | none =>
        rcases about with ⟨value, rfl⟩ | rfl
        · simp [PatchOperation.perform?, fieldPath, Json.add?, shown] at performed
        · simp [PatchOperation.perform?, fieldPath, Json.remove?, shown] at performed
    | some status =>
        cases status with
        | object inner => exact ⟨inner, rfl⟩
        | _ =>
            rcases about with ⟨value, rfl⟩ | rfl
            · simp [PatchOperation.perform?, fieldPath, Json.add?, shown] at performed
            · simp [PatchOperation.perform?, fieldPath, Json.remove?, shown] at performed
  rcases found with ⟨inner, shown⟩
  exact ⟨inner, shown, (perform?_rewritten about shown).trans performed⟩

theorem about_of_mem_diff {original changed : ClusterStatus} {operation : PatchOperation}
    (listed : operation ∈ diff (some original) changed) :
    ∃ field, (∃ value, operation = .add (fieldPath field) value) ∨
      operation = .remove (fieldPath field) := by
  rcases List.mem_append.mp listed with write | removal
  · rcases List.mem_map.mp write with ⟨member, _, rfl⟩
    exact ⟨member.1, Or.inl ⟨member.2, rfl⟩⟩
  · rcases List.mem_map.mp removal with ⟨member, _, rfl⟩
    exact ⟨member.1, Or.inr rfl⟩

/-- A patch that applies merges the two statuses into the stored one. -/
theorem patch?_diff {original changed : ClusterStatus}
    (differs : diff (some original) changed ≠ []) {members : List (String × Json)}
    {status patched : Json} (stored : Table.get? members "status" = some status)
    (reads : decode status = .ok original)
    (applied : (Json.object members).patch? (diff (some original) changed) =
      some patched) :
    ∃ inner, status = .object inner ∧ reader.object inner = .ok original ∧
      patched = .object (Table.insert "status"
        (.object (merged original.members changed.members inner)) members) := by
  rcases List.exists_cons_of_ne_nil differs with ⟨first, rest, operations⟩
  have listed : first ∈ diff (some original) changed := by
    rw [operations]
    exact List.mem_cons_self
  rcases about_of_mem_diff listed with ⟨field, about⟩
  -- That the first operation succeeds at all shows that the stored status is an object.
  have applied' := applied
  rw [operations, Json.patch?_cons] at applied'
  rcases Option.bind_eq_some_iff.mp applied' with ⟨result, performed, followed⟩
  rcases perform?_field about performed with ⟨inner, shown, again⟩
  have object : status = .object inner := Option.some.inj (stored.symm.trans shown)
  have readInner : reader.object inner = .ok original := by
    rw [object] at reads
    exact reads
  refine ⟨inner, object, readInner, ?_⟩
  have whole : Json.patch? _ (diff (some original) changed) = _ :=
    patch?_shown readInner members
  rw [operations, Json.patch?_cons, again, Option.bind_some, followed] at whole
  exact Option.some.inj whole

end ClusterStatus

/-! ## The document of a cluster -/

namespace ObjectMeta

open RecordReader

/-- Metadata with a new version reads as before, except for the version. -/
theorem object_stamped {members : List (String × Json)} {metadata : ObjectMeta}
    (reads : reader.object members = .ok metadata) (version : String) :
    reader.object (Table.insert "resourceVersion" (.string version) members) =
      .ok { metadata with resourceVersion := some version } := by
  rcases object_eq_ok_iff.mp reads with ⟨pass, fields⟩
  refine object_eq_ok_iff.mpr ⟨?_, ?_⟩
  · intro member present
    rcases Table.eq_or_mem_of_mem_insert present with new | old
    · have sample : reader.object [("resourceVersion", .string version)] =
          .ok { resourceVersion := some version } :=
        inverts.reads { resourceVersion := some version }
      rw [new]
      exact (object_eq_ok_iff.mp sample).1 _ List.mem_cons_self
    · exact pass member old
  · have kept {Field : Type} {name : String} {decode : Decoder Field}
        {value : Option Field} (other : "resourceVersion" ≠ name)
        (read : (optional name decode).ofMembers members = .ok value) :
        (optional name decode).ofMembers
          (Table.insert "resourceVersion" (.string version) members) = .ok value :=
      (ofMembers_fieldWith_insert other _).trans read
    simp only [reader, ofMembers_next, ofMembers_done, Except.ok.injEq] at fields
    rcases fields with
      ⟨_, _, ⟨_, _, ⟨_, _, ⟨_, _, ⟨_, _, ⟨_, _, ⟨_, _, ⟨_, _, ⟨_, _, rfl, name, rfl⟩,
        generateName, rfl⟩, namespaceName, rfl⟩, uid, rfl⟩, _, rfl⟩, generation, rfl⟩,
        labels, rfl⟩, annotations, rfl⟩, owners, rfl⟩
    have stamped : (optional "resourceVersion" Decoder.text).ofMembers
        (Table.insert "resourceVersion" (.string version) members) = .ok (some version) :=
      Inverts.text.field (Table.get?_insert_self _ _ members)
    exact ofMembers_next_of (ofMembers_next_of (ofMembers_next_of (ofMembers_next_of
      (ofMembers_next_of (ofMembers_next_of (ofMembers_next_of (ofMembers_next_of
      (ofMembers_next_of (ofMembers_done _ _) (kept (by simp) name))
      (kept (by simp) generateName)) (kept (by simp) namespaceName)) (kept (by simp) uid))
      stamped) (kept (by simp) generation)) (kept (by simp) labels))
      (kept (by simp) annotations)) (kept (by simp) owners)

/-- The version of metadata is read from its own member. -/
theorem ofMembers_version {members : List (String × Json)} {metadata : ObjectMeta}
    (reads : reader.object members = .ok metadata) :
    (optional "resourceVersion" Decoder.text).ofMembers members =
      .ok metadata.resourceVersion := by
  have fields := (object_eq_ok_iff.mp reads).2
  simp only [reader, ofMembers_next, ofMembers_done, Except.ok.injEq] at fields
  rcases fields with ⟨_, _, ⟨_, _, ⟨_, _, ⟨_, _, ⟨_, _, ⟨_, _, ⟨_, _, ⟨_, _, ⟨_, _, rfl, _,
    rfl⟩, _, rfl⟩, _, rfl⟩, _, rfl⟩, version, rfl⟩, _, rfl⟩, _, rfl⟩, _, rfl⟩, _, rfl⟩
  exact version

end ObjectMeta

theorem Decoder.optional_object {Value : Type} (decode : Decoder Value)
    (members : List (String × Json)) :
    decode.optional (.object members) = (decode (.object members)).map some := rfl

theorem Decoder.optional_eq_ok {Value : Type} {decode : Decoder Value} {found : Json}
    {value : Option Value} (read : decode.optional found = .ok value) :
    (found = .null ∧ value = none) ∨
      ∃ inner, decode found = .ok inner ∧ value = some inner := by
  unfold Decoder.optional at read
  split at read
  · exact Or.inl ⟨rfl, (Except.ok.inj read).symm⟩
  · cases decoded : decode found with
    | error fault => simp [decoded, Except.map] at read
    | ok inner =>
        rw [decoded] at read
        exact Or.inr ⟨inner, rfl, (Except.ok.inj read).symm⟩

namespace Cluster

open RecordReader

/-- The three fields of a cluster, each read for itself. -/
theorem ofMembers_reader {members : List (String × Json)} {cluster : Cluster} :
    reader.ofMembers members = .ok cluster ↔
      (required "metadata" ObjectMeta.decode).ofMembers members = .ok cluster.metadata ∧
        (required "spec" ClusterSpec.decode).ofMembers members = .ok cluster.spec ∧
        (nullable "status" ClusterStatus.decode).ofMembers members = .ok cluster.status := by
  simp only [reader, ofMembers_next, ofMembers_done, Except.ok.injEq]
  constructor
  · rintro ⟨_, _, ⟨_, _, ⟨_, _, rfl, metadata, rfl⟩, spec, rfl⟩, status, rfl⟩
    exact ⟨metadata, spec, status⟩
  · rintro ⟨metadata, spec, status⟩
    exact ⟨_, _, ⟨_, _, ⟨_, _, rfl, metadata, rfl⟩, spec, rfl⟩, status, rfl⟩

/-- A stored status that reads as the given one, where none is stored as `null` or not at all. -/
theorem status_of_ofMembers {members : List (String × Json)} {status : Option ClusterStatus}
    (read : (nullable "status" ClusterStatus.decode).ofMembers members = .ok status) :
    (status = none ∧ ∀ field, Json.get? ["status", field] (.object members) = none) ∨
      ∃ document recorded, Table.get? members "status" = some document ∧
        ClusterStatus.decode document = .ok recorded ∧ status = some recorded := by
  have field : (optional "status" ClusterStatus.decode).ofMembers members = .ok status := read
  cases shown : Table.get? members "status" with
  | none =>
      have unset := Except.ok.inj ((ofMembers_fieldWith_absent shown).symm.trans field)
      refine Or.inl ⟨unset.symm, ?_⟩
      intro name
      simp [Json.get?, shown]
  | some document =>
      have decoded : ClusterStatus.decode.optional document = .ok status :=
        (ofMembers_fieldWith shown).symm.trans field
      rcases Decoder.optional_eq_ok decoded with ⟨rfl, unset⟩ | ⟨recorded, reads, same⟩
      · refine Or.inl ⟨unset, ?_⟩
        intro name
        simp [Json.get?, shown]
      · exact Or.inr ⟨document, recorded, rfl, reads, same⟩

/-- What a write of a status leaves as it was. -/
structure Keeps (original : Option ClusterStatus) (changed : ClusterStatus)
    (before after : Json) : Prop where
  members : ∀ name, name ≠ "status" → name ≠ "metadata" →
    Json.get? [name] after = Json.get? [name] before
  metadata : ∀ name, name ≠ "resourceVersion" →
    Json.get? ["metadata", name] after = Json.get? ["metadata", name] before
  status : ∀ field,
    Table.get? changed.members field =
      Table.get? (original.elim [] ClusterStatus.members) field →
    Json.get? ["status", field] after = Json.get? ["status", field] before

/-- A patch that applies puts a status in place that reads as the new one. -/
theorem patch?_status {members : List (String × Json)} {original : Option ClusterStatus}
    {changed : ClusterStatus} (differs : ClusterStatus.diff original changed ≠ [])
    (read : (nullable "status" ClusterStatus.decode).ofMembers members = .ok original)
    {patched : Json}
    (applied : (Json.object members).patch? (ClusterStatus.diff original changed) =
      some patched) :
    ∃ inner, patched = .object (Table.insert "status" (.object inner) members) ∧
      ClusterStatus.reader.object inner = .ok changed ∧
      ∀ field, Table.get? changed.members field =
          Table.get? (original.elim [] ClusterStatus.members) field →
        Table.get? inner field = Json.get? ["status", field] (.object members) := by
  rcases status_of_ofMembers read with ⟨rfl, missing⟩ | ⟨document, recorded, shown, reads, rfl⟩
  · have written : changed ≠ {} := by
      intro same
      simp [ClusterStatus.diff, same] at differs
    refine ⟨changed.members, ?_, changed.object_members, ?_⟩
    · simp only [ClusterStatus.diff, written, if_false, Json.patch?_cons, Json.patch?_nil,
        PatchOperation.perform?, Json.add?, Option.bind_some, Option.some.injEq] at applied
      exact applied.symm
    · intro field same
      rw [missing field]
      exact same
  · rcases ClusterStatus.patch?_diff differs shown reads applied with
      ⟨inner, rfl, readInner, result⟩
    refine ⟨_, result, ClusterStatus.object_merged readInner, ?_⟩
    intro field same
    have view : Table.get? (ClusterStatus.merged recorded.members changed.members inner)
        field = _ := ClusterStatus.get?_merged changed.distinct_members inner field
    have kept : Table.get? changed.members field = Table.get? recorded.members field := same
    rw [view, if_pos kept]
    simp only [Json.get?, shown, Option.bind_some]
    cases Table.get? inner field <;> rfl

/-- A guarded patch applies only to an object that has the version it was compared with. -/
theorem version_of_guarded {document patched : Json} {version : String}
    {operations : List PatchOperation}
    (applied : document.patch? (Pass.guarded version operations) = some patched) :
    Json.get? Pass.versionPath document = some (.string version) ∧
      document.patch? operations = some patched := by
  rw [Pass.guarded, Json.patch?_cons, PatchOperation.perform?] at applied
  split at applied
  · next found => exact ⟨found, applied⟩
  · simp at applied

/-- The members that a version is found in. -/
theorem members_of_version {document : Json} {version : Json}
    (found : Json.get? Pass.versionPath document = some version) :
    ∃ members metadata, document = .object members ∧
      Table.get? members "metadata" = some (.object metadata) ∧
      Table.get? metadata "resourceVersion" = some version := by
  cases document with
  | object members =>
      simp only [Pass.versionPath, Json.get?] at found
      rcases Option.bind_eq_some_iff.mp found with ⟨part, shown, inside⟩
      cases part with
      | object metadata =>
          simp only [Json.get?] at inside
          rcases Option.bind_eq_some_iff.mp inside with ⟨value, stored, same⟩
          exact ⟨members, metadata, rfl, shown, by rw [stored, same]⟩
      | _ => simp [Json.get?] at inside
  | _ => simp [Pass.versionPath, Json.get?] at found

/-- A cluster that is read from an object with a version has that version. -/
theorem version_of_decode {document : Json} {latest : Cluster} {version : String}
    (reads : decode document = .ok latest)
    (found : Json.get? Pass.versionPath document = some (.string version)) :
    latest.metadata.resourceVersion = some version := by
  rcases members_of_version found with ⟨members, metadata, rfl, shown, stored⟩
  have readMembers : reader.object members = .ok latest := reads
  have fields := ofMembers_reader.mp (object_eq_ok_iff.mp readMembers).2
  have readObject : ObjectMeta.reader.object metadata = .ok latest.metadata :=
    (ofMembers_fieldWith shown).symm.trans fields.1
  have read := ObjectMeta.ofMembers_version readObject
  have told : (optional "resourceVersion" Decoder.text).ofMembers metadata =
      .ok (some version) := ofMembers_fieldWith stored
  exact Except.ok.inj (read.symm.trans told)

theorem passes {member : String × Json}
    (metadata : member.1 = "metadata" → ∃ value, ObjectMeta.decode member.2 = .ok value)
    (spec : member.1 = "spec" → ∃ value, ClusterSpec.decode member.2 = .ok value)
    (status : member.1 = "status" →
      ∃ value, ClusterStatus.decode.optional member.2 = .ok value) :
    reader.Passes member := by
  have optional : (optional "status" ClusterStatus.decode).Passes member :=
    passes_fieldWith status
  exact (((passes_done _ _).next (passes_fieldWith metadata)).next
    (passes_fieldWith spec)).next optional

/-- With another status object, a cluster reads as before but for its status. -/
theorem object_withStatus {members inner : List (String × Json)} {cluster : Cluster}
    {changed : ClusterStatus} (reads : reader.object members = .ok cluster)
    (readInner : ClusterStatus.reader.object inner = .ok changed) :
    reader.object (Table.insert "status" (.object inner) members) =
      .ok { cluster with status := some changed } := by
  rcases object_eq_ok_iff.mp reads with ⟨pass, fields⟩
  rcases ofMembers_reader.mp fields with ⟨metadata, spec, _⟩
  have read : ClusterStatus.decode.optional (.object inner) = .ok (some changed) := by
    rw [Decoder.optional_object]
    exact congrArg (Except.map some) readInner
  refine object_eq_ok_iff.mpr ⟨?_, ofMembers_reader.mpr ⟨?_, ?_, ?_⟩⟩
  · intro member present
    rcases Table.eq_or_mem_of_mem_insert present with rfl | old
    · exact passes (by simp) (by simp) fun _ => ⟨some changed, read⟩
    · exact pass member old
  · exact (ofMembers_fieldWith_insert (by simp) _).trans metadata
  · exact (ofMembers_fieldWith_insert (by simp) _).trans spec
  · exact (ofMembers_fieldWith (Table.get?_insert_self _ _ _)).trans read

/-- With another version in its metadata, a cluster reads as before but for its version. -/
theorem object_withVersion {members metadata : List (String × Json)} {cluster : Cluster}
    (reads : reader.object members = .ok cluster)
    (shown : Table.get? members "metadata" = some (.object metadata)) (version : String) :
    reader.object (Table.insert "metadata"
        (.object (Table.insert "resourceVersion" (.string version) metadata)) members) =
      .ok { cluster with
        metadata := { cluster.metadata with resourceVersion := some version } } := by
  rcases object_eq_ok_iff.mp reads with ⟨pass, fields⟩
  rcases ofMembers_reader.mp fields with ⟨readMetadata, spec, status⟩
  have readObject : ObjectMeta.reader.object metadata = .ok cluster.metadata :=
    (ofMembers_fieldWith shown).symm.trans readMetadata
  have stamped := ObjectMeta.object_stamped readObject version
  refine object_eq_ok_iff.mpr ⟨?_, ofMembers_reader.mpr ⟨?_, ?_, ?_⟩⟩
  · intro member present
    rcases Table.eq_or_mem_of_mem_insert present with rfl | old
    · exact passes (fun _ => ⟨_, stamped⟩) (by simp) (by simp)
    · exact pass member old
  · exact (ofMembers_fieldWith (Table.get?_insert_self _ _ _)).trans stamped
  · exact (ofMembers_fieldWith_insert (by simp) _).trans spec
  · exact (ofMembers_fieldWith_insert (by simp) _).trans status

/-- A document that was patched reads as the same cluster with the new status. -/
theorem decode_patched {document patched : Json} {latest : Cluster}
    (reads : decode document = .ok latest) {changed : ClusterStatus}
    (differs : ClusterStatus.diff latest.status changed ≠ []) {version : String}
    (applied : document.patch?
      (Pass.guarded version (ClusterStatus.diff latest.status changed)) = some patched) :
    ∃ members inner, document = .object members ∧
      patched = .object (Table.insert "status" (.object inner) members) ∧
      decode patched = .ok { latest with status := some changed } ∧
      ∀ field, Table.get? changed.members field =
          Table.get? (latest.status.elim [] ClusterStatus.members) field →
        Table.get? inner field = Json.get? ["status", field] document := by
  rcases version_of_guarded applied with ⟨found, operations⟩
  rcases members_of_version found with ⟨members, _, rfl, _, _⟩
  have readMembers : reader.object members = .ok latest := reads
  rcases ofMembers_reader.mp (object_eq_ok_iff.mp readMembers).2 with ⟨_, _, readStatus⟩
  rcases patch?_status differs readStatus operations with ⟨inner, result, readInner, kept⟩
  refine ⟨members, inner, rfl, result, ?_, kept⟩
  rw [result]
  exact object_withStatus readMembers readInner

/--
A document that was patched and then given a new version reads as the same
cluster with the new status and the new version, and keeps everything else.
-/
theorem decode_written {document patched stamped : Json} {latest : Cluster}
    (reads : decode document = .ok latest) {changed : ClusterStatus}
    (differs : ClusterStatus.diff latest.status changed ≠ []) {version fresh : String}
    (applied : document.patch?
      (Pass.guarded version (ClusterStatus.diff latest.status changed)) = some patched)
    (stamp : Json.add? (.string fresh) Pass.versionPath patched = some stamped) :
    decode stamped =
        .ok { latest with
          metadata := { latest.metadata with resourceVersion := some fresh }
          status := some changed } ∧
      Keeps latest.status changed document stamped := by
  rcases decode_patched reads differs applied with ⟨members, inner, rfl, rfl, readsPatched, kept⟩
  rcases members_of_version (version_of_guarded applied).1 with ⟨_, metadata, same, shown, _⟩
  obtain rfl := Json.object.inj same
  have shownAfter : Table.get? (Table.insert "status" (.object inner) members) "metadata" =
      some (.object metadata) := by
    rw [Table.get?_insert_of_ne (by simp), shown]
  have result : stamped = .object (Table.insert "metadata"
      (.object (Table.insert "resourceVersion" (.string fresh) metadata))
      (Table.insert "status" (.object inner) members)) := by
    simp only [Pass.versionPath, Json.add?, shownAfter] at stamp
    exact (Option.some.inj stamp).symm
  have shownStatus : Table.get? (Table.insert "metadata"
      (.object (Table.insert "resourceVersion" (.string fresh) metadata))
      (Table.insert "status" (.object inner) members)) "status" = some (.object inner) := by
    rw [Table.get?_insert_of_ne (by simp), Table.get?_insert_self]
  rw [result]
  refine ⟨object_withVersion readsPatched shownAfter fresh, ?_, ?_, ?_⟩
  · intro name notStatus notMetadata
    simp only [Json.get?]
    rw [Table.get?_insert_of_ne notMetadata.symm, Table.get?_insert_of_ne notStatus.symm]
  · intro name notVersion
    simp only [Json.get?, Table.get?_insert_self, shown, Option.bind_some]
    rw [Table.get?_insert_of_ne notVersion.symm]
  · intro field same
    rw [← kept field same]
    simp only [Json.get?, shownStatus, Option.bind_some]
    cases Table.get? inner field <;> rfl

end Cluster

end GaleraControl

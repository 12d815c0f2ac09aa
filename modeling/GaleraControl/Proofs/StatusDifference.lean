import GaleraControl.Proofs.OrderedDocuments
import GaleraControl.Proofs.StatusPatch

/-!
# The difference of two statuses

The difference is computed from the documents of two statuses, and yet it speaks
of nothing but the fields in which the statuses themselves differ: the document of
each field determines the field, so there is one operation for every field that
differs and none for the others.  The operations are about different places, and
may therefore be made in any order.
-/

namespace GaleraControl

/-- The fields of a status, in the order of their names in documents. -/
inductive StatusField where
  | bootstrapFrom
  | phase
  | stage
  | recordedGeneration
  | reports
deriving DecidableEq, Repr

namespace StatusField

/-- All fields. -/
def all : List StatusField := [.bootstrapFrom, .phase, .stage, .recordedGeneration, .reports]

/-- The name of a field in documents. -/
def name : StatusField → String
  | .bootstrapFrom => "bootstrapFrom"
  | .phase => "phase"
  | .stage => "stage"
  | .recordedGeneration => "statefulSetObservedGeneration"
  | .reports => "statefulSetPodConditions"

/-- Two statuses have the same in a field. -/
def Same (field : StatusField) (first second : ClusterStatus) : Prop :=
  match field with
  | .bootstrapFrom => first.bootstrapFrom = second.bootstrapFrom
  | .phase => first.phase = second.phase
  | .stage => first.stage = second.stage
  | .recordedGeneration => first.recordedGeneration = second.recordedGeneration
  | .reports => first.reports = second.reports

instance (field : StatusField) (first second : ClusterStatus) :
    Decidable (field.Same first second) := by
  cases field <;> exact inferInstanceAs (Decidable (_ = _))

/-- What the document of a status shows in a field, if the field is present there. -/
def shown? (field : StatusField) (status : ClusterStatus) : Option Json :=
  Table.get? status.members field.name

/-- Write what a field shows, or remove a field that shows nothing. -/
def operation (field : StatusField) : Option Json → PatchOperation
  | some value => .add (ClusterStatus.fieldPath field.name) value
  | none => .remove (ClusterStatus.fieldPath field.name)

/-- The operation that brings a field to what it is in a status. -/
def change (status : ClusterStatus) (field : StatusField) : PatchOperation :=
  field.operation (field.shown? status)

theorem mem_all (field : StatusField) : field ∈ all := by
  cases field <;> decide

theorem name_injective {first second : StatusField} (same : first.name = second.name) :
    first = second := by
  cases first <;> cases second <;> first | rfl | simp [name] at same

theorem shown?_bootstrapFrom (status : ClusterStatus) :
    shown? .bootstrapFrom status = status.bootstrapFrom.map .string :=
  status.get?_members_source

theorem shown?_phase (status : ClusterStatus) : shown? .phase status = some status.phase.toJson :=
  status.get?_members_phase

theorem shown?_stage (status : ClusterStatus) : shown? .stage status = some status.stage.toJson :=
  status.get?_members_stage

theorem shown?_recordedGeneration (status : ClusterStatus) :
    shown? .recordedGeneration status = some (.integer status.recordedGeneration.toInt) :=
  status.get?_members_generation

theorem shown?_reports (status : ClusterStatus) :
    shown? .reports status =
      if status.reports = [] then none
      else some (.array (status.reports.map ReplicaReport.toJson)) :=
  status.get?_members_reports

/-- The document of a status, field by field. -/
theorem members_eq (status : ClusterStatus) :
    status.members = Json.presentMembers (all.map fun field => (field.name, field.shown? status)) := by
  simp only [all, List.map_cons, List.map_nil, shown?_bootstrapFrom, shown?_phase, shown?_stage,
    shown?_recordedGeneration, shown?_reports]
  rfl

/-- What a document shows in a field determines the field. -/
theorem shown?_eq_iff (field : StatusField) (first second : ClusterStatus) :
    field.shown? first = field.shown? second ↔ field.Same first second := by
  cases field with
  | bootstrapFrom =>
      rw [shown?_bootstrapFrom, shown?_bootstrapFrom]
      exact (Option.map_injective fun _ _ => Json.string.inj).eq_iff
  | phase =>
      rw [shown?_phase, shown?_phase, Option.some.injEq]
      exact Phase.inverts.encode_inj
  | stage =>
      rw [shown?_stage, shown?_stage, Option.some.injEq]
      exact Stage.inverts.encode_inj
  | recordedGeneration =>
      rw [shown?_recordedGeneration, shown?_recordedGeneration, Option.some.injEq]
      exact Inverts.int64.encode_inj
  | reports =>
      rw [shown?_reports, shown?_reports, Same]
      by_cases none : first.reports = []
      · by_cases other : second.reports = []
        · simp [none, other]
        · simp [none, other, eq_comm]
      · by_cases other : second.reports = []
        · simp [none, other]
        · rw [if_neg none, if_neg other, Option.some.injEq]
          exact ReplicaReport.inverts.list.encode_inj

/-- Statuses that have the same in every field are the same. -/
theorem eq_iff_same {first second : ClusterStatus} :
    first = second ↔ ∀ field : StatusField, field.Same first second := by
  constructor
  · rintro rfl field
    exact (shown?_eq_iff field first first).mp rfl
  · intro same
    rcases first with ⟨phase, stage, generation, source, reports⟩
    rcases second with ⟨phase', stage', generation', source', reports'⟩
    obtain rfl : phase = phase' := same .phase
    obtain rfl : stage = stage' := same .stage
    obtain rfl : generation = generation' := same .recordedGeneration
    obtain rfl : source = source' := same .bootstrapFrom
    obtain rfl : reports = reports' := same .reports
    rfl

/-- Of a list of fields, those are written that differ and are present afterwards. -/
theorem written_fields (original changed : ClusterStatus) (fields : List StatusField) :
    ClusterStatus.written original.members
        (Json.presentMembers (fields.map fun field => (field.name, field.shown? changed))) =
      ((fields.filter fun field => ¬ field.Same original changed).filter fun field =>
        (field.shown? changed).isSome).map (change changed) := by
  simp only [ClusterStatus.written, Json.presentMembers, List.filterMap_map,
    List.filter_filterMap, List.map_filterMap]
  rw [← List.filterMap_eq_map, List.filterMap_filter, List.filterMap_filter]
  refine List.filterMap_congr fun field _ => ?_
  have differs := shown?_eq_iff field original changed
  rw [shown?] at differs
  cases shown : field.shown? changed with
  | none => simp [shown]
  | some value =>
      rw [shown] at differs
      by_cases same : field.Same original changed
      · simp [shown, same, differs.mpr same]
      · have other := mt differs.mp same
        simp [shown, same, other, change, operation]

/-- Of a list of fields, those are removed that differ and are not present afterwards. -/
theorem cleared_fields (original changed : ClusterStatus) (fields : List StatusField) :
    ClusterStatus.cleared
        (Json.presentMembers (fields.map fun field => (field.name, field.shown? original)))
        changed.members =
      ((fields.filter fun field => ¬ field.Same original changed).filter fun field =>
        !(field.shown? changed).isSome).map (change changed) := by
  simp only [ClusterStatus.cleared, Json.presentMembers, List.filterMap_map,
    List.filter_filterMap, List.map_filterMap]
  rw [← List.filterMap_eq_map, List.filterMap_filter, List.filterMap_filter]
  refine List.filterMap_congr fun field _ => ?_
  have differs := shown?_eq_iff field original changed
  have present : Table.contains changed.members field.name = (field.shown? changed).isSome := rfl
  cases shown : field.shown? changed with
  | some value => cases held : field.shown? original <;> simp [held, present, shown]
  | none =>
      rw [shown] at differs
      cases held : field.shown? original with
      | none => simp [held, differs.mp held]
      | some value =>
          have other := mt differs.mpr (by simp [held])
          simp [held, present, shown, other, change, operation]

/-- One operation for every field in which two statuses differ. -/
def changes (original changed : ClusterStatus) : List PatchOperation :=
  (all.filter fun field => ¬ field.Same original changed).map (change changed)

/-- The difference changes every field that differs once, and no other field. -/
theorem diff_perm (original changed : ClusterStatus) :
    (ClusterStatus.diff (some original) changed).Perm (changes original changed) := by
  have parts : ClusterStatus.diff (some original) changed = _ ++ _ := congrArg₂ (· ++ ·)
    ((congrArg _ (members_eq changed)).trans (written_fields original changed all))
    ((congrArg (ClusterStatus.cleared · _) (members_eq original)).trans
      (cleared_fields original changed all))
  rw [parts, ← List.map_append]
  exact (List.filter_append_perm _ _).map _

theorem mem_changes_iff {original changed : ClusterStatus} {operation : PatchOperation} :
    operation ∈ changes original changed ↔
      ∃ field : StatusField, ¬ field.Same original changed ∧ field.change changed = operation := by
  simp [changes, mem_all]

theorem change_eq_remove_iff {field : StatusField} {status : ClusterStatus} {path : List String} :
    field.change status = .remove path ↔
      path = ClusterStatus.fieldPath field.name ∧ field.shown? status = none := by
  unfold change
  cases field.shown? status <;> simp [operation, eq_comm]

/-- Only a source or reports that were cleared are removed. -/
theorem remove_mem_changes_iff {original changed : ClusterStatus} {path : List String} :
    .remove path ∈ changes original changed ↔
      (path = ["status", "bootstrapFrom"] ∧ original.bootstrapFrom ≠ none ∧
        changed.bootstrapFrom = none) ∨
      (path = ["status", "statefulSetPodConditions"] ∧ original.reports ≠ [] ∧
        changed.reports = []) := by
  simp only [mem_changes_iff, change_eq_remove_iff]
  constructor
  · rintro ⟨field, differs, rfl, unset⟩
    cases field with
    | bootstrapFrom =>
        rw [shown?_bootstrapFrom, Option.map_eq_none_iff] at unset
        exact Or.inl ⟨rfl, fun absent => differs (absent.trans unset.symm), unset⟩
    | reports =>
        rw [shown?_reports, ite_eq_left_iff] at unset
        have none : changed.reports = [] := Decidable.byContradiction fun some =>
          absurd (unset some) (by simp)
        exact Or.inr ⟨rfl, fun absent => differs (absent.trans none.symm), none⟩
    | phase => simp [shown?_phase] at unset
    | stage => simp [shown?_stage] at unset
    | recordedGeneration => simp [shown?_recordedGeneration] at unset
  · rintro (⟨rfl, held, unset⟩ | ⟨rfl, held, unset⟩)
    · exact ⟨.bootstrapFrom, fun same => held (same.trans unset), rfl,
        by rw [shown?_bootstrapFrom, unset]; rfl⟩
    · exact ⟨.reports, fun same => held (same.trans unset), rfl,
        by rw [shown?_reports, if_pos unset]⟩

theorem changes_eq_nil_iff {original changed : ClusterStatus} :
    changes original changed = [] ↔ original = changed := by
  rw [eq_iff_same, List.eq_nil_iff_forall_not_mem]
  constructor
  · intro nothing field
    by_contra differs
    exact nothing _ (mem_changes_iff.mpr ⟨field, differs, rfl⟩)
  · intro same operation listed
    rcases mem_changes_iff.mp listed with ⟨field, differs, _⟩
    exact differs (same field)

end StatusField

/-! ## The order of operations -/

/-- The place that an operation is about. -/
def PatchOperation.path : PatchOperation → List String
  | .add path _ | .remove path | .test path _ => path

@[simp]
theorem StatusField.path_operation (field : StatusField) (value : Option Json) :
    (field.operation value).path = ClusterStatus.fieldPath field.name := by
  cases value <;> rfl

namespace Json

/-- If the document has a status, it is an object in order. -/
def HasOrderedStatus (document : Json) : Prop :=
  ∀ members inner, document = .object members →
    Table.get? members "status" = some (.object inner) → Table.Increasing inner

theorem Ordered.hasOrderedStatus {document : Json} (ordered : document.Ordered) :
    document.HasOrderedStatus := by
  rintro members inner rfl shown
  exact (ordered.member shown).increasing

end Json

namespace StatusField

variable {members inner : List (String × Json)}

/-- An operation on a field changes that field in the status. -/
theorem perform?_operation (shown : Table.get? members "status" = some (.object inner))
    (field : StatusField) (value : Option Json) :
    (field.operation value).perform? (.object members) =
      (Table.put? field.name value inner).map fun changed =>
        .object (Table.insert "status" (.object changed) members) := by
  cases value with
  | some value => exact ClusterStatus.perform?_add shown field.name value
  | none =>
      by_cases present : Table.contains inner field.name = true
      · rw [operation, ClusterStatus.perform?_remove shown present]
        simp [Table.put?, present]
      · simp [operation, PatchOperation.perform?, ClusterStatus.fieldPath, Json.remove?, shown,
          Table.put?, present]

/-- An operation on a field applies only where the status is an object. -/
theorem exists_of_perform? {field : StatusField} {value : Option Json} {document result : Json}
    (performed : (field.operation value).perform? document = some result) :
    ∃ members inner, document = .object members ∧
      Table.get? members "status" = some (.object inner) := by
  cases document with
  | object members =>
      have about : (∃ written, field.operation value = .add (ClusterStatus.fieldPath field.name) written) ∨
          field.operation value = .remove (ClusterStatus.fieldPath field.name) := by
        cases value with
        | some value => exact Or.inl ⟨value, rfl⟩
        | none => exact Or.inr rfl
      rcases ClusterStatus.perform?_field about performed with ⟨inner, shown, _⟩
      exact ⟨members, inner, rfl, shown⟩
  | _ => cases value <;> simp [operation, PatchOperation.perform?, ClusterStatus.fieldPath,
      Json.add?, Json.remove?] at performed

theorem hasOrderedStatus_of_perform? {field : StatusField} {value : Option Json}
    {document result : Json} (ordered : document.HasOrderedStatus)
    (performed : (field.operation value).perform? document = some result) :
    result.HasOrderedStatus := by
  rcases exists_of_perform? performed with ⟨members, inner, rfl, shown⟩
  rw [perform?_operation shown] at performed
  rcases Option.map_eq_some_iff.mp performed with ⟨changed, put, rfl⟩
  rintro _ later same found
  obtain rfl := Json.object.inj same
  rw [Table.get?_insert_self, Option.some.injEq] at found
  rw [← Json.object.inj found]
  exact (ordered members inner rfl shown).put? put

/-- Operations on two fields may be made in either order. -/
theorem perform?_comm {first second : StatusField} (ne : first ≠ second)
    (one other : Option Json) {document : Json} (ordered : document.HasOrderedStatus) :
    ((first.operation one).perform? document).bind (second.operation other).perform? =
      ((second.operation other).perform? document).bind (first.operation one).perform? := by
  by_cases object : ∃ members inner, document = .object members ∧
      Table.get? members "status" = some (.object inner)
  · rcases object with ⟨members, inner, rfl, shown⟩
    have both (field later : StatusField) (value last : Option Json) :
        ((field.operation value).perform? (.object members)).bind
            (later.operation last).perform? =
          ((Table.put? field.name value inner).bind (Table.put? later.name last)).map
            fun changed => .object (Table.insert "status" (.object changed) members) := by
      rw [perform?_operation shown, Option.bind_map, Option.map_bind]
      congr 1
      funext changed
      rw [Function.comp_apply, Function.comp_apply,
        perform?_operation (Table.get?_insert_self "status" _ members)]
      simp only [Table.insert_insert]
    have apart : first.name ≠ second.name := fun same => ne (name_injective same)
    rw [both, both, (ordered members inner rfl shown).put?_comm apart]
  · have fails (field : StatusField) (value : Option Json) :
        (field.operation value).perform? document = none :=
      Option.eq_none_iff_forall_ne_some.mpr fun _ performed =>
        object (exists_of_perform? performed)
    rw [fails, fails]
    rfl

/-- Operations on different fields lead to the same document in every order. -/
theorem patch?_perm {operations permuted : List PatchOperation}
    (perm : operations.Perm permuted) (distinct : (operations.map PatchOperation.path).Nodup)
    (fields : ∀ operation ∈ operations, ∃ field value, operation = StatusField.operation field value)
    {document : Json} (ordered : document.HasOrderedStatus) :
    document.patch? operations = document.patch? permuted := by
  induction perm generalizing document with
  | nil => rfl
  | cons operation perm ih =>
      rcases fields operation List.mem_cons_self with ⟨field, value, rfl⟩
      rw [Json.patch?_cons, Json.patch?_cons]
      cases performed : (field.operation value).perform? document with
      | none => rfl
      | some changed =>
          exact ih (List.nodup_cons.mp distinct).2
            (fun later present => fields later (List.mem_cons_of_mem _ present))
            (hasOrderedStatus_of_perform? ordered performed)
  | swap first second rest =>
      rcases fields second List.mem_cons_self with ⟨field, value, rfl⟩
      rcases fields first (List.mem_cons_of_mem _ List.mem_cons_self) with ⟨other, last, rfl⟩
      have ne : field ≠ other := by
        rintro rfl
        simp at distinct
      simp only [Json.patch?_cons, ← Option.bind_assoc]
      rw [perform?_comm ne value last ordered]
  | trans perm later ih ihLater =>
      refine (ih distinct fields ordered).trans (ihLater ?_ ?_ ordered)
      · exact (perm.map PatchOperation.path).nodup_iff.mp distinct
      · exact fun operation present => fields operation (perm.mem_iff.mpr present)

end StatusField

/-! ## What a difference says -/

namespace StatusField

theorem distinct_changes (original changed : ClusterStatus) :
    ((changes original changed).map PatchOperation.path).Nodup := by
  have fields : all.Nodup := by decide
  have injective : Function.Injective fun field : StatusField =>
      ClusterStatus.fieldPath field.name := by
    intro first second same
    exact name_injective (by simpa [ClusterStatus.fieldPath] using same)
  have paths : PatchOperation.path ∘ change changed =
      fun field : StatusField => ClusterStatus.fieldPath field.name :=
    funext fun field => path_operation field _
  rw [changes, List.map_map, paths]
  exact (fields.filter _).map injective

theorem pathText_fieldPath (field : StatusField) :
    PatchOperation.pathText (ClusterStatus.fieldPath field.name) = "/status/" ++ field.name := by
  cases field <;> rfl

end StatusField

namespace ClusterStatus

/-- Operations that say what has to be changed in a status, and nothing else. -/
structure ExactDifference (original changed : ClusterStatus) (operations : List PatchOperation) :
    Prop where
  /-- One operation for every field that differs: what it shows now, or its removal. -/
  changes : operations.Perm (StatusField.changes original changed)
  removals : ∀ path, .remove path ∈ operations ↔
    (path = ["status", "bootstrapFrom"] ∧ original.bootstrapFrom ≠ none ∧
      changed.bootstrapFrom = none) ∨
    (path = ["status", "statefulSetPodConditions"] ∧ original.reports ≠ [] ∧
      changed.reports = [])
  distinct : (operations.map PatchOperation.path).Nodup
  placed : ∀ operation ∈ operations, ∃ field : StatusField,
    PatchOperation.pathText operation.path = "/status/" ++ field.name
  unordered : ∀ permuted, operations.Perm permuted → ∀ document : Json, document.Ordered →
    document.patch? permuted = document.patch? operations
  settled : operations = [] ↔ original = changed

/-- The operations of a difference in any order are as good as the difference. -/
theorem exactDifference_of_perm {original changed : ClusterStatus}
    {operations : List PatchOperation}
    (perm : operations.Perm (StatusField.changes original changed)) :
    ExactDifference original changed operations := by
  have distinct : (operations.map PatchOperation.path).Nodup :=
    (perm.map PatchOperation.path).nodup_iff.mpr (StatusField.distinct_changes original changed)
  have made (operation : PatchOperation) (listed : operation ∈ operations) :
      ∃ field : StatusField, field.change changed = operation := by
    rcases StatusField.mem_changes_iff.mp (perm.mem_iff.mp listed) with ⟨field, _, same⟩
    exact ⟨field, same⟩
  refine ⟨perm, fun path => ?_, distinct, ?_, ?_, ?_⟩
  · exact perm.mem_iff.trans StatusField.remove_mem_changes_iff
  · intro operation listed
    rcases made operation listed with ⟨field, rfl⟩
    refine ⟨field, ?_⟩
    rw [StatusField.change, StatusField.path_operation, StatusField.pathText_fieldPath]
  · intro permuted reordered document ordered
    refine (StatusField.patch?_perm reordered distinct ?_ ordered.hasOrderedStatus).symm
    intro operation listed
    rcases made operation listed with ⟨field, rfl⟩
    exact ⟨field, field.shown? changed, rfl⟩
  · rw [← StatusField.changes_eq_nil_iff]
    exact ⟨fun none => (none ▸ perm).nil_eq.symm, fun none => (none ▸ perm).eq_nil⟩

/--
The difference to another status has one operation for every field in which the
two differ; without a status the whole of the other one is written, unless it is
the status that a cluster without one has.
-/
theorem difference_exact (changed : ClusterStatus) :
    (∀ original, ExactDifference original changed (diff (some original) changed)) ∧
      (diff none changed = [] ↔ changed = {}) ∧
      (changed = {} ∨ diff none changed = [.add ["status"] changed.toJson]) := by
  refine ⟨fun original => ?_, ?_, ?_⟩
  · exact exactDifference_of_perm (StatusField.diff_perm original changed)
  · by_cases default : changed = {} <;> simp [diff, default]
  · by_cases default : changed = {}
    · exact Or.inl default
    · exact Or.inr (by simp [diff, default])

/-- A recovery ends: two fields are written, two are removed, and one has not changed. -/
example :
    diff
        (some
          { phase := .recovery, stage := .primaryRecovered, recordedGeneration := 4,
            bootstrapFrom := some "", reports := [⟨"prod-server-0", { seqNo := 7 }⟩] })
        { phase := .operational, stage := .degraded, recordedGeneration := 4 } =
      [.add ["status", "phase"] (.string "Operational"),
        .add ["status", "stage"] (.string "Degraded"),
        .remove ["status", "bootstrapFrom"],
        .remove ["status", "statefulSetPodConditions"]] := by
  decide

end ClusterStatus

end GaleraControl

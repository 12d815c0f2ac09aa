import GaleraControl.Proofs.Reading

/-!
# Documents that read back

The store holds clusters as documents.  Every typed value of the model is read
back from its own document: an unset field leaves no member, a set one leaves a
member that is not `null`, and the names of a document's members are distinct.
-/

namespace GaleraControl

namespace Json

theorem get?_presentMembers_cons (name key : String) (value : Option Json)
    (rest : List (String × Option Json)) :
    Table.get? (presentMembers ((name, value) :: rest)) key =
      if name = key then value.or (Table.get? (presentMembers rest) key)
      else Table.get? (presentMembers rest) key := by
  cases value with
  | none => simp
  | some value =>
      by_cases same : name = key
      · simp [Table.get?, same]
      · simp [Table.get?, same]

theorem keys_presentMembers_sublist (members : List (String × Option Json)) :
    (Table.keys (presentMembers members)).Sublist (members.map Prod.fst) := by
  induction members with
  | nil => exact List.Sublist.refl _
  | cons entry rest ih =>
      rcases entry with ⟨name, value⟩
      cases value with
      | none => exact ih.cons name
      | some value => exact ih.cons_cons name

theorem distinct_presentMembers {members : List (String × Option Json)}
    (distinct : (members.map Prod.fst).Nodup) : Table.Distinct (presentMembers members) :=
  distinct.sublist (keys_presentMembers_sublist members)

end Json

/-- Documents written by `encode` are read back by `decode`, and none is `null`. -/
structure Inverts {Value : Type} (decode : Decoder Value) (encode : Value → Json) : Prop where
  reads : ∀ value, decode (encode value) = .ok value
  filled : ∀ value, encode value ≠ .null

namespace Inverts

variable {Value : Type} {decode : Decoder Value} {encode : Value → Json}

/-- Different values have different documents. -/
theorem encode_inj (inverse : Inverts decode encode) {first second : Value} :
    encode first = encode second ↔ first = second := by
  constructor
  · intro same
    exact Except.ok.inj ((inverse.reads first).symm.trans (same ▸ inverse.reads second))
  · exact congrArg encode

theorem text : Inverts Decoder.text Json.string where
  reads _ := rfl
  filled _ := by simp

theorem bool : Inverts Decoder.bool Json.bool where
  reads _ := rfl
  filled _ := by simp

theorem int32 : Inverts Decoder.int32 fun value => .integer value.toInt where
  reads value := by
    have least := Int32.minValue_le_toInt value
    have greatest := Int32.toInt_le value
    simp only [Json.integer, Decoder.int32]
    rw [if_pos ⟨least, greatest⟩, Int32.ofInt_toInt]
  filled _ := by simp [Json.integer]

theorem int64 : Inverts Decoder.int64 fun value => .integer value.toInt where
  reads value := by
    have least := Int64.minValue_le_toInt value
    have greatest := Int64.toInt_le value
    simp only [Json.integer, Decoder.int64]
    rw [if_pos ⟨least, greatest⟩, Int64.ofInt_toInt]
  filled _ := by simp [Json.integer]

theorem mapM_map (inverse : Inverts decode encode) (values : List Value) :
    (values.map encode).mapM decode = .ok values := by
  induction values with
  | nil => rfl
  | cons value rest ih =>
      rw [List.map_cons, List.mapM_cons, inverse.reads value, ih]
      rfl

theorem list (inverse : Inverts decode encode) :
    Inverts (Decoder.list decode) fun values => .array (values.map encode) where
  reads values := inverse.mapM_map values
  filled _ := by simp

theorem texts : Inverts (Decoder.table Decoder.text) Json.ofTexts where
  reads entries := by
    induction entries with
    | nil => rfl
    | cons entry rest ih =>
        simp only [Json.ofTexts, Decoder.table] at ih ⊢
        rw [List.map_cons, List.mapM_cons, ih]
        rfl
  filled _ := by simp [Json.ofTexts]

theorem optional (inverse : Inverts decode encode) (value : Value) :
    decode.optional (encode value) = .ok (some value) := by
  have filled := inverse.filled value
  have read := inverse.reads value
  unfold Decoder.optional
  split
  · next null => exact absurd null filled
  · rw [read]
    rfl

/-- A required field is found among members that show its document. -/
theorem required (inverse : Inverts decode encode) {name : String}
    {members : List (String × Json)} {value : Value}
    (shown : Table.get? members name = some (encode value)) :
    (RecordReader.required name decode).ofMembers members = .ok value :=
  (RecordReader.ofMembers_fieldWith shown).trans (inverse.reads value)

/-- An optional field is found among members that show its document when it is set. -/
theorem field (inverse : Inverts decode encode) {name : String}
    {members : List (String × Json)} {value : Option Value}
    (shown : Table.get? members name = value.map encode) :
    (RecordReader.optional name decode).ofMembers members = .ok value := by
  cases value with
  | none => exact RecordReader.ofMembers_fieldWith_absent shown
  | some value =>
      exact (RecordReader.ofMembers_fieldWith shown).trans (inverse.optional value)

/-- A field with a default is found among members that show its document. -/
theorem defaulted (inverse : Inverts decode encode) {name : String} {absent value : Value}
    {members : List (String × Json)}
    (shown : Table.get? members name = some (encode value)) :
    (RecordReader.defaulted name decode absent).ofMembers members = .ok value :=
  (RecordReader.ofMembers_fieldWith shown).trans (inverse.reads value)

theorem lenient (inverse : Inverts decode encode) {name : String} {absent value : Value}
    {members : List (String × Json)}
    (shown : Table.get? members name = some (encode value)) :
    (RecordReader.lenient name decode absent).ofMembers members = .ok value := by
  refine (RecordReader.ofMembers_fieldWith shown).trans ?_
  rw [inverse.optional value]
  rfl

end Inverts

open RecordReader

namespace GraState

theorem sound_reader : Sound reader :=
  (((sound_done _).next (sound_fieldWith _ _ _)).next (sound_fieldWith _ _ _)).next
    (sound_fieldWith _ _ _)

theorem inverts : Inverts decode toJson where
  reads state := by
    refine object_of_ofMembers sound_reader (Json.distinct_presentMembers (by simp)) ?_
    unfold reader
    refine ofMembers_next_of (ofMembers_next_of (ofMembers_next_of (ofMembers_done _ _)
      (Inverts.int64.required ?_)) (Inverts.text.field ?_)) (Inverts.bool.field ?_)
    all_goals simp [Json.get?_presentMembers_cons, Table.get?]
  filled _ := by simp [toJson, Json.ofMembers]

end GraState

namespace ReplicaReport

theorem sound_reader : Sound reader :=
  ((sound_done _).next (sound_fieldWith _ _ _)).next (sound_fieldWith _ _ _)

theorem inverts : Inverts decode toJson where
  reads report := by
    refine object_of_ofMembers sound_reader (Json.distinct_presentMembers (by simp)) ?_
    unfold reader
    refine ofMembers_next_of (ofMembers_next_of (ofMembers_done _ _)
      (Inverts.text.required ?_)) (GraState.inverts.required ?_)
    all_goals simp [Table.get?]
  filled _ := by simp [toJson, Json.ofMembers]

end ReplicaReport

theorem Phase.inverts : Inverts Phase.decode Phase.toJson where
  reads := Phase.decode_toJson
  filled _ := by simp [Phase.toJson]

theorem Stage.inverts : Inverts Stage.decode Stage.toJson where
  reads := Stage.decode_toJson
  filled _ := by simp [Stage.toJson]

namespace ClusterStatus

theorem sound_reader : Sound reader :=
  (((((sound_done _).next (sound_fieldWith _ _ _)).next (sound_fieldWith _ _ _)).next
    (sound_fieldWith _ _ _)).next (sound_fieldWith _ _ _)).next (sound_fieldWith _ _ _)

theorem get?_members_phase (status : ClusterStatus) :
    Table.get? status.members "phase" = some status.phase.toJson := by
  simp [members, Json.get?_presentMembers_cons, Table.get?]

theorem get?_members_stage (status : ClusterStatus) :
    Table.get? status.members "stage" = some status.stage.toJson := by
  simp [members, Json.get?_presentMembers_cons, Table.get?]

theorem get?_members_generation (status : ClusterStatus) :
    Table.get? status.members "statefulSetObservedGeneration" =
      some (.integer status.recordedGeneration.toInt) := by
  simp [members, Json.get?_presentMembers_cons, Table.get?]

theorem get?_members_source (status : ClusterStatus) :
    Table.get? status.members "bootstrapFrom" = status.bootstrapFrom.map .string := by
  simp [members, Json.get?_presentMembers_cons, Table.get?]

theorem get?_members_reports (status : ClusterStatus) :
    Table.get? status.members "statefulSetPodConditions" =
      if status.reports = [] then none
      else some (.array (status.reports.map ReplicaReport.toJson)) := by
  simp [members, Json.get?_presentMembers_cons, Table.get?]

/-- The reports of a status are found among members that show them as a status does. -/
theorem ofMembers_reports {members : List (String × Json)} {reports : List ReplicaReport}
    (shown : Table.get? members "statefulSetPodConditions" =
      if reports = [] then none else some (.array (reports.map ReplicaReport.toJson))) :
    (defaulted "statefulSetPodConditions" (Decoder.list ReplicaReport.decode)
      []).ofMembers members = .ok reports := by
  split at shown
  · next empty =>
      rw [empty]
      exact ofMembers_fieldWith_absent shown
  · exact ReplicaReport.inverts.list.defaulted shown

theorem distinct_members (status : ClusterStatus) : Table.Distinct status.members :=
  Json.distinct_presentMembers (by simp)

theorem inverts : Inverts decode toJson where
  reads status := by
    refine object_of_ofMembers sound_reader status.distinct_members (ofMembers_reader.mpr ?_)
    exact ⟨Phase.inverts.defaulted status.get?_members_phase,
      Stage.inverts.defaulted status.get?_members_stage,
      Inverts.int64.defaulted status.get?_members_generation,
      Inverts.text.field status.get?_members_source,
      ofMembers_reports status.get?_members_reports⟩
  filled _ := by simp [toJson]

end ClusterStatus

namespace SnapshotSpec

theorem sound_reader : Sound reader :=
  ((sound_done _).next (sound_fieldWith _ _ _)).next (sound_fieldWith _ _ _)

theorem inverts : Inverts decode toJson where
  reads snapshot := by
    refine object_of_ofMembers sound_reader (Json.distinct_presentMembers (by simp)) ?_
    unfold reader
    refine ofMembers_next_of (ofMembers_next_of (ofMembers_done _ _)
      (Inverts.text.required ?_)) (Inverts.text.field ?_)
    all_goals simp [Json.get?_presentMembers_cons, Table.get?]
  filled _ := by simp [toJson, Json.ofMembers]

end SnapshotSpec

namespace ClusterSpec

theorem sound_reader : Sound reader :=
  (((((sound_done _).next (sound_fieldWith _ _ _)).next (sound_fieldWith _ _ _)).next
    (sound_fieldWith _ _ _)).next (sound_fieldWith _ _ _)).next (sound_fieldWith _ _ _)

theorem inverts : Inverts decode toJson where
  reads spec := by
    refine object_of_ofMembers sound_reader (Json.distinct_presentMembers (by simp)) ?_
    unfold reader
    refine ofMembers_next_of (ofMembers_next_of (ofMembers_next_of (ofMembers_next_of
      (ofMembers_next_of (ofMembers_done _ _) (Inverts.int32.required ?_))
      (Inverts.text.field ?_)) (Inverts.text.field ?_)) (Inverts.text.field ?_))
      (SnapshotSpec.inverts.field ?_)
    all_goals simp [Json.get?_presentMembers_cons, Table.get?]
  filled _ := by simp [toJson, Json.ofMembers]

end ClusterSpec

namespace OwnerReference

theorem sound_reader : Sound reader :=
  (((((sound_done _).next (sound_fieldWith _ _ _)).next (sound_fieldWith _ _ _)).next
    (sound_fieldWith _ _ _)).next (sound_fieldWith _ _ _)).next (sound_fieldWith _ _ _)

theorem inverts : Inverts decode toJson where
  reads owner := by
    refine object_of_ofMembers sound_reader (Json.distinct_presentMembers (by simp)) ?_
    unfold reader
    refine ofMembers_next_of (ofMembers_next_of (ofMembers_next_of (ofMembers_next_of
      (ofMembers_next_of (ofMembers_done _ _) (Inverts.text.lenient ?_))
      (Inverts.text.lenient ?_)) (Inverts.text.lenient ?_)) (Inverts.text.lenient ?_))
      (Inverts.bool.field ?_)
    all_goals simp [Json.get?_presentMembers_cons, Table.get?]
  filled _ := by simp [toJson, Json.ofMembers]

end OwnerReference

namespace ObjectMeta

theorem sound_reader : Sound reader :=
  (((((((((sound_done _).next (sound_fieldWith _ _ _)).next (sound_fieldWith _ _ _)).next
    (sound_fieldWith _ _ _)).next (sound_fieldWith _ _ _)).next (sound_fieldWith _ _ _)).next
    (sound_fieldWith _ _ _)).next (sound_fieldWith _ _ _)).next (sound_fieldWith _ _ _)).next
    (sound_fieldWith _ _ _)

theorem inverts : Inverts decode toJson where
  reads metadata := by
    refine object_of_ofMembers sound_reader (Json.distinct_presentMembers (by simp)) ?_
    unfold reader
    refine ofMembers_next_of (ofMembers_next_of (ofMembers_next_of (ofMembers_next_of
      (ofMembers_next_of (ofMembers_next_of (ofMembers_next_of (ofMembers_next_of
      (ofMembers_next_of (ofMembers_done _ _) (Inverts.text.field ?_))
      (Inverts.text.field ?_)) (Inverts.text.field ?_)) (Inverts.text.field ?_))
      (Inverts.text.field ?_)) (Inverts.int64.field ?_)) (Inverts.texts.field ?_))
      (Inverts.texts.field ?_)) (OwnerReference.inverts.list.field ?_)
    all_goals simp [Json.get?_presentMembers_cons]
  filled _ := by simp [toJson, Json.ofMembers]

end ObjectMeta

namespace Cluster

theorem sound_reader : Sound reader :=
  (((sound_done _).next (sound_fieldWith _ _ _)).next (sound_fieldWith _ _ _)).next
    (sound_nullable _ _)

/-- Every cluster is read back from its own document. -/
theorem inverts : Inverts decode toJson where
  reads cluster := by
    refine object_of_ofMembers sound_reader (Json.distinct_presentMembers (by simp)) ?_
    unfold reader
    refine ofMembers_next_of (ofMembers_next_of (ofMembers_next_of (ofMembers_done _ _)
      (ObjectMeta.inverts.required ?_)) (ClusterSpec.inverts.required ?_))
      (ClusterStatus.inverts.field ?_)
    all_goals simp [Json.get?_presentMembers_cons, Table.get?]
  filled _ := by simp [toJson, Json.ofMembers]

end Cluster

end GaleraControl

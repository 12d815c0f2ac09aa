import GaleraControl.Proofs.Spelling

/-!
# Round trips of the resource's types

Every type that the resource is made of is read back from its own document, and
the documents from which it is read are exactly its spellings, so that a value
that came in another spelling is unchanged once it has been written and read
again.  What is written is always of one `Form`: a name for a choice, and for a
record an object with declared names only, each with a document of its own form.
-/

namespace GaleraControl

/-- A form that documents are written in. -/
structure Form where
  Admits : Json → Prop
  ordered : ∀ {document}, Admits document → document.Ordered

namespace Form

def text : Form where
  Admits document := ∃ text, document = .string text
  ordered := by
    rintro _ ⟨text, rfl⟩
    exact .string text

def bool : Form where
  Admits document := ∃ value, document = .bool value
  ordered := by
    rintro _ ⟨value, rfl⟩
    exact .bool value

def integer : Form where
  Admits document := ∃ value, document = .integer value
  ordered := by
    rintro _ ⟨value, rfl⟩
    exact .number _

@[simp]
theorem text_admits (value : String) : text.Admits (.string value) := ⟨value, rfl⟩

@[simp]
theorem bool_admits (value : Bool) : bool.Admits (.bool value) := ⟨value, rfl⟩

@[simp]
theorem integer_admits (value : Int) : integer.Admits (.integer value) := ⟨value, rfl⟩

/-- One of some names. -/
def name (names : List String) : Form where
  Admits document := ∃ name ∈ names, document = .string name
  ordered := by
    rintro _ ⟨name, _, rfl⟩
    exact .string name

/-- A sequence with items of one form. -/
def list (form : Form) : Form where
  Admits document := ∃ items, document = .array items ∧ ∀ item ∈ items, form.Admits item
  ordered := by
    rintro _ ⟨items, rfl, each⟩
    exact .array fun item present => form.ordered (each item present)

@[simp]
theorem list_admits {form : Form} {items : List Json} :
    form.list.Admits (.array items) ↔ ∀ item ∈ items, form.Admits item := by
  simp [list]

/-- An object whose members are in order, have declared names and are of the declared forms. -/
def record (declared : List (String × Form)) : Form where
  Admits document := ∃ members, document = .object members ∧ Table.Increasing members ∧
    ∀ member ∈ members, ∃ form, (member.1, form) ∈ declared ∧ form.Admits member.2
  ordered := by
    rintro _ ⟨members, rfl, increasing, each⟩
    refine .object increasing ?_
    intro member present
    rcases each member present with ⟨form, _, admitted⟩
    exact form.ordered admitted

theorem record_ofMembers {declared : List (String × Form)} {members : List (String × Option Json)}
    (increasing : (members.map Prod.fst).Pairwise (· < ·))
    (each : ∀ member ∈ members, ∀ document ∈ member.2,
      ∃ form, (member.1, form) ∈ declared ∧ form.Admits document) :
    (record declared).Admits (Json.ofMembers members) := by
  refine ⟨_, rfl, Json.increasing_presentMembers increasing, ?_⟩
  intro member present
  rcases List.mem_filterMap.mp present with ⟨entry, listed, kept⟩
  rcases Option.map_eq_some_iff.mp kept with ⟨document, held, rfl⟩
  exact each entry listed document held

end Form

open RecordReader

namespace GraState

/-- The fields of a replication state in the order of their declaration. -/
def declared : List (String × Form) :=
  [("seqno", .integer), ("uuid", .text), ("safeToBootstrap", .bool)]

/-- What the members of a replication state stand for. -/
structure Holds (members : List (String × Json)) (state : GraState) : Prop where
  seqNo : Spelling.int64.Required members "seqno" state.seqNo
  uuid : Spelling.text.Optional members "uuid" state.uuid
  safeToBootstrap : Spelling.bool.Optional members "safeToBootstrap" state.safeToBootstrap

def spelling : Spelling GraState := .record (declared.map Prod.fst) Holds

theorem positional_reader : Positional reader :=
  (((Positional.done _).next (by decide) _ _).next (by decide) _ _).next (by decide) _ _

theorem readBy : spelling.ReadBy decode := by
  refine Spelling.ReadBy.record positional_reader sound_reader ?_ "GraState"
  intro members state ordered
  constructor
  · intro read
    simp only [reader, ofMembers_next, ofMembers_done, Except.ok.injEq] at read
    obtain ⟨_, _, ⟨_, _, ⟨_, _, rfl, seqNo, rfl⟩, uuid, rfl⟩, safe, rfl⟩ := read
    exact ⟨(Spelling.readBy_int64.field ordered).mp seqNo,
      ((Spelling.readBy_text.optional nofun).field ordered).mp uuid,
      ((Spelling.readBy_bool.optional nofun).field ordered).mp safe⟩
  · rintro ⟨seqNo, uuid, safe⟩
    exact ofMembers_next_of (ofMembers_next_of (ofMembers_next_of (ofMembers_done _ _)
      ((Spelling.readBy_int64.field ordered).mpr seqNo))
      (((Spelling.readBy_text.optional nofun).field ordered).mpr uuid))
      (((Spelling.readBy_bool.optional nofun).field ordered).mpr safe)

theorem form_toJson (state : GraState) : (Form.record declared).Admits state.toJson := by
  have increasing : List.Pairwise (· < ·) ["safeToBootstrap", "seqno", "uuid"] := by decide
  refine Form.record_ofMembers increasing ?_
  simp [declared, -Bool.exists_bool, -Bool.forall_bool]

end GraState

namespace ReplicaReport

/-- The fields of a report in the order of their declaration. -/
def declared : List (String × Form) :=
  [("hostname", .text), ("graState", .record GraState.declared)]

/-- What the members of a report stand for. -/
structure Holds (members : List (String × Json)) (report : ReplicaReport) : Prop where
  hostname : Spelling.text.Required members "hostname" report.hostname
  graState : GraState.spelling.Required members "graState" report.graState

def spelling : Spelling ReplicaReport := .record (declared.map Prod.fst) Holds

theorem positional_reader : Positional reader :=
  ((Positional.done _).next (by decide) _ _).next (by decide) _ _

theorem readBy : spelling.ReadBy decode := by
  refine Spelling.ReadBy.record positional_reader sound_reader ?_ "PodCondition"
  intro members report ordered
  constructor
  · intro read
    simp only [reader, ofMembers_next, ofMembers_done, Except.ok.injEq] at read
    obtain ⟨_, _, ⟨_, _, rfl, hostname, rfl⟩, graState, rfl⟩ := read
    exact ⟨(Spelling.readBy_text.field ordered).mp hostname,
      (GraState.readBy.field ordered).mp graState⟩
  · rintro ⟨hostname, graState⟩
    exact ofMembers_next_of (ofMembers_next_of (ofMembers_done _ _)
      ((Spelling.readBy_text.field ordered).mpr hostname))
      ((GraState.readBy.field ordered).mpr graState)

theorem form_toJson (report : ReplicaReport) : (Form.record declared).Admits report.toJson := by
  have increasing : List.Pairwise (· < ·) ["graState", "hostname"] := by decide
  refine Form.record_ofMembers increasing ?_
  simp [declared, GraState.form_toJson]

end ReplicaReport

namespace SnapshotSpec

/-- The fields of a snapshot section in the order of their declaration. -/
def declared : List (String × Form) := [("size", .text), ("storageClassName", .text)]

/-- What the members of a snapshot section stand for. -/
structure Holds (members : List (String × Json)) (snapshot : SnapshotSpec) : Prop where
  size : Spelling.text.Required members "size" snapshot.size
  storageClassName : Spelling.text.Optional members "storageClassName" snapshot.storageClassName

def spelling : Spelling SnapshotSpec := .record (declared.map Prod.fst) Holds

theorem positional_reader : Positional reader :=
  ((Positional.done _).next (by decide) _ _).next (by decide) _ _

theorem readBy : spelling.ReadBy decode := by
  refine Spelling.ReadBy.record positional_reader sound_reader ?_ "SnapshotSpec"
  intro members snapshot ordered
  constructor
  · intro read
    simp only [reader, ofMembers_next, ofMembers_done, Except.ok.injEq] at read
    obtain ⟨_, _, ⟨_, _, rfl, size, rfl⟩, storageClass, rfl⟩ := read
    exact ⟨(Spelling.readBy_text.field ordered).mp size,
      ((Spelling.readBy_text.optional nofun).field ordered).mp storageClass⟩
  · rintro ⟨size, storageClass⟩
    exact ofMembers_next_of (ofMembers_next_of (ofMembers_done _ _)
      ((Spelling.readBy_text.field ordered).mpr size))
      (((Spelling.readBy_text.optional nofun).field ordered).mpr storageClass)

theorem form_toJson (snapshot : SnapshotSpec) :
    (Form.record declared).Admits snapshot.toJson := by
  have increasing : List.Pairwise (· < ·) ["size", "storageClassName"] := by decide
  refine Form.record_ofMembers increasing ?_
  simp [declared]

end SnapshotSpec

namespace ClusterSpec

/-- The fields of a specification in the order of their declaration. -/
def declared : List (String × Form) :=
  [("replicas", .integer), ("image", .text), ("storageSize", .text),
    ("storageClassName", .text), ("snapshot", .record SnapshotSpec.declared)]

/-- What the members of a specification stand for. -/
structure Holds (members : List (String × Json)) (spec : ClusterSpec) : Prop where
  replicas : Spelling.int32.Required members "replicas" spec.replicas
  image : Spelling.text.Optional members "image" spec.image
  storageSize : Spelling.text.Optional members "storageSize" spec.storageSize
  storageClassName : Spelling.text.Optional members "storageClassName" spec.storageClassName
  snapshot : SnapshotSpec.spelling.Optional members "snapshot" spec.snapshot

def spelling : Spelling ClusterSpec := .record (declared.map Prod.fst) Holds

theorem positional_reader : Positional reader :=
  (((((Positional.done _).next (by decide) _ _).next (by decide) _ _).next (by decide) _ _).next
    (by decide) _ _).next (by decide) _ _

theorem readBy : spelling.ReadBy decode := by
  refine Spelling.ReadBy.record positional_reader sound_reader ?_ "MariaDBClusterSpec"
  intro members spec ordered
  have text {name : String} {value : Option String} :
      (RecordReader.optional name Decoder.text).ofMembers members = .ok value ↔
        Spelling.text.Optional members name value :=
    (Spelling.readBy_text.optional nofun).field ordered
  constructor
  · intro read
    simp only [reader, ofMembers_next, ofMembers_done, Except.ok.injEq] at read
    obtain ⟨_, _, ⟨_, _, ⟨_, _, ⟨_, _, ⟨_, _, rfl, replicas, rfl⟩, image, rfl⟩, size, rfl⟩,
      storageClass, rfl⟩, snapshot, rfl⟩ := read
    exact ⟨(Spelling.readBy_int32.field ordered).mp replicas, text.mp image, text.mp size,
      text.mp storageClass, ((SnapshotSpec.readBy.optional nofun).field ordered).mp snapshot⟩
  · rintro ⟨replicas, image, size, storageClass, snapshot⟩
    exact ofMembers_next_of (ofMembers_next_of (ofMembers_next_of (ofMembers_next_of
      (ofMembers_next_of (ofMembers_done _ _)
      ((Spelling.readBy_int32.field ordered).mpr replicas))
      (text.mpr image)) (text.mpr size)) (text.mpr storageClass))
      (((SnapshotSpec.readBy.optional nofun).field ordered).mpr snapshot)

theorem form_toJson (spec : ClusterSpec) : (Form.record declared).Admits spec.toJson := by
  have increasing : List.Pairwise (· < ·)
      ["image", "replicas", "snapshot", "storageClassName", "storageSize"] := by
    decide
  refine Form.record_ofMembers increasing ?_
  simp [declared, SnapshotSpec.form_toJson]

end ClusterSpec

namespace Phase

def form : Form :=
  .name ["", "PreFlight", "BootstrapFirst", "BootstrapFirstRestart", "BootstrapSecond",
    "BootstrapThird", "Operational", "Recovery"]

def spelling : Spelling Phase := .choice text

theorem readBy : spelling.ReadBy decode := by
  refine Spelling.readBy_choice fun name phase => ?_
  rw [Table.get?_eq_some_iff (show (Table.keys known).Nodup by decide)]
  simp [known, mem_all, eq_comm]

theorem form_toJson (phase : Phase) : form.Admits phase.toJson :=
  ⟨phase.text, by cases phase <;> decide, rfl⟩

end Phase

namespace Stage

def form : Form := .name ["", "Synced", "Degraded", "PrimaryRecovered", "InvalidReport"]

def spelling : Spelling Stage := .choice text

theorem readBy : spelling.ReadBy decode := by
  refine Spelling.readBy_choice fun name stage => ?_
  rw [Table.get?_eq_some_iff (show (Table.keys known).Nodup by decide)]
  simp [known, mem_all, eq_comm]

theorem form_toJson (stage : Stage) : form.Admits stage.toJson :=
  ⟨stage.text, by cases stage <;> decide, rfl⟩

end Stage

namespace ClusterStatus

/-- The fields of a status in the order of their declaration. -/
def declared : List (String × Form) :=
  [("phase", Phase.form), ("stage", Stage.form), ("statefulSetObservedGeneration", .integer),
    ("bootstrapFrom", .text),
    ("statefulSetPodConditions", .list (.record ReplicaReport.declared))]

/-- What the members of a status stand for. -/
structure Holds (members : List (String × Json)) (status : ClusterStatus) : Prop where
  phase : Phase.spelling.Defaulted .fresh members "phase" status.phase
  stage : Stage.spelling.Defaulted .unqualified members "stage" status.stage
  recordedGeneration : Spelling.int64.Defaulted 0 members "statefulSetObservedGeneration"
    status.recordedGeneration
  bootstrapFrom : Spelling.text.Optional members "bootstrapFrom" status.bootstrapFrom
  reports : ReplicaReport.spelling.list.Defaulted [] members "statefulSetPodConditions"
    status.reports

def spelling : Spelling ClusterStatus := .record (declared.map Prod.fst) Holds

theorem positional_reader : Positional reader :=
  (((((Positional.done _).next (by decide) _ _).next (by decide) _ _).next (by decide) _ _).next
    (by decide) _ _).next (by decide) _ _

theorem readBy : spelling.ReadBy decode := by
  refine Spelling.ReadBy.record positional_reader sound_reader ?_ "MariaDBClusterStatus"
  intro members status ordered
  rw [ofMembers_reader]
  constructor
  · rintro ⟨phase, stage, generation, source, reports⟩
    exact ⟨(Phase.readBy.field ordered).mp phase, (Stage.readBy.field ordered).mp stage,
      (Spelling.readBy_int64.field ordered).mp generation,
      ((Spelling.readBy_text.optional nofun).field ordered).mp source,
      (ReplicaReport.readBy.list.field ordered).mp reports⟩
  · rintro ⟨phase, stage, generation, source, reports⟩
    exact ⟨(Phase.readBy.field ordered).mpr phase, (Stage.readBy.field ordered).mpr stage,
      (Spelling.readBy_int64.field ordered).mpr generation,
      ((Spelling.readBy_text.optional nofun).field ordered).mpr source,
      (ReplicaReport.readBy.list.field ordered).mpr reports⟩

theorem form_toJson (status : ClusterStatus) : (Form.record declared).Admits status.toJson := by
  have increasing : List.Pairwise (· < ·)
      ["bootstrapFrom", "phase", "stage", "statefulSetObservedGeneration",
        "statefulSetPodConditions"] := by
    decide
  refine Form.record_ofMembers increasing ?_
  simp [declared, Phase.form_toJson, Stage.form_toJson, ReplicaReport.form_toJson]

end ClusterStatus

/-! ## Writing and reading again -/

/-- What is written of a type is read back, and what is read of it is settled once written. -/
structure RoundTrips {Value : Type} (decode : Decoder Value) (encode : Value → Json)
    (spelling : Spelling Value) (form : Form) : Prop where
  /-- Every value is read from its own document. -/
  reads : ∀ value, decode (encode value) = .ok value
  /-- A document is read as a value exactly when it is one of the spellings of the value. -/
  accepts : ∀ document value, document.Ordered →
    (decode document = .ok value ↔ spelling document value)
  /-- However a value was spelled, what is written for it has the declared form and is it again. -/
  settles : ∀ document value, decode document = .ok value →
    form.Admits (encode value) ∧ decode (encode value) = .ok value

theorem RoundTrips.of_inverts {Value : Type} {decode : Decoder Value} {encode : Value → Json}
    {spelling : Spelling Value} {form : Form} (inverse : Inverts decode encode)
    (readBy : spelling.ReadBy decode) (written : ∀ value, form.Admits (encode value)) :
    RoundTrips decode encode spelling form where
  reads := inverse.reads
  accepts _ _ ordered := readBy.ok_iff ordered
  settles _ value _ := ⟨written value, inverse.reads value⟩

/--
Reading undoes writing for phases, stages, replication states, reports, snapshot
sections, specifications and statuses.  Each of them is read from all of its
spellings and from nothing else, and is written in one form.
-/
theorem resource_types_round_trip :
    RoundTrips Phase.decode Phase.toJson Phase.spelling Phase.form ∧
      RoundTrips Stage.decode Stage.toJson Stage.spelling Stage.form ∧
      RoundTrips GraState.decode GraState.toJson GraState.spelling
        (.record GraState.declared) ∧
      RoundTrips ReplicaReport.decode ReplicaReport.toJson ReplicaReport.spelling
        (.record ReplicaReport.declared) ∧
      RoundTrips SnapshotSpec.decode SnapshotSpec.toJson SnapshotSpec.spelling
        (.record SnapshotSpec.declared) ∧
      RoundTrips ClusterSpec.decode ClusterSpec.toJson ClusterSpec.spelling
        (.record ClusterSpec.declared) ∧
      RoundTrips ClusterStatus.decode ClusterStatus.toJson ClusterStatus.spelling
        (.record ClusterStatus.declared) :=
  ⟨.of_inverts Phase.inverts Phase.readBy Phase.form_toJson,
    .of_inverts Stage.inverts Stage.readBy Stage.form_toJson,
    .of_inverts GraState.inverts GraState.readBy GraState.form_toJson,
    .of_inverts ReplicaReport.inverts ReplicaReport.readBy ReplicaReport.form_toJson,
    .of_inverts SnapshotSpec.inverts SnapshotSpec.readBy SnapshotSpec.form_toJson,
    .of_inverts ClusterSpec.inverts ClusterSpec.readBy ClusterSpec.form_toJson,
    .of_inverts ClusterStatus.inverts ClusterStatus.readBy ClusterStatus.form_toJson⟩

/-- A status as an array that ends early, with its phase as an object, has the usual document. -/
example :
    (ClusterStatus.decode (.array [.object [("Recovery", .null)], .string "", .integer 4])).map
        ClusterStatus.toJson =
      .ok (.object [("phase", .string "Recovery"), ("stage", .string ""),
        ("statefulSetObservedGeneration", .integer 4)]) := by
  rfl

end GaleraControl

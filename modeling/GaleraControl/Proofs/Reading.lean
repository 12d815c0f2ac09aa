import GaleraControl.Cluster

/-!
# Reading records from members

A record is read from an object in two steps: every declared member that is
present must decode, and then each field takes its value from the view `get?` of
the members.  Both steps are stated here through membership and `get?`, so that
reading a record from changed members can be compared with reading it from the
members before the change, whatever the layout of either.
-/

namespace GaleraControl

namespace Table

variable {Key Value : Type} [DecidableEq Key]

theorem mem_of_get? {table : List (Key × Value)} {key : Key} {value : Value}
    (found : get? table key = some value) : (key, value) ∈ table := by
  induction table with
  | nil => simp at found
  | cons entry rest ih =>
      rcases entry with ⟨held, old⟩
      by_cases same : held = key
      · have equal : old = value := by simpa [get?, same] using found
        simp [same, equal]
      · exact List.mem_cons_of_mem _ (ih (by simpa [get?, same] using found))

theorem get?_append (first second : List (Key × Value)) (key : Key) :
    get? (first ++ second) key = (get? first key).or (get? second key) := by
  induction first with
  | nil => simp
  | cons entry rest ih =>
      rcases entry with ⟨held, old⟩
      by_cases same : held = key
      · simp [get?, same]
      · simp [get?, same, ih]

/-- No key stands in a table twice. -/
def Distinct (table : List (Key × Value)) : Prop :=
  (keys table).Nodup

theorem get?_of_mem {table : List (Key × Value)} (distinct : Distinct table)
    {entry : Key × Value} (member : entry ∈ table) :
    get? table entry.1 = some entry.2 := by
  induction table with
  | nil => simp at member
  | cons head rest ih =>
      rcases head with ⟨held, old⟩
      rcases List.nodup_cons.mp distinct with ⟨fresh, distinctRest⟩
      rcases List.mem_cons.mp member with first | later
      · simp [first, get?]
      · have other : held ≠ entry.1 := by
          intro same
          exact fresh (List.mem_map.mpr ⟨entry, later, same.symm⟩)
        simpa [get?, other] using ih distinctRest later

theorem get?_modify (key other : Key) (change : Value → Value) (table : List (Key × Value)) :
    get? (modify key change table) other =
      if key = other then (get? table other).map change else get? table other := by
  induction table with
  | nil => simp [modify]
  | cons entry rest ih =>
      rcases entry with ⟨held, old⟩
      have unfolded : modify key change ((held, old) :: rest) =
          (if held = key then (held, change old) else (held, old)) ::
            modify key change rest := rfl
      rw [unfolded]
      by_cases written : held = key
      · by_cases same : held = other
        · have both : key = other := written.symm.trans same
          simp [get?, written, both]
        · have apart : key ≠ other := fun equal => same (written.trans equal)
          have later := ih
          rw [if_neg apart] at later
          simp [get?, written, apart, later]
      · by_cases same : held = other
        · have apart : key ≠ other := fun equal => written (same.trans equal.symm)
          rw [if_neg written, if_neg apart]
          simp [get?, same]
        · simp [get?, written, same, ih]

variable [LT Key] [DecidableLT Key]

theorem eq_or_mem_of_mem_insert {key : Key} {value : Value} {entry : Key × Value}
    {table : List (Key × Value)} (member : entry ∈ insert key value table) :
    entry = (key, value) ∨ entry ∈ table := by
  induction table with
  | nil => exact Or.inl (by simpa [insert] using member)
  | cons head rest ih =>
      rcases head with ⟨held, old⟩
      unfold insert at member
      split at member
      · rcases List.mem_cons.mp member with new | kept
        · exact Or.inl new
        · exact Or.inr (List.mem_cons_of_mem _ kept)
      · split at member
        · rcases List.mem_cons.mp member with new | kept
          · exact Or.inl new
          · exact Or.inr kept
        · rcases List.mem_cons.mp member with first | later
          · exact Or.inr (by rw [first]; exact List.mem_cons_self)
          · rcases ih later with new | kept
            · exact Or.inl new
            · exact Or.inr (List.mem_cons_of_mem _ kept)

/-- Of two writes under one key only the later counts. -/
theorem insert_insert (key : Key) (first second : Value) (table : List (Key × Value)) :
    insert key second (insert key first table) = insert key second table := by
  induction table with
  | nil => simp [insert]
  | cons head rest ih =>
      rcases head with ⟨held, old⟩
      by_cases same : held = key
      · simp [insert, same]
      · by_cases before : key < held
        · simp [insert, same, before]
        · simp [insert, same, before, ih]

end Table

namespace RecordReader

variable {Value Field : Type}

/-- A member that is not declared, or decodes. -/
def Passes (reader : RecordReader Value) (member : String × Json) : Prop :=
  ∀ check, Table.get? reader.checks member.1 = some check → check member.2 = .ok ()

theorem passes_done (value : Value) (member : String × Json) :
    (done value).Passes member := by
  intro check declared
  simp [done] at declared

theorem Passes.next {reader : RecordReader (Field → Value)} {field : RecordReader Field}
    {member : String × Json} (first : reader.Passes member) (second : field.Passes member) :
    (reader.next field).Passes member := by
  intro check declared
  have split : Table.get? (reader.checks ++ field.checks) member.1 = some check := declared
  rw [Table.get?_append] at split
  rcases Option.or_eq_some_iff.mp split with earlier | ⟨_, later⟩
  · exact first check earlier
  · exact second check later

/-- A field lets every other member pass, and its own when it decodes. -/
theorem passes_fieldWith {name : String} {decode : Decoder Field} {absent : Option Field}
    {member : String × Json}
    (decodes : member.1 = name → ∃ value, decode member.2 = .ok value) :
    (fieldWith name decode absent).Passes member := by
  intro check declared
  by_cases same : name = member.1
  · rcases decodes same.symm with ⟨value, decoded⟩
    have checked : (fun found => (decode found).map fun _ => ()) = check := by
      simpa [fieldWith, Table.get?, same] using declared
    rw [← checked]
    simp [decoded, Except.map]
  · simp [fieldWith, Table.get?, same] at declared

theorem firstFault?_eq_none_iff {reader : RecordReader Value}
    {members : List (String × Json)} :
    reader.firstFault? members = none ↔ ∀ member ∈ members, reader.Passes member := by
  unfold firstFault?
  rw [List.findSome?_eq_none_iff]
  constructor
  · intro faultless member present check declared
    have passed := faultless member present
    rw [declared] at passed
    cases checked : check member.2 with
    | ok _ => rfl
    | error fault => simp [checked] at passed
  · intro passes member present
    cases declared : Table.get? reader.checks member.1 with
    | none => rfl
    | some check => simp [passes member present check declared]

/-- A record is read exactly when all members pass and its fields are found. -/
theorem object_eq_ok_iff {reader : RecordReader Value} {members : List (String × Json)}
    {value : Value} :
    reader.object members = .ok value ↔
      (∀ member ∈ members, reader.Passes member) ∧
        reader.ofMembers members = .ok value := by
  unfold object
  cases fault : reader.firstFault? members with
  | none =>
      have passes := firstFault?_eq_none_iff.mp fault
      constructor
      · exact fun found => ⟨passes, found⟩
      · exact fun found => found.2
  | some error =>
      constructor
      · exact fun found => absurd found (by simp)
      · intro found
        have faultless := firstFault?_eq_none_iff.mpr found.1
        exact absurd (fault.symm.trans faultless) (by simp)

@[simp]
theorem ofMembers_done (value : Value) (members : List (String × Json)) :
    (done value).ofMembers members = .ok value := rfl

theorem ofMembers_next {reader : RecordReader (Field → Value)} {field : RecordReader Field}
    {members : List (String × Json)} {value : Value} :
    (reader.next field).ofMembers members = .ok value ↔
      ∃ build part, reader.ofMembers members = .ok build ∧
        field.ofMembers members = .ok part ∧ build part = value := by
  cases first : reader.ofMembers members with
  | error fault => simp [next, first, bind, Except.bind]
  | ok build =>
      cases second : field.ofMembers members with
      | error fault => simp [next, first, second, bind, Except.bind]
      | ok part => simp [next, first, second, bind, Except.bind, pure, Except.pure]

theorem ofMembers_next_of {reader : RecordReader (Field → Value)}
    {field : RecordReader Field} {members : List (String × Json)} {build : Field → Value}
    {part : Field} (first : reader.ofMembers members = .ok build)
    (second : field.ofMembers members = .ok part) :
    (reader.next field).ofMembers members = .ok (build part) :=
  ofMembers_next.mpr ⟨build, part, first, second, rfl⟩

theorem ofMembers_fieldWith {name : String} {decode : Decoder Field} {absent : Option Field}
    {members : List (String × Json)} {found : Json}
    (present : Table.get? members name = some found) :
    (fieldWith name decode absent).ofMembers members = decode found := by
  simp [fieldWith, present]

theorem ofMembers_fieldWith_absent {name : String} {decode : Decoder Field}
    {value : Field} {members : List (String × Json)}
    (missing : Table.get? members name = none) :
    (fieldWith name decode (some value)).ofMembers members = .ok value := by
  simp [fieldWith, missing]

/-- A field depends on the view of the members under its own name only. -/
theorem ofMembers_fieldWith_congr {name : String} {decode : Decoder Field}
    {absent : Option Field} {first second : List (String × Json)}
    (same : Table.get? first name = Table.get? second name) :
    (fieldWith name decode absent).ofMembers first =
      (fieldWith name decode absent).ofMembers second := by
  simp [fieldWith, same]

theorem ofMembers_fieldWith_insert {name key : String} (ne : key ≠ name)
    {decode : Decoder Field} {absent : Option Field} {members : List (String × Json)}
    (value : Json) :
    (fieldWith name decode absent).ofMembers (Table.insert key value members) =
      (fieldWith name decode absent).ofMembers members :=
  ofMembers_fieldWith_congr (Table.get?_insert_of_ne ne value members)

/-- Among members with distinct names, those that a field is read from have been checked. -/
def Sound (reader : RecordReader Value) : Prop :=
  ∀ members value, Table.Distinct members → reader.ofMembers members = .ok value →
    ∀ member ∈ members, reader.Passes member

theorem sound_done (value : Value) : Sound (done value) :=
  fun _ _ _ _ member _ => passes_done value member

theorem Sound.next {reader : RecordReader (Field → Value)} {field : RecordReader Field}
    (first : Sound reader) (second : Sound field) : Sound (reader.next field) := by
  intro members value distinct found member present
  rcases ofMembers_next.mp found with ⟨build, part, builds, parts, _⟩
  exact (first members build distinct builds member present).next
    (second members part distinct parts member present)

theorem sound_fieldWith (name : String) (decode : Decoder Field) (absent : Option Field) :
    Sound (fieldWith name decode absent) := by
  intro members value distinct found member present
  apply passes_fieldWith
  intro own
  have stored := Table.get?_of_mem distinct present
  rw [own] at stored
  rw [ofMembers_fieldWith stored] at found
  exact ⟨value, found⟩

theorem sound_nullable (name : String) (decode : Decoder Field) :
    Sound (nullable name decode) :=
  sound_fieldWith name decode.optional (some none)

/-- A record whose members have distinct names is read as soon as its fields are found. -/
theorem object_of_ofMembers {reader : RecordReader Value} (sound : Sound reader)
    {members : List (String × Json)} (distinct : Table.Distinct members) {value : Value}
    (found : reader.ofMembers members = .ok value) : reader.object members = .ok value :=
  object_eq_ok_iff.mpr ⟨sound members value distinct found, found⟩

end RecordReader

namespace ClusterStatus

open RecordReader

/-- The five fields of a status, each read for itself. -/
theorem ofMembers_reader {members : List (String × Json)} {status : ClusterStatus} :
    reader.ofMembers members = .ok status ↔
      (defaulted "phase" Phase.decode .fresh).ofMembers members = .ok status.phase ∧
        (defaulted "stage" Stage.decode .unqualified).ofMembers members =
          .ok status.stage ∧
        (defaulted "statefulSetObservedGeneration" Decoder.int64 0).ofMembers members =
          .ok status.recordedGeneration ∧
        (RecordReader.optional "bootstrapFrom" Decoder.text).ofMembers members =
          .ok status.bootstrapFrom ∧
        (defaulted "statefulSetPodConditions" (Decoder.list ReplicaReport.decode)
          []).ofMembers members = .ok status.reports := by
  simp only [reader, ofMembers_next, ofMembers_done, Except.ok.injEq]
  constructor
  · rintro ⟨_, _, ⟨_, _, ⟨_, _, ⟨_, _, ⟨_, _, rfl, phase, rfl⟩, stage, rfl⟩, generation,
      rfl⟩, source, rfl⟩, reports, rfl⟩
    exact ⟨phase, stage, generation, source, reports⟩
  · rintro ⟨phase, stage, generation, source, reports⟩
    exact ⟨_, _, ⟨_, _, ⟨_, _, ⟨_, _, ⟨_, _, rfl, phase, rfl⟩, stage, rfl⟩, generation,
      rfl⟩, source, rfl⟩, reports, rfl⟩

end ClusterStatus

end GaleraControl

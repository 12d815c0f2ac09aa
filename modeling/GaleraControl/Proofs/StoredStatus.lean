import GaleraControl.Proofs.StatusPatch

/-!
# The status inside a stored document

A stored document may spell its status in many ways: fields that have their
default may be missing, a choice may be written as an object, other programs
may have added members.  `HoldsStatus` says which status a document holds,
however it is spelled.  The difference of two statuses is computed from their
own documents only, and still it applies to every document that holds the first
one and turns it into one that holds the second.
-/

namespace GaleraControl

open RecordReader

/-- A document holds a status as an object, or none, which may be written as `null`. -/
inductive HoldsStatus : Json → Option ClusterStatus → Prop where
  | missing {members : List (String × Json)}
      (absent : Table.get? members "status" = none) : HoldsStatus (.object members) none
  | null {members : List (String × Json)}
      (shown : Table.get? members "status" = some .null) : HoldsStatus (.object members) none
  | object {members inner : List (String × Json)} {status : ClusterStatus}
      (shown : Table.get? members "status" = some (.object inner))
      (reads : ClusterStatus.decode (.object inner) = .ok status) :
      HoldsStatus (.object members) (some status)

namespace ClusterStatus

/-- The names under which a status keeps its fields. -/
def fieldNames : List String := reader.checks.map Prod.fst

/-- The document of a status has no other members than its fields. -/
theorem get?_members_of_unknown (status : ClusterStatus) {field : String}
    (unknown : field ∉ fieldNames) : Table.get? status.members field = none := by
  refine Table.get?_eq_none_iff.mpr fun known => unknown ?_
  have listed := (Json.keys_presentMembers_sublist _).subset known
  simp only [List.map_cons, List.map_nil, List.mem_cons, List.not_mem_nil, or_false] at listed
  rcases listed with rfl | rfl | rfl | rfl | rfl <;> decide

end ClusterStatus

/-! ## What a write leaves alone -/

/-- All members but the status stay as they were, and those that the status does not know. -/
structure SparesOthers (before after : Json) : Prop where
  members : ∀ name, name ≠ "status" → Json.get? [name] after = Json.get? [name] before
  unknown : ∀ field, field ∉ ClusterStatus.fieldNames →
    Json.get? ["status", field] after = Json.get? ["status", field] before

theorem SparesOthers.refl (document : Json) : SparesOthers document document where
  members _ _ := rfl
  unknown _ _ := rfl

/-- Another object as the status spares the others if it keeps the members that are unknown. -/
theorem sparesOthers_insert {members inner : List (String × Json)}
    (kept : ∀ field, field ∉ ClusterStatus.fieldNames →
      Table.get? inner field = Json.get? ["status", field] (.object members)) :
    SparesOthers (.object members)
      (.object (Table.insert "status" (.object inner) members)) where
  members name other := by
    simp only [Json.get?]
    rw [Table.get?_insert_of_ne other.symm]
  unknown field unknown := by
    rw [← kept field unknown]
    simp only [Json.get?, Table.get?_insert_self, Option.bind_some]
    cases Table.get? inner field <;> rfl

/-! ## Differences on documents -/

namespace HoldsStatus

variable {document : Json} {members inner : List (String × Json)}
  {original : Option ClusterStatus} {status changed : ClusterStatus}

/-- The status that a document holds is the one that its cluster is read with. -/
theorem ofMembers (holds : HoldsStatus (.object members) original) :
    (nullable "status" ClusterStatus.decode).ofMembers members = .ok original := by
  cases holds with
  | missing absent => exact ofMembers_fieldWith_absent absent
  | null shown => exact ofMembers_fieldWith shown
  | object shown reads =>
      refine (ofMembers_fieldWith shown).trans ?_
      rw [Decoder.optional_object, reads]
      rfl

theorem inserted (reads : ClusterStatus.reader.object inner = .ok status) :
    HoldsStatus (.object (Table.insert "status" (.object inner) members)) (some status) :=
  .object (Table.get?_insert_self "status" _ members) reads

/-- Where there is no status, there is a place for the whole one. -/
theorem exists_patched_none (written : changed ≠ {}) :
    ∃ patched, (Json.object members).patch? (ClusterStatus.diff none changed) = some patched := by
  simp [ClusterStatus.diff, written, PatchOperation.perform?, Json.add?]

/-- No operation of a difference misses its place in a document that holds the old status. -/
theorem exists_patched (holds : HoldsStatus (.object members) original)
    (differs : ClusterStatus.diff original changed ≠ []) :
    ∃ patched, (Json.object members).patch? (ClusterStatus.diff original changed) =
      some patched := by
  have written (absent : original = none) : changed ≠ {} := by
    intro same
    simp [ClusterStatus.diff, absent, same] at differs
  cases holds with
  | missing absent => exact exists_patched_none (written rfl)
  | null shown => exact exists_patched_none (written rfl)
  | @object members inner status shown reads =>
      have rewritten : Json.patch? _ (ClusterStatus.diff (some status) changed) = _ :=
        ClusterStatus.patch?_shown reads members
      refine ⟨_, Eq.trans ?_ rewritten⟩
      rcases List.exists_cons_of_ne_nil differs with ⟨first, rest, operations⟩
      rcases ClusterStatus.about_of_mem_diff (operations ▸ List.mem_cons_self) with ⟨field, about⟩
      -- Once the first operation has written the status, both documents are the same.
      rw [operations, Json.patch?_cons, Json.patch?_cons,
        ClusterStatus.perform?_rewritten about shown]

/--
The difference to any other status applies to every document that holds the old
one, and then the document holds the new one, everything else being as it was.
Only where there was none may the new status be held as none, by default.
-/
theorem takes_diff (holds : HoldsStatus document original) (changed : ClusterStatus) :
    ∃ patched recorded,
      document.patch? (ClusterStatus.diff original changed) = some patched ∧
        HoldsStatus patched recorded ∧ recorded.getD {} = changed ∧
        (original ≠ none → recorded = some changed) ∧ SparesOthers document patched := by
  by_cases same : ClusterStatus.diff original changed = []
  · have equal := ClusterStatus.eq_of_diff_eq_nil same
    refine ⟨document, original, by rw [same, Json.patch?_nil], holds, equal.symm, ?_,
      SparesOthers.refl document⟩
    intro present
    rcases Option.ne_none_iff_exists'.mp present with ⟨status, rfl⟩
    rw [equal]
    rfl
  · have object : ∃ members, document = .object members := by
      cases holds <;> exact ⟨_, rfl⟩
    rcases object with ⟨members, rfl⟩
    rcases holds.exists_patched same with ⟨patched, applied⟩
    rcases Cluster.patch?_status same holds.ofMembers applied with ⟨inner, rfl, reads, kept⟩
    refine ⟨_, some changed, applied, .inserted reads, rfl, fun _ => rfl,
      sparesOthers_insert fun field unknown => kept field ?_⟩
    rw [changed.get?_members_of_unknown unknown]
    cases original with
    | none => rfl
    | some status => exact (status.get?_members_of_unknown unknown).symm

/--
A status of another client: a choice as an object, a `null`, two fields left
out, and a member that no status has.
-/
def foreignStatus : List (String × Json) :=
  [("bootstrapFrom", .null), ("conditions", .array [.string "seen"]),
    ("phase", .object [("Recovery", .null)]),
    ("statefulSetPodConditions", .array [.object
      [("graState", .object [("seqno", .integer 4)]), ("hostname", .string "db-server-0")]])]

/-- The reports are taken back, one field is changed and two are written that were not there. -/
theorem foreignStatus_takes_diff :
    let document : Json := .object
      [("kind", .string "MariaDBCluster"), ("status", .object foreignStatus)]
    let original : ClusterStatus :=
      { phase := .recovery, reports := [⟨"db-server-0", { seqNo := 4 }⟩] }
    let changed : ClusterStatus :=
      { phase := .operational, stage := .degraded, recordedGeneration := 7 }
    HoldsStatus document (some original) ∧
      ∃ patched recorded,
        document.patch? (ClusterStatus.diff (some original) changed) = some patched ∧
          HoldsStatus patched recorded ∧ recorded.getD {} = changed ∧
          (some original ≠ none → recorded = some changed) ∧ SparesOthers document patched := by
  intro document original changed
  have holds : HoldsStatus document (some original) := .object rfl rfl
  exact ⟨holds, holds.takes_diff changed⟩

end HoldsStatus

end GaleraControl

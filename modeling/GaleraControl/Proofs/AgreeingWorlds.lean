import GaleraControl.Proofs.NameCheck
import GaleraControl.World.Answers

/-!
# Worlds that agree on the rest

Two worlds in memory may show different workloads and config maps and fail in other
lookups of these, and agree on everything else.  An action is uniform if it does the
same in both of them, and unseen if it can be done in one of them alone without
setting them apart.  A sequence of uniform actions is uniform, and a sequence of unseen
actions unseen, so that the answers to requests are what their steps are: those to the
check of names are unseen, and all others uniform.
-/

namespace GaleraControl.World

/-- The points of the lookups that the check of names makes. -/
def ChecksNames (point : String) : Prop :=
  point = LookupPoint.cachedStatefulSet.text ∨ point = LookupPoint.cachedConfigMap.text

instance (point : String) : Decidable (ChecksNames point) :=
  inferInstanceAs (Decidable (_ ∨ _))

theorem not_checksNames_reconcilePoint (kind : String) :
    ¬ ChecksNames (reconcilePoint kind) := by
  have first : (reconcilePoint kind).toList.head? = some 'r' := by
    simp [reconcilePoint]
  rintro (same | same) <;> rw [same] at first <;> exact absurd first (by decide)

/--
Two worlds that differ at most in the workloads and config maps that the cache shows,
in the failures of their lookups, and in what was recorded so far.
-/
structure AgreesOnRest (first second : World) : Prop where
  clusters : second.clusters = first.clusters
  pods : second.pods = first.pods
  frozen : second.frozen = first.frozen
  applied : second.applied = first.applied
  version : second.version = first.version
  raceArmed : second.raceArmed = first.raceArmed
  recordsEvents : second.recordsEvents = first.recordsEvents
  faults : ∀ point, ¬ ChecksNames point →
    Table.get? second.faults point = Table.get? first.faults point

namespace AgreesOnRest

variable {first second : World}

theorem symm (agrees : AgreesOnRest first second) : AgreesOnRest second first where
  clusters := agrees.clusters.symm
  pods := agrees.pods.symm
  frozen := agrees.frozen.symm
  applied := agrees.applied.symm
  version := agrees.version.symm
  raceArmed := agrees.raceArmed.symm
  recordsEvents := agrees.recordsEvents.symm
  faults point rest := (agrees.faults point rest).symm

/-- What is recorded in one of the worlds does not count. -/
theorem record_left (agrees : AgreesOnRest first second) (entry : WorldRecord) :
    AgreesOnRest (first.record entry) second :=
  { agrees with }

theorem record (agrees : AgreesOnRest first second) (entry : WorldRecord) :
    AgreesOnRest (first.record entry) (second.record entry) :=
  { agrees with }

theorem setFault (agrees : AgreesOnRest first second) (point : String) (fault : Fault) :
    AgreesOnRest (first.setFault point fault) (second.setFault point fault) :=
  { agrees with
    faults := fun other rest => by
      simp only [World.setFault, Table.get?_insert, agrees.faults other rest] }

theorem setFault_left (agrees : AgreesOnRest first second) {point : String}
    (checks : ChecksNames point) (fault : Fault) :
    AgreesOnRest (first.setFault point fault) second := by
  refine { agrees with faults := fun other rest => ?_ }
  have ne : point ≠ other := fun same => rest (same ▸ checks)
  rw [World.setFault, Table.get?_insert_of_ne ne, agrees.faults other rest]

theorem nextVersion (agrees : AgreesOnRest first second) :
    AgreesOnRest first.nextVersion second.nextVersion :=
  { agrees with version := by simp only [World.nextVersion, agrees.version] }

theorem stamp (agrees : AgreesOnRest first second) (key : ResourceKey) :
    AgreesOnRest (first.stamp key) (second.stamp key) :=
  { agrees with clusters := by simp only [World.stamp, agrees.clusters, agrees.version] }

theorem apply (agrees : AgreesOnRest first second) (workload : WorkloadManifest) :
    AgreesOnRest (first.apply workload) (second.apply workload) :=
  { agrees with applied := by simp only [World.apply, agrees.applied] }

end AgreesOnRest

/-! ## Uniform actions -/

/-- An action that does the same in worlds that agree on the rest. -/
def Uniform {Value : Type} (action : StateM World Value) : Prop :=
  ∀ ⦃first second : World⦄, AgreesOnRest first second →
    (action first).1 = (action second).1 ∧ AgreesOnRest (action first).2 (action second).2

section Uniform

variable {Value Other : Type}

theorem uniform_pure (value : Value) : Uniform (pure value) :=
  fun _ _ agrees => ⟨rfl, agrees⟩

theorem Uniform.bind {action : StateM World Value} {next : Value → StateM World Other}
    (uniform : Uniform action) (later : ∀ value, Uniform (next value)) :
    Uniform (action >>= next) := by
  intro first second agrees
  rcases uniform agrees with ⟨same, after⟩
  show (next (action first).1 (action first).2).1 = (next (action second).1 (action second).2).1 ∧
    AgreesOnRest (next (action first).1 (action first).2).2
      (next (action second).1 (action second).2).2
  rw [same]
  exact later _ after

theorem uniform_modify {change : World → World}
    (keeps : ∀ {first second}, AgreesOnRest first second →
      AgreesOnRest (change first) (change second)) : Uniform (modify change) :=
  fun _ _ agrees => ⟨rfl, keeps agrees⟩

/-- A failure at a point that is not of the check is due in both worlds or in neither. -/
theorem uniform_strike {point : String} (rest : ¬ ChecksNames point) :
    Uniform (strike point) := by
  intro first second agrees
  unfold strike
  rw [agrees.faults point rest]
  split
  · exact ⟨rfl, agrees⟩
  · split
    · exact ⟨rfl, agrees⟩
    · exact ⟨rfl, agrees⟩
    · exact ⟨rfl, agrees.setFault _ _⟩

/-- A recorded action that may fail at such a point is uniform, if it is when it does not fail. -/
theorem uniform_recorded {point : String} (rest : ¬ ChecksNames point) (entry : WorldRecord)
    {action : StateM World (Except SyncError Value)} (uniform : Uniform action) :
    Uniform (do
      modify (·.record entry)
      match ← strike point with
      | .error error => return .error error
      | .ok () => action) := by
  refine (uniform_modify fun agrees => agrees.record entry).bind fun _ => ?_
  refine (uniform_strike rest).bind fun struck => ?_
  cases struck with
  | error error => exact uniform_pure _
  | ok _ => exact uniform

/-- A lookup at such a point replies the same, if the worlds show the same to it. -/
theorem uniform_lookup {point : LookupPoint} (rest : ¬ ChecksNames point.text)
    (key : ResourceKey) {found : World → Option Value}
    (shows : ∀ {first second}, AgreesOnRest first second → found first = found second) :
    Uniform (lookup point key found) :=
  uniform_recorded rest _ fun _ _ agrees => ⟨congrArg Except.ok (shows agrees), agrees⟩

/-- Another writer follows the read of a stored cluster in both worlds or in neither. -/
theorem uniform_race (key : ResourceKey) : Uniform (race key) := by
  refine uniform_modify fun {first second} agrees => ?_
  rw [agrees.raceArmed]
  split
  · refine AgreesOnRest.stamp (AgreesOnRest.nextVersion ?_) key
    exact { agrees with raceArmed := rfl }
  · exact agrees

theorem uniform_applyPatch (key : ResourceKey) (operations : List PatchOperation) :
    Uniform (applyPatch key operations) := by
  intro first second agrees
  unfold applyPatch
  rw [agrees.clusters]
  split
  · exact ⟨rfl, agrees⟩
  · split
    · exact ⟨rfl, agrees⟩
    · refine ⟨rfl, AgreesOnRest.stamp ?_ key⟩
      exact { agrees with clusters := rfl }

end Uniform

/-- All requests that are not of the check are answered alike. -/
theorem uniform_answer {request : Request WorldReconciler} (rest : ¬ request.ChecksNames) :
    Uniform (answer request) := by
  cases request with
  | cachedStatefulSet key => exact absurd trivial rest
  | cachedConfigMap key => exact absurd trivial rest
  | cachedCluster key =>
      refine uniform_lookup (by decide) key fun agrees => ?_
      simp only [cachedClusters, agrees.frozen, agrees.clusters]
  | pod key => exact uniform_lookup (by decide) key fun agrees => by rw [agrees.pods]
  | latestCluster key =>
      refine (uniform_lookup (by decide) key fun agrees => by rw [agrees.clusters]).bind
        fun found => ?_
      cases found with
      | error error => exact uniform_pure _
      | ok found => exact (uniform_race key).bind fun _ => uniform_pure _
  | patchStatus key operations =>
      refine uniform_recorded (by decide) _ ?_
      exact (uniform_modify fun agrees => agrees.nextVersion).bind
        fun _ => uniform_applyPatch key operations
  | publish event =>
      refine uniform_modify fun agrees => ?_
      rw [agrees.recordsEvents]
      split
      · exact agrees.record _
      · exact agrees
  | reconcile reconciler cluster =>
      refine uniform_recorded (not_checksNames_reconcilePoint reconciler.kind) _ ?_
      cases reconciler.applies with
      | false => exact uniform_pure _
      | true =>
          exact (uniform_modify fun agrees => agrees.apply cluster.workload).bind
            fun _ => uniform_pure _

/-! ## The requests of the check -/

/-- An action that leaves a world in agreement with every world that it agreed with. -/
def Unseen {Value : Type} (action : StateM World Value) : Prop :=
  ∀ ⦃first second : World⦄, AgreesOnRest first second → AgreesOnRest (action first).2 second

section Unseen

variable {Value Other : Type}

theorem unseen_pure (value : Value) : Unseen (pure value) :=
  fun _ _ agrees => agrees

theorem Unseen.bind {action : StateM World Value} {next : Value → StateM World Other}
    (unseen : Unseen action) (later : ∀ value, Unseen (next value)) :
    Unseen (action >>= next) :=
  fun first _ agrees => later (action first).1 (unseen agrees)

theorem unseen_record (entry : WorldRecord) : Unseen (modify (·.record entry)) :=
  fun _ _ agrees => agrees.record_left entry

/-- A failure at a point of the check is used up in one world, and counts in none. -/
theorem unseen_strike {point : String} (checks : ChecksNames point) : Unseen (strike point) := by
  intro first second agrees
  unfold strike
  split
  · exact agrees
  · split
    · exact agrees
    · exact agrees
    · exact agrees.setFault_left checks _

theorem unseen_lookup {point : LookupPoint} (checks : ChecksNames point.text)
    (key : ResourceKey) (found : World → Option Value) : Unseen (lookup point key found) := by
  refine (unseen_record _).bind fun _ => (unseen_strike checks).bind fun struck => ?_
  cases struck with
  | error error => exact unseen_pure _
  | ok _ => exact fun _ _ agrees => agrees

end Unseen

/-- What the check asks and says leaves nothing behind but its record. -/
theorem unseen_answer {request : Request WorldReconciler} (checks : request.ChecksNames) :
    Unseen (answer request) := by
  cases request with
  | cachedStatefulSet key => exact unseen_lookup (Or.inl rfl) key _
  | cachedConfigMap key => exact unseen_lookup (Or.inr rfl) key _
  | publish event =>
      intro first second agrees
      show AgreesOnRest (if first.recordsEvents then first.record (.event event) else first) second
      split
      · exact agrees.record_left _
      · exact agrees
  | _ => exact checks.elim

/-- The requests of the check can be set apart in the world. -/
theorem setsApart_answer : SetsApart answer Request.ChecksNames AgreesOnRest where
  symm _ _ agrees := agrees.symm
  spares _ checks _ _ agrees := unseen_answer checks agrees
  answers _ rest _ _ agrees := uniform_answer rest agrees

end GaleraControl.World

import GaleraControl.Proofs.StatusPatch
import GaleraControl.Proofs.SyncHistory

/-!
# Writing a status among other writers

Any number of passes and any number of outside writers work on one store.  Of
the store it is assumed that every write gives the object a version it never
had, that a patch applies as a whole, and that a patch call that reports an error
wrote nothing.

A pass compares the status it started from with a stored status, and sends a
patch that is guarded by the version of what it compared.  The invariant below
is about versions: a version that was given out once marks one document for
ever.  So a patch that passes its guard meets exactly the document that was
compared, wherever the other writers stepped in.
-/

namespace GaleraControl.StatusWrite

open Pass Program

variable {Reconciler : Type}

/-- The stored clusters, and the versions that every key was ever given. -/
structure Store where
  documents : ResourceKey → Option Json
  spent : ResourceKey → String → Prop

namespace Store

/-- Store a document under a version, which is spent from then on. -/
def put (store : Store) (key : ResourceKey) (document : Json) (version : String) : Store where
  documents other := if other = key then some document else store.documents other
  spent other held := store.spent other held ∨ (other = key ∧ held = version)

/-- Delete a document; the versions it had stay spent. -/
def delete (store : Store) (key : ResourceKey) : Store where
  documents other := if other = key then none else store.documents other
  spent := store.spent

/-- Every stored document has a version that was given out. -/
def Versioned (store : Store) : Prop :=
  ∀ key document, store.documents key = some document →
    ∃ version, Json.get? versionPath document = some (.string version) ∧
      store.spent key version

/-- A version that was given out in an earlier store marks the same document in a later one. -/
structure Precedes (first second : Store) : Prop where
  spent : ∀ key version, first.spent key version → second.spent key version
  document : ∀ key document version, second.documents key = some document →
    Json.get? versionPath document = some (.string version) → first.spent key version →
    first.documents key = some document

theorem Precedes.refl (store : Store) : Precedes store store where
  spent _ _ held := held
  document _ _ _ shown _ _ := shown

theorem Precedes.trans {first second third : Store} (earlier : Precedes first second)
    (later : Precedes second third) : Precedes first third where
  spent key version held := later.spent key version (earlier.spent key version held)
  document key document version shown found held :=
    earlier.document key document version
      (later.document key document version shown found (earlier.spent key version held))
      found held

/-- A write under a fresh version leaves every earlier version its document. -/
theorem Precedes.put {store : Store} {key : ResourceKey} {document : Json} {version : String}
    (fresh : ¬ store.spent key version)
    (stamped : Json.get? versionPath document = some (.string version)) :
    Precedes store (store.put key document version) where
  spent _ _ held := Or.inl held
  document other shown held present found spent := by
    by_cases same : other = key
    · rw [same] at spent
      have written : document = shown := by simpa [Store.put, same] using present
      rw [← written, stamped] at found
      have equal : version = held := by simpa using found
      exact absurd (equal ▸ spent) fresh
    · simpa [Store.put, same] using present

theorem Precedes.delete (store : Store) (key : ResourceKey) :
    Precedes store (store.delete key) where
  spent _ _ held := held
  document other shown held present found spent := by
    by_cases same : other = key
    · simp [Store.delete, same] at present
    · simpa [Store.delete, same] using present

theorem Versioned.put {store : Store} (versioned : store.Versioned) {key : ResourceKey}
    {document : Json} {version : String}
    (stamped : Json.get? versionPath document = some (.string version)) :
    (store.put key document version).Versioned := by
  intro other shown present
  by_cases same : other = key
  · have written : document = shown := by simpa [Store.put, same] using present
    exact ⟨version, by rw [← written, stamped], Or.inr ⟨same, rfl⟩⟩
  · have kept : store.documents other = some shown := by simpa [Store.put, same] using present
    rcases versioned other shown kept with ⟨held, found, spent⟩
    exact ⟨held, found, Or.inl spent⟩

theorem Versioned.delete {store : Store} (versioned : store.Versioned) (key : ResourceKey) :
    (store.delete key).Versioned := by
  intro other shown present
  by_cases same : other = key
  · simp [Store.delete, same] at present
  · have kept : store.documents other = some shown := by
      simpa [Store.delete, same] using present
    exact versioned other shown kept

end Store

/-- What a store may reply to a request, and what the request leaves behind. -/
def Answers (before : Store) : (request : Request Reconciler) → Reply request → Store → Prop
  | .latestCluster key, reply, after =>
      after = before ∧
        match reply with
        | .error _ => True
        | .ok none => before.documents key = none
        | .ok (some latest) =>
            ∃ document, before.documents key = some document ∧
              Cluster.decode document = .ok latest
  | .patchStatus key operations, reply, after =>
      match reply with
      | .error _ => after = before
      | .ok () =>
          ∃ document patched written version, before.documents key = some document ∧
            document.patch? operations = some patched ∧
            Json.add? (.string version) versionPath patched = some written ∧
            ¬ before.spent key version ∧ after = before.put key written version
  | _, _, after => after = before

theorem get?_of_add?_version {document written value : Json}
    (added : Json.add? value versionPath document = some written) :
    Json.get? versionPath written = some value := by
  cases document with
  | object members =>
      cases shown : Table.get? members "metadata" with
      | none => simp [versionPath, Json.add?, shown] at added
      | some part =>
          cases part with
          | object metadata =>
              have result : Json.object (Table.insert "metadata"
                  (.object (Table.insert "resourceVersion" value metadata)) members) =
                  written := by
                simpa [versionPath, Json.add?, shown] using added
              rw [← result]
              simp [versionPath, Json.get?]
          | _ => simp [versionPath, Json.add?, shown] at added
  | _ => simp [versionPath, Json.add?] at added

theorem Answers.precedes {before after : Store} {request : Request Reconciler}
    {reply : Reply request} (answers : Answers before request reply after) :
    before.Precedes after := by
  cases request with
  | patchStatus key operations =>
      match reply with
      | .error error =>
          have same : after = before := answers
          rw [same]
          exact Store.Precedes.refl before
      | .ok () =>
          rcases answers with ⟨_, _, _, _, _, _, added, fresh, rfl⟩
          exact Store.Precedes.put fresh (get?_of_add?_version added)
  | latestCluster key =>
      rw [answers.1]
      exact Store.Precedes.refl before
  | _ =>
      have same : after = before := answers
      rw [same]
      exact Store.Precedes.refl before

theorem Answers.versioned {before after : Store} {request : Request Reconciler}
    {reply : Reply request} (answers : Answers before request reply after)
    (versioned : before.Versioned) : after.Versioned := by
  cases request with
  | patchStatus key operations =>
      match reply with
      | .error error =>
          have same : after = before := answers
          rwa [same]
      | .ok () =>
          rcases answers with ⟨_, _, _, _, _, _, added, _, rfl⟩
          exact versioned.put (get?_of_add?_version added)
  | latestCluster key => rwa [answers.1]
  | _ =>
      have same : after = before := answers
      rwa [same]

/-- Only a patch that reports success changes the store. -/
theorem Answers.patches_of_ne {before after : Store} {request : Request Reconciler}
    {reply : Reply request} (answers : Answers before request reply after)
    (changes : after ≠ before) : request.Patches := by
  cases request with
  | patchStatus key operations => trivial
  | latestCluster key => exact absurd answers.1 changes
  | _ => exact absurd answers changes

/--
The stored cluster had the expected status and has the changed one now; its
other members are as they were, except for the version, and so is every other
cluster.
-/
def Swaps (key : ResourceKey) (expected : Option ClusterStatus) (changed : ClusterStatus)
    (before after : Store) : Prop :=
  ∃ document written latest version,
    before.documents key = some document ∧ Cluster.decode document = .ok latest ∧
    latest.status = expected ∧
    ¬ before.spent key version ∧ after = before.put key written version ∧
    Cluster.decode written =
      .ok { latest with
        metadata := { latest.metadata with resourceVersion := some version }
        status := some changed } ∧
    Cluster.Keeps expected changed document written

/-! ## One call among other writers -/

/-- What a call of `persist` has done to the store, by its outcome. -/
def Verdict (snapshot : Cluster) (changed : ClusterStatus)
    (call : List (Moment Reconciler Store)) : Except SyncError WriteOutcome → Prop
  | .ok (.applied _) =>
      ∃ read write, call = [read, write] ∧ read.after = read.before ∧
        write.before.documents snapshot.resourceKey =
          read.before.documents snapshot.resourceKey ∧
        Swaps snapshot.resourceKey snapshot.status changed write.before write.after
  | _ => ∀ moment ∈ call, moment.after = moment.before

/-- A patch that reports success met the document that was compared. -/
theorem swaps_of_sent {snapshot latest : Cluster} {changed : ClusterStatus} {version : String}
    {before later after : Store} (versioned : before.Versioned)
    (differs : ClusterStatus.diff snapshot.status changed ≠ [])
    (same : latest.status = snapshot.status)
    (held : latest.metadata.resourceVersion = some version)
    (read : ∃ document, before.documents snapshot.resourceKey = some document ∧
      Cluster.decode document = .ok latest)
    (precedes : before.Precedes later)
    (write : Answers later (.patchStatus snapshot.resourceKey
        (guarded version (ClusterStatus.diff snapshot.status changed)) : Request Reconciler)
      (.ok ()) after) :
    later.documents snapshot.resourceKey = before.documents snapshot.resourceKey ∧
      Swaps snapshot.resourceKey snapshot.status changed later after := by
  rcases read with ⟨document, shown, reads⟩
  rcases write with ⟨present, patched, written, fresh, shownLater, applied, added, unspent, rfl⟩
  rcases versioned _ _ shown with ⟨stored, found, spent⟩
  -- The tested version was spent before the read, so no later write can have brought it back.
  have compared : stored = version :=
    Option.some.inj ((Cluster.version_of_decode reads found).symm.trans held)
  have guard := (Cluster.version_of_guarded applied).1
  have met : before.documents snapshot.resourceKey = some present :=
    precedes.document _ _ _ shownLater guard (compared ▸ spent)
  have unchanged : present = document := Option.some.inj (met.symm.trans shown)
  rw [unchanged] at shownLater applied
  rw [← same] at applied differs
  rcases Cluster.decode_written reads differs applied added with ⟨readsBack, keeps⟩
  rw [same] at keeps
  exact ⟨shownLater.trans shown.symm, document, written, latest, fresh, shownLater, reads, same,
    unspent, rfl, readsBack, keeps⟩

/-- A finished call among other writers did what its outcome says. -/
theorem verdict_of_call {snapshot : Cluster} {changed : ClusterStatus}
    {call : List (Moment Reconciler Store)} {outcome : Except SyncError WriteOutcome}
    (made : PersistCall snapshot changed call outcome)
    (answered : ∀ moment ∈ call, Answers moment.before moment.request moment.reply moment.after)
    (versioned : ∀ moment ∈ call, moment.before.Versioned)
    (ordered : call.Pairwise fun first second => first.after.Precedes second.before) :
    Verdict snapshot changed call outcome := by
  cases made with
  | idle same =>
      intro moment present
      simp at present
  | gone before after =>
      intro moment present
      have reads := answered moment present
      rw [List.mem_singleton.mp present] at reads ⊢
      exact reads.1
  | refused before after reply error =>
      intro moment present
      have reads := answered moment present
      rw [List.mem_singleton.mp present] at reads ⊢
      exact reads.1
  | sent differs same held before between later after reply =>
      have reads := answered _ List.mem_cons_self
      have writes := answered _ (List.mem_cons_of_mem _ List.mem_cons_self)
      have precedes := (List.pairwise_cons.mp ordered).1 _ List.mem_cons_self
      have unread : between = before := reads.1
      match reply with
      | .error error =>
          intro moment present
          rcases List.mem_cons.mp present with rfl | second
          · exact unread
          · rw [List.mem_singleton.mp second]
            exact writes
      | .ok () =>
          rw [unread] at precedes
          have met := swaps_of_sent (versioned _ List.mem_cons_self) differs same held reads.2
            precedes writes
          exact ⟨_, _, rfl, unread, met.1, met.2⟩

/-! ## Passes that take turns -/

/-- A pass that is under way: the moments so far, and what is left of it. -/
structure Running (Reconciler : Type) where
  moments : List (Moment Reconciler Store)
  rest : Program Reconciler (Except SyncError SyncOutcome)

/-- The store, and every pass that works on it. -/
structure System (Reconciler : Type) where
  store : Store
  passes : Nat → Running Reconciler

namespace System

/-- One pass has its next request answered. -/
def advance (system : System Reconciler) (pass : Nat) {request : Request Reconciler}
    (next : Reply request → Program Reconciler (Except SyncError SyncOutcome))
    (reply : Reply request) (after : Store) : System Reconciler where
  store := after
  passes other :=
    if other = pass then
      ⟨(system.passes pass).moments ++ [⟨system.store, request, reply, after⟩], next reply⟩
    else system.passes other

end System

/--
The systems that are reached when passes and outside writers take turns in any
order: between any two requests of a pass, other passes may have theirs
answered, and any cluster may be replaced by any document or be deleted.
-/
inductive Reaches (reconcilers : List Reconciler) (texts : Nat → String) :
    System Reconciler → Prop where
  | start {store : Store} (versioned : store.Versioned) :
      Reaches reconcilers texts ⟨store, fun pass => ⟨[], (sync reconcilers (texts pass)).run⟩⟩
  | pass {system : System Reconciler} (reached : Reaches reconcilers texts system)
      (pass : Nat) {request : Request Reconciler}
      {next : Reply request → Program Reconciler (Except SyncError SyncOutcome)}
      (asks : (system.passes pass).rest = .ask request next) {reply : Reply request}
      {after : Store} (answers : Answers system.store request reply after) :
      Reaches reconcilers texts (system.advance pass next reply after)
  | write {system : System Reconciler} (reached : Reaches reconcilers texts system)
      (key : ResourceKey) {document : Json} {version : String}
      (fresh : ¬ system.store.spent key version)
      (stamped : Json.get? versionPath document = some (.string version)) :
      Reaches reconcilers texts
        { system with store := system.store.put key document version }
  | delete {system : System Reconciler} (reached : Reaches reconcilers texts system)
      (key : ResourceKey) :
      Reaches reconcilers texts { system with store := system.store.delete key }

/-- What is known of a pass that is under way in a system with this store. -/
structure Running.Sound (reconcilers : List Reconciler) (text : String) (store : Store)
    (running : Running Reconciler) : Prop where
  follows : Follows (sync reconcilers text).run running.moments running.rest
  answered : ∀ moment ∈ running.moments,
    Answers moment.before moment.request moment.reply moment.after
  versioned : ∀ moment ∈ running.moments, moment.before.Versioned
  ordered : running.moments.Pairwise fun first second => first.after.Precedes second.before
  past : ∀ moment ∈ running.moments, moment.after.Precedes store

/-- A later store changes nothing about the moments that a pass has behind it. -/
theorem Running.Sound.later {reconcilers : List Reconciler} {text : String}
    {store after : Store} {running : Running Reconciler}
    (sound : running.Sound reconcilers text store) (precedes : store.Precedes after) :
    running.Sound reconcilers text after where
  follows := sound.follows
  answered := sound.answered
  versioned := sound.versioned
  ordered := sound.ordered
  past moment present := (sound.past moment present).trans precedes

/-- One more moment joins the ones behind it. -/
theorem Running.Sound.advance {reconcilers : List Reconciler} {text : String}
    {store after : Store} {running : Running Reconciler}
    (sound : running.Sound reconcilers text store) (versioned : store.Versioned)
    {request : Request Reconciler}
    {next : Reply request → Program Reconciler (Except SyncError SyncOutcome)}
    (asks : running.rest = .ask request next) {reply : Reply request}
    (answers : Answers store request reply after) :
    Running.Sound reconcilers text after
      ⟨running.moments ++ [⟨store, request, reply, after⟩], next reply⟩ := by
  have follows := sound.follows
  rw [asks] at follows
  refine ⟨follows.snoc store reply after, ?_, ?_, ?_, ?_⟩
  · intro moment present
    rcases List.mem_append.mp present with earlier | last
    · exact sound.answered moment earlier
    · rw [List.mem_singleton.mp last]
      exact answers
  · intro moment present
    rcases List.mem_append.mp present with earlier | last
    · exact sound.versioned moment earlier
    · rw [List.mem_singleton.mp last]
      exact versioned
  · refine List.pairwise_append.mpr ⟨sound.ordered, List.pairwise_singleton _ _, ?_⟩
    intro earlier present moment last
    rw [List.mem_singleton.mp last]
    exact sound.past earlier present
  · intro moment present
    rcases List.mem_append.mp present with earlier | last
    · exact (sound.past moment earlier).trans answers.precedes
    · rw [List.mem_singleton.mp last]
      exact Store.Precedes.refl after

/-- The invariant of all systems that are reached. -/
structure System.Sound (reconcilers : List Reconciler) (texts : Nat → String)
    (system : System Reconciler) : Prop where
  versioned : system.store.Versioned
  running : ∀ pass, (system.passes pass).Sound reconcilers (texts pass) system.store

theorem sound_of_reaches {reconcilers : List Reconciler} {texts : Nat → String}
    {system : System Reconciler} (reached : Reaches reconcilers texts system) :
    system.Sound reconcilers texts := by
  -- Whoever acts, all other passes only see a later store.
  induction reached with
  | start versioned =>
      refine ⟨versioned, ?_⟩
      intro pass
      exact ⟨.start _, by simp, by simp, by simp, by simp⟩
  | pass _ pass asks answers ih =>
      refine ⟨answers.versioned ih.versioned, ?_⟩
      intro other
      by_cases same : other = pass
      · simp only [System.advance, same, if_true]
        exact (ih.running pass).advance ih.versioned asks answers
      · simp only [System.advance, same, if_false]
        exact (ih.running other).later answers.precedes
  | write _ key fresh stamped ih =>
      refine ⟨ih.versioned.put stamped, ?_⟩
      intro other
      exact (ih.running other).later (Store.Precedes.put fresh stamped)
  | delete _ key ih =>
      refine ⟨ih.versioned.delete key, ?_⟩
      intro other
      exact (ih.running other).later (Store.Precedes.delete _ key)

/--
Every call of `persist` that a pass has brought to its end, wherever other
passes and outside writers stepped in: if it was applied, it replaced exactly
the status of its snapshot by the new one; otherwise it left the store alone.
And whatever a pass changes in the store, it changes by such a call, for the
transition it computed from its own snapshot and observation.
-/
theorem persist_compares_and_swaps {reconcilers : List Reconciler} {texts : Nat → String}
    {system : System Reconciler} (reached : Reaches reconcilers texts system) (pass : Nat) :
    (∀ earlier call later snapshot changed outcome,
      (system.passes pass).moments = earlier ++ (call ++ later) →
      (persist snapshot changed).Ends call outcome → Verdict snapshot changed call outcome) ∧
    ∀ moment ∈ (system.passes pass).moments, moment.after ≠ moment.before →
      ∃ snapshot observed call operations,
        Calls (system.passes pass).moments snapshot observed call
          (.ok (.applied operations)) ∧ moment ∈ call := by
  have sound := (sound_of_reaches reached).running pass
  have judged : ∀ earlier call later snapshot changed outcome,
      (system.passes pass).moments = earlier ++ (call ++ later) →
      (persist snapshot changed).Ends call outcome →
      Verdict snapshot changed call outcome := by
    intro earlier call later snapshot changed outcome split ends
    have inside : ∀ moment ∈ call, moment ∈ (system.passes pass).moments := by
      intro moment present
      rw [split]
      exact List.mem_append_right _ (List.mem_append_left _ present)
    have ordered := sound.ordered
    rw [split] at ordered
    rcases follows_persist ends with ⟨_, _, impossible, _⟩ | ⟨_, same, made⟩
    · exact absurd impossible (by simp)
    · have equal := Program.done.inj same
      rw [← equal] at made
      exact verdict_of_call made
        (fun moment present => sound.answered moment (inside moment present))
        (fun moment present => sound.versioned moment (inside moment present))
        (List.pairwise_append.mp (List.pairwise_append.mp ordered).2.1).1
  refine ⟨judged, ?_⟩
  intro moment present changes
  have patches := (sound.answered moment present).patches_of_ne changes
  rcases exists_calls_of_patches sound.follows present patches with
    ⟨snapshot, observed, call, outcome, calls, member⟩
  have calls' := calls
  rcases calls' with ⟨key, before, after, early, sight, later, split, _, ends⟩
  have verdict := judged (⟨before, .cachedCluster key, .ok (some snapshot), after⟩ ::
    (early ++ sight)) call later snapshot _ outcome (by rw [split]; simp) ends
  match outcome with
  | .ok (.applied operations) => exact ⟨snapshot, observed, call, operations, calls, member⟩
  | .ok .unchanged => exact absurd (verdict moment member) changes
  | .ok .gone => exact absurd (verdict moment member) changes
  | .error error => exact absurd (verdict moment member) changes

section RaisedSpec

/-- A cluster as it is stored under a version, asking for some replicas. -/
def askingFor (replicas : Int32) (version : String) : Cluster where
  metadata := { name := some "db", namespaceName := some "ns", resourceVersion := some version }
  spec := { replicas }

def firstStore : Store :=
  Store.put ⟨fun _ => none, fun _ _ => False⟩ ⟨"ns", "db"⟩ (askingFor 3 "1").toJson "1"

def raisedStore : Store := firstStore.put ⟨"ns", "db"⟩ (askingFor 5 "2").toJson "2"

def writtenStore : Store :=
  raisedStore.put ⟨"ns", "db"⟩
    ({ askingFor 5 "3" with status := some { phase := .preFlight } } : Cluster).toJson "3"

theorem versioned_firstStore : firstStore.Versioned := by
  refine Store.Versioned.put ?_ rfl
  intro key document shown
  simp at shown

/-- A pass read three replicas, then five were asked for, and then it wrote its status. -/
theorem status_written_over_raised_spec :
    ∃ (system : System Unit) (call : List (Moment Unit Store)),
      Reaches [] (fun _ => "ns/db") system ∧
      Calls (system.passes 0).moments (askingFor 3 "1") {} call (.ok (.applied 1)) ∧
      Verdict (askingFor 3 "1") { phase := .preFlight } call (.ok (.applied 1)) := by
  have start : Reaches ([] : List Unit) (fun _ => "ns/db") _ := .start versioned_firstStore
  have cached : Answers firstStore (.cachedCluster ⟨"ns", "db"⟩ : Request Unit)
      (.ok (some (askingFor 3 "1"))) firstStore := rfl
  have read := start.pass 0 rfl cached
  have unspent : ¬ firstStore.spent ⟨"ns", "db"⟩ "2" := by simp [firstStore, Store.put]
  have stamped : Json.get? versionPath (askingFor 5 "2").toJson = some (.string "2") := rfl
  have raised := read.write ⟨"ns", "db"⟩ unspent stamped
  have latest : Answers raisedStore (.latestCluster ⟨"ns", "db"⟩ : Request Unit)
      (.ok (some (askingFor 5 "2"))) raisedStore := ⟨rfl, _, rfl, Cluster.inverts.reads _⟩
  have compared := raised.pass 0 rfl latest
  have sent : Answers raisedStore (.patchStatus ⟨"ns", "db"⟩
      (guarded "2" (ClusterStatus.diff none { phase := .preFlight })) : Request Unit)
      (.ok ()) writtenStore := by
    refine ⟨_, _, _, "3", rfl, rfl, rfl, ?_, rfl⟩
    simp [raisedStore, firstStore, Store.put]
  have written := compared.pass 0 rfl sent
  have ends : Attempt.Ends
      (persist (askingFor 3 "1") { phase := .preFlight } : Attempt Unit WriteOutcome)
      [⟨raisedStore, .latestCluster ⟨"ns", "db"⟩, .ok (some (askingFor 5 "2")), raisedStore⟩,
        ⟨raisedStore, .patchStatus ⟨"ns", "db"⟩
          (guarded "2" (ClusterStatus.diff none { phase := .preFlight })), .ok (),
          writtenStore⟩] (.ok (.applied 1)) := by
    rw [Attempt.Ends, run_persist]
    exact .ask _ _ _ (.ask _ _ _ (.start _))
  refine ⟨_, _, written, ⟨_, _, _, [], [], [], rfl, .start _, ends⟩, ?_⟩
  exact (persist_compares_and_swaps written 0).1 [_] _ [] _ _ _ rfl ends

end RaisedSpec

end GaleraControl.StatusWrite

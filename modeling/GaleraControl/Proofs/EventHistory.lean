import GaleraControl.Proofs.Announcements
import GaleraControl.Proofs.StatusWrite
import Mathlib.Data.List.Chain
import Mathlib.Data.List.Forall2
import Mathlib.Data.List.Induction

/-!
# Events as the history of the stored status

Passes over one cluster follow each other, and outside writers may change anything
about the cluster but its phase, between any two requests.  What is assumed of the
store is what `StatusWrite` assumes: each write gives a version that was never given,
and a patch call that reports an error wrote nothing.

Then writes and events take turns, each event tells the transition that was written
just before it, and the events about changes of phase are the changes of the stored
phase, each once and in order.  A pass that is tried again after its write has no
difference to write, and so nothing to announce.
-/

namespace GaleraControl

/-! ## Changes in a sequence of phases -/

/-- Going from one phase to the next is a change, unless they are the same. -/
def changeOf (before after : Phase) : List (Phase × Phase) :=
  if before = after then [] else [(before, after)]

@[simp]
theorem changeOf_self (phase : Phase) : changeOf phase phase = [] := if_pos rfl

/-- The changes in a sequence of phases, in order. -/
def phaseChanges : List Phase → List (Phase × Phase)
  | before :: after :: rest => changeOf before after ++ phaseChanges (after :: rest)
  | _ => []

theorem phaseChanges_concat {phases : List Phase} {last : Phase}
    (ends : phases.getLast? = some last) (next : Phase) :
    phaseChanges (phases ++ [next]) = phaseChanges phases ++ changeOf last next := by
  induction phases with
  | nil => simp at ends
  | cons first rest ih =>
      cases rest with
      | nil =>
          obtain rfl : first = last := by simpa using ends
          simp [phaseChanges]
      | cons second rest =>
          have shorter := ih (by simpa using ends)
          rw [List.cons_append] at shorter
          rw [List.cons_append, List.cons_append, phaseChanges, phaseChanges, shorter,
            List.append_assoc]

/-- Each change starts from the phase that the one before it led to. -/
theorem isChain_phaseChanges (phases : List Phase) :
    (phaseChanges phases).IsChain fun first second => first.2 = second.1 := by
  -- The first change starts from the first phase.
  suffices both : ∀ first rest, phases = first :: rest →
      ((phaseChanges phases).IsChain fun first second => first.2 = second.1) ∧
        ∀ change ∈ (phaseChanges phases).head?, first = change.1 by
    cases phases with
    | nil => simp [phaseChanges]
    | cons first rest => exact (both first rest rfl).1
  induction phases with
  | nil => simp
  | cons before phases ih =>
      rintro first rest same
      obtain ⟨rfl, rfl⟩ := List.cons.inj same
      cases phases with
      | nil => simp [phaseChanges]
      | cons after rest =>
          rcases ih after rest rfl with ⟨chain, starts⟩
          rw [phaseChanges]
          by_cases stays : before = after
          · rw [stays, changeOf_self, List.nil_append]
            exact ⟨chain, starts⟩
          · rw [changeOf, if_neg stays, List.singleton_append]
            exact ⟨List.isChain_cons.mpr ⟨starts, chain⟩, by simp⟩

namespace StatusWrite

open Pass

variable {Reconciler : Type} {key : ResourceKey}

/-- The phase that a stored cluster shows, if there is one and it can be read. -/
def Store.phase? (store : Store) (key : ResourceKey) : Option Phase :=
  match store.documents key with
  | none => none
  | some document =>
      match Cluster.decode document with
      | .ok cluster => some cluster.phase
      | .error _ => none

/-! ## The record of a run -/

/-- The phases that the store shows before and after each moment. -/
def phasesShown (key : ResourceKey) (moments : List (Moment Reconciler Store)) : List Phase :=
  moments.flatMap fun moment =>
    (moment.before.phase? key).toList ++ (moment.after.phase? key).toList

/-- The patches that were applied. -/
def writes (moments : List (Moment Reconciler Store)) : List (Moment Reconciler Store) :=
  moments.filter fun moment => moment.mark? = some .wrote

/-- The events about the status that were published. -/
def stateEvents (moments : List (Moment Reconciler Store)) : List Event :=
  moments.filterMap fun moment =>
    match moment.mark? with
    | some (.announced event) => some event
    | _ => none

/-- The writes and the events in the order in which they happened. -/
def marks (moments : List (Moment Reconciler Store)) : List Mark :=
  moments.filterMap Moment.mark?

/-- The event tells the transition that the patch wrote, and the patch changed the status. -/
def Announces (key : ResourceKey) (event : Event) (write : Moment Reconciler Store) : Prop :=
  ∃ snapshot observed,
    Event.ofOutcome? snapshot.objectReference (transitionOf snapshot observed).outcome =
      some event ∧
    Swaps key snapshot.status (transitionOf snapshot observed).status write.before write.after ∧
    snapshot.status ≠ some (transitionOf snapshot observed).status

/-- Only passes write phases: what is found is the phase that was shown last. -/
def KeepsPhase (key : ResourceKey) (moments : List (Moment Reconciler Store)) : Prop :=
  ∀ earlier moment later, moments = earlier ++ moment :: later →
    ∀ found ∈ moment.before.phase? key, ∀ last ∈ (phasesShown key earlier).getLast?,
      found = last

/-- Passes of one cluster that came to their end one after another, among outside writers. -/
structure Run (text : String) (key : ResourceKey)
    (passes : List (List (Moment Reconciler Store))) : Prop where
  parsed : ResourceKey.parse? text = some key
  ended : ∀ moments ∈ passes, ∃ reconcilers result,
    (sync reconcilers text).Ends moments result
  answered : ∀ moment ∈ passes.flatten,
    Answers moment.before moment.request moment.reply moment.after
  /-- The cache answers with the cluster that was asked for. -/
  named : ∀ before snapshot after,
    ⟨before, .cachedCluster key, .ok (some snapshot), after⟩ ∈ passes.flatten →
      snapshot.resourceKey = key
  versioned : ∀ moment ∈ passes.flatten, moment.before.Versioned
  ordered : passes.flatten.Pairwise fun first second => first.after.Precedes second.before
  kept : KeepsPhase key passes.flatten

/-! ## Runs without other writers -/

/-- Moments that have a store to themselves. -/
inductive Undisturbed : Store → List (Moment Reconciler Store) → Prop where
  | nil (store : Store) : Undisturbed store []
  | cons {store after : Store} {request : Request Reconciler} {reply : Reply request}
      {later : List (Moment Reconciler Store)} (answers : Answers store request reply after)
      (rest : Undisturbed after later) :
      Undisturbed store (⟨store, request, reply, after⟩ :: later)

namespace Undisturbed

variable {store : Store} {moments : List (Moment Reconciler Store)}

theorem answered (alone : Undisturbed store moments) :
    ∀ moment ∈ moments, Answers moment.before moment.request moment.reply moment.after := by
  induction alone with
  | nil => simp
  | cons answers rest ih => exact List.forall_mem_cons.mpr ⟨answers, ih⟩

theorem versioned (alone : Undisturbed store moments) (versioned : store.Versioned) :
    ∀ moment ∈ moments, moment.before.Versioned := by
  induction alone with
  | nil => simp
  | cons answers rest ih =>
      exact List.forall_mem_cons.mpr ⟨versioned, ih (answers.versioned versioned)⟩

theorem precedes (alone : Undisturbed store moments) :
    ∀ moment ∈ moments, store.Precedes moment.before := by
  induction alone with
  | nil => simp
  | cons answers rest ih =>
      exact List.forall_mem_cons.mpr ⟨.refl _, fun moment present =>
        answers.precedes.trans (ih moment present)⟩

theorem ordered (alone : Undisturbed store moments) :
    moments.Pairwise fun first second => first.after.Precedes second.before := by
  induction alone with
  | nil => exact .nil
  | cons answers rest ih => exact .cons rest.precedes ih

/-- A moment starts from what the moment before it has left. -/
theorem before_eq {earlier later : List (Moment Reconciler Store)}
    {first second : Moment Reconciler Store}
    (alone : Undisturbed store (earlier ++ first :: second :: later)) :
    second.before = first.after := by
  induction earlier generalizing store with
  | nil =>
      cases alone with
      | cons answers rest =>
          cases rest with
          | cons answers rest => rfl
  | cons moment earlier ih =>
      cases alone with
      | cons answers rest => exact ih rest

theorem keepsPhase (alone : Undisturbed store moments) : KeepsPhase key moments := by
  rintro earlier moment later rfl found shown last ends
  rcases List.eq_nil_or_concat earlier with rfl | ⟨before, previous, rfl⟩
  · simp [phasesShown] at ends
  · have alone : Undisturbed store (before ++ previous :: moment :: later) := by
      simpa using alone
    have same := alone.before_eq
    rw [Option.mem_def, same] at shown
    have led : some found = some last := by
      simpa [phasesShown, shown] using ends
    exact Option.some.inj led

end Undisturbed

/-- Passes that have the store to themselves form a run. -/
theorem Run.of_undisturbed {text : String} {passes : List (List (Moment Reconciler Store))}
    {store : Store} (parsed : ResourceKey.parse? text = some key) (versioned : store.Versioned)
    (ended : ∀ moments ∈ passes, ∃ reconcilers result,
      (sync reconcilers text).Ends moments result)
    (named : ∀ before snapshot after,
      ⟨before, .cachedCluster key, .ok (some snapshot), after⟩ ∈ passes.flatten →
        snapshot.resourceKey = key)
    (alone : Undisturbed store passes.flatten) : Run text key passes where
  parsed := parsed
  ended := ended
  answered := alone.answered
  named := named
  versioned := alone.versioned versioned
  ordered := alone.ordered
  kept := alone.keepsPhase

/-! ## What single moments do to the phase -/

theorem Answers.still {moment : Moment Reconciler Store}
    (answers : Answers moment.before moment.request moment.reply moment.after)
    (unwritten : moment.mark? ≠ some .wrote) : moment.after = moment.before := by
  rcases moment with ⟨before, request, reply, after⟩
  by_contra changes
  have patches := answers.patches_of_ne changes
  cases request with
  | patchStatus key operations =>
      match reply with
      | .ok () => exact unwritten rfl
      | .error error => exact changes answers
  | _ => exact patches

theorem Swaps.phases {expected : Option ClusterStatus} {changed : ClusterStatus}
    {before after : Store} (swaps : Swaps key expected changed before after) :
    before.phase? key = some (expected.getD {}).phase ∧ after.phase? key = some changed.phase := by
  rcases swaps with ⟨document, written, latest, version, shown, reads, same, _, rfl, readsBack, _⟩
  constructor
  · simp [Store.phase?, shown, reads, Cluster.phase, Cluster.statusOrDefault, same]
  · simp [Store.phase?, Store.put, readsBack, Cluster.phase, Cluster.statusOrDefault]

/-- A moment that writes nothing leaves the phase, whatever it is. -/
theorem phaseChanges_of_still {moment : Moment Reconciler Store}
    (still : moment.after = moment.before) :
    phaseChanges (phasesShown key [moment]) = [] := by
  simp only [phasesShown, List.flatMap_singleton, still]
  cases moment.before.phase? key <;> simp [phaseChanges]

/-- The phases of a written transition, and what its event tells. -/
theorem tells_of_outcome {snapshot : Cluster} {observed : Observed} {event : Event}
    (announces : Event.ofOutcome? snapshot.objectReference
      (transitionOf snapshot observed).outcome = some event) :
    List.Forall₂ Event.Tells ([event].filter Event.isPhaseChange)
      (changeOf snapshot.phase (transitionOf snapshot observed).status.phase) := by
  have moves := ClusterStatus.next_moves snapshot.spec snapshot.statusOrDefault observed
  by_cases changed : ∃ before after,
      (transitionOf snapshot observed).outcome = .phaseChanged before after
  · rcases changed with ⟨before, after, changed⟩
    rcases moves.phases_of_phaseChanged changed with ⟨left, entered, differ⟩
    rw [changed] at announces
    obtain rfl := Option.some.inj announces
    have told : changeOf snapshot.phase (transitionOf snapshot observed).status.phase =
        [(before, after)] := by
      rw [left, entered] at *
      exact if_neg differ
    rw [told, List.filter_cons_of_pos (Event.isPhaseChange_ofPhaseChange _ _ _), List.filter_nil]
    exact .cons rfl .nil
  · have kept : ∀ before after,
        (transitionOf snapshot observed).outcome ≠ .phaseChanged before after :=
      fun before after same => changed ⟨before, after, same⟩
    have stays : (transitionOf snapshot observed).status.phase = snapshot.phase :=
      moves.phase_eq_of_outcome kept
    rw [stays, changeOf_self, List.filter_cons_of_neg
      (by simp [Event.isPhaseChange_eq_false announces kept]), List.filter_nil]
    exact .nil

/-! ## Faithful stretches of a run -/

/-- The events of these moments are the history of the status. -/
structure Faithful (key : ResourceKey) (moments : List (Moment Reconciler Store)) : Prop where
  marks : marks moments = (stateEvents moments).flatMap fun event => [.wrote, .announced event]
  announces : List.Forall₂ (Announces key) (stateEvents moments) (writes moments)
  tells : List.Forall₂ Event.Tells ((stateEvents moments).filter Event.isPhaseChange)
    (moments.flatMap fun moment => phaseChanges (phasesShown key [moment]))
  shows : ∀ moment ∈ moments, moment.before.phase? key = none → moment.after.phase? key = none

namespace Faithful

theorem append {first second : List (Moment Reconciler Store)} (faithfulFirst : Faithful key first)
    (faithfulSecond : Faithful key second) : Faithful key (first ++ second) where
  marks := by
    have marksFirst := faithfulFirst.marks
    have marksSecond := faithfulSecond.marks
    simp only [StatusWrite.marks, stateEvents, List.filterMap_append, List.flatMap_append] at *
    rw [marksFirst, marksSecond]
  announces := by
    simp only [stateEvents, writes, List.filterMap_append, List.filter_append]
    exact List.rel_append faithfulFirst.announces faithfulSecond.announces
  tells := by
    simp only [stateEvents, List.filterMap_append, List.filter_append, List.flatMap_append]
    exact List.rel_append faithfulFirst.tells faithfulSecond.tells
  shows moment present := by
    rcases List.mem_append.mp present with earlier | later
    · exact faithfulFirst.shows moment earlier
    · exact faithfulSecond.shows moment later

theorem of_unmarked {moments : List (Moment Reconciler Store)} (unmarked : Unmarked moments)
    (answered : ∀ moment ∈ moments,
      Answers moment.before moment.request moment.reply moment.after) :
    Faithful key moments := by
  have still : ∀ moment ∈ moments, moment.after = moment.before := fun moment present =>
    (answered moment present).still (by simp [unmarked moment present])
  have silent : StatusWrite.marks moments = [] := List.filterMap_eq_nil_iff.mpr unmarked
  have unannounced : stateEvents moments = [] := by
    refine List.filterMap_eq_nil_iff.mpr fun moment present => ?_
    rw [unmarked moment present]
  have unwritten : writes moments = [] := by
    refine List.filter_eq_nil_iff.mpr fun moment present => ?_
    rw [unmarked moment present]
    simp
  have unchanged : moments.flatMap (fun moment => phaseChanges (phasesShown key [moment])) = [] :=
    List.flatMap_eq_nil_iff.mpr fun moment present => phaseChanges_of_still (still moment present)
  refine ⟨?_, ?_, ?_, ?_⟩
  · rw [silent, unannounced]
    rfl
  · rw [unannounced, unwritten]
    exact .nil
  · rw [unannounced, unchanged]
    exact .nil
  · intro moment present absent
    rwa [still moment present]

/-- A patch that was applied and the event of its transition. -/
theorem of_announced {read write : Moment Reconciler Store} {snapshot : Cluster}
    {observed : Observed} {event : Event} {before after : Store}
    (reads : read.mark? = none) (unread : read.after = read.before)
    (writes : write.mark? = some .wrote)
    (swaps : Swaps key snapshot.status (transitionOf snapshot observed).status
      write.before write.after)
    (differs : snapshot.status ≠ some (transitionOf snapshot observed).status)
    (tells : Event.ofOutcome? snapshot.objectReference
      (transitionOf snapshot observed).outcome = some event)
    (still : after = before) :
    Faithful key [read, write, ⟨before, .publish event, (), after⟩] := by
  have published : (⟨before, .publish event, (), after⟩ : Moment Reconciler Store).mark? =
      some (.announced event) := if_neg (Event.reason_ne_of_ofOutcome? tells)
  have events : stateEvents [read, write, ⟨before, .publish event, (), after⟩] = [event] := by
    simp [stateEvents, reads, writes, published]
  refine ⟨?_, ?_, ?_, ?_⟩
  · rw [events]
    simp [StatusWrite.marks, reads, writes, published]
  · have written : StatusWrite.writes [read, write, ⟨before, .publish event, (), after⟩] =
        [write] := by simp [StatusWrite.writes, reads, writes, published]
    rw [events, written]
    exact .cons ⟨snapshot, observed, tells, swaps, differs⟩ .nil
  · have change : phaseChanges (phasesShown key [write]) =
        changeOf snapshot.phase (transitionOf snapshot observed).status.phase := by
      simp [phasesShown, swaps.phases.1, swaps.phases.2, phaseChanges, Cluster.phase,
        Cluster.statusOrDefault]
    have calm : phaseChanges (phasesShown key
        [(⟨before, .publish event, (), after⟩ : Moment Reconciler Store)]) = [] :=
      phaseChanges_of_still still
    rw [events, List.flatMap_cons, List.flatMap_cons, List.flatMap_singleton,
      phaseChanges_of_still unread, change, calm, List.nil_append, List.append_nil]
    exact tells_of_outcome tells
  · intro moment present absent
    simp only [List.mem_cons, List.not_mem_nil, or_false] at present
    rcases present with rfl | rfl | rfl
    · rwa [unread]
    · rw [swaps.phases.1] at absent
      simp at absent
    · rwa [still]

theorem of_records {snapshot : Cluster} {moments : List (Moment Reconciler Store)}
    (records : Records snapshot moments) (named : snapshot.resourceKey = key)
    (answered : ∀ moment ∈ moments,
      Answers moment.before moment.request moment.reply moment.after)
    (versioned : ∀ moment ∈ moments, moment.before.Versioned)
    (ordered : moments.Pairwise fun first second => first.after.Precedes second.before) :
    Faithful key moments := by
  cases records with
  | nothing unmarked => exact of_unmarked unmarked answered
  | @change early late read write observed operations event before after called differs reads
      writes tells unmarkedEarly unmarkedLate =>
      rcases List.forall_mem_append.mp answered with ⟨answeredEarly, answeredRest⟩
      rcases List.forall_mem_cons.mp answeredRest with ⟨answeredRead, answeredRest⟩
      rcases List.forall_mem_cons.mp answeredRest with ⟨answeredWrite, answeredRest⟩
      rcases List.forall_mem_cons.mp answeredRest with ⟨answeredEvent, answeredLate⟩
      have inside {moment : Moment Reconciler Store} (present : moment ∈ [read, write]) :
          moment ∈ early ++ read :: write :: ⟨before, .publish event, (), after⟩ :: late :=
        List.mem_append_right early (List.mem_append_left (_ :: late) present)
      have verdict := verdict_of_call called
        (fun moment present => answered moment (inside present))
        (fun moment present => versioned moment (inside present)) (ordered.sublist (by simp))
      rcases verdict with ⟨_, _, same, unread, _, swaps⟩
      obtain ⟨sameRead, sameWrite⟩ := List.cons.inj same
      rw [← sameRead] at unread
      rw [← List.singleton_inj.mp sameWrite, named] at swaps
      have changed : snapshot.status ≠ some (transitionOf snapshot observed).status := fun equal =>
        differs (equal ▸ ClusterStatus.diff_self _)
      have whole := (of_unmarked unmarkedEarly answeredEarly).append
        ((of_announced reads unread writes swaps changed tells answeredEvent).append
          (of_unmarked unmarkedLate answeredLate))
      simpa using whole

end Faithful

/-! ## The changes of a whole run -/

/-- A phase that was shown last is no change when it is shown again. -/
theorem phaseChanges_concat_last {phases : List Phase} {found : Phase}
    (same : ∀ last ∈ phases.getLast?, found = last) :
    phaseChanges (phases ++ [found]) = phaseChanges phases := by
  cases ends : phases.getLast? with
  | none => simp [List.getLast?_eq_none_iff.mp ends, phaseChanges]
  | some last => rw [phaseChanges_concat ends, ← same last ends, changeOf_self, List.append_nil]

theorem KeepsPhase.of_concat {earlier : List (Moment Reconciler Store)}
    {moment : Moment Reconciler Store} (kept : KeepsPhase key (earlier ++ [moment])) :
    KeepsPhase key earlier := by
  intro before other after split
  exact kept before other (after ++ [moment]) (by simp [split])

/-- If only passes write phases, then the phase changes in moments and not between them. -/
theorem phaseChanges_phasesShown {moments : List (Moment Reconciler Store)}
    (kept : KeepsPhase key moments)
    (shows : ∀ moment ∈ moments, moment.before.phase? key = none → moment.after.phase? key = none) :
    phaseChanges (phasesShown key moments) =
      moments.flatMap fun moment => phaseChanges (phasesShown key [moment]) := by
  induction moments using List.reverseRecOn with
  | nil => rfl
  | append_singleton earlier moment ih =>
      have before := ih kept.of_concat fun other present =>
        shows other (List.mem_append_left _ present)
      have same := kept earlier moment [] rfl
      have shown : phasesShown key (earlier ++ [moment]) =
          phasesShown key earlier ++ phasesShown key [moment] := List.flatMap_append
      rw [List.flatMap_append, List.flatMap_singleton, ← before, shown]
      cases found : moment.before.phase? key with
      | none =>
          have gone := shows moment (by simp) found
          simp [phasesShown, found, gone, phaseChanges]
      | some phase =>
          have again := phaseChanges_concat_last (same phase found)
          cases led : moment.after.phase? key with
          | none => simpa [phasesShown, found, led, phaseChanges] using again
          | some next =>
              have ends : (phasesShown key earlier ++ [phase]).getLast? = some phase := by simp
              have moved := phaseChanges_concat ends next
              rw [again] at moved
              simpa [phasesShown, found, led, phaseChanges] using moved

theorem Faithful.flatten {passes : List (List (Moment Reconciler Store))}
    (all : ∀ moments ∈ passes, Faithful key moments) : Faithful key passes.flatten := by
  induction passes with
  | nil => exact .of_unmarked unmarked_nil (by simp)
  | cons first rest ih =>
      rcases List.forall_mem_cons.mp all with ⟨one, others⟩
      exact one.append (ih others)

namespace Run

variable {text : String} {passes : List (List (Moment Reconciler Store))}

theorem faithful (run : Run text key passes) : Faithful key passes.flatten := by
  refine .flatten fun moments listed => ?_
  have inside := List.sublist_flatten_of_mem listed
  have answered := fun moment present => run.answered moment (inside.subset present)
  rcases run.ended moments listed with ⟨reconcilers, result, ends⟩
  rcases records_of_sync run.parsed ends with unmarked |
      ⟨snapshot, before, after, read, records⟩
  · exact .of_unmarked unmarked answered
  · exact .of_records records (run.named before snapshot after (inside.subset read)) answered
      (fun moment present => run.versioned moment (inside.subset present))
      (run.ordered.sublist inside)

end Run

section RetriedPass

def databaseKey : ResourceKey := ⟨"ns", "db"⟩

/-- The cluster with the status that its first pass writes. -/
def checkedCluster : Cluster := { askingFor 3 "2" with status := some { phase := .preFlight } }

def checkedStore : Store := firstStore.put databaseKey checkedCluster.toJson "2"

/-- The first pass of a cluster writes and announces; then its reconciler fails. -/
def failingPass : List (Moment Unit Store) :=
  [⟨firstStore, .cachedCluster databaseKey, .ok (some (askingFor 3 "1")), firstStore⟩,
    ⟨firstStore, .latestCluster databaseKey, .ok (some (askingFor 3 "1")), firstStore⟩,
    ⟨firstStore, .patchStatus databaseKey
      (guarded "1" (ClusterStatus.diff none { phase := .preFlight })), .ok (), checkedStore⟩,
    ⟨checkedStore, .publish
      (Event.ofPhaseChange (askingFor 3 "1").objectReference .fresh .preFlight), (), checkedStore⟩,
    ⟨checkedStore, .reconcile () { askingFor 3 "1" with status := some { phase := .preFlight } },
      .error (.invalidKey ""), checkedStore⟩]

/-- The pass is tried again and reads an outdated cluster; it neither writes nor announces. -/
def retriedPass : List (Moment Unit Store) :=
  [⟨checkedStore, .cachedCluster databaseKey, .ok (some (askingFor 3 "1")), checkedStore⟩,
    ⟨checkedStore, .latestCluster databaseKey, .ok (some checkedCluster), checkedStore⟩,
    ⟨checkedStore, .reconcile () (askingFor 3 "1"), .ok (), checkedStore⟩]

theorem failingPass_ends : ∃ result, (sync [()] "ns/db").Ends failingPass result :=
  ⟨_, .ask _ _ _ (.ask _ _ _ (.ask _ _ _ (.ask _ _ _ (.ask _ _ _ (.start _)))))⟩

theorem retriedPass_ends : ∃ result, (sync [()] "ns/db").Ends retriedPass result :=
  ⟨_, .ask _ _ _ (.ask _ _ _ (.ask _ _ _ (.start _)))⟩

theorem undisturbed_retry : Undisturbed firstStore [failingPass, retriedPass].flatten := by
  have written : Answers firstStore (.patchStatus databaseKey
      (guarded "1" (ClusterStatus.diff none { phase := .preFlight })) : Request Unit)
      (.ok ()) checkedStore := by
    refine ⟨_, _, _, "2", rfl, rfl, rfl, ?_, rfl⟩
    simp [firstStore, Store.put]
  have compared : Answers firstStore (.latestCluster databaseKey : Request Unit)
      (.ok (some (askingFor 3 "1"))) firstStore := ⟨rfl, _, rfl, Cluster.inverts.reads _⟩
  have refused : Answers checkedStore (.latestCluster databaseKey : Request Unit)
      (.ok (some checkedCluster)) checkedStore := ⟨rfl, _, rfl, Cluster.inverts.reads _⟩
  exact .cons rfl (.cons compared (.cons written (.cons rfl (.cons rfl
    (.cons rfl (.cons refused (.cons rfl (.nil _))))))))

end RetriedPass

end StatusWrite

end GaleraControl

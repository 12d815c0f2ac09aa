import GaleraControl.Proofs.FormationProgress
import GaleraControl.Proofs.PassContract
import Mathlib.Data.Nat.Init

/-!
# Passes that read a stale cache

The cache may show a version of the cluster that was stored some time ago, while
a status is only written over the one that is stored now.  So the stored phase
never goes back.  The dependents, however, are reconciled with what the pass has
read whenever it has nothing to write, and a stale version then hands them a
phase that is over.  What they are given is never behind the version that was
shown, and it is in order whenever this version is in the stored phase.
-/

namespace GaleraControl

open Pass

/-- What is stored under a key later is what was stored before, in no earlier phase. -/
def Continues (key : ResourceKey) (before after : Clusters) : Prop :=
  ∀ later, after key = some later → ∃ earlier, before key = some earlier ∧
    earlier.phase.progress ≤ later.phase.progress ∧ later.resourceKey = earlier.resourceKey

theorem Continues.refl (key : ResourceKey) (clusters : Clusters) :
    Continues key clusters clusters :=
  fun later stored => ⟨later, stored, Nat.le_refl _, rfl⟩

theorem Continues.trans {key : ResourceKey} {first second third : Clusters}
    (before : Continues key first second) (after : Continues key second third) :
    Continues key first third := by
  intro later stored
  rcases after later stored with ⟨middle, held, progress, name⟩
  rcases before middle held with ⟨earlier, present, further, same⟩
  exact ⟨earlier, present, Nat.le_trans further progress, name.trans same⟩

namespace Surroundings

variable {Reconciler State : Type} {world : Surroundings Reconciler State}

theorem Stores.progress_le {cluster : Cluster} {begun : State} {status : ClusterStatus}
    {changed : Bool} (stores : world.Stores cluster begun status changed) :
    cluster.phase.progress ≤ status.phase.progress := by
  rcases stores with ⟨observed, _, _, _, rfl, _⟩
  exact (ClusterStatus.next_moves cluster.spec cluster.statusOrDefault observed).progress_le

/-- However stale the cache is, a pass does not take the stored phase back. -/
theorem continues_storedAfter (world : Surroundings Reconciler State)
    (reconcilers : List Reconciler) (text : String) (first : State) (key : ResourceKey) :
    Continues key (world.stored first) (world.storedAfter reconcilers text first) := by
  rcases world.begins_or_exit reconcilers text first with
    ⟨_, cluster, begun, begins⟩ | ⟨_, _, kept⟩
  · rcases world.fails_or_gone_or_stores cluster begun with ⟨error, fails⟩ | gone |
        ⟨status, changed, stores⟩
    · rw [(begins.fails fails reconcilers).2.2]
      exact .refl key _
    · rw [(begins.gone gone reconcilers).2.2]
      intro later held
      by_cases same : key = cluster.resourceKey
      · rw [same, Function.update_self] at held
        exact absurd held (by simp)
      · rw [Function.update_of_ne same] at held
        exact ⟨later, held, Nat.le_refl _, rfl⟩
    · rw [(begins.stores stores reconcilers).2.2, ← begins.found.2]
      rcases (stores.ended text).2 with ⟨_, kept⟩ | ⟨latest, version, found, same, written⟩
      · rw [kept]
        exact .refl key _
      · rw [written]
        intro later held
        by_cases equal : key = cluster.resourceKey
        · rw [equal, Function.update_self] at held
          obtain rfl := Option.some.inj held
          -- The write compared the statuses, so the transition started from the stored phase.
          have phase : latest.phase = cluster.phase := by
            simp only [Cluster.phase, Cluster.statusOrDefault, same]
          exact ⟨latest, by rw [equal, found], by rw [phase]; exact stores.progress_le, rfl⟩
        · rw [Function.update_of_ne equal] at held
          exact ⟨later, held, Nat.le_refl _, rfl⟩
  · rw [kept]
    exact .refl key _

end Surroundings

/--
A run of passes over one cluster.  What the cache shows to a pass was stored at
its moment or before.  Between the passes anything may happen, as long as nobody
else takes the stored phase back or makes the cluster anew.
-/
structure StaleRun {Reconciler State : Type} (world : Surroundings Reconciler State)
    (reconcilers : List Reconciler) (text : String) (key : ResourceKey) where
  state : Nat → State
  passes : Nat → Prop
  parsed : ResourceKey.parse? text = some key
  named : ∀ cluster, world.stored (state 0) key = some cluster → cluster.resourceKey = key
  pass : ∀ moment, passes moment →
    state (moment + 1) = (world.perform (sync reconcilers text) (state moment)).2
  others : ∀ moment, ¬ passes moment →
    Continues key (world.stored (state moment)) (world.stored (state (moment + 1)))
  stale : ∀ moment, passes moment → ∀ cluster, world.shown (state moment) key = some cluster →
    ∃ earlier ≤ moment, world.stored (state earlier) key = some cluster

namespace StaleRun

section Phases

variable {Reconciler State : Type} {world : Surroundings Reconciler State}
  {reconcilers : List Reconciler} {text : String} {key : ResourceKey}

/-- A pass calls some reconciler with this cluster. -/
def Hands (run : StaleRun world reconcilers text key) (moment : Nat) (cluster : Cluster) : Prop :=
  run.passes moment ∧
    ∃ call ∈ world.called reconcilers text (run.state moment), call.cluster = cluster

/-- The version that the cache shows is in the phase that is stored. -/
def Current (run : StaleRun world reconcilers text key) (moment : Nat) : Prop :=
  ∃ shown stored, world.shown (run.state moment) key = some shown ∧
    world.stored (run.state moment) key = some stored ∧ shown.phase = stored.phase

/-- The reconcilers are never given a phase before one that they were given earlier. -/
def InOrder (run : StaleRun world reconcilers text key) : Prop :=
  ∀ earlier later first second, earlier < later → run.Hands earlier first →
    run.Hands later second → first.phase.progress ≤ second.phase.progress

variable (run : StaleRun world reconcilers text key)

theorem current_of_phases {moment : Nat} (phase : Phase)
    (shown : (world.shown (run.state moment) key).map Cluster.phase = some phase)
    (stored : (world.stored (run.state moment) key).map Cluster.phase = some phase) :
    run.Current moment := by
  rcases Option.map_eq_some_iff.mp shown with ⟨first, sees, same⟩
  rcases Option.map_eq_some_iff.mp stored with ⟨second, holds, equal⟩
  exact ⟨first, second, sees, holds, same.trans equal.symm⟩

theorem continues_succ (moment : Nat) :
    Continues key (world.stored (run.state moment)) (world.stored (run.state (moment + 1))) := by
  by_cases passes : run.passes moment
  · rw [run.pass moment passes]
    exact world.continues_storedAfter reconcilers text (run.state moment) key
  · exact run.others moment passes

/-- The stored phase never goes back. -/
theorem continues {earlier later : Nat} (order : earlier ≤ later) :
    Continues key (world.stored (run.state earlier)) (world.stored (run.state later)) := by
  induction later, order using Nat.le_induction with
  | base => exact .refl key _
  | succ later _ ih => exact ih.trans (run.continues_succ later)

theorem named_of_stored {moment : Nat} {cluster : Cluster}
    (stored : world.stored (run.state moment) key = some cluster) :
    cluster.resourceKey = key := by
  rcases run.continues (Nat.zero_le moment) cluster stored with ⟨first, held, _, name⟩
  rw [name, run.named first held]

/-- What is shown to a pass is not ahead of what is stored later. -/
theorem shown_le {moment later : Nat} (passes : run.passes moment) (order : moment ≤ later)
    {shown stored : Cluster} (sees : world.shown (run.state moment) key = some shown)
    (holds : world.stored (run.state later) key = some stored) :
    shown.phase.progress ≤ stored.phase.progress := by
  rcases run.stale moment passes shown sees with ⟨earlier, before, held⟩
  rcases run.continues (Nat.le_trans before order) stored holds with ⟨same, present, progress, _⟩
  obtain rfl : shown = same := Option.some.inj (held.symm.trans present)
  exact progress

/-- What is given to the reconcilers lies between what was shown and what is stored then. -/
theorem Hands.between {run : StaleRun world reconcilers text key} {moment : Nat}
    {cluster : Cluster} (hands : run.Hands moment cluster) :
    ∃ shown, world.shown (run.state moment) key = some shown ∧
      shown.phase.progress ≤ cluster.phase.progress ∧
      ∀ stored, world.stored (run.state (moment + 1)) key = some stored →
        cluster.phase.progress ≤ stored.phase.progress := by
  rcases hands with ⟨passes, call, present, rfl⟩
  rcases world.exists_begins_of_called (List.ne_nil_of_mem present) with
    ⟨other, shown, begun, begins, stays⟩
  obtain rfl : key = other := Option.some.inj (run.parsed.symm.trans begins.parsed)
  have sees := begins.found.1
  have given {target : Cluster}
      (asked : (world.called reconcilers text (run.state moment)).map Call.asked =
        reconcilers.map (·, target)) : call.cluster = target := by
    have among : call.asked ∈ reconcilers.map (·, target) := by
      rw [← asked]
      exact List.mem_map_of_mem present
    rcases List.mem_map.mp among with ⟨reconciler, _, same⟩
    exact (congrArg Prod.snd same).symm
  rcases world.fails_or_gone_or_stores shown begun with ⟨error, fails⟩ | gone |
      ⟨status, changed, stores⟩
  · rw [given (begins.fails fails reconcilers).1]
    exact ⟨shown, sees, Nat.le_refl _,
      fun stored holds => run.shown_le passes (Nat.le_succ moment) sees holds⟩
  · exact absurd gone stays
  · rcases begins.stores stores reconcilers with ⟨asked, _, after⟩
    rw [given asked]
    refine ⟨shown, sees, stores.progress_le, ?_⟩
    intro stored holds
    rcases (stores.ended text).2 with ⟨rfl, _⟩ | ⟨latest, version, _, _, written⟩
    · have stays := run.shown_le passes (Nat.le_succ moment) sees holds
      exact stays
    · rcases run.stale moment passes shown sees with ⟨earlier, _, held⟩
      rw [run.pass moment passes] at holds
      have stays := congrFun (after.trans written) key
      rw [run.named_of_stored held, Function.update_self] at stays
      obtain rfl := Option.some.inj (stays.symm.trans holds)
      exact Nat.le_refl _

/--
The stored phase never goes back, and the reconcilers are never given a phase
before that of the version that was shown.  They are given no phase before one
that they were given earlier if the version that is shown is in the stored phase;
then the flag for a new cluster does not return after the restart without it.
-/
theorem handed_phases :
    (∀ earlier later, earlier ≤ later → ∀ first second,
      world.stored (run.state earlier) key = some first →
      world.stored (run.state later) key = some second →
        first.phase.progress ≤ second.phase.progress) ∧
      (∀ moment cluster, run.Hands moment cluster →
        ∃ shown, world.shown (run.state moment) key = some shown ∧
          shown.phase.progress ≤ cluster.phase.progress) ∧
      ∀ earlier later first second, earlier < later → run.Hands earlier first →
        run.Hands later second → run.Current later →
          first.phase.progress ≤ second.phase.progress ∧
            (first.phase = .bootstrapFirstRestart →
              "--wsrep-new-cluster" ∉ second.serverArguments) := by
  refine ⟨?_, ?_, ?_⟩
  · intro earlier later order first second held stored
    rcases run.continues order second stored with ⟨same, present, progress, _⟩
    obtain rfl : first = same := Option.some.inj (held.symm.trans present)
    exact progress
  · intro moment cluster hands
    rcases hands.between with ⟨shown, sees, behind, _⟩
    exact ⟨shown, sees, behind⟩
  · intro earlier later first second order hands again current
    rcases current with ⟨shown, stored, sees, holds, phase⟩
    rcases again.between with ⟨same, seen, behind, _⟩
    obtain rfl : shown = same := Option.some.inj (sees.symm.trans seen)
    rcases run.continues order stored holds with ⟨middle, present, further, _⟩
    rcases hands.between with ⟨_, _, _, ahead⟩
    have progress : first.phase.progress ≤ second.phase.progress := by
      calc first.phase.progress
          _ ≤ middle.phase.progress := ahead middle present
          _ ≤ stored.phase.progress := further
          _ = shown.phase.progress := by rw [phase]
          _ ≤ second.phase.progress := behind
    refine ⟨progress, ?_⟩
    intro restarted flagged
    rw [Cluster.newCluster_mem_serverArguments] at flagged
    rw [restarted, flagged] at progress
    exact absurd progress (by decide)

end Phases

/-! ## A cache that stops in the world in memory -/

/-- What can happen in the world between two looks at it. -/
inductive WorldEvent where
  | pass
  /-- What was applied is rolled out, with some pods ready. -/
  | rollOut (ready : Option Int32)
  /-- From now on the cache keeps showing the clusters of this moment. -/
  | freeze

section World

variable (reconcilers : List WorldReconciler) (text : String) (workload : ResourceKey)

theorem kept_rollOut (world : World) (ready : Option Int32) :
    (world.rollOut workload ready).raceArmed = world.raceArmed ∧
      (world.rollOut workload ready).frozen = world.frozen ∧
      (world.rollOut workload ready).clusters = world.clusters :=
  ⟨Rollout.refresh_raceArmed world workload, Rollout.refresh_frozen world workload,
    Rollout.refresh_clusters world workload⟩

/-- What an event makes of the world. -/
def happen : WorldEvent → World.Unraced → World.Unraced
  | .pass, state => (World.surroundings.perform (sync reconcilers text) state).2
  | .rollOut ready, state =>
      ⟨state.1.rollOut workload ready, (kept_rollOut workload state.1 ready).1.trans state.2⟩
  | .freeze, state => ⟨state.1.freeze, state.2⟩

variable (first : World.Unraced) (events : Nat → WorldEvent)

/-- A cache that has stopped shows what was stored when it did. -/
theorem frozen_stateAfter (thawed : first.1.frozen = none) (moment : Nat) :
    let state := stateAfter (happen reconcilers text workload) first events
    (state moment).1.frozen = none ∨
      ∃ earlier ≤ moment, (state moment).1.frozen = some (state earlier).1.clusters := by
  intro state
  induction moment with
  | zero => exact Or.inl thawed
  | succ moment ih =>
      have next : state (moment + 1) =
        happen reconcilers text workload (events moment) (state moment) := rfl
      have keeps (same : (state (moment + 1)).1.frozen = (state moment).1.frozen) :
          (state (moment + 1)).1.frozen = none ∨ ∃ earlier ≤ moment + 1,
            (state (moment + 1)).1.frozen = some (state earlier).1.clusters := by
        rw [same]
        rcases ih with follows | ⟨earlier, before, stopped⟩
        · exact Or.inl follows
        · exact Or.inr ⟨earlier, Nat.le_succ_of_le before, stopped⟩
      cases event : events moment with
      | pass =>
          refine keeps ?_
          rw [next, event]
          exact World.frozen_perform (sync reconcilers text) _
      | rollOut ready =>
          refine keeps ?_
          rw [next, event]
          exact (kept_rollOut workload _ ready).2.1
      | freeze =>
          refine Or.inr ⟨moment, Nat.le_succ moment, ?_⟩
          rw [next, event]
          rfl

theorem exists_stored_of_shown (thawed : first.1.frozen = none) (moment : Nat)
    {key : ResourceKey} {cluster : Cluster} :
    let state := stateAfter (happen reconcilers text workload) first events
    Table.get? (state moment).1.cachedClusters key = some cluster →
      ∃ earlier ≤ moment, Table.get? (state earlier).1.clusters key = some cluster := by
  intro state sees
  unfold World.cachedClusters at sees
  rcases frozen_stateAfter reconcilers text workload first events thawed moment with
    follows | ⟨earlier, before, stopped⟩
  · rw [follows] at sees
    exact ⟨moment, Nat.le_refl _, sees⟩
  · rw [stopped] at sees
    exact ⟨earlier, before, sees⟩

/-- Any sequence of events is that of a run. -/
def ofEvents {key : ResourceKey} (thawed : first.1.frozen = none)
    (parsed : ResourceKey.parse? text = some key)
    (named : ∀ cluster, Table.get? first.1.clusters key = some cluster →
      cluster.resourceKey = key) :
    StaleRun World.surroundings reconcilers text key where
  state := stateAfter (happen reconcilers text workload) first events
  passes moment := events moment = .pass
  parsed := parsed
  named := named
  pass moment passes := by rw [stateAfter, passes]; rfl
  others moment rests := by
    rw [stateAfter]
    generalize stateAfter (happen reconcilers text workload) first events moment = state
    cases event : events moment with
    | pass => exact absurd event rests
    | rollOut ready =>
        have same : World.surroundings.stored
            (happen reconcilers text workload (.rollOut ready) state) =
              World.surroundings.stored state :=
          congrArg Table.get? (kept_rollOut workload state.1 ready).2.2
        rw [same]
        exact .refl key _
    | freeze => exact .refl key _
  stale moment _ _ sees :=
    exists_stored_of_shown reconcilers text workload first events thawed moment sees

end World

open Rollout (newCluster workloadKey)

/--
The cache stops when the first node is ready, the pass that finds it so moves on,
and then the restarted node loses its pod.
-/
def stoppedCache : Nat → WorldEvent
  | 2 => .rollOut none
  | 3 => .freeze
  | 5 => .rollOut (some 0)
  | _ => .pass

def stoppedRun :
    StaleRun World.surroundings [⟨"StatefulSet", true⟩] "ns/db" newCluster.resourceKey :=
  ofEvents [⟨"StatefulSet", true⟩] "ns/db" (workloadKey newCluster)
    ⟨({} : World).putCluster newCluster, rfl⟩ stoppedCache rfl rfl (by
      intro cluster stored
      obtain rfl : newCluster = cluster := Option.some.inj stored
      rfl)

/-- The phases that the reconcilers are given by the passes of this run. -/
theorem stoppedRun_given (moment : Nat) (phase : Phase) (passes : stoppedRun.passes moment)
    (given : (World.surroundings.called [⟨"StatefulSet", true⟩] "ns/db"
      (stoppedRun.state moment)).map (fun call => call.cluster.phase) = [phase]) :
    ∃ cluster, stoppedRun.Hands moment cluster ∧ cluster.phase = phase := by
  have among : phase ∈ (World.surroundings.called [⟨"StatefulSet", true⟩] "ns/db"
      (stoppedRun.state moment)).map (fun call => call.cluster.phase) := by
    rw [given]
    exact List.mem_singleton_self phase
  rcases List.mem_map.mp among with ⟨call, present, same⟩
  exact ⟨call.cluster, ⟨passes, call, present, rfl⟩, same⟩

/-- As long as the cache follows, the phases are given in order. -/
theorem stoppedRun_handed_phases :
    ∃ first second, stoppedRun.Hands 1 first ∧ first.phase = .bootstrapFirst ∧
      stoppedRun.Hands 4 second ∧ second.phase = .bootstrapFirstRestart ∧
      stoppedRun.Current 4 ∧ first.phase.progress ≤ second.phase.progress := by
  rcases stoppedRun_given 1 .bootstrapFirst rfl (by decide +kernel) with
    ⟨first, hands, started⟩
  rcases stoppedRun_given 4 .bootstrapFirstRestart rfl (by decide +kernel) with
    ⟨second, again, restarted⟩
  have current : stoppedRun.Current 4 :=
    stoppedRun.current_of_phases .bootstrapFirst (by decide +kernel) (by decide +kernel)
  have ordered := stoppedRun.handed_phases.2.2 1 4 first second (by decide) hands again current
  exact ⟨first, second, hands, started, again, restarted, current, ordered.1⟩

/--
The phase of the restart is stored and given to the reconcilers, and still a
later pass gives them the phase before it and has the flag applied again.
-/
theorem stoppedRun_falls_back :
    (∃ first second, stoppedRun.Hands 4 first ∧ first.phase = .bootstrapFirstRestart ∧
        stoppedRun.Hands 6 second ∧ second.phase = .bootstrapFirst) ∧
      (World.surroundings.stored (stoppedRun.state 5) newCluster.resourceKey).map Cluster.phase =
        some .bootstrapFirstRestart ∧
      (Table.get? (stoppedRun.state 5).1.applied (workloadKey newCluster)).map (fun workload =>
        decide ("--wsrep-new-cluster" ∈ workload.spec.template.container.arguments)) =
          some false ∧
      (Table.get? (stoppedRun.state 7).1.applied (workloadKey newCluster)).map (fun workload =>
        decide ("--wsrep-new-cluster" ∈ workload.spec.template.container.arguments)) =
          some true ∧
      ¬ stoppedRun.InOrder := by
  rcases stoppedRun_given 4 .bootstrapFirstRestart rfl (by decide +kernel) with
    ⟨first, hands, restarted⟩
  rcases stoppedRun_given 6 .bootstrapFirst rfl (by decide +kernel) with
    ⟨second, again, returned⟩
  refine ⟨⟨first, second, hands, restarted, again, returned⟩, by decide +kernel,
    by decide +kernel, by decide +kernel, ?_⟩
  intro inOrder
  have progress := inOrder 4 6 first second (by decide) hands again
  rw [restarted, returned] at progress
  exact absurd progress (by decide)

end StaleRun

end GaleraControl

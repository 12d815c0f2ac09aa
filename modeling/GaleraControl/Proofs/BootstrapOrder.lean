import GaleraControl.Proofs.RecoveryOrder
import Mathlib.Order.Monotone.Basic

/-!
# The order of a bootstrap

A status comes to operation for the first time only through all bootstrap steps,
one after another.  Each of them was completed by a pass of its own, whose
workload had acted on a newer generation than the one that the step before was
judged by: the recorded generation grows with every step, so what completed one
step cannot complete another.
-/

namespace GaleraControl.Lifetime

/-- The phases that were visited until a moment, each as often as it was entered. -/
def visited (life : Lifetime) : Nat → List Phase
  | 0 => [(life.status 0).phase]
  | moment + 1 =>
      if (life.status (moment + 1)).phase = (life.status moment).phase then life.visited moment
      else life.visited moment ++ [(life.status (moment + 1)).phase]

/-- The event of a moment changes the phase. -/
def Leaves (life : Lifetime) (moment : Nat) : Prop :=
  (life.status (moment + 1)).phase ≠ (life.status moment).phase

/--
The pass of a moment completes the bootstrap step of a phase: more than `below`
replicas are asked for, and the observed workload is fully ready with `nodes`
desired and ready replicas at least.
-/
structure CompletesStep (life : Lifetime) (moment : Nat) (phase : Phase) (below nodes : Int32)
    (view : WorkloadView) : Prop where
  before : (life.status moment).phase = phase
  after : (life.status (moment + 1)).phase = phase.successor
  passes : ∃ spec observed, life moment = .pass spec observed ∧
    observed.workload = some view ∧ below < spec.replicas
  ready : view.isReady = true
  desired : nodes ≤ view.desired
  running : nodes ≤ view.ready
  recorded : (life.status (moment + 1)).recordedGeneration = view.observedGeneration

section Events

variable {life : Lifetime} {moment : Nat}

/-- Only a pass changes the phase, and it takes a row of the table. -/
theorem Leaves.exists_moves (leaves : life.Leaves moment) :
    ∃ spec observed transition, life moment = .pass spec observed ∧
      life.status (moment + 1) = transition.status ∧
      ClusterStatus.Moves spec observed (life.status moment) transition := by
  unfold Leaves at leaves
  rw [status_succ] at leaves
  cases event : life moment with
  | pass spec observed =>
      exact ⟨spec, observed, _, rfl, status_succ_of_pass event rfl,
        ClusterStatus.next_moves spec (life.status moment) observed⟩
  | report reports =>
      rw [event] at leaves
      exact absurd rfl leaves

theorem Leaves.successor_eq (leaves : life.Leaves moment) :
    (life.status moment).phase.successor = (life.status (moment + 1)).phase := by
  rcases leaves.exists_moves with ⟨_, _, transition, _, reached, moves⟩
  rw [Leaves, reached] at leaves
  rw [reached]
  exact moves.successor_of_ne leaves

theorem progress_le_succ (life : Lifetime) (moment : Nat) :
    (life.status moment).phase.progress ≤ (life.status (moment + 1)).phase.progress := by
  by_cases stays : (life.status (moment + 1)).phase = (life.status moment).phase
  · rw [stays]
  · rcases Leaves.exists_moves stays with ⟨_, _, transition, _, reached, moves⟩
    rw [reached]
    exact moves.progress_le

/-- The phases of a lifetime never go back in the order of the formation. -/
theorem progress_le (life : Lifetime) {earlier later : Nat} (order : earlier ≤ later) :
    (life.status earlier).phase.progress ≤ (life.status later).phase.progress :=
  (monotone_nat_of_le_succ life.progress_le_succ :
    Monotone fun moment => (life.status moment).phase.progress) order

/-- An event that completes no bootstrap step keeps the recorded generation. -/
theorem recordedGeneration_succ
    (stays : (life.status moment).phase.isBootstrapping = true →
      (life.status (moment + 1)).phase = (life.status moment).phase) :
    (life.status (moment + 1)).recordedGeneration =
      (life.status moment).recordedGeneration := by
  cases event : life moment with
  | pass spec observed =>
      have reached := status_succ_of_pass event rfl
      rw [reached] at stays ⊢
      exact (ClusterStatus.next_moves spec (life.status moment) observed).recordedGeneration_eq stays
  | report reports =>
      rw [status_succ, event]
      rfl

/-- A bootstrap phase is left by a pass that completes its step. -/
theorem Leaves.completesStep (leaves : life.Leaves moment)
    (bootstrapping : (life.status moment).phase.isBootstrapping = true) :
    ∃ view,
      life.CompletesStep moment (life.status moment).phase
        (Bootstrap.replicasBelow (life.status moment).phase)
        (Bootstrap.nodes (life.status moment).phase) view ∧
      ((life.status moment).phase = .bootstrapFirst ∨
        (life.status moment).recordedGeneration < view.observedGeneration) := by
  rcases leaves.exists_moves with ⟨spec, observed, transition, event, reached, moves⟩
  rw [Leaves, reached] at leaves
  rcases moves.completes bootstrapping leaves with ⟨view, seen, clear, rfl⟩
  rcases Bootstrap.obstacle?_eq_none_iff.mp clear with
    ⟨requested, updated, desired, running, ready⟩
  simp only [Bootstrap.step, clear, Transition.advance_status] at reached
  refine ⟨view, ⟨rfl, by rw [reached], ⟨spec, observed, event, seen, requested⟩, ready, desired,
    running, by rw [reached]⟩, ?_⟩
  exact updated.imp_right fun newer => by simpa [WorkloadView.isUpdated] using newer

end Events

/-! ## Generations -/

/-- While the bootstrap goes on, the recorded generation never falls. -/
theorem recordedGeneration_le (life : Lifetime) {earlier later : Nat} (order : earlier ≤ later)
    (past : Phase.bootstrapFirst.progress < (life.status earlier).phase.progress)
    (bootstrapping : (life.status later).phase.isBootstrapping = true) :
    (life.status earlier).recordedGeneration ≤ (life.status later).recordedGeneration := by
  induction later, order using Nat.le_induction with
  | base => exact Int64.le_refl _
  | succ later order ih =>
      have still : (life.status later).phase.isBootstrapping = true := by
        rw [Phase.isBootstrapping_iff_progress] at bootstrapping ⊢
        have reached := life.progress_le order
        have next := life.progress_le_succ later
        rw [show Phase.bootstrapFirst.progress = 2 from rfl] at past
        omega
      refine Int64.le_trans (ih still) ?_
      by_cases stays : (life.status (later + 1)).phase = (life.status later).phase
      · rw [recordedGeneration_succ fun _ => stays]
        exact Int64.le_refl _
      · rcases Leaves.completesStep stays still with ⟨view, completes, first | newer⟩
        · have reached := life.progress_le order
          rw [first] at reached
          exact absurd past (Nat.not_lt.mpr reached)
        · rw [completes.recorded]
          exact Int64.le_of_lt newer

/-- Of two passes that complete a step the later one has seen a newer generation. -/
theorem CompletesStep.generation_lt {life : Lifetime} {first second : Nat}
    {phase next : Phase} {below above few many : Int32} {earlier later : WorkloadView}
    (completes : life.CompletesStep first phase below few earlier)
    (bootstrapping : phase.isBootstrapping = true)
    (again : life.CompletesStep second next above many later)
    (formingStill : next.isBootstrapping = true) (order : first < second) :
    earlier.observedGeneration < later.observedGeneration := by
  have past : Phase.bootstrapFirst.progress < (life.status (first + 1)).phase.progress := by
    rw [completes.after, Phase.progress_successor_of_bootstrapping bootstrapping]
    exact Nat.lt_succ_of_le ((Phase.isBootstrapping_iff_progress phase).mp bootstrapping).1
  have leaves : life.Leaves second := by
    rw [Leaves, again.after, again.before]
    exact next.successor_ne_self
  have still : (life.status second).phase.isBootstrapping = true := by
    rw [again.before]
    exact formingStill
  have grown := life.recordedGeneration_le order past still
  rw [completes.recorded] at grown
  rcases leaves.completesStep still with ⟨view, own, isFirst | newer⟩
  · have reached := life.progress_le order
    rw [isFirst] at reached
    exact absurd past (Nat.not_lt.mpr reached)
  · rw [← again.recorded, own.recorded]
    exact Int64.lt_of_le_of_lt grown newer

/-- A pass that completes a bootstrap step has judged one workload only. -/
theorem CompletesStep.view_eq {life : Lifetime} {moment : Nat} {phase : Phase}
    {below nodes : Int32} {view other : WorkloadView} {spec : ClusterSpec} {observed : Observed}
    (completes : life.CompletesStep moment phase below nodes view)
    (event : life moment = .pass spec observed) (seen : observed.workload = some other) :
    view = other := by
  rcases completes.passes with ⟨_, _, own, judged, _⟩
  rw [event] at own
  rw [← (LifeEvent.pass.inj own).2, seen] at judged
  exact (Option.some.inj judged).symm

/--
Two passes that complete bootstrap steps by the same workload are one pass.  The
earlier one records the generation that it has judged, and only a newer one
completes the step of the later.
-/
theorem Leaves.eq_of_view {life : Lifetime} {first second : Nat}
    {spec other : ClusterSpec} {observed seen : Observed}
    (leaves : life.Leaves first)
    (bootstrapping : (life.status first).phase.isBootstrapping = true)
    (again : life.Leaves second)
    (formingStill : (life.status second).phase.isBootstrapping = true)
    (event : life first = .pass spec observed) (next : life second = .pass other seen)
    (same : observed.workload = seen.workload) : first = second := by
  rcases leaves.completesStep bootstrapping with ⟨earlier, completes, _⟩
  rcases again.completesStep formingStill with ⟨later, follows, _⟩
  rcases follows.passes with ⟨_, _, own, judged, _⟩
  rw [next] at own
  rw [← (LifeEvent.pass.inj own).2, ← same] at judged
  cases completes.view_eq event judged
  rcases Nat.lt_trichotomy first second with before | equal | after
  · exact absurd (completes.generation_lt bootstrapping follows formingStill before)
      Int64.lt_irrefl
  · exact equal
  · exact absurd (follows.generation_lt formingStill completes bootstrapping after)
      Int64.lt_irrefl

/-! ## After the bootstrap -/

/-- A formed cluster is in operation or recovers, for good. -/
theorem formed_of_le (life : Lifetime) {earlier later : Nat} (order : earlier ≤ later)
    (formed : (life.status earlier).phase = .operational) :
    (life.status later).phase = .operational ∨ (life.status later).phase = .recovery := by
  have reached := life.progress_le order
  rw [formed] at reached
  cases phase : (life.status later).phase with
  | operational => exact Or.inl rfl
  | recovery => exact Or.inr rfl
  | _ => simp [phase, Phase.progress] at reached

/-- The recorded generation of a formed cluster stays as it is. -/
theorem recordedGeneration_of_formed (life : Lifetime) {earlier later : Nat}
    (order : earlier ≤ later) (formed : (life.status earlier).phase = .operational) :
    (life.status later).recordedGeneration = (life.status earlier).recordedGeneration := by
  induction later, order using Nat.le_induction with
  | base => rfl
  | succ later order ih =>
      rw [← ih]
      refine recordedGeneration_succ fun bootstrapping => ?_
      rcases life.formed_of_le order formed with phase | phase <;>
        simp [phase, Phase.isBootstrapping] at bootstrapping

/-! ## The phases on the way to operation -/

section Entry

variable {life : Lifetime} {moment : Nat}

/-- As long as the phase stays, no other is visited. -/
theorem visited_of_lasts {first : Nat} (order : first ≤ moment)
    (lasts : ∀ time, first ≤ time → time ≤ moment →
      (life.status time).phase = (life.status moment).phase) :
    life.visited moment = life.visited first := by
  induction moment, order using Nat.le_induction with
  | base => rfl
  | succ moment order ih =>
      have stays := lasts moment order (Nat.le_succ moment)
      rw [visited, if_pos stays.symm]
      refine ih fun time above below => ?_
      rw [stays]
      exact lasts time above (Nat.le_succ_of_le below)

/-- A phase was entered at some moment, from the one that it follows. -/
theorem exists_entry (later : (life.status moment).phase ≠ .fresh) :
    ∃ entry < moment, life.Leaves entry ∧
      (life.status (entry + 1)).phase = (life.status moment).phase ∧
      life.visited moment = life.visited entry ++ [(life.status moment).phase] := by
  rcases Phase.exists_entry (fun time => (life.status time).phase) later with
    ⟨entry, before, left, lasts⟩
  have enters : (life.status (entry + 1)).phase = (life.status moment).phase :=
    lasts (entry + 1) (Nat.lt_succ_self entry) before
  have leaves : life.Leaves entry := by
    rw [Leaves, enters]
    exact Ne.symm left
  refine ⟨entry, before, leaves, enters, ?_⟩
  rw [visited_of_lasts before lasts, visited, if_neg leaves, enters]

theorem exists_entry_from (phase : Phase)
    (reached : (life.status moment).phase = phase.successor)
    (forming : phase.successor ≠ .operational) :
    ∃ entry < moment, life.Leaves entry ∧ (life.status entry).phase = phase ∧
      life.visited moment = life.visited entry ++ [phase.successor] := by
  rcases exists_entry (by rw [reached]; exact phase.successor_ne_fresh) with
    ⟨entry, before, leaves, enters, path⟩
  rw [reached] at enters path
  have follows := leaves.successor_eq.trans enters
  exact ⟨entry, before, leaves, Phase.eq_of_successor_eq follows forming, path⟩

/-- Nothing comes before the fresh status. -/
theorem visited_of_fresh (fresh : (life.status moment).phase = .fresh) :
    life.visited moment = [.fresh] := by
  refine visited_of_lasts (Nat.zero_le moment) fun time _ below => ?_
  have reached := life.progress_le below
  rw [fresh] at reached ⊢
  cases phase : (life.status time).phase <;> simp_all [Phase.progress]

/-- A step that leads to the present phase was completed at some moment. -/
theorem exists_completesStep (phase : Phase)
    (reached : (life.status moment).phase = phase.successor)
    (forming : phase.successor ≠ .operational) (bootstrapping : phase.isBootstrapping = true) :
    ∃ entry < moment, (life.status entry).phase = phase ∧
      life.visited moment = life.visited entry ++ [phase.successor] ∧
      ∃ view, life.CompletesStep entry phase (Bootstrap.replicasBelow phase)
        (Bootstrap.nodes phase) view := by
  rcases exists_entry_from phase reached forming with ⟨entry, before, leaves, left, path⟩
  rcases leaves.completesStep (by rw [left]; exact bootstrapping) with ⟨view, completes, _⟩
  rw [left] at completes
  exact ⟨entry, before, left, path, view, completes⟩

/-- The first operation follows a completed bootstrap, and not a recovery. -/
theorem exists_last_step (formed : (life.status moment).phase = .operational)
    (first : ∀ earlier < moment, (life.status earlier).phase ≠ .operational) :
    ∃ last, last + 1 = moment ∧ (life.status last).phase = .bootstrapThird ∧
      life.visited moment = life.visited last ++ [.operational] ∧
      ∃ view, life.CompletesStep last .bootstrapThird 2 3 view := by
  rcases @exists_entry life moment (by simp [formed]) with ⟨last, before, leaves, enters, path⟩
  rw [formed] at enters path
  have follows := leaves.successor_eq.trans enters
  have left : (life.status last).phase = .bootstrapThird := by
    cases phase : (life.status last).phase with
    | bootstrapThird => rfl
    | recovery =>
        rcases exists_entry_from .operational phase (by decide) with
          ⟨start, earlier, _, operational, _⟩
        exact absurd operational (first start (Nat.lt_trans earlier before))
    | _ => simp [phase, Phase.successor] at follows
  rcases leaves.completesStep (by rw [left]; rfl) with ⟨view, completes, _⟩
  rw [left] at completes
  refine ⟨last, ?_, left, path, view, completes⟩
  by_contra apart
  exact first (last + 1) (by omega) enters

end Entry

/-- A bootstrap phase that was left is not left again. -/
theorem CompletesStep.eq_of_leaves {life : Lifetime} {moment other : Nat} {phase : Phase}
    {below nodes : Int32} {view : WorkloadView}
    (completes : life.CompletesStep moment phase below nodes view)
    (bootstrapping : phase.isBootstrapping = true)
    (leaves : life.Leaves other) (same : (life.status other).phase = phase) :
    other = moment := by
  have further := Phase.progress_successor_of_bootstrapping bootstrapping
  rcases Nat.lt_trichotomy other moment with before | equal | after
  · have reached := life.progress_le before
    rw [← leaves.successor_eq, same, completes.before] at reached
    omega
  · exact equal
  · have reached := life.progress_le after
    rw [completes.after, same] at reached
    omega

/--
A status that is operational for the first time has visited all phases before in
their order.  The four passes that left the bootstrap phases have each judged a
fully ready workload, with more nodes from the third on, and with a newer
generation every time; no other pass has left a bootstrap phase, and no two of
them have judged the same workload.  The last generation stays recorded.
-/
theorem bootstrap_in_order (life : Lifetime) {moment : Nat}
    (formed : (life.status moment).phase = .operational)
    (first : ∀ earlier < moment, (life.status earlier).phase ≠ .operational) :
    life.visited moment =
        [.fresh, .preFlight, .bootstrapFirst, .bootstrapFirstRestart, .bootstrapSecond,
          .bootstrapThird, .operational] ∧
      (∃ starts restarts joins completes : Nat, ∃ w₁ w₂ w₃ w₄ : WorkloadView,
        starts < restarts ∧ restarts < joins ∧ joins < completes ∧ completes + 1 = moment ∧
          life.CompletesStep starts .bootstrapFirst 1 1 w₁ ∧
          life.CompletesStep restarts .bootstrapFirstRestart 1 1 w₂ ∧
          life.CompletesStep joins .bootstrapSecond 2 2 w₃ ∧
          life.CompletesStep completes .bootstrapThird 2 3 w₄ ∧
          w₁.observedGeneration < w₂.observedGeneration ∧
          w₂.observedGeneration < w₃.observedGeneration ∧
          w₃.observedGeneration < w₄.observedGeneration ∧
          (∀ time, life.Leaves time → (life.status time).phase.isBootstrapping = true →
            time ∈ [starts, restarts, joins, completes]) ∧
          ∀ later ≥ moment,
            ((life.status later).phase = .operational ∨
              (life.status later).phase = .recovery) ∧
            (life.status later).recordedGeneration = w₄.observedGeneration) ∧
      ∀ one other spec next observed seen,
        life.Leaves one → (life.status one).phase.isBootstrapping = true →
        life.Leaves other → (life.status other).phase.isBootstrapping = true →
        life one = .pass spec observed → life other = .pass next seen →
        observed.workload = seen.workload → one = other := by
  rcases exists_last_step formed first with ⟨completes, rfl, third, path, w₄, last⟩
  rcases exists_completesStep .bootstrapSecond third (by decide) rfl with
    ⟨joins, beforeLast, second, pathThird, w₃, join⟩
  rcases exists_completesStep .bootstrapFirstRestart second (by decide) rfl with
    ⟨restarts, beforeJoin, restart, pathSecond, w₂, restarted⟩
  rcases exists_completesStep .bootstrapFirst restart (by decide) rfl with
    ⟨starts, beforeRestart, firstNode, pathRestart, w₁, started⟩
  rcases exists_entry_from .preFlight firstNode (by decide) with
    ⟨checked, _, _, preFlight, pathFirst⟩
  rcases exists_entry_from .fresh preFlight (by decide) with ⟨accepted, _, _, fresh, pathCheck⟩
  refine ⟨?_, ⟨starts, restarts, joins, completes, w₁, w₂, w₃, w₄, beforeRestart, beforeJoin,
    beforeLast, rfl, started, restarted, join, last,
    started.generation_lt rfl restarted rfl beforeRestart,
    restarted.generation_lt rfl join rfl beforeJoin,
    join.generation_lt rfl last rfl beforeLast, ?_, ?_⟩, ?_⟩
  · rw [path, pathThird, pathSecond, pathRestart, pathFirst, pathCheck, visited_of_fresh fresh]
    rfl
  · intro time leaves bootstrapping
    cases phase : (life.status time).phase with
    | bootstrapFirst => simp [started.eq_of_leaves rfl leaves phase]
    | bootstrapFirstRestart => simp [restarted.eq_of_leaves rfl leaves phase]
    | bootstrapSecond => simp [join.eq_of_leaves rfl leaves phase]
    | bootstrapThird => simp [last.eq_of_leaves rfl leaves phase]
    | _ => simp [phase, Phase.isBootstrapping] at bootstrapping
  · intro later order
    refine ⟨life.formed_of_le order formed, ?_⟩
    rw [life.recordedGeneration_of_formed order formed, last.recorded]
  · intro one other spec next observed seen leaves bootstrapping again formingStill
    exact leaves.eq_of_view bootstrapping again formingStill

/--
A bootstrap of three replicas between whose steps the controller sees old
generations again, workloads that are not ready, and replicas that report.
-/
def hinderedBootstrap : Lifetime := fun moment =>
  let pass (view : WorkloadView) : LifeEvent := .pass { replicas := 3 } { workload := some view }
  match moment with
  | 0 => .pass { replicas := 3 } {}
  | 1 | 2 => pass (settledView 1 2)
  | 3 => .report [⟨"prod-server-0", { seqNo := 5 }⟩]
  | 4 => pass (settledView 3 2)
  | 5 => pass { settledView 1 3 with ready := 0 }
  | 6 => pass (settledView 1 4)
  | 7 => pass (settledView 3 1)
  | 8 | 9 => pass (settledView 2 5)
  | 10 => .pass { replicas := 2 } { workload := some (settledView 3 6) }
  | 11 => pass (settledView 3 6)
  | 12 => pass { settledView 3 7 with ready := 0 }
  | _ => .report []

theorem hinderedBootstrap_in_order :
    (hinderedBootstrap.status 12).phase = .operational ∧
      hinderedBootstrap.visited 12 =
        [.fresh, .preFlight, .bootstrapFirst, .bootstrapFirstRestart, .bootstrapSecond,
          .bootstrapThird, .operational] ∧
      (hinderedBootstrap.status 20).recordedGeneration = 6 := by
  have formed : (hinderedBootstrap.status 12).phase = .operational := by decide
  have first : ∀ earlier < 12, (hinderedBootstrap.status earlier).phase ≠ .operational := by
    decide
  rcases bootstrap_in_order hinderedBootstrap formed first with ⟨path, _, _⟩
  exact ⟨formed, path, by decide⟩

end GaleraControl.Lifetime

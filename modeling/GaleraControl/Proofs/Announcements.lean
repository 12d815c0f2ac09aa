import GaleraControl.Proofs.Moves
import GaleraControl.Proofs.StatusPatch
import GaleraControl.Proofs.SyncHistory
import Mathlib.Data.List.TakeWhile

/-!
# What a pass announces

The event of a pass is made from the outcome of its transition, while the store is
given the status of it.  The two agree in every row of the transition table: a pass
that waits has nothing to write, a change of phase is told with the phases that were
left and entered, and no other outcome comes with one.  So a finished pass either
wrote nothing and announced nothing, or sent one patch that was applied and
published the event of its transition next.

The warning about name collisions comes before anything is made and announces no
change.
-/

namespace GaleraControl

/-! ## Changes of phase as events tell them -/

namespace Phase

theorem display_injective {first second : Phase} (same : first.display = second.display) :
    first = second := by
  cases first <;> cases second <;> simp [display, text] at same ⊢

/-- The text of a phase is one word. -/
theorem ne_blank_of_mem_display {phase : Phase} {letter : Char}
    (present : letter ∈ phase.display.toList) : letter ≠ ' ' := by
  have word : (phase.display.toList.all fun other => other ≠ ' ') = true := by
    cases phase <;> decide
  simpa using List.all_eq_true.mp word letter present

end Phase

namespace Event

/-- The event announces this change of phase, in all its parts. -/
def Tells (event : Event) (change : Phase × Phase) : Prop :=
  event = ofPhaseChange event.regarding change.1 change.2

/-- The reason of an event is that of a change of phase. -/
def isPhaseChange (event : Event) : Bool :=
  event.reason = .phaseTransition || event.reason = .recoveryStarted

theorem isPhaseChange_ofPhaseChange (regarding : ObjectReference) (before after : Phase) :
    (ofPhaseChange regarding before after).isPhaseChange = true := by
  by_cases lost : before = .operational ∧ after = .recovery <;>
    simp [isPhaseChange, ofPhaseChange, lost]

theorem tells_ofPhaseChange (regarding : ObjectReference) (before after : Phase) :
    (ofPhaseChange regarding before after).Tells (before, after) := rfl

/-- The event of a transition is not a warning about name collisions. -/
theorem reason_ne_of_ofOutcome? {regarding : ObjectReference} {outcome : Outcome} {event : Event}
    (tells : ofOutcome? regarding outcome = some event) : event.reason ≠ .conflictingResources := by
  cases outcome with
  | phaseChanged before after =>
      obtain rfl := Option.some.inj tells
      by_cases lost : before = .operational ∧ after = .recovery <;> simp [ofPhaseChange, lost]
  | waiting reason => simp [ofOutcome?] at tells
  | _ =>
      obtain rfl := Option.some.inj tells
      simp

/-- Any other event of a transition has another reason than a change of phase. -/
theorem isPhaseChange_eq_false {regarding : ObjectReference} {outcome : Outcome} {event : Event}
    (tells : ofOutcome? regarding outcome = some event)
    (kept : ∀ before after, outcome ≠ .phaseChanged before after) :
    event.isPhaseChange = false := by
  cases outcome with
  | phaseChanged before after => exact absurd rfl (kept before after)
  | waiting reason => simp [ofOutcome?] at tells
  | _ =>
      obtain rfl := Option.some.inj tells
      rfl

/-- The phases can be read off an event. -/
theorem Tells.unique {event : Event} {change other : Phase × Phase} (tells : event.Tells change)
    (alsoTells : event.Tells other) : change = other := by
  have notes := congrArg (String.toList ∘ Event.note) (tells.symm.trans alsoTells)
  simp only [Function.comp_apply, ofPhaseChange, String.toList_append, List.append_assoc,
    List.append_cancel_left_eq] at notes
  -- The text of the first phase ends at the first blank.
  have word (change : Phase × Phase) (rest : List Char) :
      (change.1.display.toList ++ (" -> ".toList ++ rest)).takeWhile (· ≠ ' ') =
        change.1.display.toList := by
    rw [List.takeWhile_append_of_pos fun letter present => by
      simpa using Phase.ne_blank_of_mem_display present]
    simp
  have before : change.1.display.toList = other.1.display.toList := by
    rw [← word change, ← word other, notes]
  rw [before, List.append_cancel_left_eq, List.append_cancel_left_eq] at notes
  refine Prod.ext (Phase.display_injective ?_) (Phase.display_injective ?_)
  · exact String.toList_inj.mp before
  · exact String.toList_inj.mp notes

end Event

/-! ## Marks -/

/-- What a moment adds to the record of a cluster's status. -/
inductive Mark where
  /-- A patch of the status was applied. -/
  | wrote
  /-- An event about the status was published. -/
  | announced (event : Event)
deriving DecidableEq

/-- A warning about name collisions is not about the status; all other events are. -/
def Moment.mark? {Reconciler State : Type} : Moment Reconciler State → Option Mark
  | ⟨_, .patchStatus _ _, reply, _⟩ =>
      match reply with
      | .ok () => some .wrote
      | .error _ => none
  | ⟨_, .publish event, _, _⟩ =>
      if event.reason = .conflictingResources then none else some (.announced event)
  | _ => none

/-- A request that neither writes a status nor announces one. -/
def Request.Silent {Reconciler : Type} : Request Reconciler → Prop
  | .patchStatus _ _ => False
  | .publish event => event.reason = .conflictingResources
  | _ => True

/-- Nothing was written or announced in these moments. -/
def Unmarked {Reconciler State : Type} (moments : List (Moment Reconciler State)) : Prop :=
  ∀ moment ∈ moments, moment.mark? = none

section Marks

variable {Reconciler State : Type}

theorem Moment.mark?_of_silent {moment : Moment Reconciler State}
    (silent : moment.request.Silent) : moment.mark? = none := by
  rcases moment with ⟨before, request, reply, after⟩
  cases request with
  | patchStatus key operations => exact silent.elim
  | publish event => exact if_pos silent
  | _ => rfl

theorem Program.Follows.unmarked {Value : Type} {program rest : Program Reconciler Value}
    {moments : List (Moment Reconciler State)} (follows : program.Follows moments rest)
    (silent : program.AsksOnly Request.Silent) : Unmarked moments :=
  fun moment present => Moment.mark?_of_silent (follows.permitted silent moment present)

theorem unmarked_nil : Unmarked ([] : List (Moment Reconciler State)) := by simp [Unmarked]

theorem Unmarked.append {first second : List (Moment Reconciler State)}
    (unmarkedFirst : Unmarked first) (unmarkedSecond : Unmarked second) :
    Unmarked (first ++ second) := by
  intro moment present
  rcases List.mem_append.mp present with earlier | later
  · exact unmarkedFirst moment earlier
  · exact unmarkedSecond moment later

end Marks

namespace Pass

open Attempt
open Program (AsksOnly Follows)

variable {Reconciler State : Type}

/-! ## The parts of a pass that leave no mark -/

theorem precede_silent (cluster : Cluster) :
    (precede cluster : Attempt Reconciler Unit).run.AsksOnly Request.Silent := by
  have looked : (checkConflicts cluster : Attempt Reconciler ConflictReport).run.AsksOnly
      Request.Silent :=
    asksOnly_bind ⟨trivial, fun _ => trivial⟩ fun _ =>
      asksOnly_bind ⟨trivial, fun _ => trivial⟩ fun _ => trivial
  unfold precede
  split
  · refine asksOnly_bind (asksOnly_result looked) ?_
    intro result
    cases result with
    | error error => trivial
    | ok report =>
        dsimp only
        split
        · trivial
        · exact ⟨rfl, fun _ => trivial⟩
  · trivial

theorem observe_silent (cluster : Cluster) (status : ClusterStatus) :
    (observe cluster status : Attempt Reconciler Observed).run.AsksOnly Request.Silent := by
  unfold observe
  cases status.sight with
  | nothing => trivial
  | workload => exact asksOnly_bind ⟨trivial, fun _ => trivial⟩ fun _ => trivial
  | pod source =>
      refine asksOnly_bind ⟨trivial, fun _ => trivial⟩ ?_
      intro pod
      cases pod <;> trivial

theorem finish_silent (reconcilers : List Reconciler) (snapshot : Cluster)
    (state : Except SyncError StateOutcome) :
    (finish reconcilers snapshot state).run.AsksOnly Request.Silent := by
  refine (finish_reconciles reconcilers snapshot state).mono ?_
  rintro request ⟨reconciler, rfl⟩
  trivial

/-- A call of `persist` that was not applied leaves no mark. -/
theorem unmarked_of_call {snapshot : Cluster} {changed : ClusterStatus}
    {call : List (Moment Reconciler State)} {outcome : Except SyncError WriteOutcome}
    (called : PersistCall snapshot changed call outcome)
    (unapplied : ∀ operations, outcome ≠ .ok (.applied operations)) : Unmarked call := by
  cases called with
  | idle same => exact unmarked_nil
  | gone before after => exact fun moment present => by rw [List.mem_singleton.mp present]; rfl
  | refused before after reply error =>
      exact fun moment present => by rw [List.mem_singleton.mp present]; rfl
  | sent differs same held before between later after reply =>
      match reply with
      | .ok () => exact absurd rfl (unapplied _)
      | .error error =>
          intro moment present
          rcases List.mem_cons.mp present with rfl | second
          · rfl
          · rw [List.mem_singleton.mp second]
            rfl

/-- A call of `persist` that was applied ends with its write. -/
theorem exists_write_of_call {snapshot : Cluster} {changed : ClusterStatus}
    {call : List (Moment Reconciler State)} {operations : Nat}
    (called : PersistCall snapshot changed call (.ok (.applied operations))) :
    ClusterStatus.diff snapshot.status changed ≠ [] ∧
      ∃ read write, call = [read, write] ∧ read.mark? = none ∧ write.mark? = some .wrote := by
  generalize ended : (Except.ok (.applied operations) : Except SyncError WriteOutcome) = outcome
    at called
  cases called with
  | idle same => simp at ended
  | gone before after => simp at ended
  | refused before after reply error => simp at ended
  | sent differs same held before between later after reply =>
      match reply with
      | .ok () => exact ⟨differs, _, _, rfl, rfl, rfl⟩
      | .error error => simp [Except.map] at ended

/-! ## What a finished pass has written and announced -/

/-- What is written is always announced. -/
theorem exists_event_of_differs {snapshot : Cluster} {observed : Observed}
    (differs : ClusterStatus.diff snapshot.status (transitionOf snapshot observed).status ≠ []) :
    ∃ event, Event.ofOutcome? snapshot.objectReference
      (transitionOf snapshot observed).outcome = some event := by
  refine Option.ne_none_iff_exists'.mp fun silent => differs ?_
  rcases (Event.ofOutcome?_eq_none_iff _ _).mp silent with ⟨reason, waits⟩
  cases stored : snapshot.status with
  | none =>
      -- Without a status the cluster is fresh, and a fresh cluster does not wait.
      simp [transitionOf, Cluster.statusOrDefault, stored, ClusterStatus.next,
        Transition.advance] at waits
  | some status =>
      have kept := (ClusterStatus.next_moves _ _ _).status_of_waiting waits
      have same : (transitionOf snapshot observed).status = status := by
        simpa [transitionOf, Cluster.statusOrDefault, stored] using kept
      rw [same]
      exact ClusterStatus.diff_self status

/-- A pass that read this cluster wrote nothing, or wrote its transition and announced it. -/
inductive Records (snapshot : Cluster) : List (Moment Reconciler State) → Prop where
  | nothing {moments : List (Moment Reconciler State)} (unmarked : Unmarked moments) :
      Records snapshot moments
  | change {early late : List (Moment Reconciler State)} {read write : Moment Reconciler State}
      {observed : Observed} {operations : Nat} {event : Event} (before after : State)
      (called : PersistCall snapshot (transitionOf snapshot observed).status [read, write]
        (.ok (.applied operations)))
      (differs : ClusterStatus.diff snapshot.status (transitionOf snapshot observed).status ≠ [])
      (reads : read.mark? = none) (writes : write.mark? = some .wrote)
      (announces : Event.ofOutcome? snapshot.objectReference
        (transitionOf snapshot observed).outcome = some event)
      (unmarkedEarly : Unmarked early) (unmarkedLate : Unmarked late) :
      Records snapshot
        (early ++ read :: write :: ⟨before, .publish event, (), after⟩ :: late)

theorem Records.between {snapshot : Cluster} {early moments late : List (Moment Reconciler State)}
    (records : Records snapshot moments) (unmarkedEarly : Unmarked early)
    (unmarkedLate : Unmarked late) : Records snapshot (early ++ (moments ++ late)) := by
  cases records with
  | nothing unmarked => exact .nothing (unmarkedEarly.append (unmarked.append unmarkedLate))
  | change before after called differs reads writes announces unmarkedFirst unmarkedLast =>
      have whole := Records.change before after called differs reads writes announces
        (unmarkedEarly.append unmarkedFirst) (unmarkedLast.append unmarkedLate)
      simpa using whole

theorem moments_of_announce {cluster : Cluster} {outcome : Outcome} {event : Event}
    {moments : List (Moment Reconciler State)} {result : Except SyncError Unit}
    (tells : Event.ofOutcome? cluster.objectReference outcome = some event)
    (ends : (announce cluster outcome).Ends moments result) :
    ∃ before after, moments = [⟨before, .publish event, (), after⟩] := by
  unfold announce at ends
  rw [tells] at ends
  rcases Program.follows_bind_done ends with ⟨first, second, value, rfl, published, later⟩
  rcases ends_of_request published with ⟨before, after, rfl⟩
  rcases Program.follows_done_iff.mp later with ⟨rfl, _⟩
  exact ⟨before, after, rfl⟩

theorem records_of_conclude {key : String} {snapshot : Cluster} {observed : Observed}
    {moments : List (Moment Reconciler State)} {result : Except SyncError StateOutcome}
    (ends : (conclude key snapshot observed).Ends moments result) : Records snapshot moments := by
  rw [conclude_eq] at ends
  rcases ends_bind ends with ⟨error, failed, _⟩ | ⟨call, last, outcome, rfl, called, settled⟩
  · exact .nothing (unmarked_of_call (persistCall_of_ends failed) (by simp))
  have called := persistCall_of_ends called
  cases outcome with
  | gone =>
      exact .nothing ((unmarked_of_call called (by simp)).append
        (Follows.unmarked settled trivial))
  | unchanged =>
      exact .nothing ((unmarked_of_call called (by simp)).append
        (Follows.unmarked settled trivial))
  | applied operations =>
      rcases exists_write_of_call called with ⟨differs, read, write, rfl, reads, writes⟩
      rcases exists_event_of_differs differs with ⟨event, tells⟩
      rcases ends_bind settled with ⟨error, failed, _⟩ | ⟨told, rest, _, rfl, announced, finished⟩
      · exact absurd (announce_ends failed) (by simp)
      rcases moments_of_announce tells announced with ⟨before, after, rfl⟩
      rcases Program.follows_done_iff.mp finished with ⟨rfl, _⟩
      exact .change before after called differs reads writes tells unmarked_nil unmarked_nil

theorem records_of_machine {key : String} {snapshot : Cluster}
    {moments : List (Moment Reconciler State)} {result : Except SyncError StateOutcome}
    (ends : (runStateMachine key snapshot).Ends moments result) : Records snapshot moments := by
  rw [runStateMachine_eq] at ends
  rcases ends_bind ends with ⟨error, failed, _⟩ | ⟨early, rest, _, rfl, preceded, ends⟩
  · exact .nothing (Follows.unmarked failed (precede_silent snapshot))
  have unmarkedEarly := Follows.unmarked preceded (precede_silent snapshot)
  rcases ends_bind ends with ⟨error, failed, _⟩ | ⟨sight, last, observed, rfl, sighted, ends⟩
  · exact .nothing (unmarkedEarly.append (Follows.unmarked failed (observe_silent snapshot _)))
  have unmarkedSight := Follows.unmarked sighted (observe_silent snapshot _)
  have whole := (records_of_conclude ends).between (unmarkedEarly.append unmarkedSight) unmarked_nil
  simpa using whole

/-- What a finished pass has written and announced, by the cluster that it read. -/
theorem records_of_sync {reconcilers : List Reconciler} {text : String} {key : ResourceKey}
    {moments : List (Moment Reconciler State)} {result : Except SyncError SyncOutcome}
    (parsed : ResourceKey.parse? text = some key)
    (ends : (sync reconcilers text).Ends moments result) :
    Unmarked moments ∨ ∃ snapshot before after,
      ⟨before, .cachedCluster key, .ok (some snapshot), after⟩ ∈ moments ∧
        Records snapshot moments := by
  unfold sync at ends
  simp only [parsed] at ends
  have reads : (cachedCluster key : Attempt Reconciler _).run.AsksOnly Request.Silent :=
    ⟨trivial, fun _ => trivial⟩
  rcases ends_bind ends with ⟨error, failed, _⟩ | ⟨cached, rest, found, rfl, read, goes⟩
  · exact .inl (Follows.unmarked failed reads)
  have unmarkedRead := Follows.unmarked read reads
  rcases ends_of_request read with ⟨before, after, rfl⟩
  cases found with
  | none => exact .inl (unmarkedRead.append (Follows.unmarked goes trivial))
  | some snapshot =>
      rcases ends_bind goes with ⟨error, failed, _⟩ | ⟨check, later, _, rfl, checked, runs⟩
      · rw [(ends_ofExcept failed).1, List.append_nil]
        exact .inl unmarkedRead
      rw [(ends_ofExcept checked).1, List.nil_append]
      rcases ends_bind runs with ⟨error, failed, _⟩ |
          ⟨machine, finishing, state, rfl, ran, finished⟩
      · rcases ends_result failed with ⟨_, impossible, _⟩
        exact absurd impossible (by simp)
      rcases ends_result ran with ⟨inner, _, inside⟩
      have unmarkedLate := Follows.unmarked finished (finish_silent reconcilers snapshot state)
      exact .inr ⟨snapshot, before, after, by simp,
        (records_of_machine inside).between unmarkedRead unmarkedLate⟩

end Pass

end GaleraControl

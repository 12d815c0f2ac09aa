import GaleraControl.Proofs.WakeUps
import GaleraControl.Proofs.WorkerPool

/-!
# After the shutdown

Once the queue is closed, an addition has no effect however it comes about: a
caller that asks for it, a delayed one that was made before the shutdown, the retry
of a failed pass, or the release of a parked key.  What is ready or waits stays as
it is, no key is handed out, and keys only leave the processed ones.

A worker that asks a closed queue for a key stops.  One that has a key when the
queue closes settles its pass and releases the key first, so that its turns to come
can be counted, and nothing is processed when all workers have stopped.
-/

namespace GaleraControl

namespace WorkQueue

variable {Worker : Type} {queue : WorkQueue} {key : String}

/-- A closed queue later on: some processed keys may have been released. -/
structure Drains (queue later : WorkQueue) : Prop where
  closed : later.isClosed = true
  ready : later.ready = queue.ready
  dirty : later.dirty = queue.dirty
  processing : later.processing.Sublist queue.processing

theorem Drains.refl (closed : queue.isClosed = true) : Drains queue queue where
  closed := closed
  ready := rfl
  dirty := rfl
  processing := List.Sublist.refl _

theorem Drains.trans {later last : WorkQueue} (first : Drains queue later)
    (second : Drains later last) : Drains queue last where
  closed := second.closed
  ready := second.ready.trans first.ready
  dirty := second.dirty.trans first.dirty
  processing := second.processing.trans first.processing

theorem SamePlaces.drains {later : WorkQueue} (same : SamePlaces queue later)
    (closed : queue.isClosed = true) : Drains queue later where
  closed := same.isClosed.trans closed
  ready := same.ready
  dirty := same.dirty
  processing := by rw [same.processing]

/-- A key that was added again while it was processed is released for good. -/
theorem drains_done (closed : queue.isClosed = true) (key : String) :
    Drains queue (queue.done key) := by
  have released : queue.done key =
      { queue with processing := queue.processing.filter (· ≠ key) } := by
    simp [WorkQueue.done, closed]
  rw [released]
  exact ⟨closed, rfl, rfl, List.filter_sublist⟩

/-- Whatever happens to a closed queue, it drains. -/
theorem drains_after (closed : queue.isClosed = true) (event : Event Worker) :
    Drains queue (queue.after event) := by
  have row := queue.changes_after event
  generalize queue.after event = later at row ⊢
  cases row with
  -- This is also the row of a delayed addition that was made before the queue closed.
  | adds added same =>
      rw [add_of_isClosed closed] at same
      exact same.drains closed
  | hands worker opened first => simp [closed] at opened
  | releases worker key => exact drains_done closed key
  | closes => exact ⟨rfl, rfl, rfl, List.Sublist.refl _⟩
  | keeps idle same => exact same.drains closed

namespace History

variable {history : History Worker} {shut first later : Nat}

theorem isClosed_of_shutdown (shuts : history.event shut = .shutdown) (after : shut < first) :
    (history.queue first).isClosed = true := by
  have closed : (history.queue (shut + 1)).isClosed = true := by
    rw [queue_succ, shuts]
    rfl
  exact isClosed_mono after closed

theorem drains (closed : (history.queue first).isClosed = true) (order : first ≤ later) :
    Drains (history.queue first) (history.queue later) := by
  induction later, order using Nat.le_induction with
  | base => exact Drains.refl closed
  | succ moment order ih => exact ih.trans (drains_after ih.closed (history.event moment))

theorem not_handsOut_of_isClosed (closed : (history.queue later).isClosed = true)
    (key : String) : ¬ history.HandsOut later key := by
  intro hands
  have opened := (exists_ready_of_handsOut hands).1
  simp [closed] at opened

end History

/-! ## The workers -/

/-- How many turns a worker has left in a closed queue. -/
def Task.turnsLeft : Task → Nat
  | .stopped => 0
  | .idle => 1
  | .releasing _ _ => 2
  | .passing _ => 3

theorem Task.turnsLeft_eq_zero_iff (task : Task) : task.turnsLeft = 0 ↔ task = .stopped := by
  cases task <;> simp [turnsLeft]

/-- The worker that takes a turn. -/
def Act.actor? : Act Worker → Option Worker
  | .turn worker _ => some worker
  | .outside _ => none

theorem Act.actor?_eq_some_iff {act : Act Worker} {worker : Worker} :
    act.actor? = some worker ↔ ∃ result, act = .turn worker result := by
  cases act <;> simp [actor?]

/-- In a closed queue each turn brings a worker nearer to its stop. -/
theorem Crew.turnsLeft_next {crew : Crew Worker} (closed : crew.queue.isClosed = true)
    (worker : Worker) (result : Except SyncError Pass.SyncOutcome) :
    (crew.next worker result).turnsLeft = (crew.tasks worker).turnsLeft - 1 := by
  cases task : crew.tasks worker <;> simp [Crew.next, task, closed, Task.turnsLeft]

namespace Pool

variable [DecidableEq Worker] {pool : Pool Worker} {start : Nat} {worker : Worker}

/-- How many turns a worker takes from one moment on and before another. -/
def turns (pool : Pool Worker) (worker : Worker) (start span : Nat) : Nat :=
  Nat.count (fun passed => (pool.act (start + passed)).actor? = some worker) span

theorem isClosed_crew (closed : (pool.crew start).queue.isClosed = true) (span : Nat) :
    (pool.crew (start + span)).queue.isClosed = true := by
  rw [← queue_history] at closed ⊢
  exact History.isClosed_mono (Nat.le_add_right start span) closed

/-- In a closed queue a worker has those turns left that it has not taken. -/
theorem turnsLeft_eq (closed : (pool.crew start).queue.isClosed = true) (worker : Worker)
    (span : Nat) :
    ((pool.crew (start + span)).tasks worker).turnsLeft =
      ((pool.crew start).tasks worker).turnsLeft - pool.turns worker start span := by
  induction span with
  | zero => simp [turns]
  | succ span ih =>
      have counted : pool.turns worker start (span + 1) = pool.turns worker start span +
          if (pool.act (start + span)).actor? = some worker then 1 else 0 :=
        Nat.count_succ _ _
      rw [counted, ← Nat.add_assoc]
      by_cases acts : (pool.act (start + span)).actor? = some worker
      · rcases Act.actor?_eq_some_iff.mp acts with ⟨result, act⟩
        rw [if_pos acts, tasks_succ_self act, Crew.turnsLeft_next (isClosed_crew closed span), ih]
        exact Nat.sub_sub _ _ _
      · have others (result : Except SyncError Pass.SyncOutcome) :
            pool.act (start + span) ≠ .turn worker result := by
          intro act
          exact acts (Act.actor?_eq_some_iff.mpr ⟨result, act⟩)
        rw [if_neg acts, tasks_succ_of_ne others, ih, Nat.add_zero]

/-- A worker that asks a closed queue for a key is told to stop. -/
theorem stopped_of_idle (closed : (pool.crew start).queue.isClosed = true)
    (idle : (pool.crew start).tasks worker = .idle)
    (turn : (pool.act start).actor? = some worker) :
    (pool.crew (start + 1)).tasks worker = .stopped := by
  rcases Act.actor?_eq_some_iff.mp turn with ⟨result, act⟩
  rw [tasks_succ_self act]
  simp [Crew.next, idle, closed]

/-- Only what a worker is at is processed. -/
theorem Orderly.processing_eq_nil (orderly : pool.Orderly)
    (free : ∀ worker, ((pool.crew start).tasks worker).key? = none) :
    (pool.crew start).queue.processing = [] := by
  apply List.eq_nil_iff_forall_not_mem.mpr
  intro key processed
  rw [← queue_history] at processed
  rcases ((orderly.disciplined.sound start).held key).mp processed with ⟨worker, holds⟩
  rw [orderly.holds_iff, free worker] at holds
  simp at holds

end Pool

end WorkQueue

/-! ## Workers that wait -/

/-- No worker that looks at a closed queue takes a key. -/
theorem SharedQueue.Step.returning_before {Worker : Type} [DecidableEq Worker]
    {shared next : SharedQueue Worker} {worker : Worker} {key : String}
    (step : shared.Step next) (closed : shared.queue.isClosed = true)
    (returning : next.place worker = .returning (some key)) :
    shared.place worker = .returning (some key) := by
  have kept {mover : Worker} {place : Place} (other : place ≠ .returning (some key))
      (moved : Function.update shared.place mover place worker = .returning (some key)) :
      shared.place worker = .returning (some key) := by
    by_cases same : worker = mover
    · rw [same, Function.update_self] at moved
      exact absurd moved other
    · rwa [Function.update_of_ne same] at moved
  cases step with
  | take mover checking handed =>
      simp [WorkQueue.dequeue?_eq_none (Or.inl closed)] at handed
  | ask | enable | turnAway | sleep | wake | giveUp | notify => exact kept (by simp) returning
  | @leave mover key? passesAll leaves => exact kept (by cases key? <;> simp) returning
  | done mover holding => exact kept (by split <;> simp) returning
  | add | notifyAdded | close | notifyClosed | aside => exact returning

namespace WorkQueue.Pool

variable {Worker : Type} [DecidableEq Worker]

/--
After a shutdown, whatever happens in whatever order, no key is handed out, what is
ready and what waits stays as it is, and keys are only taken out of the processed
ones.  A worker that takes its turn to ask for a key stops, and one that has a key
stops after it has settled its pass, released the key and asked again; when all have
stopped, nothing is processed.  No worker sleeps through a shutdown that has
returned, and none that looks at the queue later is given a key.
-/
theorem shutdown_drains :
    (∀ (history : History Worker) (shut first later : Nat), history.event shut = .shutdown →
      shut < first → first ≤ later →
      Drains (history.queue first) (history.queue later) ∧
        ∀ key, ¬ history.HandsOut later key) ∧
    (∀ (pool : Pool Worker) (shut start : Nat), pool.Orderly →
      pool.history.event shut = .shutdown → shut < start →
      (∀ worker, (pool.crew start).tasks worker = .idle →
        (pool.act start).actor? = some worker →
        (pool.crew (start + 1)).tasks worker = .stopped) ∧
      (∀ worker span, (pool.crew (start + span)).tasks worker = .stopped ↔
        ((pool.crew start).tasks worker).turnsLeft ≤ pool.turns worker start span) ∧
      ((∀ worker, (pool.crew start).tasks worker = .stopped) →
        (pool.crew start).queue.processing = [])) ∧
    ∀ (workers : Nat) (bounds : BackoffBounds) (shared : SharedQueue (Fin workers)),
      SharedQueue.Reached bounds shared → shared.isShutDown = true →
      ∀ worker, ¬ shared.Sleeps worker ∧
        ∀ next, shared.Step next → ∀ key, next.place worker = .returning (some key) →
          shared.place worker = .returning (some key) := by
  refine ⟨?_, ?_, ?_⟩
  · intro history shut first later shuts after order
    have drains := History.drains (History.isClosed_of_shutdown shuts after) order
    exact ⟨drains, History.not_handsOut_of_isClosed drains.closed⟩
  · intro pool shut start orderly shuts after
    have closed : (pool.crew start).queue.isClosed = true := by
      rw [← queue_history]
      exact History.isClosed_of_shutdown shuts after
    refine ⟨fun worker => stopped_of_idle closed, ?_, ?_⟩
    · intro worker span
      rw [← Task.turnsLeft_eq_zero_iff, turnsLeft_eq closed]
      exact Nat.sub_eq_zero_iff_le
    · intro stopped
      apply orderly.processing_eq_nil
      intro worker
      rw [stopped worker]
      rfl
  · intro workers bounds shared reached shutDown worker
    have sound := reached.sound
    refine ⟨sound.awake shutDown worker, ?_⟩
    intro next step key
    exact step.returning_before (sound.closed_iff.mpr (Or.inr shutDown))

/--
A worker has a key with an addition parked behind it when the queue closes, another
key is ready, and a third one is still delayed.  The pass fails and is retried.
-/
def closingQueue : Pool (Fin 2) where
  act
    | 0 | 3 => .outside (.add "ns/db")
    | 2 => .outside (.enqueue "ns/late")
    | 4 => .outside (.add "ns/other")
    | 5 => .outside .shutdown
    | 6 => .outside (.fire ⟨5000000, "ns/late"⟩)
    | 7 => .turn 0 (.error (.conflict "ns/db" "patch failed"))
    | 1 | 8 | 9 => .turn 0 (.ok .deleted)
    | 10 => .turn 1 (.ok .deleted)
    | _ => .outside (.rest 0)

theorem closingQueue_orderly : closingQueue.Orderly where
  asks moment worker act := by
    match moment with
    | 0 | 1 | 2 | 3 | 4 | 5 | 6 | 7 | 8 | 9 | 10 | _ + 11 => simp [closingQueue] at act
  releases moment worker key act := by
    match moment with
    | 0 | 1 | 2 | 3 | 4 | 5 | 6 | 7 | 8 | 9 | 10 | _ + 11 => simp [closingQueue] at act
  fires moment addition act := by
    match moment with
    | 6 =>
        obtain rfl : ⟨5000000, "ns/late"⟩ = addition := by simpa [closingQueue] using act
        decide +kernel
    | 0 | 1 | 2 | 3 | 4 | 5 | 7 | 8 | 9 | 10 | _ + 11 => simp [closingQueue] at act

theorem closingQueue_drains :
    (closingQueue.history.queue 6).processing = ["ns/db"] ∧
      (closingQueue.history.queue 11).ready = ["ns/other"] ∧
      (closingQueue.history.queue 11).dirty = ["ns/other", "ns/db"] ∧
      (∀ worker, (closingQueue.crew 11).tasks worker = .stopped) ∧
      (closingQueue.crew 11).queue.processing = [] ∧
      ∃ shared : SharedQueue (Fin 1), SharedQueue.Reached {} shared ∧
        shared.isShutDown = true ∧ ¬ shared.Sleeps 0 := by
  have shuts : closingQueue.history.event 5 = .shutdown := rfl
  rcases @shutdown_drains (Fin 2) _ with ⟨queues, workers, waiting⟩
  have drains := (queues closingQueue.history 5 6 11 shuts (by decide) (by decide)).1
  have ready : (closingQueue.history.queue 6).ready = ["ns/other"] := by decide +kernel
  have dirty : (closingQueue.history.queue 6).dirty = ["ns/other", "ns/db"] := by decide +kernel
  have stopped (worker : Fin 2) : (closingQueue.crew 11).tasks worker = .stopped := by
    apply ((workers closingQueue 5 6 closingQueue_orderly shuts (by decide)).2.1 worker 5).mpr
    revert worker
    decide +kernel
  have asleep : SharedQueue.Reached {} _ :=
    ((SharedQueue.Reached.new.step (.ask (0 : Fin 1) rfl)).step (.enable 0 rfl)).step
      (.sleep 0 rfl rfl rfl)
  have closed := (asleep.step .close).step (.notifyClosed rfl)
  refine ⟨by decide +kernel, drains.ready.trans ready, drains.dirty.trans dirty, stopped, ?_,
    _, closed, rfl, (waiting 1 {} _ closed rfl 0).1⟩
  exact (workers closingQueue 5 11 closingQueue_orderly shuts (by decide)).2.2 stopped

end WorkQueue.Pool

end GaleraControl

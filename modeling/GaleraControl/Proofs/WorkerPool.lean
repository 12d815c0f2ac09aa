import GaleraControl.Proofs.Delivery
import GaleraControl.Proofs.Requeues
import GaleraControl.Worker
import Mathlib.Logic.Function.Basic

/-!
# The workers of a queue

Each worker goes round in a loop: it asks for a key, runs the pass of the key,
settles the result with the queue, and releases the key.  A `Pool` lets any
number of workers take these steps in any order, among whatever producers and
delayed additions do meanwhile; how a pass ends is left open.

What the workers do is a history of the queue in which only holders release keys,
so what holds of all such histories holds here.  A retry is made while its key is
still held, and may take effect before or after the release; either way the key
waits until it is handed out again.
-/

namespace GaleraControl.WorkQueue

variable {Worker : Type} {queue : WorkQueue} {key : String}

namespace History

variable {history : History Worker} {moment : Nat}

/-- A key that is handed out is held by nobody. -/
theorem Disciplined.free_of_handsOut (disciplined : history.Disciplined)
    (hands : history.HandsOut moment key) : key ∉ (history.queue moment).processing := by
  rcases exists_ready_of_handsOut hands with ⟨_, rest, ready⟩
  exact ((disciplined.sound moment).consistent.waiting key (by simp [ready])).2

/-- What a key waits for that has not been handed out. -/
inductive Awaits (history : History Worker) (moment : Nat) (key : String) : Prop where
  | pending (addition : DelayedAddition) (named : addition.key = key)
      (delayed : addition ∈ (history.queue moment).delayed)
  | ready (waits : key ∈ (history.queue moment).ready)
  /-- The key is held, and its release makes it ready. -/
  | parked (waits : key ∈ (history.queue moment).dirty)
      (held : key ∈ (history.queue moment).processing)

/-- A call is pending or has taken effect, and then its key waits until it is handed out. -/
theorem Disciplined.awaits_of_call (disciplined : history.Disciplined) (call : history.Call)
    (order : call.moment < moment) (opened : (history.queue moment).isClosed = false)
    (unhanded : ∀ handed, call.moment < handed → handed < moment →
      ¬ history.HandsOut handed call.key) : history.Awaits moment call.key := by
  rcases call.isPending_or_takesEffect order with pending | ⟨effect, before, takes⟩
  · exact .pending call.addition rfl pending.2
  · have since : call.moment ≤ effect := by
      cases takes with
      | atOnce immediate => exact Nat.le_refl _
      | later postponed after fires => exact Nat.le_of_lt after
    rcases disciplined.kept (takes.adds (opened_before before.le opened)) before opened with
      ⟨handed, after, within, hands⟩ | waits | ⟨worker, held, waits, _⟩
    · exact absurd hands (unhanded handed (Nat.lt_of_le_of_lt since after) within)
    · exact .ready waits
    · exact .parked waits (((disciplined.sound moment).held call.key).mpr ⟨worker, held⟩)

end History

/-! ## Workers -/

/-- What a worker is at. -/
inductive Task where
  /-- It asks for a key next. -/
  | idle
  | passing (key : String)
  /-- The pass of its key has ended and is settled; the key is released next. -/
  | releasing (key : String) (result : Except SyncError Pass.SyncOutcome)
  /-- It was told that the queue is closed. -/
  | stopped

def Task.key? : Task → Option String
  | .passing key | .releasing key _ => some key
  | _ => none

/-- The pass failed for a passing reason. -/
def IsRetried : Except SyncError Pass.SyncOutcome → Prop
  | .ok _ => False
  | .error error => error.isRetryable = true

/-- What the settlement of a result is in a history of the queue. -/
def settling (key : String) : Except SyncError Pass.SyncOutcome → Event Worker
  | .ok _ => .forget key
  | .error error => if error.isRetryable then .retry key else .forget key

theorem settling_of_retried {result : Except SyncError Pass.SyncOutcome}
    (retried : IsRetried result) :
    (settling key result : Event Worker) = .retry key := by
  cases result with
  | ok outcome => exact absurd retried id
  | error error => exact if_pos retried

theorem settling_of_not_retried {result : Except SyncError Pass.SyncOutcome}
    (settled : ¬ IsRetried result) :
    (settling key result : Event Worker) = .forget key := by
  cases result with
  | ok outcome => rfl
  | error error => exact if_neg settled

/-- The program settles a result by this event. -/
theorem after_settling (queue : WorkQueue) (key : String)
    (result : Except SyncError Pass.SyncOutcome) :
    queue.after (settling key result : Event Worker) =
      GaleraControl.Worker.settle queue key result := by
  unfold settling GaleraControl.Worker.settle
  cases result with
  | ok outcome => rfl
  | error error =>
      dsimp only
      split <;> rfl

/-- What happens next in a pool. -/
inductive Act (Worker : Type) where
  /-- A worker takes its next step; the pass that it runs, if any, ends with this result. -/
  | turn (worker : Worker) (result : Except SyncError Pass.SyncOutcome)
  | outside (event : Event Worker)

/-- A queue with the tasks of its workers. -/
structure Crew (Worker : Type) where
  queue : WorkQueue
  tasks : Worker → Task := fun _ => .idle

namespace Crew

/-- What an act is to the queue. -/
def event (crew : Crew Worker) : Act Worker → Event Worker
  | .turn worker result =>
      match crew.tasks worker with
      | .idle => .dequeue worker
      | .passing key => settling key result
      | .releasing key _ => .done worker key
      | .stopped => .rest crew.queue.now
  | .outside event => event

/-- What a worker is at after its turn. -/
def next (crew : Crew Worker) (worker : Worker)
    (result : Except SyncError Pass.SyncOutcome) : Task :=
  match crew.tasks worker with
  | .idle =>
      if crew.queue.isClosed then .stopped
      else (crew.queue.dequeue?.map fun handed => Task.passing handed.1).getD .idle
  | .passing key => .releasing key result
  | .releasing _ _ => .idle
  | .stopped => .stopped

/-- What the turn of a worker makes of the queue. -/
def turned (crew : Crew Worker) (worker : Worker)
    (result : Except SyncError Pass.SyncOutcome) : WorkQueue :=
  match crew.tasks worker with
  | .idle => (crew.queue.dequeue?.map Prod.snd).getD crew.queue
  | .passing key => GaleraControl.Worker.settle crew.queue key result
  | .releasing key _ => crew.queue.done key
  | .stopped => crew.queue

def after [DecidableEq Worker] (crew : Crew Worker) (act : Act Worker) : Crew Worker where
  queue :=
    match act with
    | .turn worker result => crew.turned worker result
    | .outside event => crew.queue.after event
  tasks :=
    match act with
    | .turn worker result => Function.update crew.tasks worker (crew.next worker result)
    | .outside _ => crew.tasks

/-! ### What a turn is -/

section Turns

variable {crew : Crew Worker} {actor worker : Worker}
  {result : Except SyncError Pass.SyncOutcome}

theorem turned_of_passing (passing : crew.tasks worker = .passing key) :
    crew.turned worker result = GaleraControl.Worker.settle crew.queue key result := by
  simp only [turned, passing]

theorem turned_of_releasing {ended : Except SyncError Pass.SyncOutcome}
    (releasing : crew.tasks worker = .releasing key ended) :
    crew.turned worker result = crew.queue.done key := by
  simp only [turned, releasing]

/-- A turn is to the queue what its event is. -/
theorem turned_eq_after (crew : Crew Worker) (worker : Worker)
    (result : Except SyncError Pass.SyncOutcome) :
    crew.turned worker result = crew.queue.after (crew.event (.turn worker result)) := by
  dsimp only [turned, event]
  cases crew.tasks worker with
  | idle => rfl
  | passing key => exact (after_settling crew.queue key result).symm
  | releasing key ended => rfl
  | stopped =>
      show crew.queue = crew.queue.rest crew.queue.now
      rw [rest, Nat.max_self]

theorem queue_after [DecidableEq Worker] (crew : Crew Worker) (act : Act Worker) :
    (crew.after act).queue = crew.queue.after (crew.event act) := by
  cases act with
  | turn worker result => exact crew.turned_eq_after worker result
  | outside event => rfl

theorem eq_of_settling {event : Event Worker} (settles : settling key result = event) :
    event = .retry key ∨ event = .forget key := by
  rw [← settles]
  cases result with
  | ok outcome => exact Or.inr rfl
  | error error =>
      unfold settling
      dsimp only
      split
      · exact Or.inl rfl
      · exact Or.inr rfl

theorem event_of_handed {event : Event Worker}
    (handed : queue.handed? event = some (worker, key)) : event = .dequeue worker := by
  cases event with
  | dequeue asker =>
      rcases Option.map_eq_some_iff.mp handed with ⟨_, _, same⟩
      rw [(Prod.mk.inj same).1]
  | _ => simp [handed?] at handed

theorem idle_of_event (asks : crew.event (.turn actor result) = .dequeue worker) :
    actor = worker ∧ crew.tasks actor = .idle := by
  cases task : crew.tasks actor with
  | idle => simpa [event, task] using asks
  | passing held =>
      simp only [event, task] at asks
      rcases eq_of_settling asks with same | same <;> simp at same
  | releasing held ended => simp [event, task] at asks
  | stopped => simp [event, task] at asks

theorem releasing_of_event (releases : crew.event (.turn actor result) = .done worker key) :
    actor = worker ∧ ∃ ended, crew.tasks actor = .releasing key ended := by
  cases task : crew.tasks actor with
  | idle => simp [event, task] at releases
  | passing held =>
      simp only [event, task] at releases
      rcases eq_of_settling releases with same | same <;> simp at same
  | releasing held ended => simpa [event, task] using releases
  | stopped => simp [event, task] at releases

theorem event_turn_ne_fire (crew : Crew Worker) (worker : Worker)
    (result : Except SyncError Pass.SyncOutcome) (addition : DelayedAddition) :
    crew.event (.turn worker result) ≠ .fire addition := by
  intro fires
  cases task : crew.tasks worker with
  | passing held =>
      simp only [event, task] at fires
      rcases eq_of_settling fires with same | same <;> simp at same
  | _ => simp [event, task] at fires

/-- After its turn a worker has the key that it was handed or has not released. -/
theorem holds_next_iff (crew : Crew Worker) (worker : Worker)
    (result : Except SyncError Pass.SyncOutcome) (key : String) :
    (crew.queue.handed? (crew.event (.turn worker result)) = some (worker, key) ∨
        ((crew.tasks worker).key? = some key ∧
          crew.event (.turn worker result) ≠ .done worker key)) ↔
      (crew.next worker result).key? = some key := by
  cases task : crew.tasks worker with
  | idle =>
      simp only [event, next, task, handed?, Task.key?]
      by_cases closed : crew.queue.isClosed = true
      · simp [closed, dequeue?_eq_none (Or.inl closed)]
      · cases crew.queue.dequeue? <;> simp [closed]
  | passing held =>
      simp only [event, next, task, Task.key?]
      generalize settles : settling held result = happened
      rcases eq_of_settling settles with rfl | rfl <;> simp [handed?]
  | releasing held ended =>
      simp only [event, next, task, handed?, Task.key?]
      simp
  | stopped => simp [event, next, task, handed?, Task.key?]

/-- A worker that is about to release a key has just settled the pass of it. -/
theorem passing_of_next {ended : Except SyncError Pass.SyncOutcome}
    (releases : crew.next worker result = .releasing key ended) :
    crew.tasks worker = .passing key ∧ result = ended := by
  cases task : crew.tasks worker with
  | idle =>
      simp only [next, task] at releases
      split at releases
      · simp at releases
      · cases handed : crew.queue.dequeue? <;> simp [handed] at releases
  | passing held => simpa [next, task] using releases
  | releasing held result => simp [next, task] at releases
  | stopped => simp [next, task] at releases

end Turns

end Crew

/-- Acts that follow each other on a new queue with idle workers. -/
structure Pool (Worker : Type) where
  bounds : BackoffBounds := {}
  act : Nat → Act Worker

namespace Pool

variable [DecidableEq Worker] {pool : Pool Worker} {moment : Nat} {worker : Worker}
  {result : Except SyncError Pass.SyncOutcome}

def crew (pool : Pool Worker) : Nat → Crew Worker
  | 0 => { queue := .new pool.bounds }
  | moment + 1 => (pool.crew moment).after (pool.act moment)

/-- The history of the queue. -/
def history (pool : Pool Worker) : History Worker where
  bounds := pool.bounds
  event moment := (pool.crew moment).event (pool.act moment)

/--
Only workers ask for keys and release them, and only what is delayed takes effect
later.
-/
structure Orderly (pool : Pool Worker) : Prop where
  asks : ∀ moment worker, pool.act moment ≠ .outside (.dequeue worker)
  releases : ∀ moment worker key, pool.act moment ≠ .outside (.done worker key)
  fires : ∀ moment addition, pool.act moment = .outside (.fire addition) →
    addition ∈ (pool.crew moment).queue.delayed

/-- The pass of a worker ends, and its result is settled. -/
def Settles (pool : Pool Worker) (moment : Nat) (worker : Worker) (key : String)
    (result : Except SyncError Pass.SyncOutcome) : Prop :=
  (pool.crew moment).tasks worker = .passing key ∧ pool.act moment = .turn worker result

/-- A worker is through with a key. -/
def Finishes (pool : Pool Worker) (moment : Nat) (worker : Worker) (key : String)
    (result : Except SyncError Pass.SyncOutcome) : Prop :=
  (pool.crew moment).tasks worker = .releasing key result ∧
    ∃ other, pool.act moment = .turn worker other

theorem queue_history (pool : Pool Worker) (moment : Nat) :
    pool.history.queue moment = (pool.crew moment).queue := by
  induction moment with
  | zero => rfl
  | succ moment ih =>
      rw [History.queue_succ, ih]
      exact (Crew.queue_after (pool.crew moment) (pool.act moment)).symm

/-- The queue after the turn of a worker. -/
theorem queue_of_turn (turns : pool.act moment = .turn worker result) :
    pool.history.queue (moment + 1) = (pool.crew moment).turned worker result := by
  rw [queue_history]
  show ((pool.crew moment).after (pool.act moment)).queue = _
  rw [turns]
  rfl

/-! ## What a worker holds -/

theorem tasks_succ_of_ne (other : ∀ result, pool.act moment ≠ .turn worker result) :
    (pool.crew (moment + 1)).tasks worker = (pool.crew moment).tasks worker := by
  show ((pool.crew moment).after (pool.act moment)).tasks worker = _
  unfold Crew.after
  cases act : pool.act moment with
  | turn actor result =>
      have apart : worker ≠ actor := by
        rintro rfl
        exact other result act
      exact Function.update_of_ne apart _ _
  | outside event => rfl

theorem tasks_succ_self (turns : pool.act moment = .turn worker result) :
    (pool.crew (moment + 1)).tasks worker = (pool.crew moment).next worker result := by
  show ((pool.crew moment).after (pool.act moment)).tasks worker = _
  rw [turns]
  exact Function.update_self worker _ _

/-- Only a worker in its turn is handed a key. -/
theorem Orderly.turn_of_hands (orderly : pool.Orderly)
    (hands : pool.history.Hands moment worker key) :
    ∃ result, pool.act moment = .turn worker result := by
  have asks : (pool.crew moment).event (pool.act moment) = .dequeue worker :=
    Crew.event_of_handed hands
  cases act : pool.act moment with
  | turn actor result =>
      rw [act] at asks
      exact ⟨result, by rw [(Crew.idle_of_event asks).1]⟩
  | outside event =>
      rw [act] at asks
      exact absurd (asks ▸ act) (orderly.asks moment worker)

/-- Only a worker in its turn releases a key, and it releases the key that it is through with. -/
theorem Orderly.turn_of_done (orderly : pool.Orderly)
    (releases : pool.history.event moment = .done worker key) :
    ∃ result ended, pool.act moment = .turn worker result ∧
      (pool.crew moment).tasks worker = .releasing key ended := by
  have releases : (pool.crew moment).event (pool.act moment) = .done worker key := releases
  cases act : pool.act moment with
  | turn actor result =>
      rw [act] at releases
      rcases Crew.releasing_of_event releases with ⟨rfl, ended, task⟩
      exact ⟨result, ended, rfl, task⟩
  | outside event =>
      rw [act] at releases
      exact absurd (releases ▸ act) (orderly.releases moment worker key)

/-- A worker holds the key of its task. -/
theorem Orderly.holds_iff (orderly : pool.Orderly) (moment : Nat) (worker : Worker)
    (key : String) :
    pool.history.Holds moment worker key ↔
      ((pool.crew moment).tasks worker).key? = some key := by
  induction moment with
  | zero => simp [History.Holds, crew, Task.key?]
  | succ moment ih =>
      rw [History.holds_succ_iff, ih]
      by_cases turns : ∃ result, pool.act moment = .turn worker result
      · rcases turns with ⟨result, act⟩
        have event : pool.history.event moment =
            (pool.crew moment).event (.turn worker result) := act ▸ rfl
        rw [tasks_succ_self act, History.Hands, queue_history, event]
        exact Crew.holds_next_iff _ worker result key
      · have stays := tasks_succ_of_ne (not_exists.mp turns)
        have hands : ¬ pool.history.Hands moment worker key :=
          fun hands => turns (orderly.turn_of_hands hands)
        have releases : pool.history.event moment ≠ .done worker key := by
          intro releases
          rcases orderly.turn_of_done releases with ⟨result, _, act, _⟩
          exact turns ⟨result, act⟩
        simp [stays, hands, releases]

/-- What a pool does is a history in which only holders release keys. -/
theorem Orderly.disciplined (orderly : pool.Orderly) : pool.history.Disciplined where
  fires moment addition fires := by
    have fires : (pool.crew moment).event (pool.act moment) = .fire addition := fires
    rw [queue_history]
    cases act : pool.act moment with
    | turn worker result =>
        rw [act] at fires
        exact absurd fires (Crew.event_turn_ne_fire _ worker result addition)
    | outside event =>
        rw [act] at fires
        exact orderly.fires moment addition (fires ▸ act)
  releases moment worker key releases := by
    rcases orderly.turn_of_done releases with ⟨_, ended, _, task⟩
    rw [orderly.holds_iff, task]
    rfl

/-! ## What becomes of a key -/

/-- A worker is about to release a key from the moment on at which its pass was settled. -/
theorem exists_settles {finished : Nat}
    (task : (pool.crew finished).tasks worker = .releasing key result) :
    ∃ settled < finished, pool.Settles settled worker key result ∧
      ∀ between, settled < between → between ≤ finished →
        (pool.crew between).tasks worker = .releasing key result := by
  induction finished with
  | zero => simp [crew] at task
  | succ moment ih =>
      by_cases turns : ∃ ended, pool.act moment = .turn worker ended
      · rcases turns with ⟨ended, act⟩
        have next := task
        rw [tasks_succ_self act] at next
        rcases Crew.passing_of_next next with ⟨passing, rfl⟩
        refine ⟨moment, Nat.lt_succ_self moment, ⟨passing, act⟩, ?_⟩
        intro between after before
        obtain rfl : between = moment + 1 := Nat.le_antisymm before after
        exact task
      · have stays := tasks_succ_of_ne (not_exists.mp turns)
        rcases ih (stays ▸ task) with ⟨settled, past, settles, lasts⟩
        refine ⟨settled, Nat.lt_succ_of_lt past, settles, ?_⟩
        intro between after before
        rcases Nat.lt_or_eq_of_le before with earlier | rfl
        · exact lasts between after (Nat.le_of_lt_succ earlier)
        · exact task

theorem Settles.event_eq (settles : pool.Settles moment worker key result) :
    pool.history.event moment = settling key result := by
  have event : pool.history.event moment = (pool.crew moment).event (pool.act moment) := rfl
  rw [event, settles.2]
  simp only [Crew.event, settles.1]

theorem Orderly.not_holds_of_finishes (orderly : pool.Orderly)
    (finishes : pool.Finishes moment worker key result) (other : String) :
    ¬ pool.history.Holds (moment + 1) worker other := by
  rcases finishes with ⟨task, ended, act⟩
  rw [orderly.holds_iff, tasks_succ_self act]
  simp [Crew.next, task, Task.key?]

/-- The key of a failed pass waits until it is handed out after its release. -/
theorem Orderly.awaits_of_settles (orderly : pool.Orderly) {settled finished : Nat}
    (settles : pool.Settles settled worker key result) (retried : IsRetried result)
    (lasts : ∀ between, settled < between → between ≤ finished →
      (pool.crew between).tasks worker = .releasing key result)
    (order : settled < moment) (opened : (pool.history.queue moment).isClosed = false)
    (unhanded : ∀ handed, finished < handed → handed < moment →
      ¬ pool.history.HandsOut handed key) : pool.history.Awaits moment key := by
  have disciplined := orderly.disciplined
  have event : pool.history.event settled = .retry key := by
    rw [settles.event_eq, settling_of_retried retried]
  let call : pool.history.Call :=
    { moment := settled
      key := key
      delay := ((pool.history.queue settled).backoff.next key).1
      opened := History.opened_before order.le opened
      asked := by rw [event]; rfl }
  refine disciplined.awaits_of_call call order opened ?_
  intro handed after before hands
  by_cases held : handed ≤ finished
  · -- Until the release the worker has the key, so nobody is handed it.
    have holds : pool.history.Holds handed worker key := by
      rw [orderly.holds_iff, lasts handed after held]
      rfl
    exact disciplined.free_of_handsOut hands
      (((disciplined.sound handed).held key).mpr ⟨worker, holds⟩)
  · exact unhanded handed (Nat.lt_of_not_le held) before hands

/-- The queue is settled with the result by the turn that ends the pass. -/
theorem Settles.queue_succ (settles : pool.Settles moment worker key result) :
    pool.history.queue (moment + 1) =
      GaleraControl.Worker.settle (pool.history.queue moment) key result := by
  rw [queue_of_turn settles.2, Crew.turned_of_passing settles.1, queue_history]

/-- The key is released by the turn with which its worker is through. -/
theorem Finishes.queue_succ (finishes : pool.Finishes moment worker key result) :
    pool.history.queue (moment + 1) = (pool.history.queue moment).done key := by
  rcases finishes with ⟨releasing, other, turns⟩
  rw [queue_of_turn turns, Crew.turned_of_releasing releasing, queue_history]

/-- What the turns of a worker with a key have made of the queue. -/
structure Concludes (pool : Pool Worker) (settled finished : Nat) (key : String)
    (result : Except SyncError Pass.SyncOutcome) : Prop where
  settles : pool.history.queue (settled + 1) =
    GaleraControl.Worker.settle (pool.history.queue settled) key result
  releases : pool.history.queue (finished + 1) = (pool.history.queue finished).done key
  /-- If nothing comes between, the pass is concluded as a whole. -/
  concludes : finished = settled + 1 → pool.history.queue (finished + 1) =
    GaleraControl.Worker.conclude (pool.history.queue settled) key result

theorem Settles.concludes {settled finished : Nat}
    (settles : pool.Settles settled worker key result)
    (finishes : pool.Finishes finished worker key result) :
    pool.Concludes settled finished key result where
  settles := settles.queue_succ
  releases := finishes.queue_succ
  concludes := by
    rintro rfl
    rw [finishes.queue_succ, settles.queue_succ, GaleraControl.Worker.conclude]

/--
A worker that is through with a key does not hold it, and has settled the pass and
released the key as the program does.  If the pass failed for a passing reason, the
key waits in the open queue until it is handed out again, and otherwise its counter
was reset when the result was settled.  The counter is the number of attempts since
the key was last forgotten, up to its limit, and what happens to other keys does not
change it.
-/
theorem Orderly.items_released_and_counted (orderly : pool.Orderly) :
    (∀ finished worker key result, pool.Finishes finished worker key result →
      ¬ pool.history.Holds (finished + 1) worker key ∧
      ∃ settled < finished, pool.Settles settled worker key result ∧
        pool.Concludes settled finished key result ∧
        (IsRetried result → ∀ moment, settled < moment →
          (pool.history.queue moment).isClosed = false →
          (∀ handed, finished < handed → handed < moment →
            ¬ pool.history.HandsOut handed key) → pool.history.Awaits moment key) ∧
        (¬ IsRetried result → (pool.history.queue (settled + 1)).requeues key = 0)) ∧
    (∀ moment key, ((pool.history.queue moment).requeues key).toNat =
      min (pool.history.attempts key moment) (UInt32.size - 1)) ∧
    ∀ moment key, (pool.history.event moment).attempted? ≠ some key →
      (pool.history.event moment).forgotten? ≠ some key →
      (pool.history.queue (moment + 1)).requeues key =
        (pool.history.queue moment).requeues key := by
  refine ⟨fun finished worker key result finishes => ?_,
    fun moment key => pool.history.toNat_requeues key moment,
    fun moment key attempts forgets => ?_⟩
  · rcases exists_settles finishes.1 with ⟨settled, before, settles, lasts⟩
    refine ⟨orderly.not_holds_of_finishes finishes key, settled, before, settles,
      settles.concludes finishes, ?_, ?_⟩
    · intro retried moment order opened unhanded
      exact orderly.awaits_of_settles settles retried lasts order opened unhanded
    · intro settledForGood
      rw [History.queue_succ, requeues_after, settles.event_eq,
        settling_of_not_retried settledForGood]
      exact if_pos rfl
  · rw [History.queue_succ, requeues_after, if_neg forgets, if_neg attempts]

/--
A pass fails, and its retry takes effect before its worker releases the key, which
another worker takes then.
-/
def failingItem : Pool Nat where
  act
    | 0 => .outside (.enqueue "ns/db")
    | 1 => .outside (.fire ⟨5000000, "ns/db"⟩)
    | 3 => .turn 1 (.error (.conflict "ns/db" "patch failed"))
    | 4 => .outside (.fire ⟨15000000, "ns/db"⟩)
    | 2 | 5 => .turn 1 (.ok .deleted)
    | 6 => .turn 2 (.ok .deleted)
    | _ => .outside (.rest 0)

theorem failingItem_orderly : failingItem.Orderly where
  asks moment worker act := by
    match moment with
    | 0 | 1 | 2 | 3 | 4 | 5 | 6 | _ + 7 => simp [failingItem] at act
  releases moment worker key act := by
    match moment with
    | 0 | 1 | 2 | 3 | 4 | 5 | 6 | _ + 7 => simp [failingItem] at act
  fires moment addition act := by
    match moment with
    | 1 =>
        obtain rfl : ⟨5000000, "ns/db"⟩ = addition := by simpa [failingItem] using act
        decide +kernel
    | 4 =>
        obtain rfl : ⟨15000000, "ns/db"⟩ = addition := by simpa [failingItem] using act
        decide +kernel
    | 0 | 2 | 3 | 5 | 6 | _ + 7 => simp [failingItem] at act

theorem failingItem_released_and_counted :
    failingItem.Finishes 5 1 "ns/db" (.error (.conflict "ns/db" "patch failed")) ∧
      ¬ failingItem.history.Holds 6 1 "ns/db" ∧
      failingItem.history.Awaits 5 "ns/db" ∧ failingItem.history.Awaits 6 "ns/db" ∧
      ((failingItem.history.queue 6).requeues "ns/db").toNat = 2 := by
  have finishes :
      failingItem.Finishes 5 1 "ns/db" (.error (.conflict "ns/db" "patch failed")) :=
    ⟨rfl, _, rfl⟩
  rcases failingItem_orderly.items_released_and_counted with ⟨items, counted, _⟩
  rcases items 5 1 "ns/db" _ finishes with ⟨free, settled, before, settles, _, kept, _⟩
  have waits (moment : Nat) (order : settled < moment) (early : moment ≤ 6)
      (opened : (failingItem.history.queue moment).isClosed = false) :
      failingItem.history.Awaits moment "ns/db" := by
    refine kept rfl moment order opened fun handed after before => ?_
    omega
  refine ⟨finishes, free, waits 5 before (by omega) (by decide +kernel),
    waits 6 (Nat.lt_succ_of_lt before) (by omega) (by decide +kernel), ?_⟩
  rw [counted]
  decide +kernel

end Pool

end GaleraControl.WorkQueue

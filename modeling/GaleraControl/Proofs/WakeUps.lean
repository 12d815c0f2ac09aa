import GaleraControl.WorkQueue.Notify
import Mathlib.Algebra.BigOperators.Group.Finset.Basic
import Mathlib.Data.Fintype.Basic
import Mathlib.Data.List.Nodup

/-!
# No wake-up is lost

The lock is let go before anybody is notified, one kept notification may stand for
several additions, and a worker that looks at the queue by itself may take a key
that another one was notified of.  Still no key stays ready while a worker sleeps
and nobody is on the way.

The argument counts.  As long as the queue is open and a worker sleeps that was not
notified, there are at least as many wake-ups on the way as ready keys: outstanding
calls, notified workers, and workers that have not looked at the queue yet.  A
notification that finds nobody may get lost in a kept one; but then nobody sleeps,
and whoever falls asleep later has seen that no key is ready.
-/

namespace GaleraControl

variable {Worker : Type}

/-! ## Counting over the workers -/

section Sums

variable [Fintype Worker] {Value : Type} (weight : Value → Nat) (value : Worker → Value)

theorem sum_weight_update [DecidableEq Worker] (worker : Worker) (new : Value) :
    (∑ other, weight (Function.update value worker new other)) + weight (value worker) =
      (∑ other, weight (value other)) + weight new := by
  have split : ∀ f : Worker → Nat,
      ∑ other, f other = f worker + ∑ other ∈ Finset.univ.erase worker, f other :=
    fun f => (Finset.add_sum_erase Finset.univ f (Finset.mem_univ worker)).symm
  have others : ∑ other ∈ Finset.univ.erase worker,
        weight (Function.update value worker new other) =
      ∑ other ∈ Finset.univ.erase worker, weight (value other) :=
    Finset.sum_congr rfl fun other mem => by
      rw [Function.update_of_ne (Finset.ne_of_mem_erase mem)]
  rw [split, split fun other => weight (value other), others, Function.update_self]
  omega

theorem exists_weight_pos (positive : 0 < ∑ worker, weight (value worker)) :
    ∃ worker, 0 < weight (value worker) := by
  rcases Finset.exists_ne_zero_of_sum_ne_zero positive.ne' with ⟨worker, _, nonzero⟩
  exact ⟨worker, Nat.pos_of_ne_zero nonzero⟩

end Sums

/-! ## Registrations -/

/-- A ticket that stands for a notification of one worker. -/
def Ticket.weight : Ticket → Nat
  | .notified .one => 1
  | _ => 0

namespace Notify

/-- The line holds the registered workers that wait, each once. -/
structure Sound (notify : Notify Worker) : Prop where
  mem_line : ∀ worker, worker ∈ notify.line ↔ notify.ticket worker = .waiting
  nodup : notify.line.Nodup

theorem Sound.new : ({} : Notify Worker).Sound where
  mem_line worker := by simp
  nodup := List.nodup_nil

variable [DecidableEq Worker] {notify : Notify Worker} {worker other : Worker}

@[simp]
theorem ticket_withTicket (other : Worker) (ticket : Ticket) :
    (notify.withTicket worker ticket).ticket other =
      if other = worker then ticket else notify.ticket other := by
  simp [withTicket, Function.update_apply]

@[simp]
theorem line_withTicket (ticket : Ticket) :
    (notify.withTicket worker ticket).line = notify.line := rfl

namespace Sound

/-- A worker that does not wait may use its ticket up. -/
theorem spend (sound : notify.Sound) (told : notify.ticket worker ≠ .waiting) :
    (notify.withTicket worker .spent).Sound where
  mem_line other := by
    rw [line_withTicket, ticket_withTicket, sound.mem_line]
    split
    next same => simp [same, told]
    next => rfl
  nodup := sound.nodup

theorem notifyOne (sound : notify.Sound) : notify.notifyOne.Sound := by
  unfold Notify.notifyOne
  split
  next empty => exact ⟨sound.mem_line, sound.nodup⟩
  next oldest line same =>
    have nodup : (oldest :: line).Nodup := same ▸ sound.nodup
    refine ⟨fun other => ?_, (List.nodup_cons.mp nodup).2⟩
    have mem : other ∈ oldest :: line ↔ notify.ticket other = .waiting := by
      rw [← same]
      exact sound.mem_line other
    by_cases first : other = oldest
    · simp [first, (List.nodup_cons.mp nodup).1]
    · simpa [first] using mem

theorem notifyAll (sound : notify.Sound) : notify.notifyAll.Sound where
  mem_line worker := by
    simp only [Notify.notifyAll, List.not_mem_nil, false_iff]
    split
    next => simp
    next unlisted => exact fun waiting => unlisted ((sound.mem_line worker).mpr waiting)
  nodup := List.nodup_nil

theorem enable (sound : notify.Sound) (spent : notify.ticket worker = .spent) :
    (notify.enable worker).Sound := by
  have unlisted : worker ∉ notify.line := by simp [sound.mem_line, spent]
  unfold Notify.enable
  split
  next =>
    have same : (notify.withTicket worker .spent).Sound := sound.spend (by simp [spent])
    exact ⟨same.mem_line, same.nodup⟩
  next =>
    refine ⟨fun other => ?_, ?_⟩
    · by_cases same : other = worker
      · simp [same]
      · simp [same, sound.mem_line]
    · exact sound.nodup.append (List.nodup_singleton worker) (by simpa using unlisted)

theorem drop (sound : notify.Sound) (passesAll : Bool) :
    (notify.drop worker passesAll).Sound := by
  unfold Notify.drop
  split
  next => exact sound
  next waiting =>
    refine ⟨fun other => ?_, sound.nodup.erase worker⟩
    by_cases same : other = worker
    · simp [same, sound.nodup.not_mem_erase]
    · simp [same, List.mem_erase_of_ne, sound.mem_line]
  next notified => exact (sound.spend (by simp [notified])).notifyOne
  next notified =>
    have dropped : (notify.withTicket worker .spent).Sound := sound.spend (by simp [notified])
    split
    next => exact dropped.notifyOne
    next => exact dropped

/-- A worker without a registration is not notified. -/
theorem spent_notifyOne (sound : notify.Sound) (spent : notify.ticket other = .spent) :
    notify.notifyOne.ticket other = .spent := by
  unfold Notify.notifyOne
  split
  next => exact spent
  next oldest line same =>
    have waiting : notify.ticket oldest = .waiting := (sound.mem_line oldest).mp (by simp [same])
    have different : other ≠ oldest := fun eq => by simp [eq, waiting] at spent
    simp [different, spent]

theorem spent_drop (sound : notify.Sound) (passesAll : Bool)
    (spent : other = worker ∨ notify.ticket other = .spent) :
    (notify.drop worker passesAll).ticket other = .spent := by
  have dropped : (notify.withTicket worker .spent).ticket other = .spent := by
    rcases spent with rfl | spent <;> simp [*]
  unfold Notify.drop
  split
  next same =>
    rcases spent with rfl | spent
    · exact same
    · exact spent
  next waiting => exact dropped
  next notified => exact (sound.spend (by simp [notified])).spent_notifyOne dropped
  next notified =>
    have after : (notify.withTicket worker .spent).Sound := sound.spend (by simp [notified])
    split
    next => exact after.spent_notifyOne dropped
    next => exact dropped

end Sound

/-! ### Who waits after a change waited before -/

theorem waiting_of_notifyOne (waiting : notify.notifyOne.ticket other = .waiting) :
    notify.ticket other = .waiting := by
  unfold notifyOne at waiting
  split at waiting
  next => exact waiting
  next oldest line same =>
    by_cases first : other = oldest
    · simp [first] at waiting
    · simpa [first] using waiting

theorem not_waiting_notifyAll (sound : notify.Sound) :
    notify.notifyAll.ticket other ≠ .waiting := by
  intro waiting
  have listed := (sound.notifyAll.mem_line other).mpr waiting
  simp [notifyAll] at listed

theorem ticket_enable_of_ne (different : other ≠ worker) :
    (notify.enable worker).ticket other = notify.ticket other := by
  unfold enable
  split <;> simp [different]

theorem waiting_of_spent (waiting : (notify.withTicket worker .spent).ticket other = .waiting) :
    notify.ticket other = .waiting := by
  by_cases same : other = worker
  · simp [same] at waiting
  · simpa [same] using waiting

theorem waiting_of_drop {passesAll : Bool}
    (waiting : (notify.drop worker passesAll).ticket other = .waiting) :
    notify.ticket other = .waiting := by
  unfold drop at waiting
  split at waiting
  next => exact waiting
  next => exact waiting_of_spent waiting
  next => exact waiting_of_spent (waiting_of_notifyOne waiting)
  next =>
    split at waiting
    next => exact waiting_of_spent (waiting_of_notifyOne waiting)
    next => exact waiting_of_spent waiting

/-! ### Notifications on the way -/

section Load

variable [Fintype Worker]

/-- How many workers carry a notification that was meant for one. -/
def load (notify : Notify Worker) : Nat := ∑ worker, (notify.ticket worker).weight

theorem load_withTicket (notify : Notify Worker) (worker : Worker) (ticket : Ticket) :
    (notify.withTicket worker ticket).load + (notify.ticket worker).weight =
      notify.load + ticket.weight :=
  sum_weight_update Ticket.weight notify.ticket worker ticket

/-- A notification reaches somebody if anybody waits. -/
theorem Sound.load_notifyOne (sound : notify.Sound) (waiting : notify.ticket other = .waiting) :
    notify.notifyOne.load = notify.load + 1 := by
  have listed := (sound.mem_line other).mpr waiting
  unfold Notify.notifyOne
  split
  next empty => simp [empty] at listed
  next oldest line same =>
    have first : notify.ticket oldest = .waiting := (sound.mem_line oldest).mp (by simp [same])
    have counted := notify.load_withTicket oldest (.notified .one)
    rw [first] at counted
    exact counted

theorem load_enable (spent : notify.ticket worker = .spent) :
    (notify.enable worker).load = notify.load := by
  have counted := notify.load_withTicket worker
  simp only [spent] at counted
  unfold enable
  split
  next => exact counted .spent
  next => exact counted .waiting

theorem load_le_spent (worker : Worker) :
    notify.load ≤ (notify.withTicket worker .spent).load + 1 := by
  have counted := notify.load_withTicket worker .spent
  have light : (notify.ticket worker).weight ≤ 1 := by
    unfold Ticket.weight
    split <;> omega
  omega

/-- A notification is not lost by a worker that leaves, as long as somebody else waits. -/
theorem Sound.load_le_drop (sound : notify.Sound) (passesAll : Bool) (different : other ≠ worker)
    (waiting : notify.ticket other = .waiting) :
    notify.load ≤ (notify.drop worker passesAll).load := by
  have counted := notify.load_withTicket worker .spent
  have still : (notify.withTicket worker .spent).ticket other = .waiting := by
    simp [different, waiting]
  have passed (before : notify.ticket worker ≠ .waiting) :=
    (sound.spend before).load_notifyOne still
  unfold Notify.drop
  split
  next => exact Nat.le_refl _
  next waits =>
    rw [waits] at counted
    exact counted.ge
  next notified =>
    rw [passed (by simp [notified])]
    rw [notified] at counted
    exact counted.ge
  next notified =>
    rw [notified] at counted
    split
    next =>
      rw [passed (by simp [notified])]
      exact Nat.le_succ_of_le counted.ge
    next => exact counted.ge

end Load

end Notify

/-! ## What a step does -/

namespace WorkQueue

variable {queue : WorkQueue} {key : String}

theorem length_ready_add (queue : WorkQueue) (key : String) :
    (queue.add key).ready.length =
      queue.ready.length + if queue.AddReadies key then 1 else 0 := by
  unfold add
  split
  next refused =>
    have readies : ¬ queue.AddReadies key := by
      rintro ⟨opened, clean, _⟩
      simp [opened, clean] at refused
    simp [readies]
  next accepted =>
    have accepts : queue.isClosed = false ∧ key ∉ queue.dirty := by simpa using accepted
    split
    next held =>
      have readies : ¬ queue.AddReadies key := fun readies => readies.2.2 held
      simp [readies]
    next free =>
      have readies : queue.AddReadies key := ⟨accepts.1, accepts.2, free⟩
      simp [readies]

theorem length_ready_done (queue : WorkQueue) (key : String) :
    (queue.done key).ready.length =
      queue.ready.length + if queue.DoneReadies key then 1 else 0 := by
  have same : (key ∈ queue.dirty ∧ !queue.isClosed) ↔ queue.DoneReadies key := by
    simp [DoneReadies]
  unfold done
  simp only [same]
  split <;> simp

theorem isClosed_add (queue : WorkQueue) (key : String) :
    (queue.add key).isClosed = queue.isClosed := by
  unfold add
  split
  next => rfl
  next => split <;> rfl

theorem isClosed_done (queue : WorkQueue) (key : String) :
    (queue.done key).isClosed = queue.isClosed := by
  unfold done
  dsimp only
  split <;> rfl

/-- A queue that hands a key out is open and has one ready key less afterwards. -/
theorem of_dequeue? {rest : WorkQueue} (handed : queue.dequeue? = some (key, rest)) :
    queue.ready.length = rest.ready.length + 1 ∧ rest.isClosed = queue.isClosed := by
  unfold dequeue? at handed
  split at handed
  next => simp at handed
  next =>
    split at handed
    next => simp at handed
    next first others same =>
      rw [← (Prod.mk.inj (Option.some.inj handed)).2]
      exact ⟨by simp [same], rfl⟩

theorem ready_eq_nil_of_dequeue? (opened : queue.isClosed = false)
    (nothing : queue.dequeue? = none) : queue.ready = [] := by
  unfold dequeue? at nothing
  rw [if_neg (by simp [opened])] at nothing
  split at nothing
  next empty => exact empty
  next => simp at nothing

end WorkQueue

/-- A worker that is sure to act on what is ready: it looks at the queue or notifies. -/
def Place.weight : Place → Nat
  | .entering | .checking | .notifying => 1
  | _ => 0

/-- The places at which a worker may be registered. -/
def Place.isInside : Place → Bool
  | .checking | .sleeping | .returning _ => true
  | _ => false

namespace SharedQueue

/-- The worker sleeps, and nobody has notified it. -/
def Sleeps (shared : SharedQueue Worker) (worker : Worker) : Prop :=
  shared.place worker = .sleeping ∧ shared.notify.ticket worker = .waiting

/-- A worker that will look at the queue, or a call that will notify one. -/
inductive Stirs (shared : SharedQueue Worker) : Prop where
  /-- An addition has made a key ready and still has to notify a worker. -/
  | owed (outstanding : 0 < shared.owed)
  /-- A release has made a key ready and still has to notify a worker. -/
  | notifying (worker : Worker) (stands : shared.place worker = .notifying)
  | notified (worker : Worker) (told : shared.notify.ticket worker = .notified .one)
  | entering (worker : Worker) (stands : shared.place worker = .entering)
  | checking (worker : Worker) (stands : shared.place worker = .checking)

section Load

variable [Fintype Worker]

/-- How many wake-ups are on the way. -/
def load (shared : SharedQueue Worker) : Nat :=
  shared.owed + (∑ worker, (shared.place worker).weight) + shared.notify.load

/-- How the wake-ups on the way change when one worker moves. -/
theorem load_balance [DecidableEq Worker] {shared next : SharedQueue Worker} (worker : Worker)
    {place : Place} (owed : next.owed = shared.owed)
    (moved : next.place = Function.update shared.place worker place) :
    next.load + ((shared.place worker).weight + shared.notify.load) =
      shared.load + (place.weight + next.notify.load) := by
  have sums := sum_weight_update Place.weight shared.place worker place
  rw [← moved] at sums
  unfold load
  omega

theorem stirs_of_load {shared : SharedQueue Worker} (positive : 0 < shared.load) :
    shared.Stirs := by
  rcases Nat.eq_zero_or_pos shared.owed with none | owed
  · rcases Nat.eq_zero_or_pos (∑ worker, (shared.place worker).weight) with still | moving
    · have told : 0 < shared.notify.load := by
        unfold load at positive
        omega
      rcases exists_weight_pos Ticket.weight _ told with ⟨worker, weight⟩
      refine .notified worker ?_
      unfold Ticket.weight at weight
      split at weight
      next same => exact same
      next => omega
    · rcases exists_weight_pos Place.weight _ moving with ⟨worker, weight⟩
      unfold Place.weight at weight
      split at weight
      next same => exact .entering worker same
      next same => exact .checking worker same
      next same => exact .notifying worker same
      next => omega
  · exact .owed owed

/-- What holds of all that can come of a new queue. -/
structure Sound (shared : SharedQueue Worker) : Prop where
  registrations : shared.notify.Sound
  outside : ∀ worker, (shared.place worker).isInside = false →
    shared.notify.ticket worker = .spent
  /-- As long as somebody sleeps, no ready key is without a wake-up. -/
  counted : shared.queue.isClosed = false → ∀ sleeper, shared.Sleeps sleeper →
    shared.queue.ready.length ≤ shared.load
  closed_iff : shared.queue.isClosed = true ↔ 0 < shared.closing ∨ shared.isShutDown = true
  awake : shared.isShutDown = true → ∀ worker, ¬ shared.Sleeps worker

theorem Sound.new (bounds : BackoffBounds) :
    ({ queue := .new bounds } : SharedQueue Worker).Sound where
  registrations := .new
  outside worker _ := rfl
  counted _ sleeper sleeps := by simp [Sleeps] at sleeps
  closed_iff := by simp [WorkQueue.new]
  awake shutDown := by simp at shutDown

end Load

variable [DecidableEq Worker]

@[simp]
theorem place_move (shared : SharedQueue Worker) (worker other : Worker) (place : Place) :
    (shared.move worker place).place other =
      if other = worker then place else shared.place other := by
  simp [move, Function.update_apply]

section Steps

variable [Fintype Worker] {shared next : SharedQueue Worker}

/-- Where a worker may move that another step does not concern. -/
theorem Sound.outside_move {worker other : Worker} {place : Place} (sound : shared.Sound)
    (spent : place.isInside = false → shared.notify.ticket worker = .spent)
    (outside : ((shared.move worker place).place other).isInside = false) :
    shared.notify.ticket other = .spent := by
  rw [place_move] at outside
  split at outside
  next same =>
    rw [same]
    exact spent outside
  next => exact sound.outside other outside

namespace Step

theorem registrations (step : shared.Step next) (sound : shared.Sound) : next.notify.Sound := by
  have before := sound.registrations
  cases step with
  | enable worker entering => exact before.enable (sound.outside worker (by rw [entering]; rfl))
  | wake worker sleeping told => exact before.spend told
  | leave worker passesAll returning => exact before.drop passesAll
  | notify worker notifying => exact before.notifyOne
  | notifyAdded outstanding => exact before.notifyOne
  | notifyClosed outstanding => exact before.notifyAll
  | _ => exact before

theorem outside (step : shared.Step next) (sound : shared.Sound) (other : Worker)
    (outside : (next.place other).isInside = false) : next.notify.ticket other = .spent := by
  cases step with
  | ask worker away =>
      exact sound.outside_move (fun _ => sound.outside worker (by rw [away]; rfl)) outside
  | enable worker entering =>
      have different : other ≠ worker := fun same => by simp [same, Place.isInside] at outside
      rw [Notify.ticket_enable_of_ne different]
      exact sound.outside other (by simpa [different] using outside)
  | take worker checking handed => exact sound.outside_move (by simp [Place.isInside]) outside
  | turnAway worker checking closed =>
      exact sound.outside_move (by simp [Place.isInside]) outside
  | sleep worker checking opened nothing =>
      exact sound.outside_move (by simp [Place.isInside]) outside
  | wake worker sleeping told =>
      by_cases same : other = worker
      · simp [same]
      · simpa [same] using sound.outside other (by simpa [same] using outside)
  | giveUp worker sleeping => exact sound.outside_move (by simp [Place.isInside]) outside
  | leave worker passesAll returning =>
      refine sound.registrations.spent_drop passesAll ?_
      by_cases same : other = worker
      · exact .inl same
      · exact .inr (sound.outside other (by simpa [same] using outside))
  | done worker holding =>
      exact sound.outside_move (fun _ => sound.outside worker (by rw [holding]; rfl)) outside
  | notify worker notifying =>
      refine sound.registrations.spent_notifyOne ?_
      exact sound.outside_move (fun _ => sound.outside worker (by rw [notifying]; rfl)) outside
  | notifyAdded outstanding =>
      exact sound.registrations.spent_notifyOne (sound.outside other outside)
  | notifyClosed outstanding =>
      have spent := sound.outside other outside
      have unlisted : other ∉ shared.notify.line := by
        simp [sound.registrations.mem_line, spent]
      simp [Notify.notifyAll, unlisted, spent]
  | _ => exact sound.outside other outside

/-- Whoever sleeps after a step slept before, or has just seen that no key is ready. -/
theorem sleeps_before {sleeper : Worker} (step : shared.Step next) (sound : shared.Sound)
    (sleeps : next.Sleeps sleeper) :
    shared.Sleeps sleeper ∨ shared.queue.isClosed = false ∧ next.queue.ready = [] := by
  have moved {worker : Worker} {place : Place} (awake : place ≠ .sleeping)
      (sleeping : (shared.move worker place).place sleeper = .sleeping) :
      sleeper ≠ worker ∧ shared.place sleeper = .sleeping := by
    rw [place_move] at sleeping
    split at sleeping
    next => exact absurd sleeping awake
    next different => exact ⟨different, sleeping⟩
  rcases sleeps with ⟨sleeping, waiting⟩
  cases step with
  | ask worker away => exact .inl ⟨(moved (by simp) sleeping).2, waiting⟩
  | enable worker entering =>
      rcases moved (by simp) sleeping with ⟨different, slept⟩
      rw [Notify.ticket_enable_of_ne different] at waiting
      exact .inl ⟨slept, waiting⟩
  | take worker checking handed => exact .inl ⟨(moved (by simp) sleeping).2, waiting⟩
  | turnAway worker checking closed => exact .inl ⟨(moved (by simp) sleeping).2, waiting⟩
  | sleep worker checking opened nothing =>
      exact .inr ⟨opened, WorkQueue.ready_eq_nil_of_dequeue? opened nothing⟩
  | wake worker sleeping' told =>
      exact .inl ⟨(moved (by simp) sleeping).2, Notify.waiting_of_spent waiting⟩
  | giveUp worker sleeping' => exact .inl ⟨(moved (by simp) sleeping).2, waiting⟩
  | @leave worker key? passesAll returning =>
      have awake : key?.elim Place.away .holding ≠ .sleeping := by cases key? <;> simp
      exact .inl ⟨(moved awake sleeping).2, Notify.waiting_of_drop waiting⟩
  | done worker holding =>
      exact .inl ⟨(moved (by split <;> simp) sleeping).2, waiting⟩
  | notify worker notifying =>
      exact .inl ⟨(moved (by simp) sleeping).2, Notify.waiting_of_notifyOne waiting⟩
  | notifyAdded outstanding => exact .inl ⟨sleeping, Notify.waiting_of_notifyOne waiting⟩
  | notifyClosed outstanding =>
      exact absurd waiting (Notify.not_waiting_notifyAll sound.registrations)
  | _ => exact .inl ⟨sleeping, waiting⟩

/-- No step takes a wake-up away without a ready key, as long as somebody sleeps. -/
theorem counted (step : shared.Step next) (sound : shared.Sound)
    (opened : next.queue.isClosed = false) (sleeper : Worker) (sleeps : next.Sleeps sleeper) :
    next.queue.ready.length ≤ next.load := by
  rcases step.sleeps_before sound sleeps with ⟨slept, waited⟩ | ⟨_, empty⟩
  swap
  · simp [empty]
  have bound (opened : shared.queue.isClosed = false) :=
    sound.counted opened sleeper ⟨slept, waited⟩
  -- A worker may give up a wake-up only for another one, or for a key.
  have kept (worker : Worker) {place : Place} (owed : next.owed = shared.owed)
      (moved : next.place = Function.update shared.place worker place)
      (opened : shared.queue.isClosed = false)
      (pays : next.queue.ready.length + ((shared.place worker).weight + shared.notify.load) ≤
        shared.queue.ready.length + (place.weight + next.notify.load)) :
      next.queue.ready.length ≤ next.load := by
    have balance := load_balance worker owed moved
    have bound := bound opened
    omega
  cases step with
  | ask worker away =>
      refine kept worker rfl rfl opened ?_
      simp only [away, Place.weight, move]
      omega
  | enable worker entering =>
      refine kept worker rfl rfl opened ?_
      have spent := sound.outside worker (by rw [entering]; rfl)
      simp only [entering, Place.weight, move, Notify.load_enable spent]
      omega
  | take worker checking handed =>
      rcases WorkQueue.of_dequeue? handed with ⟨shorter, still⟩
      refine kept worker rfl rfl (still ▸ opened) ?_
      simp only [checking, Place.weight, move]
      omega
  | turnAway worker checking closed => simp [move, closed] at opened
  | sleep worker checking unclosed nothing =>
      have empty := WorkQueue.ready_eq_nil_of_dequeue? unclosed nothing
      simp [move, empty]
  | wake worker sleeping told =>
      refine kept worker rfl rfl opened ?_
      have one := shared.notify.load_le_spent worker
      simp only [sleeping, Place.weight, move]
      omega
  | giveUp worker sleeping =>
      refine kept worker rfl rfl opened ?_
      simp only [sleeping, Place.weight, move]
      omega
  | @leave worker key? passesAll returning =>
      refine kept worker rfl rfl opened ?_
      have different : sleeper ≠ worker := fun same => by simp [same, returning] at slept
      have passed := sound.registrations.load_le_drop passesAll different waited
      simp only [returning, Place.weight, move]
      omega
  | @done worker key holding =>
      refine kept worker rfl rfl (by simpa [move, WorkQueue.isClosed_done] using opened) ?_
      have longer := shared.queue.length_ready_done key
      simp only [holding, Place.weight, move]
      split at longer
      next readies =>
        simp only [readies, if_true]
        omega
      next readies =>
        simp only [readies, if_false]
        omega
  | notify worker notifying =>
      refine kept worker rfl rfl opened ?_
      have reached := sound.registrations.load_notifyOne waited
      simp only [notifying, Place.weight, move]
      omega
  | add key =>
      have bound := bound (by simpa [WorkQueue.isClosed_add] using opened)
      have longer := shared.queue.length_ready_add key
      simp only [load] at bound ⊢
      split at longer
      next readies =>
        simp only [readies, if_true]
        omega
      next readies =>
        simp only [readies, if_false]
        omega
  | notifyAdded outstanding =>
      have bound := bound opened
      have reached := sound.registrations.load_notifyOne waited
      simp only [load] at bound ⊢
      omega
  | close => simp [WorkQueue.shutdown] at opened
  | notifyClosed outstanding =>
      exact absurd sleeps.2 (Notify.not_waiting_notifyAll sound.registrations)
  | aside backoff delayed now => exact bound opened

/-- The queue is closed by shutdowns only, and each of them notifies before it returns. -/
theorem closed_iff (step : shared.Step next) (sound : shared.Sound) :
    next.queue.isClosed = true ↔ 0 < next.closing ∨ next.isShutDown = true := by
  have before := sound.closed_iff
  cases step with
  | take worker checking handed =>
      rw [← (WorkQueue.of_dequeue? handed).2] at before
      exact before
  | done worker holding =>
      rw [← WorkQueue.isClosed_done] at before
      exact before
  | add key =>
      rw [← WorkQueue.isClosed_add] at before
      exact before
  | close => simp [WorkQueue.shutdown]
  | notifyClosed outstanding =>
      have closed : shared.queue.isClosed = true := before.mpr (.inl (by omega))
      simp [closed]
  | _ => exact before

theorem awake (step : shared.Step next) (sound : shared.Sound)
    (shutDown : next.isShutDown = true) (worker : Worker) : ¬ next.Sleeps worker := by
  intro sleeps
  have before : shared.isShutDown = true := by
    cases step with
    | notifyClosed outstanding =>
        exact absurd sleeps.2 (Notify.not_waiting_notifyAll sound.registrations)
    | _ => exact shutDown
  rcases step.sleeps_before sound sleeps with slept | ⟨opened, _⟩
  · exact sound.awake before worker slept
  · have closed := sound.closed_iff.mpr (.inr before)
    simp [opened] at closed

end Step

theorem Step.sound (step : shared.Step next) (sound : shared.Sound) : next.Sound where
  registrations := step.registrations sound
  outside := step.outside sound
  counted := step.counted sound
  closed_iff := step.closed_iff sound
  awake := step.awake sound

theorem Reached.sound {bounds : BackoffBounds} (reached : Reached bounds shared) :
    shared.Sound := by
  induction reached with
  | new => exact .new bounds
  | step before step ih => exact step.sound ih

/-! ## No wake-up is lost -/

/-- A shutdown has closed the queue, and notifies the workers next. -/
def IsClosing (shared : SharedQueue Worker) : Prop :=
  shared.queue.isClosed = true ∧ 0 < shared.closing ∧ shared.isShutDown = false

/--
While a worker sleeps that was not notified, no key stays ready unless somebody is
on the way: a notification is outstanding, or a worker is notified, or a worker has
not looked at the queue yet.  Between the two steps of the first shutdown it is the
notification of all workers that is outstanding.  Once a shutdown has returned,
nobody sleeps.
-/
theorem Reached.no_wakeup_lost {bounds : BackoffBounds} (reached : Reached bounds shared) :
    (shared.queue.ready ≠ [] → ∀ sleeper, shared.Sleeps sleeper →
      shared.Stirs ∨ shared.IsClosing) ∧
    (shared.isShutDown = true → ∀ worker, ¬ shared.Sleeps worker) := by
  have sound := reached.sound
  refine ⟨fun waits sleeper sleeps => ?_, sound.awake⟩
  cases opened : shared.queue.isClosed with
  | false =>
      refine .inl (stirs_of_load ?_)
      exact Nat.lt_of_lt_of_le (List.length_pos_of_ne_nil waits)
        (sound.counted opened sleeper sleeps)
  | true =>
      have unreturned : ¬ shared.isShutDown = true := fun shutDown =>
        sound.awake shutDown sleeper sleeps
      refine .inr ⟨opened, ?_, by simpa using unreturned⟩
      exact (sound.closed_iff.mp opened).resolve_right unreturned

end Steps

/-- A worker that sleeps while a key is added, and is notified by the shutdown at last. -/
theorem Reached.no_wakeup_lost_beside_ready :
    (∃ shared : SharedQueue Unit, Reached {} shared ∧ shared.queue.ready = ["db/prod"] ∧
      shared.Sleeps () ∧ (shared.Stirs ∨ shared.IsClosing)) ∧
    ∃ shared : SharedQueue Unit, Reached {} shared ∧ shared.isShutDown = true ∧
      ¬ shared.Sleeps () := by
  have fresh : Reached {} ({ queue := .new {} } : SharedQueue Unit) := .new
  have asleep := ((fresh.step (.ask () rfl)).step (.enable () rfl)).step (.sleep () rfl rfl rfl)
  have added := asleep.step (.add "db/prod")
  have closed := (added.step .close).step (.notifyClosed rfl)
  exact ⟨⟨_, added, rfl, ⟨rfl, rfl⟩, added.no_wakeup_lost.1 (List.cons_ne_nil _ _) () ⟨rfl, rfl⟩⟩,
    ⟨_, closed, rfl, closed.no_wakeup_lost.2 rfl ()⟩⟩

/-! ## Between the two steps of a shutdown -/

/-- No key stays ready beside a worker that was not notified without somebody on the way. -/
def AlwaysStirs (Worker : Type) [DecidableEq Worker] (bounds : BackoffBounds) : Prop :=
  ∀ shared : SharedQueue Worker, Reached bounds shared → shared.queue.ready ≠ [] →
    ∀ sleeper, shared.Sleeps sleeper → shared.Stirs

/--
Two workers sleep when a key is added, and the first one is notified.  Before it
wakes, a shutdown closes the queue, so that it leaves without the key.  The second
one sleeps on beside the key, until the shutdown notifies all.
-/
theorem not_alwaysStirs_while_closing :
    (∃ shared : SharedQueue Bool, Reached {} shared ∧ shared.queue.ready = ["db/prod"] ∧
      shared.Sleeps true ∧ ¬ shared.Stirs ∧ shared.IsClosing) ∧
    ¬ AlwaysStirs Bool {} := by
  have fresh : Reached {} ({ queue := .new {} } : SharedQueue Bool) := .new
  have one :=
    ((fresh.step (.ask false rfl)).step (.enable false rfl)).step (.sleep false rfl rfl rfl)
  have both := ((one.step (.ask true rfl)).step (.enable true rfl)).step (.sleep true rfl rfl rfl)
  have notified := (both.step (.add "db/prod")).step (.notifyAdded rfl)
  have awake := (notified.step .close).step (.wake false rfl (by decide))
  have away := ((awake.step (.enable false rfl)).step (.turnAway false rfl rfl)).step
    (.leave false true rfl)
  have found : ∃ shared : SharedQueue Bool, Reached {} shared ∧
      shared.queue.ready = ["db/prod"] ∧ shared.Sleeps true ∧ ¬ shared.Stirs ∧
      shared.IsClosing := by
    refine ⟨_, away, rfl, ⟨rfl, rfl⟩, ?_, rfl, Nat.zero_lt_one, rfl⟩
    intro stirs
    cases stirs with
    | owed outstanding => exact absurd outstanding (by decide)
    | notifying worker stands => exact absurd stands (by revert worker; decide)
    | notified worker told => exact absurd told (by revert worker; decide)
    | entering worker stands => exact absurd stands (by revert worker; decide)
    | checking worker stands => exact absurd stands (by revert worker; decide)
  refine ⟨found, fun always => ?_⟩
  rcases found with ⟨shared, reached, ready, sleeps, still, _⟩
  exact still (always shared reached (by simp [ready]) true sleeps)

end SharedQueue

end GaleraControl

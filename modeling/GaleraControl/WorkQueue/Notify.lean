import GaleraControl.WorkQueue
import Mathlib.Logic.Function.Basic

/-!
# The queue under concurrent use

A queue is guarded by a lock, and the workers that find nothing to do sleep on a
`Notify`.  An operation of the queue holds the lock for its change only: it
notifies sleepers after it has let the lock go, and what others do may come
between.  This module has each such piece as one step.

* A worker that asks for a key registers first, looks at the queue under the lock,
  and sleeps if there was nothing to take.
* An addition or a release that makes a key ready notifies one worker next.
* The shutdown closes the queue and notifies all registered workers next.
-/

namespace GaleraControl

/-! ## Notifications -/

/-- Whether a notification was meant for one worker or for all that were registered. -/
inductive Notice where
  | one
  | all
deriving DecidableEq, Repr

/-- What has become of the registration of a worker. -/
inductive Ticket where
  /-- The worker has none, or has used it up. -/
  | spent
  | waiting
  | notified (notice : Notice)
deriving DecidableEq, Repr

/-- The registered workers, and a notification that is kept for the next one. -/
structure Notify (Worker : Type) where
  /-- A notification that found nobody to wake. -/
  permit : Bool := false
  /-- The workers that are registered and not notified, the oldest first. -/
  line : List Worker := []
  ticket : Worker → Ticket := fun _ => .spent

namespace Notify

variable {Worker : Type} [DecidableEq Worker]

def withTicket (notify : Notify Worker) (worker : Worker) (ticket : Ticket) : Notify Worker :=
  { notify with ticket := Function.update notify.ticket worker ticket }

/-- Notify the oldest registered worker, or keep the notification. -/
def notifyOne (notify : Notify Worker) : Notify Worker :=
  match notify.line with
  | [] => { notify with permit := true }
  | oldest :: line => { notify.withTicket oldest (.notified .one) with line }

/-- Notify all registered workers. -/
def notifyAll (notify : Notify Worker) : Notify Worker :=
  { notify with
    line := []
    ticket := fun worker =>
      if worker ∈ notify.line then .notified .all else notify.ticket worker }

/-- Use the kept notification up, or register at the end of the line. -/
def enable (notify : Notify Worker) (worker : Worker) : Notify Worker :=
  if notify.permit then { notify.withTicket worker .spent with permit := false }
  else { notify.withTicket worker .waiting with line := notify.line ++ [worker] }

/--
Give a registration up.  A notification for one worker is passed on; whether one
for all is passed on too is a parameter.
-/
def drop (notify : Notify Worker) (worker : Worker) (passesAll : Bool) : Notify Worker :=
  match notify.ticket worker with
  | .spent => notify
  | .waiting =>
      { notify.withTicket worker .spent with line := notify.line.erase worker }
  | .notified .one => (notify.withTicket worker .spent).notifyOne
  | .notified .all =>
      if passesAll then (notify.withTicket worker .spent).notifyOne
      else notify.withTicket worker .spent

end Notify

/-! ## Steps -/

namespace WorkQueue

/-- The addition of a key makes it ready, and has somebody notified. -/
def AddReadies (queue : WorkQueue) (key : String) : Prop :=
  queue.isClosed = false ∧ key ∉ queue.dirty ∧ key ∉ queue.processing
deriving Decidable

/-- The release of a key makes it ready again, and has somebody notified. -/
def DoneReadies (queue : WorkQueue) (key : String) : Prop :=
  key ∈ queue.dirty ∧ queue.isClosed = false
deriving Decidable

end WorkQueue

/-- Where a worker stands. -/
inductive Place where
  /-- It is not at the queue. -/
  | away
  /-- It registers next. -/
  | entering
  /-- It is registered, and looks at the queue next. -/
  | checking
  /-- It found nothing to take. -/
  | sleeping
  /-- What it returns with is decided; its registration is dropped next. -/
  | returning (key : Option String)
  | holding (key : String)
  /-- It made a key ready by a release, and notifies somebody next. -/
  | notifying
deriving DecidableEq, Repr

/-- A queue with the workers and producers that use it at the same time. -/
structure SharedQueue (Worker : Type) where
  queue : WorkQueue
  notify : Notify Worker := {}
  place : Worker → Place := fun _ => .away
  /-- How many additions have made a key ready and still have to notify somebody. -/
  owed : Nat := 0
  /-- How many shutdowns have closed the queue and still have to notify the workers. -/
  closing : Nat := 0
  /-- Some shutdown has returned. -/
  isShutDown : Bool := false

namespace SharedQueue

variable {Worker : Type} [DecidableEq Worker]

/-- Move a worker on. -/
def move (shared : SharedQueue Worker) (worker : Worker) (place : Place) : SharedQueue Worker :=
  { shared with place := Function.update shared.place worker place }

/-- What one worker, one producer or the clock does without being interrupted. -/
inductive Step (shared : SharedQueue Worker) : SharedQueue Worker → Prop where
  | ask (worker : Worker) (away : shared.place worker = .away) :
      Step shared (shared.move worker .entering)
  | enable (worker : Worker) (entering : shared.place worker = .entering) :
      Step shared { shared.move worker .checking with notify := shared.notify.enable worker }
  | take (worker : Worker) {key : String} {rest : WorkQueue}
      (checking : shared.place worker = .checking)
      (handed : shared.queue.dequeue? = some (key, rest)) :
      Step shared { shared.move worker (.returning (some key)) with queue := rest }
  | turnAway (worker : Worker) (checking : shared.place worker = .checking)
      (closed : shared.queue.isClosed = true) :
      Step shared (shared.move worker (.returning none))
  | sleep (worker : Worker) (checking : shared.place worker = .checking)
      (opened : shared.queue.isClosed = false) (nothing : shared.queue.dequeue? = none) :
      Step shared (shared.move worker .sleeping)
  | wake (worker : Worker) (sleeping : shared.place worker = .sleeping)
      (told : shared.notify.ticket worker ≠ .waiting) :
      Step shared
        { shared.move worker .entering with notify := shared.notify.withTicket worker .spent }
  /-- A worker does not wait any longer. -/
  | giveUp (worker : Worker) (sleeping : shared.place worker = .sleeping) :
      Step shared (shared.move worker (.returning none))
  | leave (worker : Worker) {key? : Option String} (passesAll : Bool)
      (returning : shared.place worker = .returning key?) :
      Step shared
        { shared.move worker (key?.elim .away .holding) with
          notify := shared.notify.drop worker passesAll }
  | done (worker : Worker) {key : String} (holding : shared.place worker = .holding key) :
      Step shared
        { shared.move worker (if shared.queue.DoneReadies key then .notifying else .away) with
          queue := shared.queue.done key }
  | notify (worker : Worker) (notifying : shared.place worker = .notifying) :
      Step shared { shared.move worker .away with notify := shared.notify.notifyOne }
  | add (key : String) :
      Step shared
        { shared with
          queue := shared.queue.add key
          owed := if shared.queue.AddReadies key then shared.owed + 1 else shared.owed }
  | notifyAdded {owed : Nat} (outstanding : shared.owed = owed + 1) :
      Step shared { shared with owed, notify := shared.notify.notifyOne }
  | close :
      Step shared { shared with queue := shared.queue.shutdown, closing := shared.closing + 1 }
  | notifyClosed {closing : Nat} (outstanding : shared.closing = closing + 1) :
      Step shared
        { shared with closing, notify := shared.notify.notifyAll, isShutDown := true }
  /-- Attempts are counted and additions are postponed without the lock. -/
  | aside (backoff : Backoff) (delayed : List DelayedAddition) (now : Nat) :
      Step shared { shared with queue := { shared.queue with backoff, delayed, now } }

/-- What can come of a new queue. -/
inductive Reached (bounds : BackoffBounds) : SharedQueue Worker → Prop where
  | new : Reached bounds { queue := .new bounds }
  | step {shared next : SharedQueue Worker} (before : Reached bounds shared)
      (step : shared.Step next) : Reached bounds next

end SharedQueue

end GaleraControl

import GaleraControl.Worker
import GaleraControl.World.Answers
import GaleraControl.WorkQueue.Waiters

/-!
# The controller in the world

The queue, its workers and the world together.  Time passes only while every
worker waits, so a pass takes no time.
-/

namespace GaleraControl

/-- The controller and its surroundings. -/
structure Scenario where
  world : World := {}
  queue : WorkQueue
  reconcilers : List WorldReconciler := []
deriving Repr

namespace Scenario

/-- Change the surroundings. -/
def mapWorld (scenario : Scenario) (change : World → World) : Scenario :=
  { scenario with world := change scenario.world }

/-- Change the queue. -/
def mapQueue (scenario : Scenario) (change : WorkQueue → WorkQueue) : Scenario :=
  { scenario with queue := change scenario.queue }

/-- Run the pass of a key. -/
def pass (scenario : Scenario) (key : String) :
    Except SyncError Pass.SyncOutcome × Scenario :=
  let (result, world) := World.perform (Pass.sync scenario.reconcilers key) scenario.world
  (result, { scenario with world })

/-- Run the pass of a key that was handed out. -/
def process (scenario : Scenario) (key : String) : Scenario :=
  let (result, scenario) := scenario.pass key
  scenario.mapQueue (Worker.conclude · key result)

/-- How a worker's attempt to process a key ended. -/
inductive ProcessOutcome where
  | processed
  | closed
  | timeout
deriving DecidableEq, Repr

/-- Wait for a key for some nanoseconds at most, and process it. -/
def processWithin (scenario : Scenario) (span : Nat) : ProcessOutcome × Scenario :=
  let waiters : Waiters Unit := ⟨scenario.queue, []⟩
  let (wakeups, waiters) := waiters.askUntil () (scenario.queue.now + span)
  let scenario := { scenario with queue := waiters.queue }
  match wakeups with
  | [] => (.timeout, scenario)
  | ⟨_, none⟩ :: _ => (.closed, scenario)
  | ⟨_, some key⟩ :: _ => (.processed, scenario.process key)

/-- Process ready keys until none is left, but not more than `limit` of them. -/
def drainUpTo : (limit : Nat) → Scenario → Scenario
  | 0, scenario => scenario
  | limit + 1, scenario =>
      match scenario.queue.dequeue? with
      | none => scenario
      | some (key, queue) => drainUpTo limit ({ scenario with queue }.process key)

/-- The number of passes at one moment after which keys count as retried for ever. -/
def passesAtOnce : Nat := 1000000

/--
Process ready keys until none is left.  Only keys that fail for ever and are
retried without a delay reach the limit.
-/
def drain (scenario : Scenario) : Scenario := drainUpTo passesAtOnce scenario

/--
Let time pass up to a moment while workers process every key that becomes
ready, at most `steps` delayed additions taking effect.
-/
def workSteps (moment : Nat) : (steps : Nat) → Scenario → Scenario
  | 0, scenario => scenario.mapQueue (·.rest moment)
  | steps + 1, scenario =>
      match scenario.queue.nextDue? moment with
      | none => scenario.mapQueue (·.rest moment)
      | some addition =>
          workSteps moment steps (drain (scenario.mapQueue (·.fire addition)))

/--
Let time pass while workers process every key that becomes ready.  A retried key
waits for a nanosecond at least, which bounds the number of additions.
-/
def workFor (scenario : Scenario) (span : Nat) : Scenario :=
  let additions := scenario.queue.delayed.length + 1
  workSteps (scenario.queue.now + span) (additions * (span + 1)) scenario

/-- Add a key and let the workers process what is ready. -/
def feed (scenario : Scenario) (key : String) : Scenario :=
  drain (scenario.mapQueue (·.add key))

/-- Run workers that are fed with keys, let them work on for a while, and shut them down. -/
def runWorkers (scenario : Scenario) (keys : List String) (span : Nat) : Scenario :=
  ((keys.foldl feed scenario.drain).workFor span).mapQueue WorkQueue.shutdown

end Scenario

end GaleraControl

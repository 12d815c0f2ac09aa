import GaleraControl.WorkQueue

/-!
# Workers that wait for keys

Workers that find no ready key wait in line.  A key that becomes ready goes to
the worker at the front; the shutdown sends all of them away.  Serving the line
settles the queue: afterwards nobody waits while a key is ready.
-/

namespace GaleraControl

/-- What a waiting worker is told: its key, or that the queue is closed. -/
structure Wakeup (Worker : Type) where
  worker : Worker
  /-- The key that is handed to the worker, none after the shutdown. -/
  key : Option String
deriving Repr

/-- A queue with the workers that wait for a key. -/
structure Waiters (Worker : Type) where
  queue : WorkQueue
  /-- The waiting workers, the one that waits longest first. -/
  line : List Worker := []
deriving Repr

namespace Waiters

variable {Worker : Type}

/-- Serve a line of workers from a queue. -/
def serveLine (queue : WorkQueue) : List Worker → List (Wakeup Worker) × Waiters Worker
  | [] => ([], ⟨queue, []⟩)
  | worker :: line =>
      if queue.isClosed then
        let (wakeups, rest) := serveLine queue line
        (⟨worker, none⟩ :: wakeups, rest)
      else
        match queue.dequeue? with
        | none => ([], ⟨queue, worker :: line⟩)
        | some (key, queue) =>
            let (wakeups, rest) := serveLine queue line
            (⟨worker, some key⟩ :: wakeups, rest)

/-- Serve the workers that can be served. -/
def serve (waiters : Waiters Worker) : List (Wakeup Worker) × Waiters Worker :=
  serveLine waiters.queue waiters.line

/-- Change the queue and serve the workers. -/
def act (waiters : Waiters Worker) (change : WorkQueue → WorkQueue) :
    List (Wakeup Worker) × Waiters Worker :=
  { waiters with queue := change waiters.queue }.serve

/-- A worker asks for a key and is served or waits at the end of the line. -/
def ask (waiters : Waiters Worker) (worker : Worker) : List (Wakeup Worker) × Waiters Worker :=
  { waiters with line := waiters.line ++ [worker] }.serve

/--
Let time pass up to a moment, at most `steps` delayed additions taking effect,
and no further one once a wake-up of interest has happened.
-/
def elapseSteps (stop : Wakeup Worker → Bool) (moment : Nat) :
    (steps : Nat) → Waiters Worker → List (Wakeup Worker) × Waiters Worker
  | 0, waiters => ([], { waiters with queue := waiters.queue.rest moment })
  | steps + 1, waiters =>
      match waiters.queue.nextDue? moment with
      | none => ([], { waiters with queue := waiters.queue.rest moment })
      | some addition =>
          let (wakeups, waiters) := waiters.act (·.fire addition)
          if wakeups.any stop then (wakeups, waiters)
          else
            let (later, waiters) := elapseSteps stop moment steps waiters
            (wakeups ++ later, waiters)

/-- Let time pass up to a moment, or until a wake-up of interest. -/
def elapseUntil (waiters : Waiters Worker) (stop : Wakeup Worker → Bool) (moment : Nat) :
    List (Wakeup Worker) × Waiters Worker :=
  elapseSteps stop moment waiters.queue.delayed.length waiters

/-- Let time pass up to a moment. -/
def elapse (waiters : Waiters Worker) (moment : Nat) :
    List (Wakeup Worker) × Waiters Worker :=
  waiters.elapseUntil (fun _ => false) moment

/-- A worker asks for a key and gives up at a moment; it gets no wake-up when it gives up. -/
def askUntil [DecidableEq Worker] (waiters : Waiters Worker) (worker : Worker)
    (moment : Nat) : List (Wakeup Worker) × Waiters Worker :=
  let isOwn (wakeup : Wakeup Worker) : Bool := wakeup.worker = worker
  let (wakeups, waiters) := waiters.ask worker
  if wakeups.any isOwn then (wakeups, waiters)
  else
    let (later, waiters) := waiters.elapseUntil isOwn moment
    (wakeups ++ later, { waiters with line := waiters.line.filter (· ≠ worker) })

end Waiters

end GaleraControl

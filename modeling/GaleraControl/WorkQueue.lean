import GaleraControl.Backoff

/-!
# The work queue

The queue holds keys that wait to be processed.

* A key is ready at most once, however often it is added.
* A key that a worker holds is not handed out again before the worker releases
  it; a key that is added meanwhile is parked, and the release makes it ready.
* After the shutdown no key is handed out.

A delayed addition is kept with the moment at which it falls due.  Time is
counted in nanoseconds since the queue was made and passes only by `elapse`.
-/

namespace GaleraControl

/-- An addition that has not taken effect yet. -/
structure DelayedAddition where
  due : Nat
  key : String
deriving DecidableEq, Repr

/-- A queue of keys with the keys that are being processed. -/
structure WorkQueue where
  /-- The keys that can be handed out, in the order in which they will be. -/
  ready : List String := []
  /-- The keys that wait to be processed, whether ready or parked. -/
  dirty : List String := []
  processing : List String := []
  isClosed : Bool := false
  backoff : Backoff := {}
  /-- The additions that have not taken effect yet, in the order in which they were made. -/
  delayed : List DelayedAddition := []
  now : Nat := 0
deriving Repr

namespace WorkQueue

/-- An empty queue. -/
def new (bounds : BackoffBounds) : WorkQueue := { backoff := { bounds } }

/-- Add a key at once, unless it waits already; a key that is held is parked. -/
def add (queue : WorkQueue) (key : String) : WorkQueue :=
  if queue.isClosed ∨ key ∈ queue.dirty then queue
  else if key ∈ queue.processing then { queue with dirty := key :: queue.dirty }
  else { queue with dirty := key :: queue.dirty, ready := queue.ready ++ [key] }

/-- Add a key after a delay. -/
def addAfter (queue : WorkQueue) (key : String) (delay : Duration) : WorkQueue :=
  if queue.isClosed then queue
  else if delay.nanoseconds = 0 then queue.add key
  else
    { queue with delayed := queue.delayed ++ [⟨queue.now + delay.nanoseconds, key⟩] }

/-- Add a key after the delay that its backoff demands. -/
def enqueue (queue : WorkQueue) (key : String) : WorkQueue :=
  let (delay, backoff) := queue.backoff.next key
  { queue with backoff }.addAfter key delay

/-- Add a key again after a failed attempt, which makes its backoff longer. -/
def retry (queue : WorkQueue) (key : String) : WorkQueue := queue.enqueue key

/-- Forget the failed attempts of a key. -/
def forget (queue : WorkQueue) (key : String) : WorkQueue :=
  { queue with backoff := queue.backoff.forget key }

/-- How often a key was enqueued since it was last forgotten. -/
def requeues (queue : WorkQueue) (key : String) : UInt32 := queue.backoff.requeues key

/-- Hand out the first ready key, if the queue is open and there is one. -/
def dequeue? (queue : WorkQueue) : Option (String × WorkQueue) :=
  if queue.isClosed then none
  else
    match queue.ready with
    | [] => none
    | key :: rest =>
        some (key,
          { queue with
            ready := rest
            dirty := queue.dirty.filter (· ≠ key)
            processing := key :: queue.processing.filter (· ≠ key) })

/-- Release a key after its processing; a parked key becomes ready. -/
def done (queue : WorkQueue) (key : String) : WorkQueue :=
  let released := { queue with processing := queue.processing.filter (· ≠ key) }
  if key ∈ queue.dirty ∧ !queue.isClosed then { released with ready := queue.ready ++ [key] }
  else released

/-- Stop handing out keys. -/
def shutdown (queue : WorkQueue) : WorkQueue := { queue with isClosed := true }

/-- The number of ready keys. -/
def size (queue : WorkQueue) : Nat := queue.ready.length

/-- The earliest of some delayed additions, and of several at one moment the first. -/
def earliest? : List DelayedAddition → Option DelayedAddition
  | [] => none
  | first :: rest =>
      match earliest? rest with
      | none => some first
      | some other => if other.due < first.due then some other else some first

/-- Let a delayed addition take effect at the moment at which it falls due. -/
def fire (queue : WorkQueue) (addition : DelayedAddition) : WorkQueue :=
  { queue with
    delayed := queue.delayed.erase addition
    now := max queue.now addition.due }.add addition.key

/-- The next delayed addition that falls due up to a moment. -/
def nextDue? (queue : WorkQueue) (moment : Nat) : Option DelayedAddition :=
  (earliest? queue.delayed).filter (·.due ≤ moment)

/-- Let time pass up to a moment without further additions. -/
def rest (queue : WorkQueue) (moment : Nat) : WorkQueue :=
  { queue with now := max queue.now moment }

end WorkQueue

end GaleraControl

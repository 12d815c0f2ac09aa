import GaleraControl.Pass.Sync
import GaleraControl.WorkQueue

/-!
# Workers

A worker takes one key, runs its pass and releases the key.  A pass that failed
for a passing reason is retried with increased backoff; after every other
pass the failed attempts of its key are forgotten.
-/

namespace GaleraControl.Worker

/-- The queue after the pass of a key, before the key is released. -/
def settle (queue : WorkQueue) (key : String) (result : Except SyncError Pass.SyncOutcome) :
    WorkQueue :=
  match result with
  | .ok _ => queue.forget key
  | .error error => if error.isRetryable then queue.retry key else queue.forget key

/-- The queue after the pass of a key. -/
def conclude (queue : WorkQueue) (key : String)
    (result : Except SyncError Pass.SyncOutcome) : WorkQueue :=
  (settle queue key result).done key

end GaleraControl.Worker

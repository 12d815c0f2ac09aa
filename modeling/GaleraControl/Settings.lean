import GaleraControl.Backoff

/-!
# Settings

How the controller is configured.  Some values that can be asked for make no
sense and are corrected: there is at least one worker, an empty namespace means
all of them, and the greatest delay is not below the first.
-/

namespace GaleraControl

/-- What was asked for on the command line; what was not has its default. -/
structure ControllerOptions where
  workers : Nat := 1
  namespaceName : Option String := none
  /-- The seconds after which the start is given up if the caches are not ready. -/
  cacheSyncSeconds : Nat := 120
  /-- The delay before the first retry in milliseconds. -/
  backoffBaseMilliseconds : Nat := 5
  /-- The greatest delay before a retry in seconds. -/
  backoffGreatestSeconds : Nat := 1000
  logsJson : Bool := false
deriving DecidableEq, Repr

/-- The configuration of the controller. -/
structure Settings where
  /-- The number of workers, at least one. -/
  workers : Nat
  /-- The namespace to watch, all of them when there is none. -/
  namespaceName : Option String
  /-- How long the start waits for the caches. -/
  cacheSyncTimeout : Duration
  backoff : BackoffBounds
deriving DecidableEq, Repr

namespace ControllerOptions

/-- The configuration that the options ask for. -/
def settings (options : ControllerOptions) : Settings :=
  let base := Duration.ofMilliseconds options.backoffBaseMilliseconds
  { workers := max options.workers 1
    namespaceName := options.namespaceName.filter (· ≠ "")
    cacheSyncTimeout := .ofSeconds options.cacheSyncSeconds
    backoff :=
      { base
        greatest := (Duration.ofSeconds options.backoffGreatestSeconds).longer base } }

end ControllerOptions

end GaleraControl

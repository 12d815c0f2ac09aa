import GaleraControl.Duration
import GaleraControl.Table

/-!
# Backoff

Every failed attempt doubles the delay before the next one, from a base delay
up to a greatest delay; a success starts over.  Keys are counted apart from each
other.  The counter stops at its greatest value, and the doubling stops after 31
steps.
-/

namespace GaleraControl

/-- The bounds of the delays. -/
structure BackoffBounds where
  base : Duration := .ofMilliseconds 5
  greatest : Duration := .ofSeconds 1000
deriving DecidableEq, Repr

namespace BackoffBounds

/-- The factor of the base delay after a number of earlier attempts. -/
def factor (attempts : UInt32) : UInt32 := 1 <<< min attempts 31

/-- The delay after a number of earlier attempts; one that is too long is the greatest delay. -/
def delay (bounds : BackoffBounds) (attempts : UInt32) : Duration :=
  match bounds.base.times? (factor attempts) with
  | none => bounds.greatest
  | some delay => delay.shorter bounds.greatest

end BackoffBounds

/-- The attempts of every key since its last success. -/
structure Backoff where
  bounds : BackoffBounds := {}
  /-- The number of attempts of the keys that have any. -/
  attempts : Table String UInt32 := []
deriving Repr

namespace Backoff

/-- The greatest value of the counter. -/
def limit : UInt32 := 0xFFFFFFFF

/-- One attempt more, unless the counter is at its limit. -/
def saturatingSuccessor (count : UInt32) : UInt32 := if count = limit then count else count + 1

/-- How often a key was attempted since its last success. -/
def requeues (backoff : Backoff) (key : String) : UInt32 :=
  (Table.get? backoff.attempts key).getD 0

/-- The delay before the next attempt of a key, which is counted. -/
def next (backoff : Backoff) (key : String) : Duration × Backoff :=
  let count := backoff.requeues key
  (backoff.bounds.delay count,
    { backoff with attempts := Table.insert key (saturatingSuccessor count) backoff.attempts })

/-- Start over with a key. -/
def forget (backoff : Backoff) (key : String) : Backoff :=
  { backoff with attempts := Table.erase key backoff.attempts }

@[simp]
theorem requeues_next_self (backoff : Backoff) (key : String) :
    (backoff.next key).2.requeues key = saturatingSuccessor (backoff.requeues key) := by
  simp [next, requeues]

theorem requeues_next_of_ne {key other : String} (ne : key ≠ other) (backoff : Backoff) :
    (backoff.next key).2.requeues other = backoff.requeues other := by
  simp [next, requeues, Table.get?_insert, ne]

theorem requeues_forget (backoff : Backoff) (key other : String) :
    (backoff.forget key).requeues other =
      if key = other then 0 else backoff.requeues other := by
  simp only [forget, requeues, Table.get?_erase]
  split <;> simp

end Backoff

end GaleraControl

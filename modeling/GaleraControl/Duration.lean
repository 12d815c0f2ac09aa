/-!
# Durations

A span of time in whole nanoseconds.  Its seconds fit into 64 bits; the bound
is part of the type, and what exceeds it is left to the operations to decide.
-/

namespace GaleraControl

/-- A span of time. -/
structure Duration where
  nanoseconds : Nat
  /-- The whole seconds fit into 64 bits. -/
  bounded : nanoseconds < UInt64.size * 1000000000
deriving DecidableEq, Repr

namespace Duration

/-- The longest span that is not longer than the given one. -/
def ofNanoseconds (nanoseconds : Nat) : Duration where
  nanoseconds := min nanoseconds (UInt64.size * 1000000000 - 1)
  bounded := by
    have positive : 0 < UInt64.size := by decide
    omega

/-- A span given in seconds. -/
def ofSeconds (seconds : Nat) : Duration := ofNanoseconds (seconds * 1000000000)

/-- A span given in milliseconds. -/
def ofMilliseconds (milliseconds : Nat) : Duration := ofNanoseconds (milliseconds * 1000000)

/-- The whole seconds of a span. -/
def seconds (span : Duration) : Nat := span.nanoseconds / 1000000000

/-- The nanoseconds of a span beyond its whole seconds. -/
def subsecondNanoseconds (span : Duration) : Nat := span.nanoseconds % 1000000000

/-- The longer of two spans. -/
def longer (first second : Duration) : Duration :=
  if first.nanoseconds ≤ second.nanoseconds then second else first

/-- The shorter of two spans. -/
def shorter (first second : Duration) : Duration :=
  if first.nanoseconds ≤ second.nanoseconds then first else second

/-- A multiple of a span, unless it is too long. -/
def times? (span : Duration) (factor : UInt32) : Option Duration :=
  if bounded : span.nanoseconds * factor.toNat < UInt64.size * 1000000000 then some ⟨_, bounded⟩ else none

instance : Inhabited Duration := ⟨⟨0, by decide⟩⟩

@[simp]
theorem nanoseconds_longer (first second : Duration) :
    (first.longer second).nanoseconds = max first.nanoseconds second.nanoseconds := by
  unfold longer
  split <;> omega

@[simp]
theorem nanoseconds_shorter (first second : Duration) :
    (first.shorter second).nanoseconds = min first.nanoseconds second.nanoseconds := by
  unfold shorter
  split <;> omega

end Duration

end GaleraControl

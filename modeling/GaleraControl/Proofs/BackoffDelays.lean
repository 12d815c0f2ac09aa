import GaleraControl.Proofs.Requeues

/-!
# The delays of a key

The delay that a key is given depends on the number of its attempts since it was
last forgotten, and on nothing else: it is the base delay doubled for each of
them, at most 31 times, and never more than the greatest delay.  The arithmetic is
exact.  A product that does not fit into a span of time is longer than every span,
so the greatest delay, which stands for it, is the shorter of the two.

That the doubling ends after 31 attempts shows only if the base delay, doubled 31
times, is still shorter than the greatest one.
-/

namespace GaleraControl

namespace Duration

@[ext]
theorem ext {first second : Duration} (same : first.nanoseconds = second.nanoseconds) :
    first = second := by
  cases first
  cases second
  congr

/-- The seconds of a product by parts: what the nanoseconds carry over is added. -/
def secondsTimes (span : Duration) (factor : Nat) : Nat :=
  span.seconds * factor + span.subsecondNanoseconds * factor / 1000000000

theorem secondsTimes_eq (span : Duration) (factor : Nat) :
    span.secondsTimes factor = span.nanoseconds * factor / 1000000000 := by
  have parts : span.nanoseconds * factor =
      span.subsecondNanoseconds * factor + span.seconds * factor * 1000000000 := by
    have split : span.nanoseconds =
        span.subsecondNanoseconds + span.seconds * 1000000000 := by
      unfold subsecondNanoseconds seconds
      omega
    rw [Nat.mul_right_comm, ← Nat.add_mul, ← split]
  rw [parts, Nat.add_mul_div_right _ _ (by omega), secondsTimes, Nat.add_comm]

/-- A product is too long if its seconds, formed by parts, do not fit. -/
theorem size_le_secondsTimes_iff (span : Duration) (factor : Nat) :
    UInt64.size ≤ span.secondsTimes factor ↔
      UInt64.size * 1000000000 ≤ span.nanoseconds * factor := by
  rw [secondsTimes_eq, Nat.le_div_iff_mul_le (by omega)]

end Duration

namespace BackoffBounds

theorem toNat_factor (attempts : UInt32) :
    (factor attempts).toNat = 2 ^ min attempts.toNat 31 := by
  have steps : (min attempts 31).toNat = min attempts.toNat 31 := by
    rw [UInt32.min_def]
    split_ifs with few
    · exact (Nat.min_eq_left (UInt32.le_iff_toNat_le.mp few)).symm
    · exact (Nat.min_eq_right (Nat.le_of_not_le fun less =>
        few (UInt32.le_iff_toNat_le.mpr less))).symm
  have small : min attempts.toNat 31 < 32 := by omega
  rw [factor, UInt32.toNat_shiftLeft, steps, Nat.mod_eq_of_lt small, UInt32.toNat_one,
    Nat.one_shiftLeft]
  exact Nat.mod_eq_of_lt (Nat.pow_lt_pow_right (by omega) small)

/-- The delay in exact arithmetic, also where the product is too long for a span of time. -/
theorem nanoseconds_delay (bounds : BackoffBounds) (attempts : UInt32) :
    (bounds.delay attempts).nanoseconds =
      min (bounds.base.nanoseconds * 2 ^ min attempts.toNat 31)
        bounds.greatest.nanoseconds := by
  have longest := bounds.greatest.bounded
  unfold delay Duration.times?
  rw [toNat_factor]
  split_ifs with fits
  · exact Duration.nanoseconds_shorter _ _
  · show bounds.greatest.nanoseconds = _
    exact (Nat.min_eq_right (by omega)).symm

end BackoffBounds

namespace Backoff

/-! ## Calls -/

/-- A use of the counters. -/
inductive Call where
  | next (key : String)
  | forget (key : String)
deriving DecidableEq, Repr

def Call.key : Call → String
  | .next key | .forget key => key

def after (backoff : Backoff) : Call → Backoff
  | .next key => (backoff.next key).2
  | .forget key => backoff.forget key

/-- The counters after some calls, the earliest first. -/
def afterAll (bounds : BackoffBounds) (calls : List Call) : Backoff :=
  calls.foldl after { bounds }

/-- The delay that a key is given after some calls. -/
def delayAfter (bounds : BackoffBounds) (calls : List Call) (key : String) : Duration :=
  ((afterAll bounds calls).next key).1

/-- How often a key was attempted after it was last forgotten. -/
def attemptsIn (calls : List Call) (key : String) : Nat :=
  (calls.reverse.takeWhile (· ≠ .forget key)).count (.next key)

/-- The number of attempts as far as it can be recorded. -/
def recorded (calls : List Call) (key : String) : Nat :=
  min (attemptsIn calls key) (UInt32.size - 1)

variable {bounds : BackoffBounds} {calls later : List Call} {key : String}

theorem attemptsIn_concat (calls : List Call) (call : Call) (key : String) :
    attemptsIn (calls ++ [call]) key =
      if call = .forget key then 0
      else attemptsIn calls key + if call = .next key then 1 else 0 := by
  unfold attemptsIn
  rw [List.reverse_concat, List.takeWhile_cons]
  by_cases forgets : call = .forget key
  · simp [forgets]
  · simp [forgets, List.count_cons]

theorem requeues_after (backoff : Backoff) (call : Call) (key : String) :
    (backoff.after call).requeues key =
      if call = .forget key then 0
      else if call = .next key then saturatingSuccessor (backoff.requeues key)
      else backoff.requeues key := by
  cases call with
  | next attempted =>
      by_cases same : attempted = key
      · subst same
        simp [after]
      · simp [after, same, requeues_next_of_ne same]
  | forget forgotten => simp [after, requeues_forget]

/-- What the counter of a key shows is the number of its attempts. -/
theorem toNat_requeues_afterAll (bounds : BackoffBounds) (calls : List Call) (key : String) :
    ((afterAll bounds calls).requeues key).toNat = recorded calls key := by
  induction calls using List.reverseRecOn with
  | nil => rfl
  | append_singleton calls call ih =>
      unfold recorded at ih ⊢
      rw [afterAll, List.foldl_concat, ← afterAll, requeues_after, attemptsIn_concat]
      split_ifs
      · rfl
      · rw [WorkQueue.toNat_saturatingSuccessor, ih]
        omega
      · simpa using ih

theorem bounds_afterAll (bounds : BackoffBounds) (calls : List Call) :
    (afterAll bounds calls).bounds = bounds := by
  induction calls using List.reverseRecOn with
  | nil => rfl
  | append_singleton calls call ih =>
      rw [afterAll, List.foldl_concat, ← afterAll]
      cases call <;> exact ih

theorem nanoseconds_delayAfter (bounds : BackoffBounds) (calls : List Call) (key : String) :
    (delayAfter bounds calls key).nanoseconds =
      min (bounds.base.nanoseconds * 2 ^ min (recorded calls key) 31)
        bounds.greatest.nanoseconds := by
  have delay : delayAfter bounds calls key =
      (afterAll bounds calls).bounds.delay ((afterAll bounds calls).requeues key) := rfl
  rw [delay, bounds_afterAll, BackoffBounds.nanoseconds_delay, toNat_requeues_afterAll]

/-! ## What the number of attempts depends on -/

theorem attemptsIn_append (kept : .forget key ∉ later) :
    attemptsIn (calls ++ later) key = attemptsIn calls key + later.count (.next key) := by
  induction later using List.reverseRecOn with
  | nil => simp
  | append_singleton later call ih =>
      rcases not_or.mp (mt List.mem_append.mpr kept) with ⟨before, last⟩
      have other : call ≠ .forget key := fun same => last (by simp [same])
      rw [← List.append_assoc, attemptsIn_concat, if_neg other, ih before, List.count_append,
        List.count_singleton, Nat.add_assoc]
      simp

/-- Calls about other keys do not matter. -/
theorem attemptsIn_filter (calls : List Call) (key : String) :
    attemptsIn (calls.filter (·.key = key)) key = attemptsIn calls key := by
  induction calls using List.reverseRecOn with
  | nil => rfl
  | append_singleton calls call ih =>
      rw [List.filter_append, attemptsIn_concat]
      by_cases own : call.key = key
      · simp [own, attemptsIn_concat, ih]
      · have forgets : call ≠ .forget key := fun same => own (by rw [same]; rfl)
        have attempts : call ≠ .next key := fun same => own (by rw [same]; rfl)
        simp [own, forgets, attempts, ih]

theorem recorded_le_append (kept : .forget key ∉ later) :
    recorded calls key ≤ recorded (calls ++ later) key := by
  unfold recorded
  rw [attemptsIn_append kept]
  omega

theorem attemptsIn_replicate (count : Nat) (key : String) :
    attemptsIn (List.replicate count (.next key)) key = count := by
  have kept : Call.forget key ∉ List.replicate count (.next key) := by
    simp [List.mem_replicate]
  have counted : attemptsIn ([] ++ List.replicate count (Call.next key)) key = _ :=
    attemptsIn_append kept
  rw [List.nil_append, List.count_replicate_self] at counted
  exact counted.trans (Nat.zero_add count)

/-! ## The delays -/

/-- Where 31 doublings do not reach the greatest delay, one more would change the delay. -/
theorem doublings_matter {base greatest : Nat} (positive : base ≠ 0)
    (short : base * 2 ^ 31 < greatest) :
    min (base * 2 ^ 31) greatest ≠ min (base * 2 ^ 32) greatest := by
  have apart : base * 2 ^ 31 < base * 2 ^ 32 :=
    Nat.mul_lt_mul_of_pos_left (by decide) (Nat.pos_of_ne_zero positive)
  omega

theorem doublings_capped {base greatest : Nat} (enough : base = 0 ∨ greatest ≤ base * 2 ^ 31)
    (count : Nat) :
    min (base * 2 ^ min count 31) greatest = min (base * 2 ^ count) greatest := by
  rcases enough with rfl | long
  · simp
  · rcases Nat.le_total count 31 with few | many
    · rw [Nat.min_eq_left few]
    · have grows : base * 2 ^ 31 ≤ base * 2 ^ count :=
        Nat.mul_le_mul_left base (Nat.pow_le_pow_right (by omega) many)
      rw [Nat.min_eq_right many]
      omega

/-- A product that does not fit into a span of time is replaced by the greatest delay. -/
theorem nanoseconds_delayAfter_of_long
    (long : UInt64.size ≤ bounds.base.secondsTimes (2 ^ min (recorded calls key) 31)) :
    (delayAfter bounds calls key).nanoseconds = bounds.greatest.nanoseconds := by
  have longest := bounds.greatest.bounded
  rw [Duration.size_le_secondsTimes_iff] at long
  rw [nanoseconds_delayAfter, Nat.min_eq_right (by omega)]

theorem nanoseconds_delayAfter_le_append (bounds : BackoffBounds) (calls : List Call)
    (kept : .forget key ∉ later) :
    (delayAfter bounds calls key).nanoseconds ≤
      (delayAfter bounds (calls ++ later) key).nanoseconds := by
  have doublings : min (recorded calls key) 31 ≤ min (recorded (calls ++ later) key) 31 :=
    min_le_min_right 31 (recorded_le_append kept)
  rw [nanoseconds_delayAfter, nanoseconds_delayAfter]
  apply min_le_min_right
  exact Nat.mul_le_mul_left _ (Nat.pow_le_pow_right (Nat.succ_pos 1) doublings)

theorem delayAfter_filter (bounds : BackoffBounds) (calls : List Call) (key : String) :
    delayAfter bounds (calls.filter (·.key = key)) key = delayAfter bounds calls key := by
  apply Duration.ext
  rw [nanoseconds_delayAfter, nanoseconds_delayAfter, recorded, recorded, attemptsIn_filter]

/-- Exactly these bounds hide that the doubling ends. -/
theorem doubled_for_ever_iff (bounds : BackoffBounds) :
    (∀ calls key, (delayAfter bounds calls key).nanoseconds =
        min (bounds.base.nanoseconds * 2 ^ recorded calls key) bounds.greatest.nanoseconds) ↔
      bounds.base.nanoseconds = 0 ∨
        bounds.greatest.nanoseconds ≤ bounds.base.nanoseconds * 2 ^ 31 := by
  constructor
  · intro doubled
    by_contra short
    rcases not_or.mp short with ⟨positive, short⟩
    -- The delay after 32 attempts is the first one that a further doubling would change.
    have counted : recorded (List.replicate 32 (.next "")) "" = 32 := by
      rw [recorded, attemptsIn_replicate]
      decide
    have delay := doubled (List.replicate 32 (.next "")) ""
    rw [nanoseconds_delayAfter, counted] at delay
    exact doublings_matter positive (Nat.lt_of_not_le short) delay
  · intro enough calls key
    rw [nanoseconds_delayAfter]
    exact doublings_capped enough _

/--
The delay of a key is the base delay, doubled for each recorded attempt but at most
31 times, or the greatest delay if this is shorter, also where the product does not
fit into a span of time.  Until the key is forgotten its delays do not decrease,
they never exceed the greatest one, and calls about other keys do not change them.
It is doubled for each attempt without end if and only if the base delay is zero or
31 doublings of it reach the greatest delay.
-/
theorem delays_exact (bounds : BackoffBounds) :
    (∀ calls key, (delayAfter bounds calls key).nanoseconds =
      min (bounds.base.nanoseconds * 2 ^ min (recorded calls key) 31)
        bounds.greatest.nanoseconds) ∧
    (∀ calls key, UInt64.size ≤ bounds.base.secondsTimes (2 ^ min (recorded calls key) 31) →
      (delayAfter bounds calls key).nanoseconds = bounds.greatest.nanoseconds) ∧
    (∀ calls later key, .forget key ∉ later →
      (delayAfter bounds calls key).nanoseconds ≤
        (delayAfter bounds (calls ++ later) key).nanoseconds) ∧
    (∀ calls key,
      (delayAfter bounds calls key).nanoseconds ≤ bounds.greatest.nanoseconds) ∧
    (∀ calls key,
      delayAfter bounds (calls.filter (·.key = key)) key = delayAfter bounds calls key) ∧
    ((∀ calls key, (delayAfter bounds calls key).nanoseconds =
        min (bounds.base.nanoseconds * 2 ^ recorded calls key) bounds.greatest.nanoseconds) ↔
      bounds.base.nanoseconds = 0 ∨
        bounds.greatest.nanoseconds ≤ bounds.base.nanoseconds * 2 ^ 31) := by
  refine ⟨nanoseconds_delayAfter bounds, ?overflow, ?grows, ?capped, ?apart, ?doubled⟩
  case overflow =>
    intro calls key long
    exact nanoseconds_delayAfter_of_long long
  case grows =>
    intro calls later key kept
    exact nanoseconds_delayAfter_le_append bounds calls kept
  case capped =>
    intro calls key
    rw [nanoseconds_delayAfter]
    exact Nat.min_le_right _ _
  case apart => exact delayAfter_filter bounds
  case doubled => exact doubled_for_ever_iff bounds

/-- Bounds of which the fourfold base delay is too long for a span of time. -/
def longBase : BackoffBounds where
  base := .ofSeconds (2 ^ 62)
  greatest := .ofSeconds (2 ^ 63)

theorem longBase_delays_exact :
    let calls : List Call := [.next "ns/db", .next "ns/other", .next "ns/db"]
    UInt64.size ≤ longBase.base.secondsTimes (2 ^ min (recorded calls "ns/db") 31) ∧
      (delayAfter longBase calls "ns/db").nanoseconds = 2 ^ 63 * 1000000000 ∧
      .forget "ns/db" ∉ [Call.forget "ns/other", .next "ns/db"] ∧
      (delayAfter longBase [] "ns/db").nanoseconds ≤
        (delayAfter longBase [.forget "ns/other", .next "ns/db"] "ns/db").nanoseconds := by
  rcases delays_exact longBase with ⟨_, overflow, grows, _⟩
  have long : UInt64.size ≤ longBase.base.secondsTimes
      (2 ^ min (recorded [.next "ns/db", .next "ns/other", .next "ns/db"] "ns/db") 31) := by
    decide +kernel
  have kept : .forget "ns/db" ∉ [Call.forget "ns/other", .next "ns/db"] := by decide
  exact ⟨long, overflow _ _ long, kept, grows [] _ _ kept⟩

end Backoff

end GaleraControl

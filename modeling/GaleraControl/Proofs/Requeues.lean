import GaleraControl.Proofs.QueueHistory

/-!
# Counting the attempts of a key

The number of requeues of a key is a matter of the events alone.  Every enqueueing
counts as an attempt, whether its addition takes effect or not, forgetting a key
starts over with it, and no event about another key changes the counter.
-/

namespace GaleraControl.WorkQueue

variable {Worker : Type}

/-- The key that an event enqueues after its backoff, which counts as an attempt. -/
def Event.attempted? : Event Worker → Option String
  | .enqueue key | .retry key => some key
  | _ => none

def Event.forgotten? : Event Worker → Option String
  | .forget key => some key
  | _ => none

theorem requeues_add (queue : WorkQueue) (added key : String) :
    (queue.add added).requeues key = queue.requeues key := by
  unfold WorkQueue.add
  split_ifs <;> rfl

theorem requeues_addAfter (queue : WorkQueue) (added : String) (delay : Duration)
    (key : String) : (queue.addAfter added delay).requeues key = queue.requeues key := by
  unfold addAfter
  split_ifs
  · rfl
  · exact requeues_add queue added key
  · rfl

theorem requeues_enqueue (queue : WorkQueue) (enqueued key : String) :
    (queue.enqueue enqueued).requeues key =
      if enqueued = key then Backoff.saturatingSuccessor (queue.requeues key)
      else queue.requeues key := by
  have counted : (queue.enqueue enqueued).requeues key =
      (queue.backoff.next enqueued).2.requeues key := requeues_addAfter _ enqueued _ key
  rw [counted]
  split_ifs with same
  · rw [same]
    exact Backoff.requeues_next_self queue.backoff key
  · exact Backoff.requeues_next_of_ne same queue.backoff

theorem requeues_done (queue : WorkQueue) (released key : String) :
    (queue.done released).requeues key = queue.requeues key := by
  unfold WorkQueue.done
  split_ifs <;> rfl

/-- An event counts an attempt, starts over, or leaves the counter of a key alone. -/
theorem requeues_after (queue : WorkQueue) (event : Event Worker) (key : String) :
    (queue.after event).requeues key =
      if event.forgotten? = some key then 0
      else if event.attempted? = some key then
        Backoff.saturatingSuccessor (queue.requeues key)
      else queue.requeues key := by
  cases event with
  | add added => exact requeues_add queue added key
  | addAfter added delay => exact requeues_addAfter queue added delay key
  | enqueue enqueued =>
      simp only [Event.forgotten?, Event.attempted?, reduceCtorEq, if_false, Option.some.injEq]
      exact requeues_enqueue queue enqueued key
  | retry enqueued =>
      simp only [Event.forgotten?, Event.attempted?, reduceCtorEq, if_false, Option.some.injEq]
      exact requeues_enqueue queue enqueued key
  | forget forgotten =>
      simp only [Event.forgotten?, Event.attempted?, reduceCtorEq, if_false, Option.some.injEq]
      exact Backoff.requeues_forget queue.backoff forgotten key
  | fire addition => exact requeues_add _ addition.key key
  | rest moment => rfl
  | dequeue worker =>
      have kept : ((queue.dequeue?.map Prod.snd).getD queue).requeues key =
          queue.requeues key := by
        unfold dequeue?
        split
        · rfl
        · split <;> rfl
      exact kept
  | done worker released => exact requeues_done queue released key
  | shutdown => rfl

theorem toNat_saturatingSuccessor (count : UInt32) :
    (Backoff.saturatingSuccessor count).toNat = min (count.toNat + 1) (UInt32.size - 1) := by
  have below : count.toNat < UInt32.size := count.toNat_lt
  unfold Backoff.saturatingSuccessor
  split_ifs with full
  · rw [full]
    decide
  · have room : count.toNat ≠ UInt32.size - 1 := by
      intro same
      exact full (UInt32.toNat_inj.mp same)
    have size : UInt32.size = 2 ^ 32 := rfl
    rw [UInt32.toNat_add, UInt32.toNat_one, Nat.mod_eq_of_lt (by omega)]
    omega

namespace History

/-- How often a key was attempted before a moment, and not forgotten since. -/
def attempts (history : History Worker) (key : String) (moment : Nat) : Nat :=
  Nat.count (fun earlier => (history.event earlier).attempted? = some key ∧
    ∀ between < moment, earlier < between →
      (history.event between).forgotten? ≠ some key) moment

theorem attempts_succ (history : History Worker) (key : String) (moment : Nat) :
    history.attempts key (moment + 1) =
      if (history.event moment).forgotten? = some key then 0
      else history.attempts key moment +
        if (history.event moment).attempted? = some key then 1 else 0 := by
  unfold attempts
  by_cases forgets : (history.event moment).forgotten? = some key
  · -- Whatever was attempted before is forgotten, and this event attempts nothing.
    rw [if_pos forgets, Nat.count_iff_forall_not]
    rintro earlier before ⟨attempted, kept⟩
    rcases Nat.lt_succ_iff_lt_or_eq.mp before with past | rfl
    · exact kept moment (Nat.lt_succ_self moment) past forgets
    · cases event : history.event earlier <;>
        simp [event, Event.forgotten?, Event.attempted?] at forgets attempted
  · rw [if_neg forgets, Nat.count_succ]
    congr 1
    · have narrows (earlier : Nat) (before : earlier < moment) :
          (∀ between < moment + 1, earlier < between →
              (history.event between).forgotten? ≠ some key) ↔
            ∀ between < moment, earlier < between →
              (history.event between).forgotten? ≠ some key := by
        refine ⟨fun kept between within => kept between (Nat.lt_succ_of_lt within), ?_⟩
        intro kept between within after
        rcases Nat.lt_succ_iff_lt_or_eq.mp within with past | rfl
        · exact kept between past after
        · exact forgets
      rw [Nat.count_eq_card_filter_range, Nat.count_eq_card_filter_range]
      congr 1
      refine Finset.filter_congr fun earlier before => ?_
      rw [narrows earlier (Finset.mem_range.mp before)]
    · have last : ∀ between < moment + 1, moment < between →
          (history.event between).forgotten? ≠ some key := by
        intro between within after
        omega
      exact if_congr (and_iff_left last) rfl rfl

/-- The counter of a key is the number of its attempts since it was forgotten. -/
theorem toNat_requeues (history : History Worker) (key : String) (moment : Nat) :
    ((history.queue moment).requeues key).toNat =
      min (history.attempts key moment) (UInt32.size - 1) := by
  induction moment with
  | zero => rfl
  | succ moment ih =>
      rw [queue_succ, requeues_after, attempts_succ]
      split_ifs
      · rfl
      · rw [toNat_saturatingSuccessor, ih]
        omega
      · simpa using ih

end History

end GaleraControl.WorkQueue

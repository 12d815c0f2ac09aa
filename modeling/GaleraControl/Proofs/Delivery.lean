import GaleraControl.Proofs.QueueHistory

/-!
# From the addition of a key to its hand-out

A `Call` asks an open queue to add a key, at once or after a delay, and takes
effect when the key begins to wait.  A key waits from then on until it is handed
out, and for no other reason (`mem_dirty_succ_iff`).  So no call is lost, no key
is handed out without a call, and all calls that take effect while a key waits
are answered by one hand-out.
-/

namespace GaleraControl.WorkQueue

variable {Worker : Type} {queue : WorkQueue} {key other : String}

def delayedAddition (queue : WorkQueue) (key : String) (delay : Duration) : DelayedAddition :=
  ⟨queue.now + delay.nanoseconds, key⟩

/-- The addition that an event postpones. -/
def postponed? (queue : WorkQueue) (event : Event Worker) : Option DelayedAddition :=
  (queue.call? event).bind fun (key, delay) =>
    if queue.isClosed ∨ delay.nanoseconds = 0 then none
    else some (queue.delayedAddition key delay)

theorem delayed_add (queue : WorkQueue) (key : String) :
    (queue.add key).delayed = queue.delayed := by
  unfold WorkQueue.add
  split_ifs <;> rfl

theorem delayed_addAfter (queue : WorkQueue) (key : String) (delay : Duration) :
    (queue.addAfter key delay).delayed = queue.delayed ++
      (if queue.isClosed ∨ delay.nanoseconds = 0 then none
        else some (queue.delayedAddition key delay)).toList := by
  unfold addAfter
  by_cases closed : queue.isClosed = true
  · simp [closed]
  · by_cases immediate : delay.nanoseconds = 0
    · simp [closed, immediate, delayed_add]
    · simp [closed, immediate, delayedAddition]

theorem delayed_after_fire (queue : WorkQueue) (addition : DelayedAddition) :
    (queue.after (.fire addition : Event Worker)).delayed = queue.delayed.erase addition :=
  delayed_add _ _

/-- No event but the firing of an addition takes one away. -/
theorem delayed_after {event : Event Worker}
    (other : ∀ addition, event ≠ .fire addition) :
    (queue.after event).delayed = queue.delayed ++ (queue.postponed? event).toList := by
  cases event with
  | add key => simp [after, delayed_add, postponed?, call?, Duration.ofNanoseconds]
  | addAfter key delay => exact delayed_addAfter queue key delay
  | enqueue key => exact delayed_addAfter _ key _
  | retry key => exact delayed_addAfter _ key _
  | forget key => simp [after, forget, postponed?, call?]
  | fire addition => exact absurd rfl (other addition)
  | rest moment => simp [after, rest, postponed?, call?]
  | dequeue worker =>
      have kept : ((queue.dequeue?.map Prod.snd).getD queue).delayed = queue.delayed := by
        unfold dequeue?
        split
        · rfl
        · split <;> rfl
      simp [after, kept, postponed?, call?]
  | done worker key =>
      have kept : (queue.done key).delayed = queue.delayed := by
        unfold WorkQueue.done
        split_ifs <;> rfl
      simp [after, kept, postponed?, call?]
  | shutdown => simp [after, shutdown, postponed?, call?]

theorem mem_dirty_add (queue : WorkQueue) (key other : String) :
    other ∈ (queue.add key).dirty ↔
      other ∈ queue.dirty ∨ (queue.isClosed = false ∧ key = other) := by
  unfold WorkQueue.add
  by_cases same : key = other
  · subst same
    by_cases closed : queue.isClosed = true <;> split_ifs <;> simp_all
  · have apart : other ≠ key := fun equal => same equal.symm
    split_ifs <;> simp [same, apart]

theorem isClosed_after (event : Event Worker) (closed : queue.isClosed = true) :
    (queue.after event).isClosed = true := by
  have row := queue.changes_after event
  generalize queue.after event = later at row ⊢
  cases row with
  | adds added same => rw [same.isClosed, add_of_isClosed closed, closed]
  | hands worker opened first => simp [closed] at opened
  | releases worker key =>
      unfold WorkQueue.done
      split_ifs <;> exact closed
  | closes => rfl
  | keeps idle same => rw [same.isClosed, closed]

namespace History

variable {history : History Worker} {moment earlier later : Nat}

/-- An addition of a key takes effect. -/
def Adds (history : History Worker) (moment : Nat) (key : String) : Prop :=
  (history.queue moment).isClosed = false ∧
    (history.queue moment).added? (history.event moment) = some key

/-- A call that an open queue answers. -/
structure Call (history : History Worker) where
  moment : Nat
  key : String
  delay : Duration
  opened : (history.queue moment).isClosed = false
  asked : (history.queue moment).call? (history.event moment) = some (key, delay)

namespace Call

def addition (call : history.Call) : DelayedAddition :=
  (history.queue call.moment).delayedAddition call.key call.delay

/-- A call takes effect at once, or when its delayed addition does. -/
inductive TakesEffect (call : history.Call) : Nat → Prop where
  | atOnce (immediate : call.delay.nanoseconds = 0) : call.TakesEffect call.moment
  | later {moment : Nat} (postponed : call.delay.nanoseconds ≠ 0) (after : call.moment < moment)
      (fires : history.event moment = .fire call.addition) : call.TakesEffect moment

/-- The delayed addition of a call has still to take effect. -/
def IsPending (call : history.Call) (moment : Nat) : Prop :=
  call.delay.nanoseconds ≠ 0 ∧ call.addition ∈ (history.queue moment).delayed

end Call

/-- What becomes of a key after an addition took effect. -/
inductive Kept (history : History Worker) (effect : Nat) (key : String) (moment : Nat) : Prop where
  | handedOut (handed : Nat) (after : effect < handed) (before : handed < moment)
      (hands : history.HandsOut handed key)
  | ready (waits : key ∈ (history.queue moment).ready)
  /-- The key is held, and its release makes it ready. -/
  | parked (worker : Worker) (held : history.Holds moment worker key)
      (waits : key ∈ (history.queue moment).dirty)
      (released : key ∈ ((history.queue moment).after (.done worker key)).ready)

/-! ## What one event does -/

theorem isClosed_mono (order : earlier ≤ later)
    (closed : (history.queue earlier).isClosed = true) :
    (history.queue later).isClosed = true := by
  induction later, order using Nat.le_induction with
  | base => exact closed
  | succ moment _ ih => exact isClosed_after (history.event moment) ih

theorem opened_before (order : earlier ≤ later)
    (opened : (history.queue later).isClosed = false) :
    (history.queue earlier).isClosed = false := by
  cases closed : (history.queue earlier).isClosed with
  | false => rfl
  | true => simp [isClosed_mono order closed] at opened

theorem not_handsOut_of_adds (adds : history.Adds moment key) (other : String) :
    ¬ history.HandsOut moment other := by
  simp [HandsOut, (idle_of_added adds.2).1]

/-- A key waits from its addition to its hand-out. -/
theorem mem_dirty_succ_iff (history : History Worker) (moment : Nat) (key : String) :
    key ∈ (history.queue (moment + 1)).dirty ↔
      (key ∈ (history.queue moment).dirty ∨ history.Adds moment key) ∧
        ¬ history.HandsOut moment key := by
  have row := (history.queue moment).changes_after (history.event moment)
  rw [← queue_succ] at row
  unfold HandsOut Adds
  generalize history.event moment = event at row ⊢
  generalize history.queue (moment + 1) = later at row ⊢
  cases row with
  | @adds _ new _ added same =>
      simp [same.dirty, mem_dirty_add, added, (idle_of_added added).1]
  | @hands worker first rest opened ready =>
      have handed := dequeue?_eq_handOut opened ready
      by_cases same : key = first
      · simp [handed?, handed, handOut, same]
      · have apart : first ≠ key := fun equal => same equal.symm
        simp [handed?, handed, handOut, added?, call?, same, apart]
  | releases worker released =>
      have kept : ((history.queue moment).done released).dirty =
          (history.queue moment).dirty := by
        unfold WorkQueue.done
        split_ifs <;> rfl
      simp [kept, handed?, added?, call?]
  | closes => simp [shutdown, handed?, added?, call?]
  | keeps idle same => simp [same.dirty, idle.adds, idle.hands]

/-- An addition that was not pending before has just been asked for. -/
theorem mem_delayed_succ {addition : DelayedAddition}
    (pending : addition ∈ (history.queue (moment + 1)).delayed) :
    addition ∈ (history.queue moment).delayed ∨
      (history.queue moment).postponed? (history.event moment) = some addition := by
  by_cases fires : ∃ fired, history.event moment = .fire fired
  · rcases fires with ⟨fired, event⟩
    rw [queue_succ, event, delayed_after_fire] at pending
    exact Or.inl (List.mem_of_mem_erase pending)
  · rw [queue_succ, delayed_after (not_exists.mp fires)] at pending
    simpa using pending

theorem mem_delayed_of_mem {addition : DelayedAddition}
    (pending : addition ∈ (history.queue moment).delayed)
    (other : history.event moment ≠ .fire addition) :
    addition ∈ (history.queue (moment + 1)).delayed := by
  -- What fires instead may be of the same key, but then it is due at another moment.
  by_cases fires : ∃ fired, history.event moment = .fire fired
  · rcases fires with ⟨fired, event⟩
    have apart : addition ≠ fired := by
      rintro rfl
      exact other event
    rw [queue_succ, event, delayed_after_fire]
    exact (List.mem_erase_of_ne apart).mpr pending
  · rw [queue_succ, delayed_after (not_exists.mp fires)]
    exact List.mem_append_left _ pending

/-! ## What a history does -/

/-- A key waits after its addition until it is handed out. -/
theorem mem_dirty_or_handed (adds : history.Adds earlier key) (order : earlier < later) :
    key ∈ (history.queue later).dirty ∨
      ∃ handed, earlier < handed ∧ handed < later ∧ history.HandsOut handed key := by
  induction later, order using Nat.le_induction with
  | base =>
      exact Or.inl ((mem_dirty_succ_iff history earlier key).mpr
        ⟨Or.inr adds, not_handsOut_of_adds adds key⟩)
  | succ moment order ih =>
      rcases ih with waits | ⟨handed, after, before, hands⟩
      · by_cases hands : history.HandsOut moment key
        · exact Or.inr ⟨moment, order, Nat.lt_succ_self moment, hands⟩
        · exact Or.inl ((mem_dirty_succ_iff history moment key).mpr ⟨Or.inl waits, hands⟩)
      · exact Or.inr ⟨handed, after, Nat.lt_succ_of_lt before, hands⟩

/-- A key that waits was added after its last hand-out. -/
theorem exists_adds_of_mem_dirty (waits : key ∈ (history.queue moment).dirty) :
    ∃ effect < moment, history.Adds effect key ∧
      ∀ between, effect ≤ between → between < moment → ¬ history.HandsOut between key := by
  induction moment with
  | zero => simp [queue, WorkQueue.new] at waits
  | succ moment ih =>
      obtain ⟨waited | adds, stays⟩ := (mem_dirty_succ_iff history moment key).mp waits
      · obtain ⟨effect, before, adds, kept⟩ := ih waited
        refine ⟨effect, Nat.lt_succ_of_lt before, adds, fun between after within => ?_⟩
        rcases Nat.lt_succ_iff_lt_or_eq.mp within with past | rfl
        · exact kept between after past
        · exact stays
      · refine ⟨moment, Nat.lt_succ_self moment, adds, fun between after within => ?_⟩
        obtain rfl : between = moment := by omega
        exact stays

theorem exists_call_of_mem_delayed {addition : DelayedAddition}
    (pending : addition ∈ (history.queue moment).delayed) :
    ∃ call : history.Call, call.moment < moment ∧ call.delay.nanoseconds ≠ 0 ∧
      call.addition = addition := by
  induction moment with
  | zero => simp [queue, WorkQueue.new] at pending
  | succ moment ih =>
      rcases mem_delayed_succ pending with before | postponed
      · obtain ⟨call, past, rest⟩ := ih before
        exact ⟨call, Nat.lt_succ_of_lt past, rest⟩
      · obtain ⟨⟨key, delay⟩, asked, made⟩ := Option.bind_eq_some_iff.mp postponed
        by_cases refused : (history.queue moment).isClosed ∨ delay.nanoseconds = 0
        · simp [refused] at made
        · obtain ⟨opened, later⟩ := not_or.mp refused
          have same : (history.queue moment).delayedAddition key delay = addition := by
            simpa [opened, later] using made
          exact ⟨⟨moment, key, delay, by simpa using opened, asked⟩, Nat.lt_succ_self moment,
            later, same⟩

/-- A call that is not answered at once is pending until it takes effect. -/
theorem Call.isPending_or_takesEffect (call : history.Call) (order : call.moment < moment) :
    call.IsPending moment ∨ ∃ effect < moment, call.TakesEffect effect := by
  by_cases immediate : call.delay.nanoseconds = 0
  · exact Or.inr ⟨call.moment, order, .atOnce immediate⟩
  · induction moment, order using Nat.le_induction with
    | base =>
        refine Or.inl ⟨immediate, ?_⟩
        rw [Nat.succ_eq_add_one, queue_succ, delayed_after (not_fire_of_call call.asked)]
        simp [postponed?, call.asked, call.opened, immediate, Call.addition]
    | succ moment order ih =>
        rcases ih with pending | ⟨effect, before, takes⟩
        · by_cases fires : history.event moment = .fire call.addition
          · exact Or.inr ⟨moment, Nat.lt_succ_self moment, .later immediate order fires⟩
          · exact Or.inl ⟨immediate, mem_delayed_of_mem pending.2 fires⟩
        · exact Or.inr ⟨effect, Nat.lt_succ_of_lt before, takes⟩

theorem Call.TakesEffect.adds {call : history.Call} (takes : call.TakesEffect moment)
    (opened : (history.queue moment).isClosed = false) : history.Adds moment call.key := by
  refine ⟨opened, ?_⟩
  cases takes with
  | atOnce immediate => rw [added?_of_call call.asked, if_pos immediate]
  | later postponed after fires =>
      rw [fires]
      rfl

/-- In a disciplined history every addition that takes effect was asked for. -/
theorem Disciplined.exists_takesEffect (disciplined : history.Disciplined)
    (adds : history.Adds moment key) :
    ∃ call : history.Call, call.key = key ∧ call.TakesEffect moment := by
  by_cases fires : ∃ addition, history.event moment = .fire addition
  · rcases fires with ⟨addition, event⟩
    obtain ⟨call, before, later, same⟩ :=
      exists_call_of_mem_delayed (disciplined.fires moment addition event)
    have added := adds.2
    rw [event] at added
    refine ⟨call, ?_, .later later before (by rw [event, same])⟩
    rw [← Option.some.inj added, ← same]
    rfl
  · have added := adds.2
    rw [added?_eq_bind (not_exists.mp fires)] at added
    obtain ⟨⟨asked, delay⟩, calls, immediate⟩ := Option.bind_eq_some_iff.mp added
    by_cases atOnce : delay.nanoseconds = 0
    · obtain rfl : asked = key := by simpa [atOnce] using immediate
      exact ⟨⟨moment, asked, delay, adds.1, calls⟩, rfl, .atOnce atOnce⟩
    · simp [atOnce] at immediate

/-- In an open queue a key that waits is ready, or held and made ready by its release. -/
theorem Disciplined.kept (disciplined : history.Disciplined) {effect : Nat}
    (adds : history.Adds effect key) (order : effect < moment)
    (opened : (history.queue moment).isClosed = false) : history.Kept effect key moment := by
  rcases mem_dirty_or_handed adds order with waits | ⟨handed, after, before, hands⟩
  · have sound := disciplined.sound moment
    rcases sound.consistent.placed opened key waits with ready | held
    · exact .ready ready
    · obtain ⟨worker, holds⟩ := (sound.held key).mp held
      exact .parked worker holds waits (by simp [after, WorkQueue.done, waits, opened])
  · exact .handedOut handed after before hands

/-- Only an open queue hands out a key, and it hands out the first ready one. -/
theorem exists_ready_of_handsOut (hands : history.HandsOut moment key) :
    (history.queue moment).isClosed = false ∧
      ∃ rest, (history.queue moment).ready = key :: rest := by
  have row := (history.queue moment).changes_after (history.event moment)
  unfold HandsOut at hands
  generalize history.event moment = event at row hands
  generalize (history.queue moment).after event = later at row
  cases row with
  | adds added same => simp [(idle_of_added added).1] at hands
  | @hands worker first rest opened ready =>
      obtain rfl : first = key := by
        simpa [handed?, dequeue?_eq_handOut opened ready] using hands
      exact ⟨opened, rest, ready⟩
  | releases worker released => simp [handed?] at hands
  | closes => simp [handed?] at hands
  | keeps idle same => simp [idle.hands] at hands

theorem Disciplined.mem_dirty_of_handsOut (disciplined : history.Disciplined)
    (hands : history.HandsOut moment key) :
    key ∈ (history.queue moment).dirty ∧ (history.queue moment).isClosed = false := by
  rcases exists_ready_of_handsOut hands with ⟨opened, rest, ready⟩
  exact ⟨((disciplined.sound moment).consistent.waiting key (by simp [ready])).1, opened⟩

/--
After an addition a key is handed out once, or waits for it still, as long as no
addition takes effect after that.
-/
theorem Disciplined.handOuts_eq_of_adds (disciplined : history.Disciplined) {first : Nat}
    (adds : history.Adds first key) (order : first < moment)
    (calm : ∀ handed effect, first < handed → handed < effect → effect < moment →
      history.HandsOut handed key → ¬ history.Adds effect key) :
    history.handOuts key moment =
      history.handOuts key first + if key ∈ (history.queue moment).dirty then 0 else 1 := by
  induction moment, order using Nat.le_induction with
  | base =>
      have waits := (mem_dirty_succ_iff history first key).mpr
        ⟨Or.inr adds, not_handsOut_of_adds adds key⟩
      have hands := not_handsOut_of_adds adds key
      simp [handOuts, Nat.count_succ, waits, hands]
  | succ moment order ih =>
      have counted := ih fun handed effect after later before =>
        calm handed effect after later (Nat.lt_succ_of_lt before)
      have waiting := mem_dirty_succ_iff history moment key
      unfold handOuts at counted ⊢
      rw [Nat.count_succ, counted]
      by_cases hands : history.HandsOut moment key
      · have waits := (disciplined.mem_dirty_of_handsOut hands).1
        simp [waiting, hands, waits]
      · -- A key that waits no more has been handed out, so nothing is added now.
        have spared (idle : key ∉ (history.queue moment).dirty) : ¬ history.Adds moment key := by
          rcases mem_dirty_or_handed adds order with waits | ⟨handed, after, before, hands⟩
          · exact absurd waits idle
          · exact calm handed moment after before (Nat.lt_succ_self moment) hands
        by_cases waits : key ∈ (history.queue moment).dirty
        · simp [waiting, hands, waits]
        · simp [waiting, hands, waits, spared waits]

/--
The queue loses no key and invents none.  As long as it is open, a call is
pending or has taken effect, and then its key has been handed out since, is
ready, or is held and made ready by its release.  A hand-out answers a call that
took effect after the hand-out before, and all additions that take effect before
the next hand-out are answered by that one.
-/
theorem Disciplined.calls_answered_by_handOuts (disciplined : history.Disciplined) :
    (∀ (call : history.Call) (moment : Nat), call.moment < moment →
      (history.queue moment).isClosed = false →
      (call.IsPending moment ∨ ∃ effect < moment, call.TakesEffect effect) ∧
        ∀ effect < moment, call.TakesEffect effect → history.Kept effect call.key moment) ∧
    (∀ (handed : Nat) (key : String), history.HandsOut handed key →
      ∃ (call : history.Call) (effect : Nat), call.key = key ∧ call.TakesEffect effect ∧
        history.Adds effect key ∧ effect < handed ∧
          ∀ between, effect ≤ between → between < handed → ¬ history.HandsOut between key) ∧
    ∀ (key : String) (first moment : Nat), history.Adds first key → first < moment →
      (∀ handed effect, first < handed → handed < effect → effect < moment →
        history.HandsOut handed key → ¬ history.Adds effect key) →
      history.handOuts key moment =
        history.handOuts key first + if key ∈ (history.queue moment).dirty then 0 else 1 := by
  refine ⟨fun call moment order opened => ⟨call.isPending_or_takesEffect order, ?_⟩,
    fun handed key hands => ?_, fun key first moment adds order calm => ?_⟩
  · intro effect before takes
    exact disciplined.kept (takes.adds (opened_before before.le opened)) before opened
  · obtain ⟨effect, before, adds, kept⟩ :=
      exists_adds_of_mem_dirty (disciplined.mem_dirty_of_handsOut hands).1
    obtain ⟨call, same, takes⟩ := disciplined.exists_takesEffect adds
    exact ⟨call, effect, same, takes, adds, before, kept⟩
  · exact disciplined.handOuts_eq_of_adds adds order calm

/-- The retry of a failed pass, while its worker still holds the key. -/
def retryCall : retriedKey.Call where
  moment := 3
  key := "ns/db"
  delay := .ofNanoseconds 10000000
  opened := by decide +kernel
  asked := by decide +kernel

theorem retryCall_answered :
    retriedKey.Kept 4 "ns/db" 5 ∧
      (∃ (call : retriedKey.Call) (effect : Nat),
        call.key = "ns/db" ∧ call.TakesEffect effect ∧ effect < 6) ∧
      retriedKey.handOuts "ns/db" 7 = retriedKey.handOuts "ns/db" 4 + 1 := by
  rcases retriedKey_disciplined.calls_answered_by_handOuts with ⟨lost, invented, answered⟩
  have fires : retryCall.TakesEffect 4 := .later (by decide) (by decide) (by decide +kernel)
  have adds : retriedKey.Adds 4 "ns/db" := by
    unfold Adds
    decide +kernel
  have hands : retriedKey.HandsOut 6 "ns/db" := by decide +kernel
  refine ⟨?_, ?_, ?_⟩
  · exact (lost retryCall 5 (by decide) (by decide +kernel)).2 4 (by omega) fires
  · obtain ⟨call, effect, same, takes, _, before, _⟩ := invented 6 "ns/db" hands
    exact ⟨call, effect, same, takes, before⟩
  · have released : ¬ retriedKey.HandsOut 5 "ns/db" := by decide +kernel
    have calm : ∀ handed effect, 4 < handed → handed < effect → effect < 7 →
        retriedKey.HandsOut handed "ns/db" → ¬ retriedKey.Adds effect "ns/db" := by
      intro handed effect after later before again
      obtain rfl : handed = 5 := by omega
      exact absurd again released
    have counted := answered "ns/db" 4 7 adds (by omega) calm
    have taken : "ns/db" ∉ (retriedKey.queue 7).dirty := by decide +kernel
    rwa [if_neg taken] at counted

end History

end GaleraControl.WorkQueue

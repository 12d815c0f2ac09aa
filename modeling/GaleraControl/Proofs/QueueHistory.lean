import GaleraControl.WorkQueue
import Mathlib.Data.Nat.Count
import Mathlib.Tactic.IntervalCases
import Mathlib.Tactic.SplitIfs

/-!
# Histories of a shared queue

Workers and producers act on one queue in any order, and delayed additions take
effect whenever they fall due.  A `History` is an unending sequence of such
events; every finite one is the beginning of one.  `Changes` lists what an event
can do to the places of the keys, and `Consistent` is what every event keeps.

A worker holds a key from its hand-out to its release, and only the holder
releases it.  So a key is handed out again only after its release, and no two
workers ever hold the same key.
-/

namespace GaleraControl.WorkQueue

variable {Worker : Type}

/-- What can happen to a queue. -/
inductive Event (Worker : Type) where
  | add (key : String)
  | addAfter (key : String) (delay : Duration)
  | enqueue (key : String)
  | retry (key : String)
  | forget (key : String)
  /-- A delayed addition takes effect. -/
  | fire (addition : DelayedAddition)
  /-- Time passes without any effect. -/
  | rest (moment : Nat)
  /-- A worker asks for a key, and gets none if there is none. -/
  | dequeue (worker : Worker)
  | done (worker : Worker) (key : String)
  | shutdown
deriving DecidableEq, Repr

def after (queue : WorkQueue) : Event Worker → WorkQueue
  | .add key => queue.add key
  | .addAfter key delay => queue.addAfter key delay
  | .enqueue key => queue.enqueue key
  | .retry key => queue.retry key
  | .forget key => queue.forget key
  | .fire addition => queue.fire addition
  | .rest moment => queue.rest moment
  | .dequeue _ => (queue.dequeue?.map Prod.snd).getD queue
  | .done _ key => queue.done key
  | .shutdown => queue.shutdown

/-- The key that an event asks the queue to add, and after which delay. -/
def call? (queue : WorkQueue) : Event Worker → Option (String × Duration)
  | .add key => some (key, .ofNanoseconds 0)
  | .addAfter key delay => some (key, delay)
  | .enqueue key | .retry key => some (key, (queue.backoff.next key).1)
  | _ => none

/-- The key of which an addition takes effect. -/
def added? (queue : WorkQueue) : Event Worker → Option String
  | .fire addition => some addition.key
  | event => (queue.call? event).bind fun call =>
      if call.2.nanoseconds = 0 then some call.1 else none

/-- The key that is handed out, and the worker that gets it. -/
def handed? (queue : WorkQueue) : Event Worker → Option (Worker × String)
  | .dequeue worker => queue.dequeue?.map fun handed => (worker, handed.1)
  | _ => none

def Event.released? : Event Worker → Option String
  | .done _ key => some key
  | _ => none

/-! ## What an event does to the places of the keys -/

/-- The keys of two queues are in the same places. -/
structure SamePlaces (first second : WorkQueue) : Prop where
  ready : second.ready = first.ready
  dirty : second.dirty = first.dirty
  processing : second.processing = first.processing
  isClosed : second.isClosed = first.isClosed

theorem SamePlaces.refl (queue : WorkQueue) : SamePlaces queue queue := ⟨rfl, rfl, rfl, rfl⟩

/-- The queue after the hand-out of its first ready key. -/
def handOut (queue : WorkQueue) (key : String) (rest : List String) : WorkQueue :=
  { queue with
    ready := rest
    dirty := queue.dirty.filter (· ≠ key)
    processing := key :: queue.processing.filter (· ≠ key) }

/-- An event that neither adds nor hands out nor releases a key, and leaves the queue open. -/
structure Event.Idle (queue : WorkQueue) (event : Event Worker) : Prop where
  adds : queue.added? event = none
  hands : queue.handed? event = none
  releases : event.released? = none

/-- What an event can do: the rows of a table. -/
inductive Changes (queue : WorkQueue) : Event Worker → WorkQueue → Prop where
  | adds {event : Event Worker} {key : String} {later : WorkQueue}
      (added : queue.added? event = some key) (same : SamePlaces (queue.add key) later) :
      Changes queue event later
  | hands (worker : Worker) {key : String} {rest : List String}
      (opened : queue.isClosed = false) (first : queue.ready = key :: rest) :
      Changes queue (.dequeue worker) (queue.handOut key rest)
  | releases (worker : Worker) (key : String) :
      Changes queue (.done worker key) (queue.done key)
  | closes : Changes queue .shutdown queue.shutdown
  | keeps {event : Event Worker} {later : WorkQueue} (idle : event.Idle queue)
      (same : SamePlaces queue later) : Changes queue event later

section Rows

variable {queue later first second : WorkQueue} {key : String}

theorem SamePlaces.add (same : SamePlaces first second) (key : String) :
    SamePlaces (first.add key) (second.add key) := by
  unfold WorkQueue.add
  rw [same.isClosed, same.dirty, same.processing]
  split_ifs
  · exact same
  · exact ⟨same.ready, rfl, rfl, rfl⟩
  · exact ⟨by rw [same.ready], rfl, rfl, rfl⟩

theorem add_of_isClosed (closed : queue.isClosed = true) (key : String) :
    queue.add key = queue := by
  simp [WorkQueue.add, closed]

theorem addAfter_of_immediate {delay : Duration} (immediate : delay.nanoseconds = 0)
    (queue : WorkQueue) (key : String) : queue.addAfter key delay = queue.add key := by
  unfold addAfter
  split
  · next closed => exact (add_of_isClosed closed key).symm
  · simp

theorem addAfter_of_postponed {delay : Duration} (postponed : delay.nanoseconds ≠ 0)
    (queue : WorkQueue) (key : String) : SamePlaces queue (queue.addAfter key delay) := by
  unfold addAfter
  rw [if_neg postponed]
  split
  · exact SamePlaces.refl queue
  · exact ⟨rfl, rfl, rfl, rfl⟩

/-- Beside a delayed addition, only a call without a delay takes effect. -/
theorem added?_eq_bind {event : Event Worker} (other : ∀ addition, event ≠ .fire addition) :
    queue.added? event = (queue.call? event).bind fun call =>
      if call.2.nanoseconds = 0 then some call.1 else none := by
  cases event with
  | fire addition => exact absurd rfl (other addition)
  | _ => rfl

theorem not_fire_of_call {event : Event Worker} {call : String × Duration}
    (calls : queue.call? event = some call) (addition : DelayedAddition) :
    event ≠ .fire addition := by
  rintro rfl
  simp [call?] at calls

theorem added?_of_call {event : Event Worker} {delay : Duration}
    (calls : queue.call? event = some (key, delay)) :
    queue.added? event = if delay.nanoseconds = 0 then some key else none := by
  rw [added?_eq_bind (not_fire_of_call calls), calls]
  rfl

/-- A call that asks for an immediate addition adds, and any other one changes no place. -/
theorem changes_of_call {event : Event Worker} {delay : Duration}
    (calls : queue.call? event = some (key, delay)) (same : SamePlaces queue first) :
    Changes queue event (first.addAfter key delay) := by
  have added := added?_of_call calls
  by_cases immediate : delay.nanoseconds = 0
  · rw [addAfter_of_immediate immediate]
    exact .adds (by rw [added, if_pos immediate]) (same.add key)
  · have kept := addAfter_of_postponed immediate first key
    refine .keeps ⟨by rw [added, if_neg immediate], ?_, ?_⟩
      ⟨kept.ready.trans same.ready, kept.dirty.trans same.dirty,
        kept.processing.trans same.processing, kept.isClosed.trans same.isClosed⟩
    · cases event <;> simp_all [handed?, call?]
    · cases event <;> simp_all [Event.released?, call?]

theorem dequeue?_eq_none (empty : queue.isClosed = true ∨ queue.ready = []) :
    queue.dequeue? = none := by
  unfold dequeue?
  rcases empty with closed | nothing
  · rw [if_pos closed]
  · rw [nothing]
    split <;> rfl

theorem dequeue?_eq_handOut {rest : List String} (opened : queue.isClosed = false)
    (ready : queue.ready = key :: rest) :
    queue.dequeue? = some (key, queue.handOut key rest) := by
  simp [dequeue?, opened, ready, handOut]

theorem processing_add (queue : WorkQueue) (key : String) :
    (queue.add key).processing = queue.processing := by
  unfold WorkQueue.add
  split_ifs <;> rfl

theorem processing_done (queue : WorkQueue) (key : String) :
    (queue.done key).processing = queue.processing.filter (· ≠ key) := by
  unfold WorkQueue.done
  split_ifs <;> rfl

theorem processing_shutdown (queue : WorkQueue) :
    queue.shutdown.processing = queue.processing := rfl

theorem idle_of_added {event : Event Worker} (added : queue.added? event = some key) :
    queue.handed? event = none ∧ event.released? = none := by
  cases event with
  | dequeue worker => simp [added?, call?] at added
  | done worker held => simp [added?, call?] at added
  | _ => exact ⟨rfl, rfl⟩

theorem changes_after (queue : WorkQueue) (event : Event Worker) :
    Changes queue event (queue.after event) := by
  cases event with
  | add key =>
      have added : queue.added? (.add key : Event Worker) = some key := rfl
      exact .adds added (SamePlaces.refl _)
  | addAfter key delay => exact changes_of_call rfl (SamePlaces.refl queue)
  | enqueue key => exact changes_of_call rfl ⟨rfl, rfl, rfl, rfl⟩
  | retry key => exact changes_of_call rfl ⟨rfl, rfl, rfl, rfl⟩
  | forget key => exact .keeps ⟨rfl, rfl, rfl⟩ ⟨rfl, rfl, rfl, rfl⟩
  | fire addition =>
      have same : SamePlaces queue { queue with
          delayed := queue.delayed.erase addition
          now := max queue.now addition.due } := ⟨rfl, rfl, rfl, rfl⟩
      exact .adds rfl (same.add addition.key)
  | rest moment => exact .keeps ⟨rfl, rfl, rfl⟩ ⟨rfl, rfl, rfl, rfl⟩
  | dequeue worker =>
      cases opened : queue.isClosed with
      | true =>
          have nothing := dequeue?_eq_none (Or.inl opened)
          simp only [after, nothing]
          exact .keeps ⟨rfl, by simp [handed?, nothing], rfl⟩ (SamePlaces.refl queue)
      | false =>
          cases ready : queue.ready with
          | nil =>
              have nothing := dequeue?_eq_none (Or.inr ready)
              simp only [after, nothing]
              exact .keeps ⟨rfl, by simp [handed?, nothing], rfl⟩ (SamePlaces.refl queue)
          | cons key rest =>
              simp only [after, dequeue?_eq_handOut opened ready]
              exact .hands worker opened ready
  | done worker key => exact .releases worker key
  | shutdown => exact .closes

end Rows

/-! ## What every event keeps -/

/--
The places of the keys fit together: a key is ready at most once, a ready key
waits and is not processed, and as long as the queue is open a key that waits is
ready or parked.
-/
structure Consistent (queue : WorkQueue) : Prop where
  distinct : queue.ready.Nodup
  waiting : ∀ key ∈ queue.ready, key ∈ queue.dirty ∧ key ∉ queue.processing
  placed : queue.isClosed = false → ∀ key ∈ queue.dirty,
    key ∈ queue.ready ∨ key ∈ queue.processing

theorem consistent_new (bounds : BackoffBounds) : (WorkQueue.new bounds).Consistent where
  distinct := List.nodup_nil
  waiting := by simp [WorkQueue.new]
  placed := by simp [WorkQueue.new]

namespace Consistent

variable {queue later : WorkQueue} {key : String}

theorem congr (holds : queue.Consistent) (same : SamePlaces queue later) :
    later.Consistent := by
  rcases holds with ⟨distinct, waiting, placed⟩
  refine ⟨?_, ?_, ?_⟩
  · rwa [same.ready]
  · rwa [same.ready, same.dirty, same.processing]
  · rwa [same.isClosed, same.dirty, same.ready, same.processing]

theorem ready_append (holds : queue.Consistent) (fresh : key ∉ queue.ready) :
    (queue.ready ++ [key]).Nodup :=
  List.nodup_append_comm.mp (List.nodup_cons.mpr ⟨fresh, holds.distinct⟩)

theorem add (holds : queue.Consistent) (key : String) : (queue.add key).Consistent := by
  unfold WorkQueue.add
  split_ifs with idle processed
  · exact holds
  · refine ⟨holds.distinct, fun other ready => ?_, fun opened other dirty => ?_⟩
    · exact ⟨List.mem_cons_of_mem _ (holds.waiting other ready).1, (holds.waiting other ready).2⟩
    · rcases List.mem_cons.mp dirty with rfl | before
      · exact Or.inr processed
      · exact holds.placed opened other before
  · have fresh : key ∉ queue.ready := fun ready => idle (Or.inr (holds.waiting key ready).1)
    refine ⟨holds.ready_append fresh, fun other ready => ?_, fun opened other dirty => ?_⟩
    · rcases List.mem_append.mp ready with before | new
      · exact ⟨List.mem_cons_of_mem _ (holds.waiting other before).1,
          (holds.waiting other before).2⟩
      · rw [List.mem_singleton.mp new]
        exact ⟨List.mem_cons_self, processed⟩
    · rcases List.mem_cons.mp dirty with rfl | before
      · exact Or.inl (by simp)
      · rcases holds.placed opened other before with ready | held
        · exact Or.inl (List.mem_append_left _ ready)
        · exact Or.inr held

theorem handOut (holds : queue.Consistent) {rest : List String}
    (first : queue.ready = key :: rest) : (queue.handOut key rest).Consistent := by
  have distinct := holds.distinct
  rw [first, List.nodup_cons] at distinct
  refine ⟨distinct.2, fun other ready => ?_, fun opened other dirty => ?_⟩
  · have apart : other ≠ key := by
      rintro rfl
      exact distinct.1 ready
    have before := holds.waiting other (by rw [first]; exact List.mem_cons_of_mem _ ready)
    simp [WorkQueue.handOut, apart, before]
  · have parts : other ∈ queue.dirty ∧ other ≠ key := by
      simpa [WorkQueue.handOut] using dirty
    rcases holds.placed opened other parts.1 with ready | held
    · rw [first] at ready
      exact Or.inl ((List.mem_cons.mp ready).resolve_left parts.2)
    · exact Or.inr (by simp [WorkQueue.handOut, parts.2, held])

theorem done (holds : queue.Consistent) (held : key ∈ queue.processing) :
    (queue.done key).Consistent := by
  -- A key that nobody held could be ready already, and its release would make it ready twice.
  have fresh : key ∉ queue.ready := fun ready => (holds.waiting key ready).2 held
  unfold WorkQueue.done
  split_ifs with parked
  · refine ⟨holds.ready_append fresh, fun other ready => ?_, fun opened other dirty => ?_⟩
    · rcases List.mem_append.mp ready with before | new
      · have waits := holds.waiting other before
        exact ⟨waits.1, by simp [waits.2]⟩
      · rw [List.mem_singleton.mp new]
        exact ⟨parked.1, by simp⟩
    · by_cases same : other = key
      · exact Or.inl (by simp [same])
      · rcases holds.placed opened other dirty with ready | processed
        · exact Or.inl (List.mem_append_left _ ready)
        · exact Or.inr (by simp [processed, same])
  · refine ⟨holds.distinct, fun other ready => ?_, fun opened other dirty => ?_⟩
    · have waits := holds.waiting other ready
      exact ⟨waits.1, by simp [waits.2]⟩
    · have stillOpen : queue.isClosed = false := opened
      have apart : other ≠ key := by
        rintro rfl
        exact parked ⟨dirty, by simp [stillOpen]⟩
      rcases holds.placed opened other dirty with ready | processed
      · exact Or.inl ready
      · exact Or.inr (by simp [processed, apart])

theorem shutdown (holds : queue.Consistent) : queue.shutdown.Consistent where
  distinct := holds.distinct
  waiting := holds.waiting
  placed opened := by simp [WorkQueue.shutdown] at opened

/-- Every event keeps the places fitting, if only processed keys are released. -/
theorem after (holds : queue.Consistent) {event : Event Worker}
    (held : ∀ key, event.released? = some key → key ∈ queue.processing) :
    (queue.after event).Consistent := by
  have row := queue.changes_after event
  generalize queue.after event = later at row ⊢
  cases row with
  | adds added same => exact (holds.add _).congr same
  | hands worker opened first => exact holds.handOut first
  | releases worker key => exact holds.done (held key rfl)
  | closes => exact holds.shutdown
  | keeps idle same => exact holds.congr same

end Consistent

/-! ## Histories -/

/-- Events that follow each other on a new queue. -/
structure History (Worker : Type) where
  bounds : BackoffBounds := {}
  event : Nat → Event Worker

namespace History

def queue (history : History Worker) : Nat → WorkQueue
  | 0 => .new history.bounds
  | moment + 1 => (history.queue moment).after (history.event moment)

def Hands (history : History Worker) (moment : Nat) (worker : Worker) (key : String) : Prop :=
  (history.queue moment).handed? (history.event moment) = some (worker, key)

/-- At a moment a key is handed out. -/
def HandsOut (history : History Worker) (moment : Nat) (key : String) : Prop :=
  ((history.queue moment).handed? (history.event moment)).map Prod.snd = some key

instance (history : History Worker) (moment : Nat) (key : String) :
    Decidable (history.HandsOut moment key) :=
  inferInstanceAs (Decidable (_ = _))

/-- How often a key was handed out before a moment. -/
def handOuts (history : History Worker) (key : String) (moment : Nat) : Nat :=
  Nat.count (history.HandsOut · key) moment

/-- How often a key was released before a moment. -/
def releases (history : History Worker) (key : String) (moment : Nat) : Nat :=
  Nat.count (fun earlier => (history.event earlier).released? = some key) moment

/-- A worker was handed a key and has not released it since. -/
def Holds (history : History Worker) (moment : Nat) (worker : Worker) (key : String) : Prop :=
  ∃ earlier < moment, history.Hands earlier worker key ∧
    ∀ between, earlier < between → between < moment →
      history.event between ≠ .done worker key

/-- Only what is delayed takes effect later, and only the holder releases a key. -/
structure Disciplined (history : History Worker) : Prop where
  fires : ∀ moment addition, history.event moment = .fire addition →
    addition ∈ (history.queue moment).delayed
  releases : ∀ moment worker key, history.event moment = .done worker key →
    history.Holds moment worker key

section Moments

variable {history : History Worker} {moment : Nat} {worker other : Worker} {key : String}

theorem queue_succ (history : History Worker) (moment : Nat) :
    history.queue (moment + 1) = (history.queue moment).after (history.event moment) := rfl

/-- A worker holds what it has just been handed, and what it held and does not release. -/
theorem holds_succ_iff :
    history.Holds (moment + 1) worker key ↔
      history.Hands moment worker key ∨
        (history.Holds moment worker key ∧ history.event moment ≠ .done worker key) := by
  constructor
  · rintro ⟨earlier, before, hands, kept⟩
    rcases Nat.lt_succ_iff_lt_or_eq.mp before with past | rfl
    · refine Or.inr ⟨⟨earlier, past, hands, fun between after within => ?_⟩, ?_⟩
      · exact kept between after (Nat.lt_succ_of_lt within)
      · exact kept moment past (Nat.lt_succ_self moment)
    · exact Or.inl hands
  · rintro (hands | ⟨⟨earlier, past, hands, kept⟩, stays⟩)
    · refine ⟨moment, Nat.lt_succ_self moment, hands, fun between after within => ?_⟩
      omega
    · refine ⟨earlier, Nat.lt_succ_of_lt past, hands, fun between after within => ?_⟩
      rcases Nat.lt_succ_iff_lt_or_eq.mp within with before | rfl
      · exact kept between after before
      · exact stays

end Moments

/--
At a moment the places fit, the processed keys are those that some worker holds,
and nobody else holds them.
-/
structure Sound (history : History Worker) (moment : Nat) : Prop where
  consistent : (history.queue moment).Consistent
  held : ∀ key, key ∈ (history.queue moment).processing ↔
    ∃ worker, history.Holds moment worker key
  sole : ∀ key first second, history.Holds moment first key →
    history.Holds moment second key → first = second

namespace Sound

variable {history : History Worker} {moment : Nat} {worker : Worker} {key : String}

theorem start (history : History Worker) : history.Sound 0 where
  consistent := consistent_new history.bounds
  held key := by simp [queue, WorkQueue.new, Holds]
  sole key first second holds := by simp [Holds] at holds

/-- An event that neither hands out nor releases a key leaves the keys to their holders. -/
theorem keep (sound : history.Sound moment)
    (consistent : (history.queue (moment + 1)).Consistent)
    (hands : (history.queue moment).handed? (history.event moment) = none)
    (releases : (history.event moment).released? = none)
    (processing : (history.queue (moment + 1)).processing =
      (history.queue moment).processing) : history.Sound (moment + 1) := by
  have holds (worker : Worker) (key : String) :
      history.Holds (moment + 1) worker key ↔ history.Holds moment worker key := by
    rw [holds_succ_iff, Hands, hands]
    have other : history.event moment ≠ .done worker key := by
      intro same
      rw [same] at releases
      simp [Event.released?] at releases
    simp [other]
  refine ⟨consistent, fun key => ?_, fun key first second => ?_⟩
  · simp only [processing, holds]
    exact sound.held key
  · simp only [holds]
    exact sound.sole key first second

/-- A key that is handed out was held by nobody. -/
theorem hand (sound : history.Sound moment)
    (consistent : (history.queue (moment + 1)).Consistent)
    (event : history.event moment = .dequeue worker) {rest : List String}
    (opened : (history.queue moment).isClosed = false)
    (first : (history.queue moment).ready = key :: rest)
    (later : history.queue (moment + 1) = (history.queue moment).handOut key rest) :
    history.Sound (moment + 1) := by
  have free : key ∉ (history.queue moment).processing :=
    (sound.consistent.waiting key (by rw [first]; exact List.mem_cons_self)).2
  have holds (owner : Worker) (held : String) :
      history.Holds (moment + 1) owner held ↔
        (worker = owner ∧ key = held) ∨ history.Holds moment owner held := by
    rw [holds_succ_iff, Hands, event]
    simp [handed?, dequeue?_eq_handOut opened first]
  refine ⟨consistent, fun held => ?_, fun held one two => ?_⟩
  · simp only [later, handOut, holds]
    by_cases same : held = key
    · exact ⟨fun _ => ⟨worker, Or.inl ⟨rfl, same.symm⟩⟩, fun _ => by simp [same]⟩
    · have apart : key ≠ held := fun equal => same equal.symm
      simpa [same, apart] using sound.held held
  · simp only [holds]
    by_cases same : held = key
    · have nobody (owner : Worker) : ¬ history.Holds moment owner held := by
        rw [same]
        exact fun holding => free ((sound.held key).mpr ⟨owner, holding⟩)
      simp only [nobody, or_false]
      rintro ⟨rfl, _⟩ ⟨rfl, _⟩
      rfl
    · have apart : key ≠ held := fun equal => same equal.symm
      simpa [apart] using sound.sole held one two

/-- A key that is released was held by its worker only. -/
theorem release (sound : history.Sound moment)
    (consistent : (history.queue (moment + 1)).Consistent)
    (event : history.event moment = .done worker key)
    (holder : history.Holds moment worker key)
    (processing : (history.queue (moment + 1)).processing =
      (history.queue moment).processing.filter (· ≠ key)) : history.Sound (moment + 1) := by
  have holds (owner : Worker) (held : String) :
      history.Holds (moment + 1) owner held ↔ history.Holds moment owner held ∧ held ≠ key := by
    rw [holds_succ_iff, Hands, event]
    by_cases same : held = key
    · have only (holding : history.Holds moment owner held) : worker = owner := by
        rw [same] at holding
        exact sound.sole key worker owner holder holding
      simpa [handed?, same] using fun holding => only (same ▸ holding)
    · have apart : key ≠ held := fun equal => same equal.symm
      simp [handed?, same, apart]
  refine ⟨consistent, fun held => ?_, fun held one two holding again => ?_⟩
  · simp only [processing, holds, List.mem_filter, decide_eq_true_eq, sound.held held]
    exact exists_and_right.symm
  · exact sound.sole held one two ((holds one held).mp holding).1 ((holds two held).mp again).1

theorem succ (sound : history.Sound moment) (disciplined : history.Disciplined) :
    history.Sound (moment + 1) := by
  have processed (key : String) (released : (history.event moment).released? = some key) :
      key ∈ (history.queue moment).processing := by
    cases event : history.event moment with
    | done worker held =>
        rw [event] at released
        obtain rfl := Option.some.inj released
        exact (sound.held held).mpr ⟨worker, disciplined.releases moment worker held event⟩
    | _ =>
        rw [event] at released
        exact absurd released (by simp [Event.released?])
  have consistent : (history.queue (moment + 1)).Consistent := sound.consistent.after processed
  have row := (history.queue moment).changes_after (history.event moment)
  rw [← queue_succ] at row
  generalize event : history.event moment = happened at row
  generalize after : history.queue (moment + 1) = later at row
  -- Only two rows move a key between its holders.
  cases row with
  | adds added same =>
      rw [← event] at added
      rw [← after] at same
      have idle := idle_of_added added
      exact sound.keep consistent idle.1 idle.2 (same.processing.trans (processing_add _ _))
  | hands worker opened first => exact sound.hand consistent event opened first after
  | releases worker key =>
      refine sound.release consistent event (disciplined.releases moment worker key event) ?_
      rw [after, processing_done]
  | closes =>
      refine sound.keep consistent ?_ ?_ ?_
      · rw [event]
        rfl
      · rw [event]
        rfl
      · rw [after, processing_shutdown]
  | keeps idle same =>
      rw [← event] at idle
      rw [← after] at same
      exact sound.keep consistent idle.hands idle.releases same.processing

end Sound

namespace Disciplined

variable {history : History Worker}

theorem sound (disciplined : history.Disciplined) (moment : Nat) : history.Sound moment := by
  induction moment with
  | zero => exact Sound.start history
  | succ moment ih => exact ih.succ disciplined

/-- A hand-out takes a key into the processed ones, and a release takes it out of them. -/
theorem counted_succ (disciplined : history.Disciplined) (moment : Nat) (key : String) :
    (if key ∈ (history.queue moment).processing then 1 else 0) +
        (if history.HandsOut moment key then 1 else 0) =
      (if (history.event moment).released? = some key then 1 else 0) +
        if key ∈ (history.queue (moment + 1)).processing then 1 else 0 := by
  have sound := disciplined.sound moment
  have row := (history.queue moment).changes_after (history.event moment)
  rw [← queue_succ] at row
  generalize event : history.event moment = happened at row
  generalize history.queue (moment + 1) = later at row ⊢
  cases row with
  | adds added same =>
      have idle := idle_of_added added
      simp [HandsOut, event, idle.1, idle.2, same.processing, processing_add]
  | @hands worker first rest opened ready =>
      have free := (sound.consistent.waiting first (by rw [ready]; exact List.mem_cons_self)).2
      have handed := dequeue?_eq_handOut opened ready
      by_cases same : key = first
      · simp [HandsOut, event, handed?, handed, Event.released?, handOut, same, free]
      · have apart : first ≠ key := fun equal => same equal.symm
        simp [HandsOut, event, handed?, handed, Event.released?, handOut, same, apart]
  | releases worker released =>
      have held := (sound.held released).mpr
        ⟨worker, disciplined.releases moment worker released event⟩
      by_cases same : key = released
      · simp [HandsOut, event, handed?, Event.released?, processing_done, same, held]
      · have apart : released ≠ key := fun equal => same equal.symm
        simp [HandsOut, event, handed?, Event.released?, processing_done, same, apart]
  | closes =>
      have hands : ¬ history.HandsOut moment key := by simp [HandsOut, event, handed?]
      have released : ¬ (history.event moment).released? = some key := by
        simp [event, Event.released?]
      rw [event] at released
      rw [if_neg hands, if_neg released, Nat.zero_add]
      rfl
  | keeps idle same =>
      simp [HandsOut, event, idle.hands, idle.releases, same.processing]

/-- Of every key one hand-out more than releases has happened while it is processed. -/
theorem handOuts_eq (disciplined : history.Disciplined) (key : String) (moment : Nat) :
    history.handOuts key moment =
      history.releases key moment +
        if key ∈ (history.queue moment).processing then 1 else 0 := by
  induction moment with
  | zero => simp [handOuts, History.releases, queue, WorkQueue.new]
  | succ moment ih =>
      have counted := disciplined.counted_succ moment key
      unfold handOuts History.releases at ih ⊢
      rw [Nat.count_succ, Nat.count_succ]
      omega

/--
Whatever happens in whatever order, the places of the keys fit together, every
key has been handed out as often as it was released, once more while it is
processed, and no two workers hold the same key.
-/
theorem keys_placed_and_held_once (disciplined : history.Disciplined) (moment : Nat) :
    (history.queue moment).Consistent ∧
      (∀ key, history.handOuts key moment =
        history.releases key moment +
          if key ∈ (history.queue moment).processing then 1 else 0) ∧
      ∀ key first second, history.Holds moment first key → history.Holds moment second key →
        first = second :=
  ⟨(disciplined.sound moment).consistent, fun key => disciplined.handOuts_eq key moment,
    (disciplined.sound moment).sole⟩

end Disciplined

/--
A pass fails and its key is retried, but the delay is over before the worker
releases the key, which another worker takes then.
-/
def retriedKey : History Nat where
  event
    | 0 => .enqueue "ns/db"
    | 1 => .fire ⟨5000000, "ns/db"⟩
    | 2 => .dequeue 1
    | 3 => .retry "ns/db"
    | 4 => .fire ⟨15000000, "ns/db"⟩
    | 5 => .done 1 "ns/db"
    | 6 => .dequeue 2
    | _ => .rest 0

theorem retriedKey_disciplined : retriedKey.Disciplined where
  fires moment addition event := by
    match moment with
    | 1 =>
        obtain rfl : ⟨5000000, "ns/db"⟩ = addition := by simpa [retriedKey] using event
        decide +kernel
    | 4 =>
        obtain rfl : ⟨15000000, "ns/db"⟩ = addition := by simpa [retriedKey] using event
        decide +kernel
    | 0 | 2 | 3 | 5 | 6 | _ + 7 => simp [retriedKey] at event
  releases moment worker key event := by
    match moment with
    | 5 =>
        obtain ⟨rfl, rfl⟩ : 1 = worker ∧ "ns/db" = key := by simpa [retriedKey] using event
        have hands : retriedKey.Hands 2 1 "ns/db" := by
          unfold Hands
          decide +kernel
        refine ⟨2, by omega, hands, fun between after before => ?_⟩
        interval_cases between <;> simp [retriedKey]
    | 0 | 1 | 2 | 3 | 4 | 6 | _ + 7 => simp [retriedKey] at event

theorem retriedKey_placed_and_held_once :
    retriedKey.Disciplined ∧ (retriedKey.queue 7).Consistent ∧
      (∀ key, retriedKey.handOuts key 7 =
        retriedKey.releases key 7 + if key ∈ (retriedKey.queue 7).processing then 1 else 0) ∧
      ∀ key first second, retriedKey.Holds 7 first key → retriedKey.Holds 7 second key →
        first = second :=
  ⟨retriedKey_disciplined, retriedKey_disciplined.keys_placed_and_held_once 7⟩

end History

end GaleraControl.WorkQueue

import GaleraControl.Proofs.Delivery

/-!
# The order of the hand-outs

A key becomes ready behind all keys that are ready already, and the first ready key
is the one that is handed out.  So at every moment the keys that have become ready
are those that have been handed out, followed by those that are still ready, all in
the order in which they became ready (`Disciplined.conserved`).

What waits before a key when it becomes ready is thus what is handed out before it,
and since no key is ready twice, a key that is added again and again does not get
ahead of it.
-/

namespace GaleraControl.WorkQueue

variable {Worker : Type} {queue : WorkQueue} {key : String}

/-- Some ready keys with at most one new key behind them. -/
def Extends (ready later : List String) : Prop :=
  ∃ joined : Option String, (∀ key ∈ joined, key ∉ ready) ∧ later = ready ++ joined.toList

theorem Extends.refl (ready : List String) : Extends ready ready :=
  ⟨none, by simp, by simp⟩

theorem Extends.concat {ready : List String} (fresh : key ∉ ready) :
    Extends ready (ready ++ [key]) := by
  refine ⟨some key, ?_, rfl⟩
  intro joined same
  obtain rfl := Option.mem_some.mp same
  exact fresh

/-- The new key is the only one that was not there before. -/
theorem Extends.append_find? {ready later : List String} (grows : Extends ready later) :
    ready ++ (later.find? (· ∉ ready)).toList = later := by
  rcases grows with ⟨joined, fresh, rfl⟩
  have nothing : ready.find? (· ∉ ready) = none := by simp
  rw [List.find?_append, nothing, Option.none_or]
  cases joined with
  | none => rfl
  | some key => simp [fresh key rfl]

theorem Consistent.extends_add (holds : queue.Consistent) (key : String) :
    Extends queue.ready (queue.add key).ready := by
  unfold WorkQueue.add
  split_ifs with idle processed
  · exact Extends.refl _
  · exact Extends.refl _
  · exact Extends.concat fun ready => idle (Or.inr (holds.waiting key ready).1)

theorem Consistent.extends_done (holds : queue.Consistent) (held : key ∈ queue.processing) :
    Extends queue.ready (queue.done key).ready := by
  unfold WorkQueue.done
  split_ifs with parked
  · exact Extends.concat fun ready => (holds.waiting key ready).2 held
  · exact Extends.refl _

namespace History

variable {history : History Worker} {start moment : Nat}

/-- The key that is handed out at a moment. -/
def handedAt (history : History Worker) (moment : Nat) : Option String :=
  ((history.queue moment).handed? (history.event moment)).map Prod.snd

/-- At a moment a key becomes ready. -/
def Enters (history : History Worker) (moment : Nat) (key : String) : Prop :=
  key ∉ (history.queue moment).ready ∧ key ∈ (history.queue (moment + 1)).ready

/-- The key that becomes ready at a moment. -/
def enteredAt (history : History Worker) (moment : Nat) : Option String :=
  (history.queue (moment + 1)).ready.find? (· ∉ (history.queue moment).ready)

/-- The keys that are handed out from one moment on and before another, in their order. -/
def handedOut (history : History Worker) (start stop : Nat) : List String :=
  (List.range' start (stop - start)).filterMap history.handedAt

/-- The keys that become ready from one moment on and before another, in their order. -/
def entered (history : History Worker) (start stop : Nat) : List String :=
  (List.range' start (stop - start)).filterMap history.enteredAt

@[simp]
theorem handedOut_self (history : History Worker) (start : Nat) :
    history.handedOut start start = [] := by
  simp [handedOut]

@[simp]
theorem entered_self (history : History Worker) (start : Nat) :
    history.entered start start = [] := by
  simp [entered]

theorem filterMap_range'_succ {Value : Type} (value? : Nat → Option Value)
    (order : start ≤ moment) :
    (List.range' start (moment + 1 - start)).filterMap value? =
      (List.range' start (moment - start)).filterMap value? ++ (value? moment).toList := by
  rw [Nat.succ_sub order, List.range'_1_concat, Nat.add_sub_cancel' order, List.filterMap_append]
  congr 1

theorem handedOut_succ (order : start ≤ moment) :
    history.handedOut start (moment + 1) =
      history.handedOut start moment ++ (history.handedAt moment).toList :=
  filterMap_range'_succ _ order

theorem entered_succ (order : start ≤ moment) :
    history.entered start (moment + 1) =
      history.entered start moment ++ (history.enteredAt moment).toList :=
  filterMap_range'_succ _ order

theorem handedAt_eq_some_iff : history.handedAt moment = some key ↔ history.HandsOut moment key :=
  Iff.rfl

theorem mem_handedOut_iff {stop : Nat} :
    key ∈ history.handedOut start stop ↔
      ∃ moment, start ≤ moment ∧ moment < stop ∧ history.HandsOut moment key := by
  simp only [handedOut, List.mem_filterMap, List.mem_range'_1, handedAt_eq_some_iff]
  constructor
  · rintro ⟨moment, ⟨after, before⟩, hands⟩
    exact ⟨moment, after, by omega, hands⟩
  · rintro ⟨moment, after, before, hands⟩
    exact ⟨moment, ⟨after, by omega⟩, hands⟩

/-- How often a key is handed out meanwhile. -/
theorem handOuts_eq_add_count (order : start ≤ moment) (key : String) :
    history.handOuts key moment =
      history.handOuts key start + (history.handedOut start moment).count key := by
  induction moment, order using Nat.le_induction with
  | base => simp
  | succ moment order ih =>
      unfold handOuts at ih ⊢
      rw [Nat.count_succ, ih, handedOut_succ order, List.count_append, Nat.add_assoc]
      congr 2
      cases handed : history.handedAt moment with
      | none => simp [← handedAt_eq_some_iff, handed]
      | some other => simp [← handedAt_eq_some_iff, handed, List.count_singleton]

/-! ## One event -/

/-- The ready keys lose their first one, or get at most one more behind them. -/
theorem Disciplined.ready_succ (disciplined : history.Disciplined) (moment : Nat) :
    (∃ key, history.handedAt moment = some key ∧ history.enteredAt moment = none ∧
      (history.queue moment).ready = key :: (history.queue (moment + 1)).ready) ∨
    (history.handedAt moment = none ∧
      (history.queue (moment + 1)).ready =
        (history.queue moment).ready ++ (history.enteredAt moment).toList) := by
  have sound := disciplined.sound moment
  have row := (history.queue moment).changes_after (history.event moment)
  rw [← queue_succ] at row
  unfold enteredAt handedAt
  generalize event : history.event moment = happened at row ⊢
  generalize history.queue (moment + 1) = later at row ⊢
  cases row with
  | @adds _ key _ added same =>
      refine Or.inr ⟨by rw [(idle_of_added added).1]; rfl, ?_⟩
      rw [same.ready]
      exact (sound.consistent.extends_add key).append_find?.symm
  | @hands worker key rest opened first =>
      refine Or.inl ⟨key, ?_, ?_, first⟩
      · simp [handed?, dequeue?_eq_handOut opened first]
      · apply List.find?_eq_none.mpr
        intro other ready
        have before : other ∈ (history.queue moment).ready := by
          rw [first]
          exact List.mem_cons_of_mem key ready
        simp [before]
  | releases worker key =>
      have held : key ∈ (history.queue moment).processing :=
        (sound.held key).mpr ⟨worker, disciplined.releases moment worker key event⟩
      exact Or.inr ⟨rfl, (sound.consistent.extends_done held).append_find?.symm⟩
  | closes => exact Or.inr ⟨rfl, (Extends.refl _).append_find?.symm⟩
  | keeps idle same =>
      refine Or.inr ⟨by rw [idle.hands]; rfl, ?_⟩
      rw [same.ready]
      exact (Extends.refl _).append_find?.symm

/-- A key that becomes ready does so behind all others. -/
theorem Disciplined.ready_of_enters (disciplined : history.Disciplined)
    (enters : history.Enters moment key) :
    (history.queue (moment + 1)).ready = (history.queue moment).ready ++ [key] := by
  rcases enters with ⟨fresh, ready⟩
  rcases disciplined.ready_succ moment with ⟨first, _, _, before⟩ | ⟨_, later⟩
  · rw [before] at fresh
    exact absurd (List.mem_cons_of_mem first ready) fresh
  · rw [later] at ready ⊢
    rcases List.mem_append.mp ready with before | joined
    · exact absurd before fresh
    · rw [Option.mem_toList.mp joined]
      rfl

/-! ## Whole histories -/

/--
What was ready at a moment and became ready since then is what was handed out since
then and what is ready now.
-/
theorem Disciplined.conserved (disciplined : history.Disciplined) (order : start ≤ moment) :
    (history.queue start).ready ++ history.entered start moment =
      history.handedOut start moment ++ (history.queue moment).ready := by
  induction moment, order using Nat.le_induction with
  | base => simp
  | succ moment order ih =>
      rw [entered_succ order, handedOut_succ order, ← List.append_assoc, ih]
      rcases disciplined.ready_succ moment with ⟨key, handed, entered, before⟩ | ⟨handed, later⟩
      · rw [handed, entered, before]
        simp
      · rw [handed, later]
        simp

/-- As long as a ready key is not handed out, it keeps its place behind those before it. -/
theorem Disciplined.waits_behind (disciplined : history.Disciplined)
    {ahead behind : List String} (ready : (history.queue start).ready = ahead ++ key :: behind)
    (order : start ≤ moment)
    (unhanded : ∀ between, start ≤ between → between < moment →
      ¬ history.HandsOut between key) :
    ∃ rest later, ahead = history.handedOut start moment ++ rest ∧
      (history.queue moment).ready = rest ++ key :: later := by
  have conserved := disciplined.conserved order
  rw [ready, List.append_assoc, List.cons_append] at conserved
  have kept : key ∉ history.handedOut start moment := by
    intro handed
    rcases mem_handedOut_iff.mp handed with ⟨between, after, before, hands⟩
    exact unhanded between after before hands
  rcases List.append_eq_append_iff.mp conserved with ⟨more, handed, rest⟩ | ⟨rest, before, later⟩
  · cases more with
    | nil => exact ⟨[], _, by simpa using handed.symm, rest.symm⟩
    | cons first more =>
        obtain rfl := (List.cons.inj rest).1
        exact absurd (by simp [handed]) kept
  · exact ⟨rest, _, before, later⟩

/-- Keys that wait before another one are handed out before it, and each of them once. -/
theorem Disciplined.handedOut_prefix (disciplined : history.Disciplined)
    {ahead behind : List String} (ready : (history.queue start).ready = ahead ++ key :: behind)
    (order : start ≤ moment)
    (unhanded : ∀ between, start ≤ between → between < moment →
      ¬ history.HandsOut between key) :
    history.handedOut start moment <+: ahead ∧ ahead.Nodup := by
  rcases disciplined.waits_behind ready order unhanded with ⟨rest, _, before, _⟩
  have distinct := (disciplined.sound start).consistent.distinct
  rw [ready] at distinct
  exact ⟨⟨rest, before.symm⟩, distinct.of_append_left⟩

/-- When a ready key is handed out, all keys that were before it have been handed out. -/
theorem Disciplined.handedOut_eq (disciplined : history.Disciplined)
    {ahead behind : List String} (ready : (history.queue start).ready = ahead ++ key :: behind)
    (order : start ≤ moment)
    (unhanded : ∀ between, start ≤ between → between < moment →
      ¬ history.HandsOut between key)
    (hands : history.HandsOut moment key) : history.handedOut start moment = ahead := by
  rcases disciplined.waits_behind ready order unhanded with ⟨rest, later, before, now⟩
  rcases exists_ready_of_handsOut hands with ⟨_, others, first⟩
  rw [first] at now
  have distinct := (disciplined.sound moment).consistent.distinct
  rw [first] at distinct
  cases rest with
  | nil => rw [before, List.append_nil]
  | cons next rest =>
      obtain ⟨rfl, tail⟩ := List.cons.inj now
      exact absurd (by simp [tail]) (List.nodup_cons.mp distinct).1

/-- A worker that asks an open queue with ready keys is handed one. -/
theorem handsOut_of_dequeue {worker : Worker} (asks : history.event moment = .dequeue worker)
    (opened : (history.queue moment).isClosed = false)
    (waiting : (history.queue moment).ready ≠ []) :
    ∃ key, history.HandsOut moment key := by
  rcases List.exists_cons_of_ne_nil waiting with ⟨key, rest, ready⟩
  refine ⟨key, ?_⟩
  simp [HandsOut, asks, handed?, dequeue?_eq_handOut opened ready]

/--
The keys are handed out in the order in which they become ready, and a key becomes
ready behind all others.  From any moment at which a key is ready until it is handed
out, whatever else happens, only keys that were before it are handed out, in their
order and each of them once at most, so that every key is handed out at most once
more; and when its turn comes, exactly those have been handed out.  A worker that
asks an open queue with ready keys is always handed one.
-/
theorem Disciplined.handed_out_in_order (disciplined : history.Disciplined) :
    (∀ moment, history.entered 0 moment =
      history.handedOut 0 moment ++ (history.queue moment).ready) ∧
    (∀ moment key, history.Enters moment key →
      (history.queue (moment + 1)).ready = (history.queue moment).ready ++ [key]) ∧
    (∀ start moment key ahead behind,
      (history.queue start).ready = ahead ++ key :: behind → start ≤ moment →
      (∀ between, start ≤ between → between < moment → ¬ history.HandsOut between key) →
      history.handedOut start moment <+: ahead ∧
        (∀ other, history.handOuts other moment ≤ history.handOuts other start + 1) ∧
        (history.HandsOut moment key → history.handedOut start moment = ahead)) ∧
    (∀ moment worker, history.event moment = .dequeue worker →
      (history.queue moment).isClosed = false → (history.queue moment).ready ≠ [] →
      ∃ key, history.HandsOut moment key) := by
  refine ⟨?_, fun moment key => disciplined.ready_of_enters, ?_,
    fun moment worker => handsOut_of_dequeue⟩
  · intro moment
    have conserved := disciplined.conserved (Nat.zero_le moment)
    exact conserved
  · intro start moment key ahead behind ready order unhanded
    rcases disciplined.handedOut_prefix ready order unhanded with ⟨first, distinct⟩
    refine ⟨first, ?_, disciplined.handedOut_eq ready order unhanded⟩
    intro other
    have once : (history.handedOut start moment).count other ≤ 1 :=
      (first.sublist.count_le other).trans (List.nodup_iff_count_le_one.mp distinct other)
    have counted : history.handOuts other moment =
        history.handOuts other start + (history.handedOut start moment).count other :=
      handOuts_eq_add_count order other
    omega

/-- A key is added again while it is processed, and becomes ready behind another one. -/
def busyKey : History Nat where
  event
    | 0 | 3 | 5 => .add "ns/busy"
    | 1 => .add "ns/db"
    | 2 | 6 => .dequeue 1
    | 4 => .done 1 "ns/busy"
    | _ => .rest 0

theorem busyKey_disciplined : busyKey.Disciplined where
  fires moment addition event := by
    match moment with
    | 0 | 1 | 2 | 3 | 4 | 5 | 6 | _ + 7 => simp [busyKey] at event
  releases moment worker key event := by
    match moment with
    | 4 =>
        obtain ⟨rfl, rfl⟩ : 1 = worker ∧ "ns/busy" = key := by simpa [busyKey] using event
        have hands : busyKey.Hands 2 1 "ns/busy" := by
          unfold Hands
          decide +kernel
        refine ⟨2, by omega, hands, fun between after before => ?_⟩
        interval_cases between
        simp [busyKey]
    | 0 | 1 | 2 | 3 | 5 | 6 | _ + 7 => simp [busyKey] at event

theorem busyKey_handed_out_in_order :
    (busyKey.queue 2).ready = ["ns/busy"] ++ "ns/db" :: [] ∧
      busyKey.Enters 4 "ns/busy" ∧ (busyKey.queue 5).ready = ["ns/db", "ns/busy"] ∧
      busyKey.HandsOut 6 "ns/db" ∧ busyKey.handedOut 2 6 = ["ns/busy"] ∧
      busyKey.handOuts "ns/busy" 6 ≤ busyKey.handOuts "ns/busy" 2 + 1 := by
  rcases busyKey_disciplined.handed_out_in_order with ⟨_, behind, turns, _⟩
  have ready : (busyKey.queue 2).ready = ["ns/busy"] ++ "ns/db" :: [] := by decide +kernel
  have enters : busyKey.Enters 4 "ns/busy" := by
    unfold Enters
    decide +kernel
  have hands : busyKey.HandsOut 6 "ns/db" := by decide +kernel
  have unhanded : ∀ between, 2 ≤ between → between < 6 → ¬ busyKey.HandsOut between "ns/db" := by
    decide +kernel
  rcases turns 2 6 "ns/db" _ _ ready (by decide) unhanded with ⟨_, once, turn⟩
  have alone : (busyKey.queue 4).ready = ["ns/db"] := by decide +kernel
  refine ⟨ready, enters, ?_, hands, turn hands, once "ns/busy"⟩
  rw [behind 4 "ns/busy" enters, alone]
  rfl

end History

end GaleraControl.WorkQueue

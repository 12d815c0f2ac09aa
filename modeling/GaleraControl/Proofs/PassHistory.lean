import GaleraControl.Pass.Sync

/-!
# Histories of passes

A pass is a program of requests, and between any two of its requests its
surroundings may change.  Its history is therefore a list of moments, one for
every request that was answered, with the surroundings before and after.  A
history of one part after another splits into the histories of the parts, which
is how a pass that is still under way is taken apart.
-/

namespace GaleraControl

/-- One request that was answered, with the surroundings before and after it. -/
structure Moment (Reconciler State : Type) where
  before : State
  request : Request Reconciler
  reply : Reply request
  after : State

namespace Program

variable {Reconciler State Value Other : Type}

/-- A program has come, through these moments, to what is left of it. -/
inductive Follows : Program Reconciler Value → List (Moment Reconciler State) →
    Program Reconciler Value → Prop where
  | start (program : Program Reconciler Value) : Follows program [] program
  | ask {question : Request Reconciler} {next : Reply question → Program Reconciler Value}
      {moments : List (Moment Reconciler State)} {rest : Program Reconciler Value}
      (before : State) (reply : Reply question) (after : State)
      (followed : Follows (next reply) moments rest) :
      Follows (.ask question next) (⟨before, question, reply, after⟩ :: moments) rest

theorem follows_done_iff {value : Value} {moments : List (Moment Reconciler State)}
    {rest : Program Reconciler Value} :
    Follows (.done value) moments rest ↔ moments = [] ∧ rest = .done value := by
  constructor
  · intro follows
    cases follows
    exact ⟨rfl, rfl⟩
  · rintro ⟨rfl, rfl⟩
    exact .start _

theorem follows_ask_iff {question : Request Reconciler}
    {next : Reply question → Program Reconciler Value}
    {moments : List (Moment Reconciler State)} {rest : Program Reconciler Value} :
    Follows (.ask question next) moments rest ↔
      (moments = [] ∧ rest = .ask question next) ∨
        ∃ before reply after later, moments = ⟨before, question, reply, after⟩ :: later ∧
          Follows (next reply) later rest := by
  constructor
  · intro follows
    cases follows with
    | start => exact Or.inl ⟨rfl, rfl⟩
    | ask before reply after followed =>
        exact Or.inr ⟨before, reply, after, _, rfl, followed⟩
  · rintro (⟨rfl, rfl⟩ | ⟨before, reply, after, later, rfl, followed⟩)
    · exact .start _
    · exact .ask before reply after followed

/-- One more request is answered. -/
theorem Follows.snoc {program : Program Reconciler Value}
    {moments : List (Moment Reconciler State)} {question : Request Reconciler}
    {next : Reply question → Program Reconciler Value}
    (follows : Follows program moments (.ask question next))
    (before : State) (reply : Reply question) (after : State) :
    Follows program (moments ++ [⟨before, question, reply, after⟩]) (next reply) := by
  generalize left : Program.ask question next = rest at follows
  induction follows with
  | start =>
      rw [← left]
      exact .ask before reply after (.start _)
  | ask earlier answered later _ ih => exact .ask earlier answered later (ih left)

/-- One program after another is still in the first, or has gone on to the second. -/
theorem follows_bind {program : Program Reconciler Value}
    {next : Value → Program Reconciler Other} {moments : List (Moment Reconciler State)}
    {rest : Program Reconciler Other} (follows : Follows (program.bind next) moments rest) :
    (∃ middle, Follows program moments middle ∧ rest = middle.bind next) ∨
      ∃ first second value, moments = first ++ second ∧
        Follows program first (.done value) ∧ Follows (next value) second rest := by
  induction program generalizing moments with
  | done value => exact Or.inr ⟨[], moments, value, rfl, .start _, follows⟩
  | ask question further ih =>
      rcases follows_ask_iff.mp follows with ⟨rfl, rfl⟩ | ⟨before, reply, after, later, rfl, on⟩
      · exact Or.inl ⟨_, .start _, rfl⟩
      · rcases ih reply on with ⟨middle, within, rfl⟩ | ⟨first, second, value, rfl, ends, goes⟩
        · exact Or.inl ⟨middle, .ask before reply after within, rfl⟩
        · exact Or.inr ⟨⟨before, question, reply, after⟩ :: first, second, value, rfl,
            .ask before reply after ends, goes⟩

/-- A program that has come to its end after another had both parts end. -/
theorem follows_bind_done {program : Program Reconciler Value}
    {next : Value → Program Reconciler Other} {moments : List (Moment Reconciler State)}
    {result : Other} (follows : Follows (program.bind next) moments (.done result)) :
    ∃ first second value, moments = first ++ second ∧
      Follows program first (.done value) ∧ Follows (next value) second (.done result) := by
  rcases follows_bind follows with ⟨middle, within, left⟩ | split
  · cases middle with
    | done value =>
        have last : next value = .done result := left.symm
        exact ⟨moments, [], value, by simp, within, last ▸ .start _⟩
    | ask question further => exact absurd left (by simp [bind])
  · exact split

/-- A program all of whose requests, whatever the replies, are of a permitted kind. -/
def AsksOnly (permitted : Request Reconciler → Prop) : Program Reconciler Value → Prop
  | .done _ => True
  | .ask question next =>
      permitted question ∧ ∀ reply, (next reply).AsksOnly permitted

theorem asksOnly_bind {permitted : Request Reconciler → Prop}
    {program : Program Reconciler Value} {next : Value → Program Reconciler Other}
    (first : program.AsksOnly permitted) (later : ∀ value, (next value).AsksOnly permitted) :
    (program.bind next).AsksOnly permitted := by
  induction program with
  | done value => exact later value
  | ask question further ih => exact ⟨first.1, fun reply => ih reply (first.2 reply)⟩

theorem AsksOnly.mono {permitted wider : Request Reconciler → Prop}
    {program : Program Reconciler Value} (asks : program.AsksOnly permitted)
    (widen : ∀ question, permitted question → wider question) : program.AsksOnly wider := by
  induction program with
  | done value => trivial
  | ask question further ih =>
      exact ⟨widen question asks.1, fun reply => ih reply (asks.2 reply)⟩

/-- Every request in a history is one that the program may ask. -/
theorem Follows.permitted {permitted : Request Reconciler → Prop}
    {program rest : Program Reconciler Value} {moments : List (Moment Reconciler State)}
    (follows : Follows program moments rest) (asks : program.AsksOnly permitted) :
    ∀ moment ∈ moments, permitted moment.request := by
  induction follows with
  | start => simp
  | ask before reply after _ ih =>
      intro moment present
      rcases List.mem_cons.mp present with first | later
      · rw [first]
        exact asks.1
      · exact ih (asks.2 reply) moment later

end Program

namespace Attempt

open Program

variable {Reconciler State Value Other : Type}

/-- An attempt has come to its end through these moments, with this result. -/
def Ends (attempt : Attempt Reconciler Value) (moments : List (Moment Reconciler State))
    (result : Except SyncError Value) : Prop :=
  Follows attempt.run moments (.done result)

theorem run_bind (attempt : Attempt Reconciler Value)
    (next : Value → Attempt Reconciler Other) :
    (attempt >>= next).run = attempt.run.bind fun
      | .ok value => (next value).run
      | .error error => .done (.error error) := by
  show Program.bind attempt.run (ExceptT.bindCont next) = _
  congr 1
  funext result
  cases result <;> rfl

theorem run_ofExcept (result : Except SyncError Value) :
    (ofExcept result : Attempt Reconciler Value).run = .done result := by
  cases result <;> rfl

theorem run_result (attempt : Attempt Reconciler Value) :
    attempt.result.run = attempt.run.bind fun result => .done (.ok result) := rfl

/-- A single request comes to its end by its reply. -/
theorem ends_of_request {question : Request Reconciler}
    {moments : List (Moment Reconciler State)} {reply : Reply question}
    (follows : Follows (Program.request question) moments (.done reply)) :
    ∃ before after, moments = [⟨before, question, reply, after⟩] := by
  rcases follows_ask_iff.mp follows with ⟨_, impossible⟩ | ⟨before, answer, after, later, rfl, on⟩
  · exact absurd impossible (by simp)
  · rcases follows_done_iff.mp on with ⟨rfl, same⟩
    obtain rfl : reply = answer := Program.done.inj same
    exact ⟨before, after, rfl⟩

/-- An attempt followed by another has failed in the first, or both have come to an end. -/
theorem ends_bind {attempt : Attempt Reconciler Value}
    {next : Value → Attempt Reconciler Other} {moments : List (Moment Reconciler State)}
    {result : Except SyncError Other} (ends : (attempt >>= next).Ends moments result) :
    (∃ error, attempt.Ends moments (.error error) ∧ result = .error error) ∨
      ∃ first second value, moments = first ++ second ∧ attempt.Ends first (.ok value) ∧
        (next value).Ends second result := by
  unfold Ends at ends
  rw [run_bind] at ends
  rcases follows_bind_done ends with ⟨first, second, reply, rfl, earlier, later⟩
  cases reply with
  | ok value => exact Or.inr ⟨first, second, value, rfl, earlier, later⟩
  | error error =>
      rcases follows_done_iff.mp later with ⟨rfl, same⟩
      exact Or.inl ⟨error, by simpa [Ends] using earlier, Program.done.inj same⟩

theorem ends_result {attempt : Attempt Reconciler Value}
    {moments : List (Moment Reconciler State)}
    {result : Except SyncError (Except SyncError Value)}
    (ends : attempt.result.Ends moments result) :
    ∃ inner, result = .ok inner ∧ attempt.Ends moments inner := by
  unfold Ends at ends
  rw [run_result] at ends
  rcases follows_bind_done ends with ⟨first, second, inner, rfl, earlier, later⟩
  rcases follows_done_iff.mp later with ⟨rfl, same⟩
  exact ⟨inner, Program.done.inj same, by simpa [Ends] using earlier⟩

theorem ends_ofExcept {check : Except SyncError Value}
    {moments : List (Moment Reconciler State)} {result : Except SyncError Value}
    (ends : (ofExcept check : Attempt Reconciler Value).Ends moments result) :
    moments = [] ∧ result = check := by
  unfold Ends at ends
  rw [run_ofExcept] at ends
  rcases follows_done_iff.mp ends with ⟨rfl, same⟩
  exact ⟨rfl, Program.done.inj same⟩

/-- An attempt followed by another is in the first, has failed in it, or is in the second. -/
theorem follows_bind {attempt : Attempt Reconciler Value}
    {next : Value → Attempt Reconciler Other} {moments : List (Moment Reconciler State)}
    {rest : Program Reconciler (Except SyncError Other)}
    (follows : Follows (attempt >>= next).run moments rest) :
    (∃ middle, Follows attempt.run moments middle) ∨
      ∃ first second value, moments = first ++ second ∧ attempt.Ends first (.ok value) ∧
        Follows (next value).run second rest := by
  rw [run_bind] at follows
  rcases Program.follows_bind follows with ⟨middle, within, _⟩ |
      ⟨first, second, result, rfl, ends, goes⟩
  · exact Or.inl ⟨middle, within⟩
  · cases result with
    | ok value => exact Or.inr ⟨first, second, value, rfl, ends, goes⟩
    | error error =>
        rcases follows_done_iff.mp goes with ⟨rfl, _⟩
        exact Or.inl ⟨_, by simpa using ends⟩

theorem asksOnly_bind {permitted : Request Reconciler → Prop}
    {attempt : Attempt Reconciler Value} {next : Value → Attempt Reconciler Other}
    (first : attempt.run.AsksOnly permitted)
    (later : ∀ value, (next value).run.AsksOnly permitted) :
    (attempt >>= next).run.AsksOnly permitted := by
  rw [run_bind]
  refine Program.asksOnly_bind first ?_
  intro result
  cases result with
  | ok value => exact later value
  | error error => trivial

theorem asksOnly_result {permitted : Request Reconciler → Prop}
    {attempt : Attempt Reconciler Value} (asks : attempt.run.AsksOnly permitted) :
    attempt.result.run.AsksOnly permitted :=
  Program.asksOnly_bind asks fun _ => trivial

/-! ## Running an attempt -/

section Perform

variable (answer : (request : Request Reconciler) → StateM State (Reply request))

/-- Run an attempt in surroundings that answer every request. -/
def perform (attempt : Attempt Reconciler Value) (state : State) :
    Except SyncError Value × State :=
  attempt.run.run answer state

theorem perform_bind (attempt : Attempt Reconciler Value)
    (next : Value → Attempt Reconciler Other) (state : State) :
    perform answer (attempt >>= next) state =
      match perform answer attempt state with
      | (.ok value, after) => perform answer (next value) after
      | (.error error, after) => (.error error, after) := by
  simp only [perform, run_bind, Program.run_bind]
  show (attempt.run.run answer >>= _) state = _
  simp only [Bind.bind, StateT.bind]
  cases attempt.run.run answer state with
  | mk result after => cases result <;> rfl

theorem perform_ofExcept (result : Except SyncError Value) (state : State) :
    perform answer (ofExcept result) state = (result, state) := by
  cases result <;> rfl

theorem perform_result (attempt : Attempt Reconciler Value) (state : State) :
    perform answer attempt.result state =
      (.ok (perform answer attempt state).1, (perform answer attempt state).2) := by
  simp only [perform, run_result, Program.run_bind]
  rfl

/-- An attempt that is run comes to an end. -/
theorem exists_ends_perform (attempt : Attempt Reconciler Value) (state : State) :
    ∃ moments : List (Moment Reconciler State),
      attempt.Ends moments (perform answer attempt state).1 := by
  have follows (program : Program Reconciler (Except SyncError Value)) :
      ∃ moments : List (Moment Reconciler State),
        Follows program moments (.done (program.run answer state).1) := by
    induction program generalizing state with
    | done value => exact ⟨[], .start _⟩
    | ask request next ih =>
        rcases ih (answer request state).1 (answer request state).2 with ⟨moments, goes⟩
        exact ⟨_ :: moments, .ask state _ (answer request state).2 goes⟩
  exact follows attempt.run

end Perform

end Attempt

end GaleraControl

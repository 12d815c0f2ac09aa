import GaleraControl.Proofs.PassHistory

/-!
# Two runs of one program

Two surroundings may answer some requests differently and all others alike.  The
requests that are answered differently are set apart: asking one of them leaves the
surroundings alike, and every other request is answered the same in alike
surroundings and leaves them alike again.

A part of a program that asks only such requests may take another course in each of
the two runs, and they are alike after it.  A part that asks none of them makes the
same exchanges and comes to the same result.
-/

namespace GaleraControl

/-! ## What is exchanged in a run -/

namespace Request

variable {Reconciler : Type}

/-- Whether a request is a call of the status writer, which reads and patches stored clusters. -/
def callsWriter : Request Reconciler → Bool
  | .latestCluster _ | .patchStatus _ _ => true
  | _ => false

/-- Whether a request is a call of a reconciler. -/
def callsReconciler : Request Reconciler → Bool
  | .reconcile _ _ => true
  | _ => false

/-- The event that a request publishes, if it publishes one. -/
def event? : Request Reconciler → Option Event
  | .publish event => some event
  | _ => none

end Request

/-- A request with its reply. -/
structure Exchange (Reconciler : Type) where
  request : Request Reconciler
  reply : Reply request

namespace Program

variable {Reconciler State Value Other : Type}
  (answer : (request : Request Reconciler) → StateM State (Reply request))

/-- The requests of a run with their replies, in order. -/
def exchanges : Program Reconciler Value → State → List (Exchange Reconciler)
  | .done _, _ => []
  | .ask request next, state =>
      ⟨request, (answer request state).1⟩ ::
        exchanges (next (answer request state).1) (answer request state).2

theorem exchanges_bind (program : Program Reconciler Value)
    (next : Value → Program Reconciler Other) (state : State) :
    (program.bind next).exchanges answer state =
      program.exchanges answer state ++
        (next (program.run answer state).1).exchanges answer (program.run answer state).2 := by
  induction program generalizing state with
  | done value => rfl
  | ask request further ih =>
      simp only [bind, exchanges, ih, List.cons_append]
      rfl

theorem run_bind_apply (program : Program Reconciler Value)
    (next : Value → Program Reconciler Other) (state : State) :
    (program.bind next).run answer state =
      (next (program.run answer state).1).run answer (program.run answer state).2 := by
  rw [run_bind]
  rfl

/-- Every request of a run is one that the program may ask. -/
theorem AsksOnly.of_mem_exchanges {permitted : Request Reconciler → Prop}
    {program : Program Reconciler Value} (asks : program.AsksOnly permitted) (state : State) :
    ∀ exchange ∈ program.exchanges answer state, permitted exchange.request := by
  induction program generalizing state with
  | done value => simp [exchanges]
  | ask request next ih =>
      intro exchange present
      rcases List.mem_cons.mp present with rfl | later
      · exact asks.1
      · exact ih _ (asks.2 _) _ exchange later

/-- The exchanges of a run with chosen requests, in order. -/
def callsOf (chosen : Request Reconciler → Bool) (program : Program Reconciler Value)
    (state : State) : List (Exchange Reconciler) :=
  (program.exchanges answer state).filter fun exchange => chosen exchange.request

theorem callsOf_of_asksOnly {permitted : Request Reconciler → Prop}
    {chosen : Request Reconciler → Bool} {program : Program Reconciler Value}
    (asks : program.AsksOnly permitted)
    (spared : ∀ request, permitted request → chosen request = false) (state : State) :
    program.callsOf answer chosen state = [] :=
  List.filter_eq_nil_iff.mpr fun exchange present =>
    Bool.eq_false_iff.mp (spared _ (asks.of_mem_exchanges answer state exchange present))

/-- The events that are published in a run, in order. -/
def published (program : Program Reconciler Value) (state : State) : List Event :=
  (program.exchanges answer state).filterMap fun exchange => exchange.request.event?

theorem published_bind (program : Program Reconciler Value)
    (next : Value → Program Reconciler Other) (state : State) :
    (program.bind next).published answer state =
      program.published answer state ++
        (next (program.run answer state).1).published answer (program.run answer state).2 := by
  simp only [published, exchanges_bind, List.filterMap_append]

theorem published_of_asksOnly {permitted : Request Reconciler → Prop}
    {program : Program Reconciler Value} (asks : program.AsksOnly permitted)
    (silent : ∀ request, permitted request → request.event? = none) (state : State) :
    program.published answer state = [] :=
  List.filterMap_eq_nil_iff.mpr fun exchange present =>
    silent _ (asks.of_mem_exchanges answer state exchange present)

end Program

/-! ## Alike surroundings -/

section Apart

open Program

variable {Reconciler State Value : Type}

/--
In alike surroundings all requests are answered alike, except for those that are set
apart.  Asking one of these in one of the surroundings leaves the two alike.
-/
structure SetsApart (answer : (request : Request Reconciler) → StateM State (Reply request))
    (apart : Request Reconciler → Prop) (alike : State → State → Prop) : Prop where
  symm : ∀ first second, alike first second → alike second first
  spares : ∀ request, apart request → ∀ first second, alike first second →
    alike (answer request first).2 second
  answers : ∀ request, ¬ apart request → ∀ first second, alike first second →
    (answer request first).1 = (answer request second).1 ∧
      alike (answer request first).2 (answer request second).2

namespace SetsApart

variable {answer : (request : Request Reconciler) → StateM State (Reply request)}
  {apart : Request Reconciler → Prop} {alike : State → State → Prop}
  {program : Program Reconciler Value} {first second : State}

/-- What is set apart leaves the surroundings alike those in which nothing was asked. -/
theorem run_of_apart (sets : SetsApart answer apart alike) (asks : program.AsksOnly apart)
    (same : alike first second) : alike (program.run answer first).2 second := by
  induction program generalizing first with
  | done value => exact same
  | ask request next ih => exact ih _ (asks.2 _) (sets.spares request asks.1 _ _ same)

/-- A program that asks only what is set apart may run differently, and leaves both alike. -/
theorem runs_of_apart (sets : SetsApart answer apart alike) (asks : program.AsksOnly apart)
    (same : alike first second) :
    alike (program.run answer first).2 (program.run answer second).2 := by
  have left : alike (program.run answer first).2 second := sets.run_of_apart asks same
  exact sets.symm _ _ (sets.run_of_apart asks (sets.symm _ _ left))

/-- A program that asks nothing that is set apart runs alike in alike surroundings. -/
theorem run_of_rest (sets : SetsApart answer apart alike)
    (asks : program.AsksOnly fun request => ¬ apart request) (same : alike first second) :
    (program.run answer first).1 = (program.run answer second).1 ∧
      program.exchanges answer first = program.exchanges answer second ∧
      alike (program.run answer first).2 (program.run answer second).2 := by
  induction program generalizing first second with
  | done value => exact ⟨rfl, rfl, same⟩
  | ask request next ih =>
      rcases sets.answers request asks.1 _ _ same with ⟨replied, later⟩
      -- The replies are the same, so that both runs go on with one and the same program.
      rcases ih _ (asks.2 (answer request first).1) later with ⟨result, exchanged, last⟩
      rw [replied] at result exchanged last
      refine ⟨?_, ?_, ?_⟩
      · show ((next (answer request first).1).run answer (answer request first).2).1 = _
        rw [replied]
        exact result
      · rw [exchanges, exchanges, replied, exchanged]
      · show alike ((next (answer request first).1).run answer (answer request first).2).2 _
        rw [replied]
        exact last

end SetsApart

end Apart

end GaleraControl

import GaleraControl.Quorum
import Mathlib.Tactic.SplitIfs

/-!
# The chosen source

What a choice says about the reports that it was made from: there is one report
for each replica, all of them are usable, and the chosen one is the first of
those with the greatest sequence number.

`Decides` is the rule of the choice, told by the places of the reports and not by
the scan that finds them.  `select_eq_iff_decides` says that the choice follows
the rule, whatever the reports and whatever number is asked for.
-/

namespace GaleraControl.Quorum

/-- A report that no earlier one reaches and no later one exceeds. -/
def FirstMaximum (best : ReplicaReport) (reports : List ReplicaReport) : Prop :=
  ∃ earlier later, reports = earlier ++ best :: later ∧
    (∀ report ∈ earlier, report.seqNo < best.seqNo) ∧
    ∀ report ∈ later, report.seqNo ≤ best.seqNo

namespace FirstMaximum

variable {best : ReplicaReport} {reports : List ReplicaReport}

theorem mem (first : FirstMaximum best reports) : best ∈ reports := by
  rcases first with ⟨earlier, later, rfl, _, _⟩
  simp

theorem le (first : FirstMaximum best reports) {report : ReplicaReport}
    (member : report ∈ reports) : report.seqNo ≤ best.seqNo := by
  rcases first with ⟨earlier, later, rfl, below, notAbove⟩
  rcases List.mem_append.mp member with before | rest
  · exact Int64.le_of_lt (below report before)
  · rcases List.mem_cons.mp rest with same | after
    · rw [same]
      exact Int64.le_refl _
    · exact notAbove report after

/-- A report below the maximum may stand in front of it. -/
theorem precede (first : FirstMaximum best reports) {report : ReplicaReport}
    (behind : report.seqNo < best.seqNo) : FirstMaximum best (report :: reports) := by
  rcases first with ⟨earlier, later, rfl, below, notAbove⟩
  refine ⟨report :: earlier, later, rfl, ?_, notAbove⟩
  intro other member
  rcases List.mem_cons.mp member with same | before
  · rw [same]
    exact behind
  · exact below other before

/-- A report that does not exceed the first one changes nothing when it comes second. -/
theorem skip {head report : ReplicaReport} (first : FirstMaximum best (head :: reports))
    (notAhead : report.seqNo ≤ head.seqNo) :
    FirstMaximum best (head :: report :: reports) := by
  rcases first with ⟨earlier, later, split, below, notAbove⟩
  cases earlier with
  | nil =>
      rcases List.cons.inj split with ⟨same, tail⟩
      refine ⟨[], report :: later, by rw [same, tail]; rfl, by simp, ?_⟩
      intro other member
      rcases List.mem_cons.mp member with skipped | after
      · rw [skipped, ← same]
        exact notAhead
      · exact notAbove other after
  | cons before earlier =>
      rcases List.cons.inj split with ⟨same, tail⟩
      have headBelow : head.seqNo < best.seqNo := by
        rw [same]
        exact below before List.mem_cons_self
      have rest : FirstMaximum best reports :=
        ⟨earlier, later, tail, fun other member =>
          below other (List.mem_cons_of_mem before member), notAbove⟩
      exact (rest.precede (Int64.lt_of_le_of_lt notAhead headBelow)).precede headBelow

end FirstMaximum

/-- The scan ends at the first maximum of the report that it starts with and all others. -/
theorem firstMaximum_mostAdvanced (first : ReplicaReport) (rest : List ReplicaReport) :
    FirstMaximum (mostAdvanced first rest) (first :: rest) := by
  induction rest generalizing first with
  | nil => exact ⟨[], [], rfl, by simp, by simp⟩
  | cons report rest ih =>
      by_cases behind : first.seqNo < report.seqNo
      · have scan : mostAdvanced first (report :: rest) = mostAdvanced report rest := by
          simp [mostAdvanced, behind]
        rw [scan]
        exact (ih report).precede
          (Int64.lt_of_lt_of_le behind ((ih report).le List.mem_cons_self))
      · have scan : mostAdvanced first (report :: rest) = mostAdvanced first rest := by
          simp [mostAdvanced, behind]
        rw [scan]
        exact (ih first).skip (Int64.not_lt.mp behind)

/-- Reports are usable exactly if all their sequence numbers are positive. -/
theorem unusable_eq_nil_iff {reports : List ReplicaReport} :
    unusable reports = [] ↔ ∀ report ∈ reports, 0 < report.seqNo := by
  simp [unusable, List.filter_eq_nil_iff]

/-- A source is chosen from one usable report for each replica, and is the first maximum. -/
theorem select_eq_selected {reports : List ReplicaReport} {desired : Int32}
    {hostname : String} {seqNo : Int64}
    (chosen : select reports desired = .selected hostname seqNo) :
    (reports.length : Int) = desired.toInt ∧
      (∀ report ∈ reports, 0 < report.seqNo) ∧
      ∃ best, FirstMaximum best reports ∧ best.hostname = hostname ∧ best.seqNo = seqNo := by
  cases reports with
  | nil => simp [select] at chosen
  | cons first rest =>
      unfold select at chosen
      split_ifs at chosen with incomplete unfit
      have complete : ((first :: rest).length : Int) = desired.toInt :=
        Decidable.not_not.mp incomplete
      have usable := unusable_eq_nil_iff.mp (Decidable.not_not.mp unfit)
      simp only [Decision.selected.injEq] at chosen
      exact ⟨complete, usable, mostAdvanced first rest, firstMaximum_mostAdvanced first rest,
        chosen.1, chosen.2⟩

/-! ## The rule of the choice -/

/-- The hostnames of the reports without a positive sequence number, one for each, in order. -/
inductive Refuses : List ReplicaReport → List String → Prop where
  | nil : Refuses [] []
  | usable {report : ReplicaReport} {reports : List ReplicaReport} {hostnames : List String}
      (positive : 0 < report.seqNo) (rest : Refuses reports hostnames) :
      Refuses (report :: reports) hostnames
  | unusable {report : ReplicaReport} {reports : List ReplicaReport} {hostnames : List String}
      (notPositive : report.seqNo ≤ 0) (rest : Refuses reports hostnames) :
      Refuses (report :: reports) (report.hostname :: hostnames)

/-- A report stands at an index, has the greatest sequence number, and is the first that has. -/
structure LeastMaximum (reports : List ReplicaReport) (index : Nat) (best : ReplicaReport) :
    Prop where
  stands : reports[index]? = some best
  maximum : ∀ report ∈ reports, report.seqNo ≤ best.seqNo
  least : ∀ earlier < index, ∀ report, reports[earlier]? = some report →
    report.seqNo ≠ best.seqNo

/-- There is one report for each of the desired replicas, and there is one at all. -/
def Complete (reports : List ReplicaReport) (desired : Int32) : Prop :=
  reports ≠ [] ∧ (reports.length : Int) = desired.toInt

/-- What is decided on complete reports, and on others. -/
inductive Decides (reports : List ReplicaReport) (desired : Int32) : Decision → Prop where
  | pending (incomplete : ¬ Complete reports desired) :
      Decides reports desired (.pending reports.length desired)
  | invalidReport (complete : Complete reports desired)
      (unfit : ∃ report ∈ reports, report.seqNo ≤ 0) {hostnames : List String}
      (refuses : Refuses reports hostnames) :
      Decides reports desired (.invalidReport hostnames)
  | selected (complete : Complete reports desired)
      (usable : ∀ report ∈ reports, 0 < report.seqNo) {index : Nat} {best : ReplicaReport}
      (first : LeastMaximum reports index best) :
      Decides reports desired (.selected best.hostname best.seqNo)

theorem refuses_iff {reports : List ReplicaReport} {hostnames : List String} :
    Refuses reports hostnames ↔ unusable reports = hostnames := by
  constructor
  · intro refuses
    induction refuses with
    | nil => rfl
    | usable positive rest ih => simpa [unusable, Int64.not_le.mpr positive] using ih
    | unusable notPositive rest ih => simpa [unusable, notPositive] using ih
  · rintro rfl
    induction reports with
    | nil => exact .nil
    | cons report reports ih =>
        by_cases notPositive : report.seqNo ≤ 0
        · simpa [unusable, notPositive] using Refuses.unusable notPositive ih
        · simpa [unusable, notPositive] using Refuses.usable (Int64.not_le.mp notPositive) ih

/-- A first maximum stands at the index after all that are below it. -/
theorem FirstMaximum.exists_leastMaximum {best : ReplicaReport} {reports : List ReplicaReport}
    (first : FirstMaximum best reports) : ∃ index, LeastMaximum reports index best := by
  have greatest : ∀ report ∈ reports, report.seqNo ≤ best.seqNo := fun _ present => first.le present
  rcases first with ⟨earlier, later, rfl, below, _⟩
  refine ⟨earlier.length, by simp, greatest, ?_⟩
  intro before within report stands same
  rw [List.getElem?_append_left within] at stands
  have behind := below report (List.mem_of_getElem? stands)
  exact Int64.lt_irrefl (same ▸ behind)

namespace LeastMaximum

variable {reports : List ReplicaReport} {first second : Nat} {best other : ReplicaReport}

theorem seqNo_eq (one : LeastMaximum reports first best)
    (two : LeastMaximum reports second other) : best.seqNo = other.seqNo :=
  Int64.le_antisymm (two.maximum best (List.mem_of_getElem? one.stands))
    (one.maximum other (List.mem_of_getElem? two.stands))

theorem not_lt (one : LeastMaximum reports first best)
    (two : LeastMaximum reports second other) : ¬ first < second :=
  fun before => two.least first before best one.stands (one.seqNo_eq two)

/-- There is one least maximum only. -/
theorem unique (one : LeastMaximum reports first best)
    (two : LeastMaximum reports second other) : best = other := by
  have same : first = second :=
    Nat.le_antisymm (Nat.not_lt.mp (two.not_lt one)) (Nat.not_lt.mp (one.not_lt two))
  have stands := one.stands
  rw [same, two.stands] at stands
  exact (Option.some.inj stands).symm

end LeastMaximum

/-- The rule leaves no freedom. -/
theorem Decides.unique {reports : List ReplicaReport} {desired : Int32}
    {first second : Decision} (one : Decides reports desired first)
    (two : Decides reports desired second) : first = second := by
  have clash (unfit : ∃ report ∈ reports, report.seqNo ≤ 0)
      (usable : ∀ report ∈ reports, 0 < report.seqNo) : False := by
    rcases unfit with ⟨report, member, notPositive⟩
    exact Int64.not_le.mpr (usable report member) notPositive
  cases one with
  | pending incomplete =>
      cases two with
      | pending _ => rfl
      | invalidReport complete | selected complete => exact absurd complete incomplete
  | invalidReport complete unfit refuses =>
      cases two with
      | pending incomplete => exact absurd complete incomplete
      | invalidReport _ _ again =>
          rw [← refuses_iff.mp refuses, ← refuses_iff.mp again]
      | selected _ usable => exact absurd usable (clash unfit)
  | selected complete usable least =>
      cases two with
      | pending incomplete => exact absurd complete incomplete
      | invalidReport _ unfit => exact absurd usable (clash unfit)
      | selected _ _ again => rw [least.unique again]

/-- The choice takes one of the ways of the rule. -/
theorem decides_select (reports : List ReplicaReport) (desired : Int32) :
    Decides reports desired (select reports desired) := by
  cases reports with
  | nil => exact .pending fun complete => complete.1 rfl
  | cons first rest =>
      unfold select
      split_ifs with incomplete unfit
      · exact .pending fun complete => incomplete complete.2
      · have complete : Complete (first :: rest) desired :=
          ⟨List.cons_ne_nil first rest, Decidable.not_not.mp incomplete⟩
        refine .invalidReport complete ?_ (refuses_iff.mpr rfl)
        refine Decidable.byContradiction fun none => unfit ?_
        refine unusable_eq_nil_iff.mpr fun report member => ?_
        exact Int64.not_le.mp fun notPositive => none ⟨report, member, notPositive⟩
      · have complete : Complete (first :: rest) desired :=
          ⟨List.cons_ne_nil first rest, Decidable.not_not.mp incomplete⟩
        have usable := unusable_eq_nil_iff.mp (Decidable.not_not.mp unfit)
        rcases (firstMaximum_mostAdvanced first rest).exists_leastMaximum with ⟨index, least⟩
        exact .selected complete usable least

/--
The choice waits exactly if there are no reports or not as many as replicas are
desired.  Otherwise it names the replicas without a positive sequence number, if
there are any, and else the report at the least index with the greatest one.
-/
theorem select_eq_iff_decides (reports : List ReplicaReport) (desired : Int32)
    (decision : Decision) :
    select reports desired = decision ↔ Decides reports desired decision := by
  constructor
  · rintro rfl
    exact decides_select reports desired
  · intro decides
    exact (decides_select reports desired).unique decides

end GaleraControl.Quorum

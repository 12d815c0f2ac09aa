import GaleraControl.Cluster.Status
import GaleraControl.Json.Patch

/-!
# Differences between statuses

A pass writes one operation for every field of the status that it changed.  New
and changed fields are both written by `add`, because a stored document may
leave out a field that has its default, and then there is nothing to replace.
A resource without a status gets the whole status at once.
-/

namespace GaleraControl.ClusterStatus

/-- The place of a field of the status in the document of a cluster. -/
def fieldPath (field : String) : List String := ["status", field]

/-- The operations for the fields that are new or changed. -/
def written (before after : Table String Json) : List PatchOperation :=
  (after.filter fun member => Table.get? before member.1 ≠ some member.2).map fun member =>
    .add (fieldPath member.1) member.2

/-- The operations for the fields that are gone. -/
def cleared (before after : Table String Json) : List PatchOperation :=
  (before.filter fun member => !Table.contains after member.1).map fun member =>
    .remove (fieldPath member.1)

/-- The operations that lead from one status to another. -/
def diff (original : Option ClusterStatus) (changed : ClusterStatus) : List PatchOperation :=
  match original with
  | none => if changed = {} then [] else [.add ["status"] changed.toJson]
  | some original =>
      written original.members changed.members ++ cleared original.members changed.members

end GaleraControl.ClusterStatus

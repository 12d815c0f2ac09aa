import GaleraControl.Cluster

/-!
# Whose object it is

A watched object wakes the cluster that owns it.  An object without such an
owner wakes the cluster of its own name, if there is one, so that collisions
are seen to come and go.
-/

namespace GaleraControl.Watch

/-- Whether an owner reference names a cluster. -/
def namesCluster (owner : OwnerReference) : Bool :=
  owner.kind = Cluster.kind && owner.apiVersion = Cluster.apiVersion

/-- The queue key of the cluster that owns an object. -/
def ownerKey? (metadata : ObjectMeta) : Option String := do
  let namespaceName ← metadata.namespaceName
  let owner ← metadata.owners.find? namesCluster
  return (ResourceKey.mk namespaceName owner.name).text

/-- The queue key of the cluster that an object concerns. -/
def dependentKey? (clusterExists : ResourceKey → Bool) (metadata : ObjectMeta) :
    Option String :=
  match ownerKey? metadata with
  | some key => some key
  | none => do
      let namespaceName ← metadata.namespaceName
      let key : ResourceKey := ⟨namespaceName, metadata.anyName⟩
      if clusterExists key then return key.text else none

end GaleraControl.Watch

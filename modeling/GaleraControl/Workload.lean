import GaleraControl.ObjectMeta

/-!
# Watched dependents

The objects around a cluster as far as the controller looks at them: the
workload that runs the servers, config maps, and pods.  A `WorkloadView` holds
the counters and revisions by which a rollout is judged, a `PodView` whether a
single replica is up.
-/

namespace GaleraControl

/-- What the server has recorded about a workload. -/
structure StatefulSetStatus where
  replicas : Int32 := 0
  currentReplicas : Option Int32 := none
  readyReplicas : Option Int32 := none
  currentRevision : Option String := none
  updateRevision : Option String := none
  observedGeneration : Option Int64 := none
deriving DecidableEq, Repr

/-- A workload as the server shows it. -/
structure StatefulSet where
  metadata : ObjectMeta := {}
  /-- The number of replicas that its specification asks for. -/
  requested : Option Int32 := none
  status : Option StatefulSetStatus := none
deriving DecidableEq, Repr

/-- A config map; only its metadata matters here. -/
structure ConfigMap where
  metadata : ObjectMeta := {}
deriving DecidableEq, Repr

/-- A pod. -/
structure Pod where
  metadata : ObjectMeta := {}
  /-- For every container that has reported, whether it is ready. -/
  containersReady : List Bool := []
deriving DecidableEq, Repr

namespace StatefulSetStatus

/-- Read the record of a workload. -/
def decode : Decoder StatefulSetStatus :=
  .objectOnly "StatefulSetStatus" <|
    (RecordReader.done StatefulSetStatus.mk)
    |>.next (.lenient "replicas" Decoder.int32 0)
    |>.next (.optional "currentReplicas" Decoder.int32)
    |>.next (.optional "readyReplicas" Decoder.int32)
    |>.next (.optional "currentRevision" Decoder.text)
    |>.next (.optional "updateRevision" Decoder.text)
    |>.next (.optional "observedGeneration" Decoder.int64)

end StatefulSetStatus

/-- Metadata that may be left out. -/
def RecordReader.metadata : RecordReader ObjectMeta :=
  .lenient "metadata" ObjectMeta.decode {}

namespace StatefulSet

/-- Read the replica count of a workload's specification. -/
def decodeRequested : Decoder (Option Int32) :=
  .objectOnly "StatefulSetSpec" (.optional "replicas" Decoder.int32)

/-- Read a workload. -/
def decode : Decoder StatefulSet :=
  .objectOnly "StatefulSet" <|
    (RecordReader.done fun metadata spec status =>
      ({ metadata, requested := spec.join, status } : StatefulSet))
    |>.next .metadata
    |>.next (.optional "spec" decodeRequested)
    |>.next (.optional "status" StatefulSetStatus.decode)

end StatefulSet

namespace ConfigMap

/-- Read a config map. -/
def decode : Decoder ConfigMap :=
  .objectOnly "ConfigMap" <| (RecordReader.done ConfigMap.mk) |>.next .metadata

end ConfigMap

namespace Pod

/-- Read whether a container is ready. -/
def decodeContainer : Decoder Bool :=
  .objectOnly "ContainerStatus" (.lenient "ready" Decoder.bool false)

/-- Read which containers of a pod are ready. -/
def decodeContainers : Decoder (Option (List Bool)) :=
  .objectOnly "PodStatus" (.optional "containerStatuses" (.list decodeContainer))

/-- Read a pod. -/
def decode : Decoder Pod :=
  .objectOnly "Pod" <|
    (RecordReader.done fun metadata status =>
      ({ metadata, containersReady := status.join.getD [] } : Pod))
    |>.next .metadata
    |>.next (.optional "status" decodeContainers)

end Pod

/-- The counters and revisions by which a rollout is judged. -/
structure WorkloadView where
  desired : Int32 := 0
  current : Int32 := 0
  replicas : Int32 := 0
  ready : Int32 := 0
  currentRevision : Option String := none
  updateRevision : Option String := none
  observedGeneration : Int64 := 0
deriving DecidableEq, Repr

namespace WorkloadView

/-- All counters match the desired count, and no rollout is pending. -/
def isReady (view : WorkloadView) : Bool :=
  view.desired = view.current && view.desired = view.replicas && view.desired = view.ready
    && view.currentRevision = view.updateRevision

/-- A generation newer than the recorded one has been acted on. -/
def isUpdated (view : WorkloadView) (recorded : Int64) : Bool :=
  recorded < view.observedGeneration

/-- The view of a workload; one replica is asked for when its specification is silent. -/
def ofStatefulSet (workload : StatefulSet) : WorkloadView :=
  let desired := workload.requested.getD 1
  match workload.status with
  | none => { desired }
  | some status =>
      { desired
        current := status.currentReplicas.getD 0
        replicas := status.replicas
        ready := status.readyReplicas.getD 0
        currentRevision := status.currentRevision
        updateRevision := status.updateRevision
        observedGeneration := status.observedGeneration.getD 0 }

end WorkloadView

/-- Whether a single replica is up. -/
structure PodView where
  name : String
  /-- Whether every container has reported and is ready. -/
  containersReady : Bool
deriving DecidableEq, Repr

namespace PodView

/-- The view of a pod; a pod none of whose containers has reported is not ready. -/
def ofPod (pod : Pod) : PodView where
  name := pod.metadata.anyName
  containersReady := !pod.containersReady.isEmpty && pod.containersReady.all id

end PodView

end GaleraControl

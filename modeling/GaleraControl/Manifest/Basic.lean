import GaleraControl.Cluster

/-!
# Managed objects

The objects that the controller keeps for a cluster, with exactly the entries
that it decides on.  Each has one kind; what the API server calls the kind's
group, version and plural is `ManifestKind`.
-/

namespace GaleraControl

/-- The kinds of managed objects. -/
inductive ManifestKind where
  | volumeClaim
  | serviceAccount
  | role
  /-- The assignment of a role to an identity. -/
  | roleBinding
  | statefulSet
  | service
deriving DecidableEq, Repr

namespace ManifestKind

/-- The group of the role kinds. -/
def accessGroup : String := "rbac.authorization.k8s.io"

/-- The name of a kind. -/
def text : ManifestKind → String
  | .volumeClaim => "PersistentVolumeClaim"
  | .serviceAccount => "ServiceAccount"
  | .role => "Role"
  | .roleBinding => "RoleBinding"
  | .statefulSet => "StatefulSet"
  | .service => "Service"

/-- The group and version of a kind. -/
def apiVersion : ManifestKind → String
  | .volumeClaim | .serviceAccount | .service => "v1"
  | .role | .roleBinding => accessGroup ++ "/v1"
  | .statefulSet => "apps/v1"

/-- The plural name of a kind in request paths. -/
def plural : ManifestKind → String
  | .volumeClaim => "persistentvolumeclaims"
  | .serviceAccount => "serviceaccounts"
  | .role => "roles"
  | .roleBinding => "rolebindings"
  | .statefulSet => "statefulsets"
  | .service => "services"

end ManifestKind

/-- What a volume has to offer. -/
structure ClaimSpec where
  storageClassName : Option String
  size : String
deriving DecidableEq, Repr

namespace ClaimSpec

/-- The document of a claim's specification; one node at a time may write to the volume. -/
def toJson (claim : ClaimSpec) : Json :=
  .ofMembers [
    ("accessModes", some (.array [.string "ReadWriteOnce"])),
    ("resources", some (.ofEntries [("requests", .ofEntries [("storage", .string claim.size)])])),
    ("storageClassName", claim.storageClassName.map .string)]

end ClaimSpec

/-- A claim for a volume. -/
structure VolumeClaim where
  metadata : ObjectMeta
  spec : ClaimSpec
deriving DecidableEq, Repr

/-- Access rights on resources of a group. -/
structure AccessRule where
  group : String
  resources : List String
  verbs : List String
deriving DecidableEq, Repr

namespace AccessRule

/-- The document of a rule. -/
def toJson (rule : AccessRule) : Json :=
  .ofEntries [
    ("apiGroups", .array [.string rule.group]),
    ("resources", .array (rule.resources.map .string)),
    ("verbs", .array (rule.verbs.map .string))]

end AccessRule

/-- A set of access rights. -/
structure Role where
  metadata : ObjectMeta
  rules : List AccessRule
deriving DecidableEq, Repr

/-- The assignment of a role to a service account. -/
structure RoleBinding where
  metadata : ObjectMeta
  roleName : String
  accountName : String
  accountNamespace : Option String
deriving DecidableEq, Repr

/-- A port with its name. -/
structure Port where
  name : String
  number : Nat
deriving DecidableEq, Repr

/-- A port of a service and the container port that it leads to. -/
structure ServicePort where
  port : Port
  target : Nat
deriving DecidableEq, Repr

namespace ServicePort

/-- The document of a service port. -/
def toJson (service : ServicePort) : Json :=
  .ofEntries [
    ("name", .string service.port.name),
    ("port", .integer service.port.number),
    ("protocol", .string "TCP"),
    ("targetPort", .integer service.target)]

end ServicePort

/-- How a service is reached. -/
inductive ServiceAccess where
  /-- By the names of its pods, also before they are ready. -/
  | headless
  /-- By one address that leads to ready pods. -/
  | clusterAddress
deriving DecidableEq, Repr

/-- A network endpoint. -/
structure Service where
  metadata : ObjectMeta
  access : ServiceAccess
  /-- The labels of the pods behind the service. -/
  selector : Table String String
  ports : List ServicePort
deriving DecidableEq, Repr

namespace Service

/-- The document of a service's specification. -/
def specJson (service : Service) : Json :=
  .ofEntries <|
    (match service.access with
      | .headless => [("clusterIP", .string "None"), ("publishNotReadyAddresses", .bool true)]
      | .clusterAddress => [("type", .string "ClusterIP")])
    ++ [
      ("ports", .array (service.ports.map ServicePort.toJson)),
      ("selector", .ofTexts service.selector)]

end Service

/-- Where the value of an environment variable comes from. -/
inductive VariableSource where
  | text (value : String)
  | field (path : String)
deriving DecidableEq, Repr

/-- An environment variable. -/
structure Variable where
  name : String
  source : VariableSource
deriving DecidableEq, Repr

namespace Variable

/-- The document of a variable. -/
def toJson (entry : Variable) : Json :=
  match entry.source with
  | .text value => .ofEntries [("name", .string entry.name), ("value", .string value)]
  | .field path =>
      .ofEntries [
        ("name", .string entry.name),
        ("valueFrom", .ofEntries [("fieldRef", .ofEntries [("fieldPath", .string path)])])]

end Variable

/-- A volume in the file tree of a container. -/
structure Mount where
  name : String
  path : String
deriving DecidableEq, Repr

/-- A container. -/
structure Container where
  name : String
  image : String
  arguments : List String
  environment : List Variable
  ports : List Port
  /-- The port that answers when the container is ready. -/
  readinessPort : Nat
  mounts : List Mount
deriving DecidableEq, Repr

namespace Container

/-- The document of a container; readiness is probed every five seconds after the first ten. -/
def toJson (container : Container) : Json :=
  .ofEntries [
    ("args", .array (container.arguments.map .string)),
    ("env", .array (container.environment.map Variable.toJson)),
    ("image", .string container.image),
    ("name", .string container.name),
    ("ports", .array (container.ports.map fun port =>
      .ofEntries [("containerPort", .integer port.number), ("name", .string port.name)])),
    ("readinessProbe", .ofEntries [
      ("initialDelaySeconds", .integer 10),
      ("periodSeconds", .integer 5),
      ("tcpSocket", .ofEntries [("port", .integer container.readinessPort)])]),
    ("volumeMounts", .array (container.mounts.map fun mount =>
      .ofEntries [("mountPath", .string mount.path), ("name", .string mount.name)]))]

end Container

/-- A volume of a pod that a claim provides. -/
structure Volume where
  name : String
  claimName : String
deriving DecidableEq, Repr

/-- The template of the pods of a workload. -/
structure PodTemplate where
  labels : Table String String
  accountName : String
  container : Container
  /-- The volumes that all pods share, if there is a list of them. -/
  volumes : Option (List Volume)
deriving DecidableEq, Repr

namespace PodTemplate

/-- The document of a pod template. -/
def toJson (template : PodTemplate) : Json :=
  .ofEntries [
    ("metadata", .ofEntries [("labels", .ofTexts template.labels)]),
    ("spec", .ofMembers [
      ("containers", some (.array [template.container.toJson])),
      ("serviceAccountName", some (.string template.accountName)),
      ("volumes", template.volumes.map fun volumes => .array (volumes.map fun volume =>
        .ofEntries [
          ("name", .string volume.name),
          ("persistentVolumeClaim",
            .ofEntries [("claimName", .string volume.claimName)])]))])]

end PodTemplate

/-- A workload of numbered pods, as the controller asks for it. -/
structure WorkloadSpec where
  replicas : Int32
  serviceName : String
  selector : Table String String
  template : PodTemplate
  /-- The claims that every pod has of its own. -/
  claimTemplates : List VolumeClaim
deriving DecidableEq, Repr

/-- A workload object, as the controller asks for it. -/
structure WorkloadManifest where
  metadata : ObjectMeta
  spec : WorkloadSpec
deriving DecidableEq, Repr

namespace WorkloadSpec

/-- The document of a claim within a workload. -/
def claimJson (claim : VolumeClaim) : Json :=
  .ofEntries [
    ("apiVersion", .string ManifestKind.volumeClaim.apiVersion),
    ("kind", .string ManifestKind.volumeClaim.text),
    ("metadata", claim.metadata.toJson),
    ("spec", claim.spec.toJson)]

/-- The document of a workload's specification. -/
def toJson (spec : WorkloadSpec) : Json :=
  .ofEntries [
    ("replicas", .integer spec.replicas.toInt),
    ("selector", .ofEntries [("matchLabels", .ofTexts spec.selector)]),
    ("serviceName", .string spec.serviceName),
    ("template", spec.template.toJson),
    ("volumeClaimTemplates", .array (spec.claimTemplates.map claimJson))]

end WorkloadSpec

/-- A managed object. -/
inductive Manifest where
  | volumeClaim (claim : VolumeClaim)
  | serviceAccount (metadata : ObjectMeta)
  | role (granted : Role)
  /-- The assignment of a role to an identity. -/
  | roleBinding (binding : RoleBinding)
  | statefulSet (workload : WorkloadManifest)
  | service (endpoint : Service)
deriving DecidableEq, Repr

namespace Manifest

/-- The kind of an object. -/
def kind : Manifest → ManifestKind
  | .volumeClaim _ => .volumeClaim
  | .serviceAccount _ => .serviceAccount
  | .role _ => .role
  | .roleBinding _ => .roleBinding
  | .statefulSet _ => .statefulSet
  | .service _ => .service

/-- The metadata of an object. -/
def metadata : Manifest → ObjectMeta
  | .volumeClaim claim => claim.metadata
  | .serviceAccount metadata => metadata
  | .role granted => granted.metadata
  | .roleBinding binding => binding.metadata
  | .statefulSet workload => workload.metadata
  | .service endpoint => endpoint.metadata

/-- The entries of an object beside its kind and metadata. -/
def content : Manifest → List (String × Json)
  | .volumeClaim claim => [("spec", claim.spec.toJson)]
  | .serviceAccount _ => []
  | .role granted => [("rules", .array (granted.rules.map AccessRule.toJson))]
  | .roleBinding binding => [
      ("roleRef", .ofEntries [
        ("apiGroup", .string ManifestKind.accessGroup),
        ("kind", .string ManifestKind.role.text),
        ("name", .string binding.roleName)]),
      ("subjects", .array [.ofMembers [
        ("kind", some (.string ManifestKind.serviceAccount.text)),
        ("name", some (.string binding.accountName)),
        ("namespace", binding.accountNamespace.map .string)]])]
  | .statefulSet workload => [("spec", workload.spec.toJson)]
  | .service endpoint => [("spec", endpoint.specJson)]

/-- The document of an object. -/
def toJson (manifest : Manifest) : Json :=
  .ofEntries <| [
    ("apiVersion", .string manifest.kind.apiVersion),
    ("kind", .string manifest.kind.text),
    ("metadata", manifest.metadata.toJson)] ++ manifest.content

end Manifest

end GaleraControl

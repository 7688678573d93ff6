import Wiremap.Kube.Json
import Wiremap.Library.KeyedList

/-! The API objects the canvas reads, with the fields it reads of them.  Defaults
are the zero values of a decoded object, and `none` is an unset pointer. -/
namespace Wiremap.Kube

open Wiremap.Library

structure OwnerReference where
  apiVersion : String := ""
  kind : String := ""
  name : String := ""
  uid : String := ""
  controller : Option Bool := none
  deriving DecidableEq, Repr

structure ObjectMeta where
  name : String := ""
  ns : String := ""
  uid : String := ""
  labels : StringMap String := ∅
  annotations : StringMap String := ∅
  ownerReferences : List OwnerReference := []
  deleted : Bool := false

def ObjectMeta.key (m : ObjectMeta) : String × String := (m.ns, m.name)

class HasMeta (α : Type u) where
  objectMeta : α → ObjectMeta

/-- The stored objects of one kind: a name is used once in a namespace. -/
abbrev Store (α : Type u) [HasMeta α] :=
  KeyedList fun a : α => (HasMeta.objectMeta a).key

abbrev ClusterStore (α : Type u) [HasMeta α] :=
  KeyedList fun a : α => (HasMeta.objectMeta a).name

structure Quantity where
  text : String
  value : ℚ

structure ContainerPort where
  containerPort : Int
  protocol : String

structure EnvRefs where
  configMap : Option String := none
  secret : Option String := none

structure Container where
  name : String := ""
  image : String := ""
  command : List String := []
  args : List String := []
  ports : List ContainerPort := []
  envFrom : List EnvRefs := []
  /-- `none` where an env entry has no `valueFrom`. -/
  env : List (Option EnvRefs) := []

structure ProjectedSource where
  configMap : Option String := none
  secret : Option String := none

structure Volume where
  configMap : Option String := none
  secret : Option String := none
  persistentVolumeClaim : Option String := none
  projected : Option (List ProjectedSource) := none

structure PodSpec where
  volumes : List Volume := []
  imagePullSecrets : List String := []
  initContainers : List Container := []
  containers : List Container := []
  serviceAccountName : String := ""
  nodeName : String := ""

structure PodTemplateSpec where
  labels : StringMap String := ∅
  spec : PodSpec := {}

/-- `waiting` and `terminated` hold the reason of that state. -/
structure ContainerStatus where
  name : String := ""
  ready : Bool := false
  restartCount : Int := 0
  running : Bool := false
  terminated : Option String := none
  waiting : Option String := none

structure Pod extends ObjectMeta where
  spec : PodSpec := {}
  phase : String := ""
  podIP : String := ""
  containerStatuses : List ContainerStatus := []
  initContainerStatuses : List ContainerStatus := []

structure Deployment extends ObjectMeta where
  replicas : Option Int := none
  template : PodTemplateSpec := {}
  readyReplicas : Int := 0

structure StatefulSet extends ObjectMeta where
  replicas : Option Int := none
  template : PodTemplateSpec := {}
  volumeClaimTemplates : List String := []
  readyReplicas : Int := 0

structure DaemonSet extends ObjectMeta where
  template : PodTemplateSpec := {}
  numberReady : Int := 0
  desiredNumberScheduled : Int := 0

structure ReplicaSet extends ObjectMeta where
  replicas : Option Int := none
  readyReplicas : Int := 0

structure Job extends ObjectMeta where
  completions : Option Int := none
  template : PodTemplateSpec := {}
  active : Int := 0
  succeeded : Int := 0
  failed : Int := 0

structure CronJob extends ObjectMeta where
  suspend : Option Bool := none
  schedule : String := ""
  template : PodTemplateSpec := {}
  active : Nat := 0

/-- `object` is what the dynamic client serves of it. -/
structure ReplicationController extends ObjectMeta where
  replicas : Option Int := none
  template : Option PodTemplateSpec := none
  readyReplicas : Int := 0
  object : Object := ∅

structure ServicePort where
  port : Int
  protocol : String

structure Service extends ObjectMeta where
  selector : StringMap String := ∅
  clusterIP : String := ""
  ports : List ServicePort := []
  type : String := ""
  externalName : String := ""

structure EndpointRef where
  kind : String
  name : String

structure EndpointSlice extends ObjectMeta where
  /-- The `targetRef` of each endpoint. -/
  endpoints : List (Option EndpointRef) := []

structure IngressRule where
  host : String := ""
  /-- The backend Service of each HTTP path, where the rule has HTTP paths. -/
  http : Option (List (Option String)) := none

structure Ingress extends ObjectMeta where
  ingressClassName : Option String := none
  defaultBackend : Option (Option String) := none
  rules : List IngressRule := []

structure PersistentVolumeClaim extends ObjectMeta where
  volumeName : String := ""
  storageClassName : Option String := none
  phase : String := ""
  capacity : StringMap Quantity := ∅

structure PersistentVolume extends ObjectMeta where
  capacity : StringMap Quantity := ∅
  storageClassName : String := ""
  reclaimPolicy : String := ""
  phase : String := ""

structure StorageClass extends ObjectMeta where
  provisioner : String := ""

structure Condition where
  type : String
  status : String
  deriving DecidableEq, Repr

structure MetricSpec where
  type : String
  /-- The resource's name, and its target utilization where it has one. -/
  resource : Option (String × Option Int) := none

structure CrossVersionRef where
  apiVersion : String := ""
  kind : String := ""
  name : String := ""

structure HorizontalPodAutoscaler extends ObjectMeta where
  scaleTargetRef : CrossVersionRef := {}
  minReplicas : Option Int := none
  maxReplicas : Int := 0
  metrics : List MetricSpec := []
  currentReplicas : Int := 0
  conditions : List Condition := []

inductive SelectorOperator where
  | isIn
  | notIn
  | exist
  | doesNotExist
  | unknown (text : String)
  deriving DecidableEq, Repr

structure SelectorRequirement where
  key : String
  operator : SelectorOperator
  values : List String := []
  deriving DecidableEq, Repr

structure LabelSelector where
  matchLabels : StringMap String := ∅
  matchExpressions : List SelectorRequirement := []

structure PodDisruptionBudget extends ObjectMeta where
  /-- An integer or a percentage, as it prints. -/
  minAvailable : Option String := none
  maxUnavailable : Option String := none
  selector : Option LabelSelector := none
  expectedPods : Int := 0
  disruptionsAllowed : Int := 0

structure NetworkPolicyPeer where
  podSelector : Option LabelSelector := none
  namespaceSelector : Option LabelSelector := none

structure NetworkPolicy extends ObjectMeta where
  podSelector : LabelSelector := {}
  /-- The peers of each rule. -/
  ingress : List (List NetworkPolicyPeer) := []
  egress : List (List NetworkPolicyPeer) := []
  policyTypes : List String := []

structure ResourceQuota extends ObjectMeta where
  hard : StringMap Quantity := ∅
  used : StringMap Quantity := ∅

structure LimitRange extends ObjectMeta where
  limits : Nat := 0

structure Subject where
  kind : String
  name : String
  ns : String := ""
  deriving DecidableEq, Repr

structure RoleRef where
  kind : String
  name : String
  deriving DecidableEq, Repr

structure RoleBinding extends ObjectMeta where
  subjects : List Subject := []
  roleRef : RoleRef

structure ClusterRoleBinding extends ObjectMeta where
  subjects : List Subject := []
  roleRef : RoleRef

structure Role extends ObjectMeta where
  rules : Nat := 0

structure ClusterRole extends ObjectMeta where
  rules : Nat := 0

structure Namespace extends ObjectMeta where
  phase : String := ""

structure Node extends ObjectMeta where
  unschedulable : Bool := false
  conditions : List Condition := []
  kubeletVersion : String := ""
  osImage : String := ""
  cpu : String := ""
  memory : String := ""

/-- An object of any other kind, as the dynamic client serves it. -/
structure Unstructured extends ObjectMeta where
  group : String
  kind : String
  object : Object := ∅

def Unstructured.fullKey (u : Unstructured) : (String × String) × String × String :=
  ((u.group, u.kind), u.ns, u.name)

instance : HasMeta Pod := ⟨Pod.toObjectMeta⟩
instance : HasMeta Deployment := ⟨Deployment.toObjectMeta⟩
instance : HasMeta StatefulSet := ⟨StatefulSet.toObjectMeta⟩
instance : HasMeta DaemonSet := ⟨DaemonSet.toObjectMeta⟩
instance : HasMeta ReplicaSet := ⟨ReplicaSet.toObjectMeta⟩
instance : HasMeta Job := ⟨Job.toObjectMeta⟩
instance : HasMeta CronJob := ⟨CronJob.toObjectMeta⟩
instance : HasMeta ReplicationController := ⟨ReplicationController.toObjectMeta⟩
instance : HasMeta Service := ⟨Service.toObjectMeta⟩
instance : HasMeta EndpointSlice := ⟨EndpointSlice.toObjectMeta⟩
instance : HasMeta Ingress := ⟨Ingress.toObjectMeta⟩
instance : HasMeta PersistentVolumeClaim := ⟨PersistentVolumeClaim.toObjectMeta⟩
instance : HasMeta PersistentVolume := ⟨PersistentVolume.toObjectMeta⟩
instance : HasMeta StorageClass := ⟨StorageClass.toObjectMeta⟩
instance : HasMeta HorizontalPodAutoscaler := ⟨HorizontalPodAutoscaler.toObjectMeta⟩
instance : HasMeta PodDisruptionBudget := ⟨PodDisruptionBudget.toObjectMeta⟩
instance : HasMeta NetworkPolicy := ⟨NetworkPolicy.toObjectMeta⟩
instance : HasMeta ResourceQuota := ⟨ResourceQuota.toObjectMeta⟩
instance : HasMeta LimitRange := ⟨LimitRange.toObjectMeta⟩
instance : HasMeta RoleBinding := ⟨RoleBinding.toObjectMeta⟩
instance : HasMeta ClusterRoleBinding := ⟨ClusterRoleBinding.toObjectMeta⟩
instance : HasMeta Role := ⟨Role.toObjectMeta⟩
instance : HasMeta ClusterRole := ⟨ClusterRole.toObjectMeta⟩
instance : HasMeta Namespace := ⟨Namespace.toObjectMeta⟩
instance : HasMeta Node := ⟨Node.toObjectMeta⟩

end Wiremap.Kube

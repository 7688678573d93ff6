import Wiremap.Kube.Labels
import Wiremap.Topology.PodOwners

/-! The Services, Ingresses and configuration of a namespace, linked to the
owners of its pods. -/
namespace Wiremap.Topology

open Wiremap.Kube Wiremap.Library

/-- The orders in which one request happens to range over its maps. -/
structure RangeOrder where
  /-- Claims by name, for a workload and one of its claim prefixes. -/
  claims : String → String → List String → List String
  volumes : List String → List String
  accounts : List String → List String
  claims_perm : ∀ owner pre l, (claims owner pre l).Perm l
  volumes_perm : ∀ l, (volumes l).Perm l
  accounts_perm : ∀ l, (accounts l).Perm l

instance : Inhabited RangeOrder :=
  ⟨⟨fun _ _ l => l, id, id, fun _ _ l => .refl l, .refl, .refl⟩⟩

def serviceNode (svc : Service) : GraphNode where
  id := kubeNodeID "Service" svc.ns svc.name
  kind := "Service"
  name := svc.name
  ns := svc.ns
  status := .healthy
  summary := serviceSummary svc
  drillable := true
  weight := 1
  details := [⟨"Cluster IP", svc.clusterIP⟩].toAList

def serviceNameLabel : String := "kubernetes.io/service-name"

def endpointPod (service : String) (result : StringMap (List String))
    (endpoint : Option EndpointRef) : StringMap (List String) :=
  match endpoint with
  | some ref =>
      if ref.kind = "Pod" then
        result.insert service ((result.lookup service).getD [] ++ [ref.name])
      else result
  | none => result

/-- The pod names behind each Service; nothing where slices cannot be read. -/
def endpointPods (c : Cluster) (ns : String) : StringMap (List String) :=
  match c.list "EndpointSlice" ns c.endpointSlices with
  | .error _ => ∅
  | .ok slices =>
      slices.foldl (fun result slice =>
        slice.endpoints.foldl (endpointPod ((slice.labels.lookup serviceNameLabel).getD "")) result) ∅

def linkSelected (id : String) (selector : Selector) (g : Graph) (o : PodTemplateOwner) : Graph :=
  if selector.matches o.labels then g.addEdge id o.node.id "selects" else g

def linkEndpoint (id : String) (owners : NamespaceOwners) (g : Graph) (pod : String) : Graph :=
  match owners.podOwner.lookup pod with
  | some ownerID => g.addEdge id ownerID "selects"
  | none => g

def addService (c : Cluster) (ns : String) (owners : NamespaceOwners) (g : Graph)
    (svc : Service) : Graph :=
  let node := serviceNode svc
  let g := g.addNode node
  if svc.selector.entries.length > 0 then
    owners.owners.foldl (linkSelected node.id (selectorFromSet svc.selector)) g
  else
    (((endpointPods c ns).lookup svc.name).getD []).foldl (linkEndpoint node.id owners) g

def addServices (c : Cluster) (ns : String) (owners : NamespaceOwners) (g : Graph) :
    Except AppError Graph := do
  let services ← orWrap (c.list "Service" ns c.services) "list services"
  return services.foldl (addService c ns owners) g

def ingressHosts (ing : Ingress) : List String :=
  let hosts := (ing.rules.filter fun rule => rule.host ≠ "").map (·.host)
  if hosts.isEmpty then ["*"] else hosts

def ingressBackends (ing : Ingress) : List String :=
  (ing.defaultBackend.bind id).toList ++
    ing.rules.flatMap fun rule => (rule.http.getD []).filterMap id

def routeTo (id ns : String) (g : Graph) (backend : String) : Graph :=
  let target := kubeNodeID "Service" ns backend
  if g.hasNode target then g.addEdge id target "routes" else g

def ingressNode (ns : String) (ing : Ingress) : GraphNode where
  id := kubeNodeID "Ingress" ns ing.name
  kind := "Ingress"
  name := ing.name
  ns := ns
  status := .healthy
  summary := ", ".intercalate (ingressHosts ing)
  drillable := true
  weight := 1
  details := match ing.ingressClassName with
    | some cls => [⟨"Class", cls⟩].toAList
    | none => ∅

def addIngress (ns : String) (g : Graph) (ing : Ingress) : Graph :=
  let node := ingressNode ns ing
  (ingressBackends ing).foldl (routeTo node.id ns) (g.addNode node)

def addIngresses (c : Cluster) (ns : String) (g : Graph) : Except AppError Graph := do
  let ingresses ← orWrap (c.list "Ingress" ns c.ingresses) "list ingresses"
  return ingresses.foldl (addIngress ns) g

structure SpecRef where
  kind : String
  name : String
  deriving DecidableEq, Repr

abbrev SpecRefs := KeyedList (id : SpecRef → SpecRef)

def addSpecRef (kind : String) (refs : SpecRefs) (name : Option String) : SpecRefs :=
  match name with
  | some name => if name ≠ "" then refs.add ⟨kind, name⟩ else refs
  | none => refs

def addVolumeRefs (refs : SpecRefs) (v : Volume) : SpecRefs :=
  match v.configMap, v.secret, v.persistentVolumeClaim, v.projected with
  | some name, _, _, _ => addSpecRef "ConfigMap" refs (some name)
  | none, some name, _, _ => addSpecRef "Secret" refs (some name)
  | none, none, some name, _ => addSpecRef "PersistentVolumeClaim" refs (some name)
  | none, none, none, some sources =>
      sources.foldl (fun refs src =>
        addSpecRef "Secret" (addSpecRef "ConfigMap" refs src.configMap) src.secret) refs
  | none, none, none, none => refs

def addEnvRefs (refs : SpecRefs) (env : EnvRefs) : SpecRefs :=
  addSpecRef "Secret" (addSpecRef "ConfigMap" refs env.configMap) env.secret

def addContainerRefs (refs : SpecRefs) (ctr : Container) : SpecRefs :=
  (ctr.env.filterMap id).foldl addEnvRefs (ctr.envFrom.foldl addEnvRefs refs)

/-- The distinct ConfigMaps, Secrets and PVCs a pod spec depends on. -/
def podSpecRefs (spec : PodSpec) : List SpecRef :=
  let refs := spec.volumes.foldl addVolumeRefs .empty
  let refs := spec.imagePullSecrets.foldl (fun refs name => addSpecRef "Secret" refs (some name)) refs
  ((spec.initContainers ++ spec.containers).foldl addContainerRefs refs).items

def persistentVolumeNode (pv : PersistentVolume) : GraphNode where
  id := kubeNodeID "PersistentVolume" "" pv.name
  kind := "PersistentVolume"
  name := pv.name
  status := (phaseStatus pv.phase).1
  weight := 1
  summary := pv.phase ++ " · " ++ ((pv.capacity.lookup "storage").map (·.text)).getD "0"
  details := [⟨"Reclaim policy", pv.reclaimPolicy⟩].toAList

def addPersistentVolume (g : Graph) (pv : PersistentVolume) : Graph :=
  g.addNode (persistentVolumeNode pv)

def usedClassNode (name : String) : GraphNode where
  id := kubeNodeID "StorageClass" "" name
  kind := "StorageClass"
  name := name
  status := .healthy
  weight := 1

def addStorageClass (g : Graph) (name : String) : Graph := g.addNode (usedClassNode name)

def useStorageClass (g : Graph) (source name : String) : Graph :=
  (addStorageClass g name).addEdge source (kubeNodeID "StorageClass" "" name) "uses"

def bindVolume (g : Graph) (claimID : String) (pv : PersistentVolume) : Graph :=
  let pvID := kubeNodeID "PersistentVolume" "" pv.name
  let g := (addPersistentVolume g pv).addEdge claimID pvID "bound"
  if pv.storageClassName ≠ "" then useStorageClass g pvID pv.storageClassName else g

def addVolume (ns : String) (pvs : StringMap PersistentVolume)
    (pvcs : StringMap PersistentVolumeClaim) (g : Graph) (name : String) : Graph :=
  match pvcs.lookup name with
  | none => g
  | some pvc =>
      let claimID := kubeNodeID "PersistentVolumeClaim" ns name
      let className := pvc.storageClassName.getD ""
      match pvs.lookup pvc.volumeName with
      | some pv => bindVolume g claimID pv
      | none => if className ≠ "" then useStorageClass g claimID className else g

def volumesByName (pvs : List PersistentVolume) : StringMap PersistentVolume :=
  pvs.foldl (fun byName pv => byName.insert pv.name pv) ∅

def claimsByName (pvcs : List PersistentVolumeClaim) : StringMap PersistentVolumeClaim :=
  pvcs.foldl (fun byName pvc => byName.insert pvc.name pvc) ∅

def addVolumes (c : Cluster) (order : RangeOrder) (ns : String)
    (pvcs : StringMap PersistentVolumeClaim) (used : StringMap Unit) (g : Graph) : Graph :=
  let pvs := (c.listAll "PersistentVolume" c.persistentVolumes).toOption.getD []
  (order.volumes used.keys).foldl (addVolume ns (volumesByName pvs) pvcs) g

/-- A referenced object, drawn by its name; a claim that does not exist is missing. -/
def specRefNode (ns : String) (pvcs : StringMap PersistentVolumeClaim) (ref : SpecRef) :
    GraphNode :=
  let rating : Status × String :=
    if ref.kind = "PersistentVolumeClaim" then
      ((pvcs.lookup ref.name).map pvcStatus).getD (.warning, "missing")
    else (.healthy, "")
  { id := kubeNodeID ref.kind ns ref.name
    kind := ref.kind
    name := ref.name
    ns := ns
    status := rating.1
    summary := rating.2
    drillable := true
    weight := 1 }

def addConfigRef (ns : String) (pvcs : StringMap PersistentVolumeClaim) (o : PodTemplateOwner)
    (acc : Graph × StringMap Unit) (ref : SpecRef) : Graph × StringMap Unit :=
  let node := specRefNode ns pvcs ref
  let used := if ref.kind = "PersistentVolumeClaim" then acc.2.insert ref.name () else acc.2
  ((acc.1.addNode node).addEdge o.node.id node.id "uses", used)

/-- What an owner's pods depend on: its spec's references, and the claims that
carry one of its prefixes. -/
def ownerRefs (order : RangeOrder) (pvcs : StringMap PersistentVolumeClaim)
    (o : PodTemplateOwner) : List SpecRef :=
  podSpecRefs o.spec ++ o.claimPrefixes.flatMap fun pre =>
    ((order.claims o.node.id pre pvcs.keys).filter fun name => Text.hasPrefix name pre).map
      fun name => ⟨"PersistentVolumeClaim", name⟩

def addOwnerRefs (order : RangeOrder) (ns : String) (pvcs : StringMap PersistentVolumeClaim)
    (acc : Graph × StringMap Unit) (o : PodTemplateOwner) : Graph × StringMap Unit :=
  (ownerRefs order pvcs o).foldl (addConfigRef ns pvcs o) acc

def addConfigRefs (c : Cluster) (order : RangeOrder) (ns : String) (owners : NamespaceOwners)
    (g : Graph) : Except AppError Graph := do
  let pvcs ← orWrap (c.list "PersistentVolumeClaim" ns c.persistentVolumeClaims)
    "list persistentvolumeclaims"
  let pvcByName := claimsByName pvcs
  let (g, used) := owners.owners.foldl (addOwnerRefs order ns pvcByName) (g, ∅)
  return addVolumes c order ns pvcByName used g

end Wiremap.Topology

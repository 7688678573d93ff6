import Wiremap.Handler.FilesystemHandler
import Wiremap.Library.Routes
import Wiremap.Library.UrlPath
import Wiremap.Service.ActionService

/-! The routes of the server, and what each handler makes of a request: the call of a
service, or an error. -/
namespace Wiremap.Handler.Router

open Wiremap.Library Wiremap.Library.Routes
open Wiremap.Handler.KubeClusterHandler (Query query defaultQuery)
open Wiremap.Handler.FilesystemHandler (hostOf)
open Wiremap.Service.ActionService (ObjectRef)

inductive Endpoint where
  | listContainers
  | inspectContainer
  | updateEnv
  | listDir
  | readFile
  | writeFile
  | listNetworks
  | inspectNetwork
  | listClusters
  | topology
  | kinds
  | listObjects
  | counts
  | getResource
  | update
  | delete
  | scale
  | restart
  | trigger
  | suspend
  | cordon
  | drain
  | inspectPod
  | hosts
  | ws
  | wsExec
  | wsKube
  | wsKubeExec
  deriving DecidableEq

def part (text : String) : Part :=
  match text.toList with
  | ':' :: name => .param (.ofList name)
  | _ => .literal text

def route (method path : String) (handler : Endpoint) : Route Endpoint :=
  ⟨method, (Text.split '/' path).map part, handler⟩

def k8s (path : String) : String := "/api/k8s/clusters" ++ path

def initRoutes : List (Route Endpoint) :=
  [route "GET" "/api/containers" .listContainers,
    route "GET" "/api/containers/:id" .inspectContainer,
    route "PUT" "/api/containers/:id/env" .updateEnv,
    route "GET" "/api/containers/:id/fs" .listDir,
    route "GET" "/api/containers/:id/fs/read" .readFile,
    route "PUT" "/api/containers/:id/fs/write" .writeFile,
    route "GET" "/api/networks" .listNetworks,
    route "GET" "/api/networks/:id" .inspectNetwork,
    route "GET" (k8s "") .listClusters,
    route "GET" (k8s "/:cluster/topology") .topology,
    route "GET" (k8s "/:cluster/kinds") .kinds,
    route "GET" (k8s "/:cluster/objects") .listObjects,
    route "GET" (k8s "/:cluster/counts") .counts,
    route "GET" (k8s "/:cluster/resources/:kind/:name") .getResource,
    route "PUT" (k8s "/:cluster/resources/:kind/:name") .update,
    route "DELETE" (k8s "/:cluster/resources/:kind/:name") .delete,
    route "POST" (k8s "/:cluster/resources/:kind/:name/scale") .scale,
    route "POST" (k8s "/:cluster/resources/:kind/:name/restart") .restart,
    route "POST" (k8s "/:cluster/resources/:kind/:name/trigger") .trigger,
    route "POST" (k8s "/:cluster/resources/:kind/:name/suspend") .suspend,
    route "POST" (k8s "/:cluster/nodes/:name/cordon") .cordon,
    route "POST" (k8s "/:cluster/nodes/:name/drain") .drain,
    route "GET" (k8s "/:cluster/namespaces/:namespace/pods/:name") .inspectPod,
    route "GET" "/api/hosts" .hosts,
    route "GET" "/ws" .ws,
    route "GET" "/ws/exec/:id" .wsExec,
    route "GET" "/ws/k8s" .wsKube,
    route "GET" "/ws/k8s/exec/:cluster/:namespace/:pod" .wsKubeExec]

inductive Body where
  | yaml (text : String)
  | replicas (n : ℚ)
  | value (b : Bool)
  | env (entries : List String)
  | file (path content : String)
  deriving DecidableEq

inductive Call where
  | listContainers (host : String)
  | inspectContainer (host id : String)
  | updateEnv (host id : String) (env : List String)
  | files (call : FilesystemHandler.Call)
  | listNetworks (host : String)
  | inspectNetwork (host id : String)
  | listClusters
  | topology (cluster : String) (params : Query)
  | kinds (cluster : String)
  | listObjects (cluster group version resource ns continueToken : String)
  | counts (cluster ns : String) (kinds : List String)
  | getResource (cluster group kind ns name : String)
  | update (ref : ObjectRef) (yaml : String)
  | delete (ref : ObjectRef)
  | scale (ref : ObjectRef) (replicas : Int)
  | restart (ref : ObjectRef)
  | trigger (ref : ObjectRef)
  | suspend (ref : ObjectRef) (value : Bool)
  | cordon (cluster node : String) (value : Bool)
  | drain (cluster node : String)
  | inspectPod (cluster ns name : String)
  | hosts
  | subscribe
  | exec (id host : String)
  | subscribeKube
  | execPod (cluster ns pod container : String)
  deriving DecidableEq

section

variable (params : Params) (q : Query) (body : Option Body)

def param (key : String) : String := (params.lookup key).getD ""

def objectRef : ObjectRef :=
  ⟨param params "cluster", query q "group", param params "kind", query q "namespace",
    param params "name"⟩

/-- An empty text counts as missing. -/
def updateRequest : Except AppError String :=
  match body with
  | some (.yaml text) => if text = "" then .error (.badRequest "yaml is required") else .ok text
  | _ => .error (.badRequest "yaml is required")

def scaleRequest : Except AppError Int :=
  match body with
  | some (.replicas n) =>
      if n.den = 1 ∧ -2147483648 ≤ n.num ∧ n.num < 2147483648 then .ok n.num
      else .error (.badRequest "replicas is required")
  | _ => .error (.badRequest "replicas is required")

def toggleRequest : Except AppError Bool :=
  match body with
  | some (.value b) => .ok b
  | _ => .error (.badRequest "value is required")

def envRequest : Except AppError (List String) :=
  match body with
  | some (.env entries) => .ok entries
  | _ => .error (.badRequest "env array is required")

def writeBody : Option FilesystemHandler.WriteBody :=
  match body with
  | some (.file path content) => some ⟨path, content⟩
  | _ => none

def countedKinds : List String :=
  if query q "kinds" = "" then [] else Text.split ',' (query q "kinds")

def handle : Endpoint → Except AppError Call
  | .listContainers => .ok (.listContainers (hostOf q))
  | .inspectContainer => .ok (.inspectContainer (hostOf q) (param params "id"))
  | .updateEnv => (envRequest body).map (.updateEnv (hostOf q) (param params "id"))
  | .listDir => (FilesystemHandler.listDir (param params "id") q).map .files
  | .readFile => (FilesystemHandler.readFile (param params "id") q).map .files
  | .writeFile => (FilesystemHandler.writeFile (param params "id") q (writeBody body)).map .files
  | .listNetworks => .ok (.listNetworks (hostOf q))
  | .inspectNetwork => .ok (.inspectNetwork (hostOf q) (param params "id"))
  | .listClusters => .ok .listClusters
  | .topology => .ok (.topology (param params "cluster") q)
  | .kinds => .ok (.kinds (param params "cluster"))
  | .listObjects =>
      .ok (.listObjects (param params "cluster") (query q "group") (query q "version")
        (query q "resource") (query q "namespace") (query q "continue"))
  | .counts => .ok (.counts (param params "cluster") (query q "namespace") (countedKinds q))
  | .getResource =>
      .ok (.getResource (param params "cluster") (query q "group") (param params "kind")
        (query q "namespace") (param params "name"))
  | .update => (updateRequest body).map (.update (objectRef params q))
  | .delete => .ok (.delete (objectRef params q))
  | .scale => (scaleRequest body).map (.scale (objectRef params q))
  | .restart => .ok (.restart (objectRef params q))
  | .trigger => .ok (.trigger (objectRef params q))
  | .suspend => (toggleRequest body).map (.suspend (objectRef params q))
  | .cordon => (toggleRequest body).map (.cordon (param params "cluster") (param params "name"))
  | .drain => .ok (.drain (param params "cluster") (param params "name"))
  | .inspectPod =>
      .ok (.inspectPod (param params "cluster") (param params "namespace") (param params "name"))
  | .hosts => .ok .hosts
  | .ws => .ok .subscribe
  | .wsExec => .ok (.exec (param params "id") (hostOf q))
  | .wsKube => .ok .subscribeKube
  | .wsKubeExec =>
      .ok (.execPod (param params "cluster") (param params "namespace") (param params "pod")
        (query q "container"))

end

/-! ### The table, spelled out -/

def clusterForm (rest : List Part) : List Part :=
  .literal "api" :: .literal "k8s" :: .literal "clusters" :: .param "cluster" :: rest

def resourceForm (rest : List Part) : List Part :=
  clusterForm (.literal "resources" :: .param "kind" :: .param "name" :: rest)

def containerForm (rest : List Part) : List Part :=
  .literal "api" :: .literal "containers" :: .param "id" :: rest

/-- The paths that have a handler, after the slash they start with. -/
def form : Endpoint → List Part
  | .listContainers => [.literal "api", .literal "containers"]
  | .inspectContainer => containerForm []
  | .updateEnv => containerForm [.literal "env"]
  | .listDir => containerForm [.literal "fs"]
  | .readFile => containerForm [.literal "fs", .literal "read"]
  | .writeFile => containerForm [.literal "fs", .literal "write"]
  | .listNetworks => [.literal "api", .literal "networks"]
  | .inspectNetwork => [.literal "api", .literal "networks", .param "id"]
  | .listClusters => [.literal "api", .literal "k8s", .literal "clusters"]
  | .topology => clusterForm [.literal "topology"]
  | .kinds => clusterForm [.literal "kinds"]
  | .listObjects => clusterForm [.literal "objects"]
  | .counts => clusterForm [.literal "counts"]
  | .getResource | .update | .delete => resourceForm []
  | .scale => resourceForm [.literal "scale"]
  | .restart => resourceForm [.literal "restart"]
  | .trigger => resourceForm [.literal "trigger"]
  | .suspend => resourceForm [.literal "suspend"]
  | .cordon => clusterForm [.literal "nodes", .param "name", .literal "cordon"]
  | .drain => clusterForm [.literal "nodes", .param "name", .literal "drain"]
  | .inspectPod =>
      clusterForm [.literal "namespaces", .param "namespace", .literal "pods", .param "name"]
  | .hosts => [.literal "api", .literal "hosts"]
  | .ws => [.literal "ws"]
  | .wsExec => [.literal "ws", .literal "exec", .param "id"]
  | .wsKube => [.literal "ws", .literal "k8s"]
  | .wsKubeExec =>
      [.literal "ws", .literal "k8s", .literal "exec", .param "cluster", .param "namespace",
        .param "pod"]

def method : Endpoint → String
  | .updateEnv | .writeFile | .update => "PUT"
  | .delete => "DELETE"
  | .scale | .restart | .trigger | .suspend | .cordon | .drain => "POST"
  | _ => "GET"

def endpoints : List Endpoint :=
  [.listContainers, .inspectContainer, .updateEnv, .listDir, .readFile, .writeFile, .listNetworks,
    .inspectNetwork, .listClusters, .topology, .kinds, .listObjects, .counts, .getResource, .update,
    .delete, .scale, .restart, .trigger, .suspend, .cordon, .drain, .inspectPod, .hosts, .ws,
    .wsExec, .wsKube, .wsKubeExec]

def spelled (e : Endpoint) : Route Endpoint := ⟨method e, .literal "" :: form e, e⟩

theorem initRoutes_eq : initRoutes = endpoints.map spelled := by decide +kernel

theorem mem_initRoutes (e : Endpoint) : spelled e ∈ initRoutes := by
  rw [initRoutes_eq]
  exact List.mem_map_of_mem (by cases e <;> decide)

theorem eq_of_mem_initRoutes {r : Route Endpoint} (h : r ∈ initRoutes) : r = spelled r.handler := by
  rw [initRoutes_eq] at h
  obtain ⟨e, -, rfl⟩ := List.mem_map.mp h
  rfl

theorem initRoutes_unambiguous : Unambiguous initRoutes := by
  rw [initRoutes_eq]
  decide +kernel

end Wiremap.Handler.Router

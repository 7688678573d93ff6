import Wiremap.Client.KubeNavigation
import Wiremap.Handler.Router

/-! What the client asks the server for: the URL of each request, and what is meant by it. -/
namespace Wiremap.Client.Api

open Wiremap.Library Wiremap.Library.Text
open Wiremap.Library.PercentEncoding (encode)
open Wiremap.Handler.FilesystemHandler (validatePath)
open Wiremap.Handler.Router (Body Call)
open Wiremap.Service.ActionService (ObjectRef)

structure Request where
  method : String
  url : String
  body : Option Body

def baseUrl : String := "/api"

def fetchJson (url : String) : Request := ⟨"GET", baseUrl ++ url, none⟩

def sendJson (method url : String) (body : Option Body) : Request := ⟨method, baseUrl ++ url, body⟩

def hostParam (host : String) : String := if host = "" then "" else "?host=" ++ encode host

def hostParamAppend (host : String) : String := if host = "" then "" else "&host=" ++ encode host

def searchParams (params : List (String × String)) : String := FormEncoding.serialize params

def k8sPath (cluster : String) : String := "/k8s/clusters/" ++ encode cluster

structure KubeTarget where
  cluster : String
  kind : String
  group : String
  name : String
  ns : Option String

def KubeTarget.ref (t : KubeTarget) : ObjectRef :=
  ⟨t.cluster, t.group, t.kind, t.ns.getD "", t.name⟩

def resourcePath (t : KubeTarget) (action : String) : String :=
  k8sPath t.cluster ++ "/resources/" ++ t.kind ++ "/" ++ encode t.name ++ action ++ "?" ++
    searchParams [("group", t.group), ("namespace", t.ns.getD "")]

def nodePath (cluster node action : String) : String :=
  k8sPath cluster ++ "/nodes/" ++ encode node ++ "/" ++ action

/-- The calls of the client, each with its arguments. -/
inductive Asked where
  | getHosts
  | getContainers (host : String)
  | inspectContainer (host id : String)
  | getNetworks (host : String)
  | inspectNetwork (host id : String)
  | listDir (host id path : String)
  | readFile (host id path : String)
  | writeFile (host id path content : String)
  | updateEnv (host id : String) (env : List String)
  | getClusters
  | getTopology (cluster : String) (view : KubeView)
  | getResource (t : KubeTarget)
  | getKinds (cluster : String)
  | getObjects (cluster group version resource ns continueToken : String)
  | getCounts (cluster ns : String) (kinds : List String)
  | getPod (cluster ns name : String)
  | update (t : KubeTarget) (yaml : String)
  | remove (t : KubeTarget)
  | scale (t : KubeTarget) (replicas : ℚ)
  | restart (t : KubeTarget)
  | trigger (t : KubeTarget)
  | suspend (t : KubeTarget) (value : Bool)
  | cordon (cluster node : String) (value : Bool)
  | drain (cluster node : String)
  | openShell (host id : String)
  | openPodShell (cluster ns pod container : String)

namespace Asked

def request : Asked → Request
  | getHosts => fetchJson "/hosts"
  | getContainers host => fetchJson ("/containers" ++ hostParam host)
  | inspectContainer host id => fetchJson ("/containers/" ++ id ++ hostParam host)
  | getNetworks host => fetchJson ("/networks" ++ hostParam host)
  | inspectNetwork host id => fetchJson ("/networks/" ++ id ++ hostParam host)
  | listDir host id path =>
      fetchJson ("/containers/" ++ id ++ "/fs?path=" ++ encode path ++ hostParamAppend host)
  | readFile host id path =>
      fetchJson ("/containers/" ++ id ++ "/fs/read?path=" ++ encode path ++ hostParamAppend host)
  | writeFile host id path content =>
      sendJson "PUT" ("/containers/" ++ id ++ "/fs/write" ++ hostParam host)
        (some (.file path content))
  | updateEnv host id env =>
      sendJson "PUT" ("/containers/" ++ id ++ "/env" ++ hostParam host) (some (.env env))
  | getClusters => fetchJson "/k8s/clusters"
  | getTopology cluster view =>
      fetchJson (k8sPath cluster ++ "/topology?" ++ searchParams (topologyQuery view))
  | getResource t => fetchJson (resourcePath t "")
  | getKinds cluster => fetchJson (k8sPath cluster ++ "/kinds")
  | getObjects cluster group version resource ns continueToken =>
      fetchJson (k8sPath cluster ++ "/objects?" ++ searchParams
        [("group", group), ("version", version), ("resource", resource), ("namespace", ns),
          ("continue", continueToken)])
  | getCounts cluster ns kinds =>
      fetchJson (k8sPath cluster ++ "/counts?" ++
        searchParams [("namespace", ns), ("kinds", join ',' kinds)])
  | getPod cluster ns name =>
      fetchJson (k8sPath cluster ++ "/namespaces/" ++ encode ns ++ "/pods/" ++ encode name)
  | update t yaml => sendJson "PUT" (resourcePath t "") (some (.yaml yaml))
  | remove t => sendJson "DELETE" (resourcePath t "") none
  | scale t replicas => sendJson "POST" (resourcePath t "/scale") (some (.replicas replicas))
  | restart t => sendJson "POST" (resourcePath t "/restart") none
  | trigger t => sendJson "POST" (resourcePath t "/trigger") none
  | suspend t value => sendJson "POST" (resourcePath t "/suspend") (some (.value value))
  | cordon cluster node value =>
      sendJson "POST" (nodePath cluster node "cordon") (some (.value value))
  | drain cluster node => sendJson "POST" (nodePath cluster node "drain") none
  | openShell host id => ⟨"GET", "/ws/exec/" ++ id ++ hostParam host, none⟩
  | openPodShell cluster ns pod container =>
      ⟨"GET", "/ws/k8s/exec/" ++ join '/' ([cluster, ns, pod].map encode) ++ "?container=" ++
        encode container, none⟩

def call : Asked → Call
  | getHosts => .hosts
  | getContainers host => .listContainers host
  | inspectContainer host id => .inspectContainer host id
  | getNetworks host => .listNetworks host
  | inspectNetwork host id => .inspectNetwork host id
  | listDir host id path => .files (.listDir ⟨host, id, path⟩)
  | readFile host id path => .files (.readFile ⟨host, id, path⟩)
  | writeFile host id path content => .files (.writeFile ⟨host, id, path⟩ content)
  | updateEnv host id env => .updateEnv host id env
  | getClusters => .listClusters
  | getTopology cluster view => .topology cluster (topologyQuery view)
  | getResource t => .getResource t.cluster t.group t.kind (t.ns.getD "") t.name
  | getKinds cluster => .kinds cluster
  | getObjects cluster group version resource ns continueToken =>
      .listObjects cluster group version resource ns continueToken
  | getCounts cluster ns kinds => .counts cluster ns kinds
  | getPod cluster ns name => .inspectPod cluster ns name
  | update t yaml => .update t.ref yaml
  | remove t => .delete t.ref
  | scale t replicas => .scale t.ref replicas.num
  | restart t => .restart t.ref
  | trigger t => .trigger t.ref
  | suspend t value => .suspend t.ref value
  | cordon cluster node value => .cordon cluster node value
  | drain cluster node => .drain cluster node
  | openShell host id => .exec id host
  | openPodShell cluster ns pod container => .execPod cluster ns pod container

def pathRefusal (path : String) : Option AppError :=
  match validatePath path with
  | .ok () => none
  | .error err => some err

/-- The number is one that fits 32 bits. -/
def IsInt32 (n : ℚ) : Prop := n.den = 1 ∧ -2147483648 ≤ n.num ∧ n.num < 2147483648

instance (n : ℚ) : Decidable (IsInt32 n) := inferInstanceAs (Decidable (_ ∧ _ ∧ _))

def refusal : Asked → Option AppError
  | listDir _ _ path => pathRefusal path
  | readFile _ _ path =>
      if path = "" then some (.badRequest "path is required") else pathRefusal path
  | writeFile _ _ path _ =>
      if path = "" then some (.badRequest "path and content are required") else pathRefusal path
  | update _ yaml => if yaml = "" then some (.badRequest "yaml is required") else none
  | scale _ replicas =>
      if IsInt32 replicas then none else some (.badRequest "replicas is required")
  | _ => none

def answer (a : Asked) : Except AppError Call :=
  match a.refusal with
  | some err => .error err
  | none => .ok a.call

def encoded : Asked → List String
  | getTopology cluster _ | getKinds cluster | getObjects cluster _ _ _ _ _
  | getCounts cluster _ _ => [cluster]
  | getResource t | update t _ | remove t | scale t _ | restart t | trigger t | suspend t _ =>
      [t.cluster, t.name]
  | getPod cluster ns name => [cluster, ns, name]
  | cordon cluster node _ | drain cluster node => [cluster, node]
  | openPodShell cluster ns pod _ => [cluster, ns, pod]
  | _ => []

def raw : Asked → List String
  | inspectContainer _ id | inspectNetwork _ id | listDir _ id _ | readFile _ id _
  | writeFile _ id _ _ | updateEnv _ id _ | openShell _ id => [id]
  | getResource t | update t _ | remove t | scale t _ | restart t | trigger t | suspend t _ =>
      [t.kind]
  | _ => []

def joined : Asked → List String
  | getCounts _ _ kinds => kinds
  | _ => []

end Asked

/-- A name that is one segment of a path, and stays one. -/
structure Segment (name : String) : Prop where
  ne_empty : name ≠ ""
  free : Free '/' name
  ne_dot : name ≠ "."
  ne_dots : name ≠ ".."

def Plain (name : String) : Prop := encode name = name

instance (name : String) : Decidable (Segment name) :=
  decidable_of_iff (name ≠ "" ∧ Free '/' name ∧ name ≠ "." ∧ name ≠ "..")
    ⟨fun ⟨h, h', h'', h'''⟩ => ⟨h, h', h'', h'''⟩, fun ⟨h, h', h'', h'''⟩ => ⟨h, h', h'', h'''⟩⟩

instance (name : String) : Decidable (Plain name) := inferInstanceAs (Decidable (_ = _))

structure Asked.Addressable (a : Asked) : Prop where
  encoded : ∀ name ∈ a.encoded, Segment name
  raw : ∀ name ∈ a.raw, Segment name ∧ Plain name
  joined : ∀ name ∈ a.joined, name ≠ "" ∧ Free ',' name

end Wiremap.Client.Api

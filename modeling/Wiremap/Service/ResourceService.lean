import Wiremap.Topology.ObjectGraph

/-! One object as the resource panel shows it: its manifest, its events and what can
be done to it. -/
namespace Wiremap.Service.ResourceService

open Wiremap.Kube Wiremap.Library Wiremap.Topology

structure KubeActions where
  edit : Bool := true
  delete : Bool := true
  restart : Bool := false
  trigger : Bool := false
  replicas : Option Int := none
  suspended : Option Bool := none
  unschedulable : Option Bool := none
  deriving DecidableEq

def restartableKinds : List String := ["apps/Deployment", "apps/StatefulSet", "apps/DaemonSet"]

def toInt32 (n : Int) : Int := (n + 2147483648) % 4294967296 - 2147483648

def actionsFor (obj : Object) (group kind : String) : KubeActions :=
  let key := group ++ "/" ++ kind
  let actions : KubeActions :=
    { replicas := (obj.nestedInt64 ["spec", "replicas"]).map toInt32
      restart := restartableKinds.contains key }
  match key with
  | "batch/CronJob" =>
      { actions with trigger := true, suspended := some (obj.nestedBool ["spec", "suspend"]) }
  | "/Node" => { actions with unschedulable := some (obj.nestedBool ["spec", "unschedulable"]) }
  | _ => actions

structure KubeEvent where
  type : String
  reason : String
  message : String
  count : Int
  lastSeen : String
  object : String

structure KubeResource where
  kind : String
  group : String
  name : String
  ns : String
  yaml : String
  events : List KubeEvent
  actions : KubeActions

/-- What is outside: the JSON of a built-in kind, the encoder, which is given maps with
their keys in order, and the events that name an object. -/
structure Api where
  encode : Fetched → Object
  marshal : Json → Except String String
  events : String → String → String → Except AppError (List KubeEvent)

def Api.object (api : Api) : Fetched → Object
  | .unstructured u => u.object
  | fetched => api.encode fetched

def Api.toYAML (api : Api) (obj : Object) : Except AppError String :=
  match api.marshal (Json.ofObject (obj.removeNestedField ["metadata", "managedFields"])).canon with
  | .ok out => .ok out
  | .error err => .error (.internal s!"failed to encode yaml: {err}")

def get (api : Api) (pool : Except AppError Cluster) (group kind ns name : String) :
    Except AppError KubeResource := do
  let c ← pool
  let fetched ← getObject c group kind ns name
  let obj := api.object fetched
  let actions := actionsFor obj group kind
  let manifest ← api.toYAML obj
  let events ← api.events kind ns name
  return ⟨kind, group, name, ns, manifest, events, actions⟩

variable {obj obj' : Object} {excluded : List (List String)}

/-- What can be done to an object is told by its spec. -/
theorem actionsFor_congr (h : obj.SameBut excluded obj')
    (hspec : ∀ field, ∀ p ∈ excluded, ¬ p <+: ["spec", field]) (group kind : String) :
    actionsFor obj group kind = actionsFor obj' group kind := by
  have hreplicas : obj.nestedInt64 ["spec", "replicas"] = obj'.nestedInt64 ["spec", "replicas"] :=
    h.read (hspec _) fun _ => rfl
  have hbool : ∀ field, obj.nestedBool ["spec", field] = obj'.nestedBool ["spec", field] := by
    intro field
    unfold Object.nestedBool
    rw [h.read (hspec field) fun _ => rfl]
  simp only [actionsFor, hreplicas, hbool]

theorem Api.toYAML_congr (api : Api) (h : obj.SameBut [["metadata", "managedFields"]] obj') :
    api.toYAML obj = api.toYAML obj' := by
  have hcanon : (Json.ofObject (obj.removeNestedField ["metadata", "managedFields"])).canon =
      (Json.ofObject (obj'.removeNestedField ["metadata", "managedFields"])).canon := by
    refine Json.canon_congr rfl fun path hpath => ?_
    rw [Object.shapeAt_object_ofObject, Object.shapeAt_object_ofObject]
    exact h.remove (by simp) path hpath
  rw [Api.toYAML, hcanon, ← Api.toYAML]

end Wiremap.Service.ResourceService

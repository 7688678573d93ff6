import Wiremap.Topology.NamespacePolicies

/-! The ServiceAccounts workloads run as, and what is bound to them. -/
namespace Wiremap.Topology

open Wiremap.Kube Wiremap.Library

def defaultServiceAccount : String := "default"

def accountOf (o : PodTemplateOwner) : String :=
  if o.spec.serviceAccountName = "" then defaultServiceAccount else o.spec.serviceAccountName

def accountUsers (owners : NamespaceOwners) : StringMap (List String) :=
  owners.owners.foldl (fun usedBy o =>
    usedBy.insert (accountOf o) ((usedBy.lookup (accountOf o)).getD [] ++ [o.node.id])) ∅

structure AccountBinding where
  kind : String
  name : String
  ns : String
  roleRef : RoleRef
  accounts : List String

/-- The accounts of namespace `ns` among the subjects of a binding. -/
def matchAccounts (ns : String) (usedBy : StringMap (List String)) (subjects : List Subject)
    (bindingNamespace : String) : List String :=
  (subjects.filter fun sub =>
    sub.kind = "ServiceAccount" &&
      (if sub.ns = "" then bindingNamespace else sub.ns) = ns &&
      (usedBy.lookup sub.name).isSome).map (·.name)

def roleBindingFor (ns : String) (usedBy : StringMap (List String)) (rb : RoleBinding) :
    Option AccountBinding :=
  let names := matchAccounts ns usedBy rb.subjects ns
  if names.length > 0 then some ⟨"RoleBinding", rb.name, ns, rb.roleRef, names⟩ else none

def clusterRoleBindingFor (ns : String) (usedBy : StringMap (List String))
    (crb : ClusterRoleBinding) : Option AccountBinding :=
  let names := matchAccounts ns usedBy crb.subjects ""
  if names.length > 0 then some ⟨"ClusterRoleBinding", crb.name, "", crb.roleRef, names⟩ else none

/-- A list that is refused ends the search with what was found before it. -/
def bindingsFor (c : Cluster) (ns : String) (usedBy : StringMap (List String)) :
    Except AppError (List AccountBinding) :=
  match c.list "RoleBinding" ns c.roleBindings with
  | .error err => if isOptional err then .ok [] else .error (wrapError err "list rolebindings")
  | .ok roleBindings =>
      let result := roleBindings.filterMap (roleBindingFor ns usedBy)
      match c.listAll "ClusterRoleBinding" c.clusterRoleBindings with
      | .error err =>
          if isOptional err then .ok result else .error (wrapError err "list clusterrolebindings")
      | .ok clusterBindings =>
          .ok (result ++ clusterBindings.filterMap (clusterRoleBindingFor ns usedBy))

/-- The number of rules of each Role of the namespace and each ClusterRole, by
graph node ID; every namespace for "". -/
def roleRules (c : Cluster) (ns : String) : StringMap Nat :=
  let roles := (c.list "Role" ns c.roles).toOption.getD []
  let clusterRoles := (c.listAll "ClusterRole" c.clusterRoles).toOption.getD []
  let counts := roles.foldl (fun counts r => counts.insert (kubeNodeID "Role" r.ns r.name) r.rules)
    (∅ : StringMap Nat)
  clusterRoles.foldl (fun counts r => counts.insert (kubeNodeID "ClusterRole" "" r.name) r.rules)
    counts

def accountNode (ns name : String) (users : List String) : GraphNode where
  id := kubeNodeID "ServiceAccount" ns name
  kind := "ServiceAccount"
  name := name
  ns := ns
  status := .healthy
  weight := 1
  summary := s!"used by {users.length}"

def addAccount (ns : String) (usedBy : StringMap (List String)) (g : Graph) (name : String) :
    Graph :=
  let id := kubeNodeID "ServiceAccount" ns name
  if g.hasNode id then g
  else
    let users := (usedBy.lookup name).getD []
    users.foldl (fun g owner => g.addEdge owner id "runs-as") (g.addNode (accountNode ns name users))

def bindAccount (ns : String) (usedBy : StringMap (List String)) (bindingID : String) (g : Graph)
    (account : String) : Graph :=
  (addAccount ns usedBy g account).addEdge bindingID (kubeNodeID "ServiceAccount" ns account) "binds"

/-- A role is drawn by its name alone, with its number of rules where known. -/
def roleNode (roleRef : RoleRef) (ns : String) (rules : StringMap Nat) : GraphNode :=
  let roleNamespace := if roleRef.kind = "ClusterRole" then "" else ns
  let id := kubeNodeID roleRef.kind roleNamespace roleRef.name
  { id := id
    kind := roleRef.kind
    name := roleRef.name
    ns := roleNamespace
    status := .healthy
    summary := match rules.lookup id with
      | some count => s!"{count} rules"
      | none => ""
    weight := 1 }

def bindingNode (b : AccountBinding) : GraphNode where
  id := kubeNodeID b.kind b.ns b.name
  kind := b.kind
  name := b.name
  ns := b.ns
  status := .healthy
  weight := 1
  summary := b.roleRef.kind ++ " " ++ b.roleRef.name

def addBinding (ns : String) (usedBy : StringMap (List String)) (rules : StringMap Nat) (g : Graph)
    (b : AccountBinding) : Graph :=
  let binding := bindingNode b
  let g := b.accounts.foldl (bindAccount ns usedBy binding.id) (g.addNode binding)
  let role := roleNode b.roleRef ns rules
  (g.addNode role).addEdge binding.id role.id "grants"

def addServiceAccounts (c : Cluster) (order : RangeOrder) (ns : String) (owners : NamespaceOwners)
    (g : Graph) : Except AppError Graph := do
  let usedBy := accountUsers owners
  if usedBy.entries.length = 0 then return g
  let bindings ← bindingsFor c ns usedBy
  let named := (order.accounts usedBy.keys).filter fun name => name ≠ defaultServiceAccount
  let g := named.foldl (addAccount ns usedBy) g
  return bindings.foldl (addBinding ns usedBy (roleRules c ns)) g

end Wiremap.Topology

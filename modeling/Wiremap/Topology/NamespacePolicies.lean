import Wiremap.Topology.NamespaceGraph

/-! What governs the workloads of a namespace: autoscalers, disruption budgets,
network policies, quotas and gateway routes.  Each family is optional: one that
cannot be read is left out. -/
namespace Wiremap.Topology

open Wiremap.Kube Wiremap.Library

/-- Add a family of objects, unless the user may not read it or the cluster does
not serve it. -/
def optionalStep (read : Except ApiError α) (action : String) (g : Graph)
    (step : α → Except AppError Graph) : Except AppError Graph :=
  match read with
  | .ok value => step value
  | .error err => if isOptional err then .ok g else .error (wrapError err action)

theorem optionalStep_cases {read : Except ApiError α} {action : String} {g g' : Graph}
    {step : α → Except AppError Graph} (h : optionalStep read action g step = .ok g') :
    (∃ value, read = .ok value ∧ step value = .ok g') ∨ ∃ err, read = .error err ∧ g = g' := by
  unfold optionalStep at h
  split at h
  · exact Or.inl ⟨_, rfl, h⟩
  · split at h
    · exact Or.inr ⟨_, rfl, Except.ok.inj h⟩
    · cases h

def autoscalerStatus (hpa : HorizontalPodAutoscaler) : Status :=
  let failing := hpa.conditions.filter fun cond => cond.status = "False"
  if failing.any fun cond => cond.type = "AbleToScale" then .error
  else if failing.any fun cond => cond.type = "ScalingActive" then .warning
  else .healthy

def autoscalerTargets (hpa : HorizontalPodAutoscaler) : String :=
  ", ".intercalate (hpa.metrics.map fun m =>
    match m.resource with
    | some (name, some utilization) => s!"{name} {utilization}%"
    | _ => m.type)

def autoscalerNode (ns : String) (hpa : HorizontalPodAutoscaler) : GraphNode :=
  let minReplicas := hpa.minReplicas.getD 1
  { id := kubeNodeID "HorizontalPodAutoscaler" ns hpa.name
    kind := "HorizontalPodAutoscaler"
    name := hpa.name
    ns := ns
    status := autoscalerStatus hpa
    summary := s!"{minReplicas}–{hpa.maxReplicas} replicas · now {hpa.currentReplicas}"
    weight := 1
    details := [⟨"Targets", autoscalerTargets hpa⟩].toAList }

def addAutoscaler (ns : String) (g : Graph) (hpa : HorizontalPodAutoscaler) : Graph :=
  let node := autoscalerNode ns hpa
  let g := g.addNode node
  let target := kubeNodeID hpa.scaleTargetRef.kind ns hpa.scaleTargetRef.name
  if g.hasNode target then g.addEdge node.id target "scales" else g

def addAutoscalers (c : Cluster) (ns : String) (g : Graph) : Except AppError Graph :=
  optionalStep (c.list "HorizontalPodAutoscaler" ns c.autoscalers) "list horizontalpodautoscalers" g
    fun hpas => return hpas.foldl (addAutoscaler ns) g

def matchingOwners (owners : NamespaceOwners) (selector : Selector) : List PodTemplateOwner :=
  owners.owners.filter fun o => selector.matches o.labels

def disruptionRule (pdb : PodDisruptionBudget) : String :=
  match pdb.minAvailable, pdb.maxUnavailable with
  | some n, _ => "min available " ++ n
  | none, some n => "max unavailable " ++ n
  | none, none => ""

def disruptionBudgetNode (ns : String) (pdb : PodDisruptionBudget) : GraphNode where
  id := kubeNodeID "PodDisruptionBudget" ns pdb.name
  kind := "PodDisruptionBudget"
  name := pdb.name
  ns := ns
  status := if pdb.expectedPods > 0 && pdb.disruptionsAllowed = 0 then .warning else .healthy
  weight := 1
  summary := s!"{disruptionRule pdb} · {pdb.disruptionsAllowed} disruptions allowed"

def addDisruptionBudget (ns : String) (owners : NamespaceOwners) (g : Graph)
    (pdb : PodDisruptionBudget) : Graph :=
  let node := disruptionBudgetNode ns pdb
  let g := g.addNode node
  match labelSelectorAsSelector pdb.selector with
  | none => g
  | some selector =>
      (matchingOwners owners selector).foldl (fun g o => g.addEdge node.id o.node.id "protects") g

def addDisruptionBudgets (c : Cluster) (ns : String) (owners : NamespaceOwners) (g : Graph) :
    Except AppError Graph :=
  optionalStep (c.list "PodDisruptionBudget" ns c.disruptionBudgets) "list poddisruptionbudgets" g
    fun pdbs => return pdbs.foldl (addDisruptionBudget ns owners) g

/-- A peer in another namespace or outside the cluster is not drawn at this level. -/
def NetworkPolicyPeer.external (peer : NetworkPolicyPeer) : Bool :=
  peer.podSelector.isNone || peer.namespaceSelector.isSome

def peerOwners (owners : NamespaceOwners) (peers : List NetworkPolicyPeer) :
    List PodTemplateOwner :=
  peers.flatMap fun peer =>
    if NetworkPolicyPeer.external peer then []
    else
      match labelSelectorAsSelector peer.podSelector with
      | some selector => matchingOwners owners selector
      | none => []

def linkPolicy (id : String) (sources destinations : List PodTemplateOwner) (g : Graph)
    (target : PodTemplateOwner) : Graph :=
  let g := g.addEdge id target.node.id "applies"
  let g := sources.foldl (fun g src => g.addEdge src.node.id target.node.id "allows") g
  destinations.foldl (fun g dst => g.addEdge target.node.id dst.node.id "allows") g

def networkPolicyNode (ns : String) (policy : NetworkPolicy) (targets : List PodTemplateOwner) :
    GraphNode :=
  let external := (policy.ingress ++ policy.egress).flatten.countP NetworkPolicyPeer.external
  let types := "+".intercalate policy.policyTypes
  { id := kubeNodeID "NetworkPolicy" ns policy.name
    kind := "NetworkPolicy"
    name := policy.name
    ns := ns
    status := .healthy
    weight := 1
    summary := s!"{types} · {targets.length} targets"
    details := [⟨"External peers", s!"{external}"⟩].toAList }

def addNetworkPolicy (ns : String) (owners : NamespaceOwners) (g : Graph)
    (policy : NetworkPolicy) : Graph :=
  match labelSelectorAsSelector (some policy.podSelector) with
  | none => g
  | some selector =>
      let targets := matchingOwners owners selector
      let sources := policy.ingress.flatMap (peerOwners owners)
      let destinations := policy.egress.flatMap (peerOwners owners)
      let node := networkPolicyNode ns policy targets
      targets.foldl (linkPolicy node.id sources destinations) (g.addNode node)

def addNetworkPolicies (c : Cluster) (ns : String) (owners : NamespaceOwners) (g : Graph) :
    Except AppError Graph :=
  optionalStep (c.list "NetworkPolicy" ns c.networkPolicies) "list networkpolicies" g
    fun policies => return policies.foldl (addNetworkPolicy ns owners) g

/-- Usage against one hard limit, as the line to print and the rating so far. -/
def rateLimit (q : ResourceQuota) (acc : Status × List String) (name : String) :
    Status × List String :=
  let zero : Quantity := ⟨"0", 0⟩
  let hard := (q.hard.lookup name).getD zero
  let used := (q.used.lookup name).getD zero
  let parts := acc.2 ++ [s!"{name} {used.text}/{hard.text}"]
  if hard.value = 0 then (acc.1, parts)
  else if used.value / hard.value ≥ 1 then (.error, parts)
  else if used.value / hard.value ≥ 9 / 10 then (worstStatus acc.1 .warning, parts)
  else (acc.1, parts)

def quotaStatus (q : ResourceQuota) : Status × String :=
  let names := q.hard.keys.mergeSort fun a b => decide (a ≤ b)
  let (status, parts) := names.foldl (rateLimit q) (.healthy, [])
  (status, " · ".intercalate parts)

def quotaNode (ns : String) (q : ResourceQuota) : GraphNode where
  id := kubeNodeID "ResourceQuota" ns q.name
  kind := "ResourceQuota"
  name := q.name
  ns := ns
  status := (quotaStatus q).1
  summary := (quotaStatus q).2
  weight := 1

def limitRangeNode (ns : String) (lr : LimitRange) : GraphNode where
  id := kubeNodeID "LimitRange" ns lr.name
  kind := "LimitRange"
  name := lr.name
  ns := ns
  status := .healthy
  summary := s!"{lr.limits} limits"
  weight := 1

def addQuotas (c : Cluster) (ns : String) (g : Graph) : Except AppError Graph :=
  optionalStep (c.list "ResourceQuota" ns c.resourceQuotas) "list resourcequotas" g fun quotas =>
    let g := quotas.foldl (fun g q => g.addNode (quotaNode ns q)) g
    optionalStep (c.list "LimitRange" ns c.limitRanges) "list limitranges" g fun limits =>
      return limits.foldl (fun g lr => g.addNode (limitRangeNode ns lr)) g

end Wiremap.Topology

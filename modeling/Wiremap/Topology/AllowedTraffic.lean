import Wiremap.Topology.Linking
import Wiremap.Topology.Reads

/-! The traffic that network policies allow between the owners of a namespace, against
the "allows" edges drawn.  A policy counts for a direction if its types name it. -/
namespace Wiremap.Topology

open Wiremap.Kube Wiremap.Library
open Wiremap.Topology.Graph (Links)

variable {c : Cluster} {order : RangeOrder} {ns : String} {owners : NamespaceOwners}
variable {g g' : Graph}

/-- The selector parses and matches. -/
def PodsMatch (selector : LabelSelector) (labels : StringMap String) : Prop :=
  ∃ parsed, labelSelectorAsSelector (some selector) = some parsed ∧ parsed.matches labels

/-- A peer of the policy's own namespace, given by labels. -/
def PeerMatches (peer : NetworkPolicyPeer) (labels : StringMap String) : Prop :=
  peer.namespaceSelector = none ∧
    ∃ selector, peer.podSelector = some selector ∧ PodsMatch selector labels

/-- An ingress rule names the first as a source for the second. -/
def IngressRule (policy : NetworkPolicy) (a b : PodTemplateOwner) : Prop :=
  PodsMatch policy.podSelector b.labels ∧
    ∃ peers ∈ policy.ingress, ∃ peer ∈ peers, PeerMatches peer a.labels

/-- An egress rule names the second as a destination for the first. -/
def EgressRule (policy : NetworkPolicy) (a b : PodTemplateOwner) : Prop :=
  PodsMatch policy.podSelector a.labels ∧
    ∃ peers ∈ policy.egress, ∃ peer ∈ peers, PeerMatches peer b.labels

def Permits (policy : NetworkPolicy) (a b : PodTemplateOwner) : Prop :=
  "Ingress" ∈ policy.policyTypes ∧ IngressRule policy a b ∨
    "Egress" ∈ policy.policyTypes ∧ EgressRule policy a b

/-- A rule of a direction that the policy is not for. -/
def Uncounted (policy : NetworkPolicy) (a b : PodTemplateOwner) : Prop :=
  "Ingress" ∉ policy.policyTypes ∧ IngressRule policy a b ∨
    "Egress" ∉ policy.policyTypes ∧ EgressRule policy a b

def SomePolicy (c : Cluster) (ns : String) (owners : NamespaceOwners)
    (R : NetworkPolicy → PodTemplateOwner → PodTemplateOwner → Prop) (source target : String) :
    Prop :=
  ∃ policy ∈ answered (c.list "NetworkPolicy" ns c.networkPolicies),
    ∃ a ∈ owners.owners, ∃ b ∈ owners.owners,
      a.node.id = source ∧ b.node.id = target ∧ R policy a b

theorem rule_iff {policy : NetworkPolicy} {a b : PodTemplateOwner} :
    IngressRule policy a b ∨ EgressRule policy a b ↔ Permits policy a b ∨ Uncounted policy a b := by
  unfold Permits Uncounted
  tauto

/-! ### Edges -/

theorem mem_peerOwners {peers : List NetworkPolicyPeer} {o : PodTemplateOwner} :
    o ∈ peerOwners owners peers ↔ o ∈ owners.owners ∧ ∃ peer ∈ peers, PeerMatches peer o.labels := by
  have hgather : (∃ peer ∈ peers, o ∈ owners.owners ∧ PeerMatches peer o.labels) ↔
      o ∈ owners.owners ∧ ∃ peer ∈ peers, PeerMatches peer o.labels := by
    constructor
    · rintro ⟨peer, hpeer, ho, hmatch⟩
      exact ⟨ho, peer, hpeer, hmatch⟩
    · rintro ⟨ho, peer, hpeer, hmatch⟩
      exact ⟨peer, hpeer, ho, hmatch⟩
  unfold peerOwners
  rw [List.mem_flatMap, ← hgather]
  refine exists_congr fun peer => and_congr_right fun _ => ?_
  unfold NetworkPolicyPeer.external PeerMatches PodsMatch
  cases peer.podSelector with
  | none => simp
  | some selector =>
      cases peer.namespaceSelector with
      | some namespaces => simp
      | none =>
          cases hparsed : labelSelectorAsSelector (some selector) with
          | none => simp [hparsed]
          | some parsed => simp [hparsed, mem_matchingOwners]

theorem mem_rules {rules : List (List NetworkPolicyPeer)} {o : PodTemplateOwner} :
    o ∈ rules.flatMap (peerOwners owners) ↔
      o ∈ owners.owners ∧ ∃ peers ∈ rules, ∃ peer ∈ peers, PeerMatches peer o.labels := by
  simp only [List.mem_flatMap, mem_peerOwners]
  constructor
  · rintro ⟨peers, hpeers, ho, hpeer⟩
    exact ⟨ho, peers, hpeers, hpeer⟩
  · rintro ⟨ho, peers, hpeers, hpeer⟩
    exact ⟨peers, hpeers, ho, hpeer⟩

theorem allows_linkPolicy {id source target : String} {sources destinations : List PodTemplateOwner}
    (g : Graph) (o : PodTemplateOwner) :
    ⟨source, target, "allows"⟩ ∈ (linkPolicy id sources destinations g o).edges.items ↔
      ⟨source, target, "allows"⟩ ∈ g.edges.items ∨
        (∃ src ∈ sources, src.node.id = source ∧ o.node.id = target) ∨
        ∃ dst ∈ destinations, o.node.id = source ∧ dst.node.id = target := by
  have happlies : ⟨source, target, "allows"⟩ ∈
      (g.addEdge id o.node.id "applies").edges.items ↔ ⟨source, target, "allows"⟩ ∈ g.edges.items := by
    simp
  unfold linkPolicy
  dsimp only
  rw [Links.mem_foldl (P := fun dst => o.node.id = source ∧ dst.node.id = target) ?_,
    Links.mem_foldl (P := fun src => src.node.id = source ∧ o.node.id = target) ?_, happlies,
    or_assoc]
  · intro g src
    simp [eq_comm]
  · intro g dst
    simp [eq_comm]

theorem allows_addNetworkPolicy {source target : String} (g : Graph) (policy : NetworkPolicy) :
    ⟨source, target, "allows"⟩ ∈ (addNetworkPolicy ns owners g policy).edges.items ↔
      ⟨source, target, "allows"⟩ ∈ g.edges.items ∨
        ∃ a ∈ owners.owners, ∃ b ∈ owners.owners, a.node.id = source ∧ b.node.id = target ∧
          (IngressRule policy a b ∨ EgressRule policy a b) := by
  unfold addNetworkPolicy IngressRule EgressRule PodsMatch
  cases labelSelectorAsSelector (some policy.podSelector) with
  | none => simp
  | some selector =>
      dsimp only
      rw [Links.mem_foldl fun g o => allows_linkPolicy g o, Graph.edges_addNode]
      refine or_congr_right ?_
      simp only [mem_rules, mem_matchingOwners, Option.some.injEq, exists_eq_left']
      constructor
      · rintro ⟨o, ⟨ho, hmatch⟩, ⟨src, ⟨hsrc, hrule⟩, hsource, htarget⟩ |
          ⟨dst, ⟨hdst, hrule⟩, hsource, htarget⟩⟩
        · exact ⟨src, hsrc, o, ho, hsource, htarget, .inl ⟨hmatch, hrule⟩⟩
        · exact ⟨o, ho, dst, hdst, hsource, htarget, .inr ⟨hmatch, hrule⟩⟩
      · rintro ⟨a, ha, b, hb, hsource, htarget, ⟨hmatch, hrule⟩ | ⟨hmatch, hrule⟩⟩
        · exact ⟨b, ⟨hb, hmatch⟩, .inl ⟨a, ⟨ha, hrule⟩, hsource, htarget⟩⟩
        · exact ⟨a, ⟨ha, hmatch⟩, .inr ⟨b, ⟨hb, hrule⟩, hsource, htarget⟩⟩

/-- Every rule of a policy that can be read draws its edges, whatever the policy's types. -/
theorem allows_of_level (howners : listPodOwners c ns = .ok owners)
    (h : namespaceLevel c order ns = .ok g) (source target : String) :
    ⟨source, target, "allows"⟩ ∈ g.edges.items ↔
      SomePolicy c ns owners Permits source target ∨
        SomePolicy c ns owners Uncounted source target := by
  obtain ⟨g₁, g₂, -, hrun, hedges⟩ := edges_of_step order 6 rfl howners h
  obtain ⟨hfresh, hlevel⟩ := hedges ⟨source, target, "allows"⟩
    (show "allows" ∉ (namespaceStepKinds.take 6).flatten by decide)
    (show "allows" ∉ (namespaceStepKinds.drop 7).flatten by decide)
  have hboth : SomePolicy c ns owners Permits source target ∨
      SomePolicy c ns owners Uncounted source target ↔
        SomePolicy c ns owners (fun policy a b => IngressRule policy a b ∨ EgressRule policy a b)
          source target := by
    unfold SomePolicy
    simp only [rule_iff, and_or_left, exists_or]
  rw [hlevel, hboth]
  unfold SomePolicy
  rcases optionalStep_cases hrun with ⟨policies, hlist, hpolicies⟩ | ⟨err, hlist, rfl⟩
  · obtain rfl := Fallible.pure_eq_ok.mp hpolicies
    rw [Links.mem_foldl fun g policy => allows_addNetworkPolicy g policy, hlist, answered_ok]
    exact or_iff_right hfresh
  · rw [hlist]
    refine iff_of_false hfresh ?_
    rintro ⟨policy, hpolicy, -⟩
    cases hpolicy

/-- The edges are the traffic that policies permit exactly where whatever a rule of an
uncounted direction relates is permitted by some policy as well. -/
theorem allows_lawful_iff (howners : listPodOwners c ns = .ok owners)
    (h : namespaceLevel c order ns = .ok g) :
    (∀ source target, ⟨source, target, "allows"⟩ ∈ g.edges.items ↔
        SomePolicy c ns owners Permits source target) ↔
      ∀ source target, SomePolicy c ns owners Uncounted source target →
        SomePolicy c ns owners Permits source target := by
  simp only [allows_of_level howners h, or_iff_left_iff_imp]

def labelledPod (app : String) : Pod where
  name := app
  ns := "shop"
  labels := [⟨"app", app⟩].toAList

def appSelector (app : String) : LabelSelector where
  matchLabels := [⟨"app", app⟩].toAList

def policedShop (policy : NetworkPolicy) : Cluster where
  pods := (KeyedList.empty.add (labelledPod "web")).add (labelledPod "db")
  networkPolicies := KeyedList.empty.add
    { policy with name := "web", ns := "shop", podSelector := appSelector "web" }

def fromDb : NetworkPolicy where
  ingress := [[{ podSelector := some (appSelector "db") }]]
  policyTypes := ["Ingress"]

theorem allows_lawful_fromDb :
    ∃ owners g, listPodOwners (policedShop fromDb) "shop" = .ok owners ∧
      namespaceLevel (policedShop fromDb) default "shop" = .ok g ∧
      ⟨"Pod/shop/db", "Pod/shop/web", "allows"⟩ ∈ g.edges.items ∧
      ∀ source target, ⟨source, target, "allows"⟩ ∈ g.edges.items ↔
        SomePolicy (policedShop fromDb) "shop" owners Permits source target := by
  refine ⟨_, _, rfl, rfl, by decide, (allows_lawful_iff rfl rfl).mpr ?_⟩
  rintro source target ⟨policy, hpolicy, a, -, b, -, -, -, huncounted⟩
  rw [List.mem_singleton.mp hpolicy] at huncounted
  rcases huncounted with ⟨htypes, -⟩ | ⟨-, -, peers, hpeers, -⟩
  · exact absurd (List.mem_singleton_self _) htypes
  · cases hpeers

/-- A policy for ingress that has an egress rule, which does not count. -/
def toDb : NetworkPolicy where
  egress := [[{ podSelector := some (appSelector "db") }]]
  policyTypes := ["Ingress"]

theorem toDb_drawn :
    ∃ owners g, listPodOwners (policedShop toDb) "shop" = .ok owners ∧
      namespaceLevel (policedShop toDb) default "shop" = .ok g ∧
      ⟨"Pod/shop/web", "Pod/shop/db", "allows"⟩ ∈ g.edges.items ∧
      ¬SomePolicy (policedShop toDb) "shop" owners Permits "Pod/shop/web" "Pod/shop/db" := by
  refine ⟨_, _, rfl, rfl, by decide, ?_⟩
  rintro ⟨policy, hpolicy, a, -, b, -, -, -, hpermits⟩
  rw [List.mem_singleton.mp hpolicy] at hpermits
  rcases hpermits with ⟨-, -, peers, hpeers, -⟩ | ⟨htypes, -⟩
  · cases hpeers
  · exact absurd (List.mem_singleton.mp htypes) (by decide)

end Wiremap.Topology

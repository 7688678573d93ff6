import Wiremap.Topology.PodTallies
import Wiremap.Topology.RangeLinks
import Wiremap.Topology.References

/-! The claims that a StatefulSet's templates make, as the StatefulSet controller
names them, and those that the namespace level links to the set. -/
namespace Wiremap.Topology

open Wiremap.Kube Wiremap.Library
open Wiremap.Topology.Graph (Links)

variable {c : Cluster} {order : RangeOrder} {ns : String} {owners : NamespaceOwners} {g : Graph}

def setID (ns : String) (st : StatefulSet) : String := kubeNodeID "StatefulSet" ns st.name

/-- A claim is named after a template, the set and the ordinal of its pod. -/
def TemplateClaim (st : StatefulSet) (claim : String) : Prop :=
  ∃ template ∈ st.volumeClaimTemplates, ∃ ordinal : Nat,
    claim = template ++ "-" ++ st.name ++ "-" ++ toString ordinal

/-- The name begins as that of a claim of the set, whatever follows. -/
def TemplatePrefixed (st : StatefulSet) (claim : String) : Prop :=
  ∃ template ∈ st.volumeClaimTemplates, Text.hasPrefix claim (template ++ "-" ++ st.name ++ "-")

def SpecClaim (ns : String) (owners : NamespaceOwners) (st : StatefulSet) (claim : String) : Prop :=
  ∃ o ∈ owners.owners, o.node.id = setID ns st ∧
    ⟨"PersistentVolumeClaim", claim⟩ ∈ podSpecRefs o.spec

def LinkedClaim (ns : String) (g : Graph) (st : StatefulSet) (claim : String) : Prop :=
  ⟨setID ns st, kubeNodeID "PersistentVolumeClaim" ns claim, "uses"⟩ ∈ g.edges.items

def Unspecified (c : Cluster) (ns : String) (owners : NamespaceOwners) (st : StatefulSet)
    (pvc : PersistentVolumeClaim) : Prop :=
  st ∈ Cluster.within ns c.statefulSets ∧ pvc ∈ Cluster.within ns c.persistentVolumeClaims ∧
    ¬SpecClaim ns owners st pvc.name

theorem templatePrefixed_of_claim {st : StatefulSet} {claim : String} (h : TemplateClaim st claim) :
    TemplatePrefixed st claim := by
  obtain ⟨template, htemplate, ordinal, rfl⟩ := h
  exact ⟨template, htemplate, by simp [Text.hasPrefix]⟩

/-! ### Prefixes -/

def claimPrefixes (st : StatefulSet) : List String :=
  st.volumeClaimTemplates.map fun claim => claim ++ "-" ++ st.name ++ "-"

theorem templatePrefixed_iff {st : StatefulSet} {claim : String} :
    TemplatePrefixed st claim ↔ ∃ pre ∈ claimPrefixes st, Text.hasPrefix claim pre := by
  simp [TemplatePrefixed, claimPrefixes]

def setOwner (ns : String) (st : StatefulSet) : PodTemplateOwner :=
  workloadOwner ns "StatefulSet" st.name (statefulSetStatus st) st.template (claimPrefixes st)

theorem setOwner_of_prefixes {o : PodTemplateOwner} (h : o ∈ workloadOwners c ns) :
    o.claimPrefixes = [] ∨
      ∃ st ∈ answered (c.list "StatefulSet" ns c.statefulSets), setOwner ns st = o := by
  simp only [workloadOwners, List.mem_append, List.mem_map, List.mem_filterMap] at h
  rcases h with ((((⟨d, -, rfl⟩ | hst) | ⟨d, -, rfl⟩) | ⟨cj, -, rfl⟩) | ⟨j, -, hj⟩) | ⟨rc, -, hrc⟩
  · exact .inl rfl
  · exact .inr hst
  · exact .inl rfl
  · exact .inl rfl
  · split at hj
    · cases hj
    · cases hj
      exact .inl rfl
  · obtain ⟨tmpl, -, rfl⟩ := Option.map_eq_some_iff.mp hrc
    exact .inl rfl

theorem mem_workloadOwners_setOwner {st : StatefulSet}
    (h : st ∈ answered (c.list "StatefulSet" ns c.statefulSets)) :
    setOwner ns st ∈ workloadOwners c ns := by
  simp only [workloadOwners, List.mem_append, List.mem_map]
  exact .inl (.inl (.inl (.inl (.inr ⟨st, h, rfl⟩))))

theorem answered_statefulSets {w : Workloads} (h : listWorkloads c ns = .ok w) :
    answered (c.list "StatefulSet" ns c.statefulSets) = Cluster.within ns c.statefulSets := by
  obtain ⟨l, hread, -⟩ := listWorkloads_ok h
  rw [hread.statefulSets, answered_ok, (Cluster.list_ok.mp hread.statefulSets).2]

theorem owner_of_prefixes (h : listPodOwners c ns = .ok owners) {o : PodTemplateOwner}
    (ho : o ∈ owners.owners) :
    o.claimPrefixes = [] ∨ ∃ st ∈ Cluster.within ns c.statefulSets, setID ns st = o.node.id ∧
      claimPrefixes st = o.claimPrefixes := by
  obtain ⟨w, pods, hw, -, rfl⟩ := listPodOwners_ok h
  refine forall_owners (p := fun o => o.claimPrefixes = [] ∨
    ∃ st ∈ Cluster.within ns c.statefulSets, setID ns st = o.node.id ∧
      claimPrefixes st = o.claimPrefixes)
    (fun o pod => .rfl) (fun o ho => ?_) (fun a pod o ho => .inl ?_) pods o ho
  · rw [owners_listWorkloads hw] at ho
    rcases setOwner_of_prefixes ho with hnone | ⟨st, hst, rfl⟩
    · exact .inl hnone
    · exact .inr ⟨st, answered_statefulSets hw ▸ hst, rfl, rfl⟩
  · unfold Attribution.newOwner at ho
    split at ho
    · rw [List.mem_singleton.mp ho]
    · cases ho
    · split at ho
      · cases ho
      · rw [List.mem_singleton.mp ho]
        rfl

theorem setOwner_listed (h : listPodOwners c ns = .ok owners) {st : StatefulSet}
    (hst : st ∈ Cluster.within ns c.statefulSets) : setOwner ns st ∈ owners.owners := by
  obtain ⟨w, pods, hw, -, rfl⟩ := listPodOwners_ok h
  rw [← answered_statefulSets hw] at hst
  have hfixed : setOwner ns st ∈ fixedOwners w pods := by
    refine List.mem_append_left _ ?_
    rw [owners_listWorkloads hw]
    exact mem_workloadOwners_setOwner hst
  obtain ⟨position, hposition, -⟩ := (Attribution.tallied_after.plain _).mpr hfixed
  exact List.mem_of_getElem? hposition

theorem prefixes_iff (hns : ns ≠ "") (h : listPodOwners c ns = .ok owners) {st : StatefulSet}
    (hst : st ∈ Cluster.within ns c.statefulSets) (pre : String) :
    (∃ o ∈ owners.owners, o.node.id = setID ns st ∧ pre ∈ o.claimPrefixes) ↔
      pre ∈ claimPrefixes st := by
  constructor
  · rintro ⟨o, ho, hid, hpre⟩
    rcases owner_of_prefixes h ho with hnone | ⟨st', hst', hid', heq⟩
    · rw [hnone] at hpre
      cases hpre
    · have hname : st'.name = st.name := kubeNodeID_inj (hid'.trans hid)
      obtain ⟨hstored, hwithin⟩ := (Cluster.mem_within hns).mp hst
      obtain ⟨hstored', hwithin'⟩ := (Cluster.mem_within hns).mp hst'
      have hsame : st' = st :=
        KeyedList.eq_of_key_eq hstored' hstored (Prod.ext (hwithin'.trans hwithin.symm) hname)
      rwa [← hsame, heq]
  · intro hpre
    exact ⟨setOwner ns st, setOwner_listed h hst, rfl, hpre⟩

/-! ### Edges -/

/-- A claim is linked where a pod spec names it, or one of the prefixes fits. -/
theorem claim_ref_iff (order : RangeOrder) (hns : ns ≠ "")
    (h : listPodOwners c ns = .ok owners) {st : StatefulSet}
    (hst : st ∈ Cluster.within ns c.statefulSets) {pvcs : StringMap PersistentVolumeClaim}
    {claim : String} (hclaim : claim ∈ pvcs) :
    (∃ o ∈ owners.owners, o.node.id = setID ns st ∧
        ⟨"PersistentVolumeClaim", claim⟩ ∈ ownerRefs order pvcs o) ↔
      SpecClaim ns owners st claim ∨ TemplatePrefixed st claim := by
  have hrefs : ∀ o : PodTemplateOwner, ⟨"PersistentVolumeClaim", claim⟩ ∈ ownerRefs order pvcs o ↔
      ⟨"PersistentVolumeClaim", claim⟩ ∈ podSpecRefs o.spec ∨
        ∃ pre ∈ o.claimPrefixes, Text.hasPrefix claim pre := by
    intro o
    have hkeys : ∀ pre, claim ∈ order.claims o.node.id pre pvcs.keys := fun pre =>
      (order.claims_perm _ _ _).mem_iff.mpr (AList.mem_keys.mp hclaim)
    simp [ownerRefs, hkeys]
  simp only [hrefs, SpecClaim, templatePrefixed_iff, ← prefixes_iff hns h hst, and_or_left,
    exists_or]
  refine or_congr_right ?_
  constructor
  · rintro ⟨o, ho, hid, pre, hpre, hfits⟩
    exact ⟨pre, ⟨o, ho, hid, hpre⟩, hfits⟩
  · rintro ⟨pre, ⟨o, ho, hid, hpre⟩, hfits⟩
    exact ⟨o, ho, hid, pre, hpre, hfits⟩

theorem refEdge_claim {o : PodTemplateOwner} {ref : SpecRef} (hkind : ref.kind ∈ specRefKinds)
    {source claim : String} :
    RefEdge ns o ref ⟨source, kubeNodeID "PersistentVolumeClaim" ns claim, "uses"⟩ ↔
      o.node.id = source ∧ ref = ⟨"PersistentVolumeClaim", claim⟩ := by
  have hfree : ∀ kind ∈ specRefKinds, Text.Free '/' kind := by decide
  unfold RefEdge
  constructor
  · intro heq
    obtain ⟨hsource, htarget, -⟩ := GraphEdge.mk.inj heq
    obtain ⟨kind, name⟩ := ref
    obtain ⟨rfl, -⟩ := kubeNodeID_kind (by decide) (hfree kind hkind) htarget
    rw [kubeNodeID_inj htarget]
    exact ⟨hsource.symm, rfl⟩
  · rintro ⟨rfl, rfl⟩
    rfl

theorem not_volumeEdge_claim {source source' className claim : String}
    {volume : Option PersistentVolume} :
    ¬VolumeEdge source className volume
      ⟨source', kubeNodeID "PersistentVolumeClaim" ns claim, "uses"⟩ := by
  have hclass : ∀ source className, ¬ClassEdge source className
      ⟨source', kubeNodeID "PersistentVolumeClaim" ns claim, "uses"⟩ := by
    rintro source className ⟨-, heq⟩
    have htarget := (GraphEdge.mk.inj heq).2.1
    exact absurd (kubeNodeID_kind (by decide) (by decide) htarget).1 (by decide)
  unfold VolumeEdge
  split
  · rintro (hbound | hvolume)
    · exact absurd (GraphEdge.mk.inj hbound).2.2 (by decide)
    · exact hclass _ _ hvolume
  · exact hclass _ _

theorem linkedClaim_iff (hns : ns ≠ "") (howners : listPodOwners c ns = .ok owners)
    (h : namespaceLevel c order ns = .ok g) {st : StatefulSet}
    (hst : st ∈ Cluster.within ns c.statefulSets) {pvc : PersistentVolumeClaim}
    (hpvc : pvc ∈ Cluster.within ns c.persistentVolumeClaims) :
    LinkedClaim ns g st pvc.name ↔
      SpecClaim ns owners st pvc.name ∨ TemplatePrefixed st pvc.name := by
  obtain ⟨g₁, g₂, -, hrun, hedges⟩ := edges_of_addConfigRefs howners h
  obtain ⟨hfresh, hlevel⟩ := hedges
    ⟨setID ns st, kubeNodeID "PersistentVolumeClaim" ns pvc.name, "uses"⟩ (.inr rfl)
  simp only [addConfigRefs, Fallible.bind_eq_ok, Fallible.pure_eq_ok, orWrap_ok] at hrun
  obtain ⟨pvcs, hlist, rfl⟩ := hrun
  obtain ⟨-, rfl⟩ := Cluster.list_ok.mp hlist
  have hclaim : pvc.name ∈ claimsByName (Cluster.within ns c.persistentVolumeClaims) :=
    (StringMap.mem_foldl_insert (fun pvc => pvc.name) _ ∅).mpr (Or.inr ⟨pvc, hpvc, rfl⟩)
  rw [LinkedClaim, hlevel, ← claim_ref_iff order hns howners hst hclaim]
  refine (Links.foldl_of (links_addVolume ns _ _) _ _ _).trans ?_
  rw [links_addOwnerRefs order ns _ owners.owners (g₁, ∅)]
  simp only [hfresh, not_volumeEdge_claim, and_false, exists_false, or_false, false_or]
  constructor
  · rintro ⟨o, ho, ref, href, hedge⟩
    obtain ⟨hid, rfl⟩ := (refEdge_claim (ofSpecKinds_ownerRefs _ o ref href)).mp hedge
    exact ⟨o, ho, hid, href⟩
  · rintro ⟨o, ho, hid, href⟩
    exact ⟨o, ho, _, href, (refEdge_claim (ofSpecKinds_ownerRefs _ o _ href)).mpr ⟨hid, rfl⟩⟩

/-- A StatefulSet is linked to a claim that no pod spec names exactly where the claim is
one of its templates', if no claim only begins as those do. -/
theorem templateLinks_lawful_iff (hns : ns ≠ "") (howners : listPodOwners c ns = .ok owners)
    (h : namespaceLevel c order ns = .ok g) :
    (∀ st pvc, Unspecified c ns owners st pvc →
        (LinkedClaim ns g st pvc.name ↔ TemplateClaim st pvc.name)) ↔
      ∀ st pvc, Unspecified c ns owners st pvc →
        TemplatePrefixed st pvc.name → TemplateClaim st pvc.name := by
  refine forall_congr' fun st => forall_congr' fun pvc => forall_congr' fun hpair => ?_
  obtain ⟨hst, hpvc, hspec⟩ := hpair
  rw [linkedClaim_iff hns howners h hst hpvc, or_iff_right hspec]
  exact ⟨Iff.mp, fun hname => ⟨hname, templatePrefixed_of_claim⟩⟩

def ownClaims : Cluster where
  statefulSets := KeyedList.empty.add
    { name := "web", ns := "shop", volumeClaimTemplates := ["data"] }
  persistentVolumeClaims := (KeyedList.empty.add { name := "data-web-0", ns := "shop" }).add
    { name := "spare", ns := "shop" }

theorem templateLinks_lawful_ownClaims :
    ∃ owners g, listPodOwners ownClaims "shop" = .ok owners ∧
      namespaceLevel ownClaims default "shop" = .ok g ∧
      (∃ st ∈ Cluster.within "shop" ownClaims.statefulSets, LinkedClaim "shop" g st "data-web-0") ∧
      ∀ st pvc, Unspecified ownClaims "shop" owners st pvc →
        (LinkedClaim "shop" g st pvc.name ↔ TemplateClaim st pvc.name) := by
  refine ⟨_, _, rfl, rfl, ⟨_, List.mem_cons_self, ?_⟩,
    (templateLinks_lawful_iff (by decide) rfl rfl).mpr fun st pvc hpair hname => ?_⟩
  · unfold LinkedClaim
    decide
  · obtain ⟨hst, hpvc, -⟩ := hpair
    rw [List.mem_singleton.mp hst] at hname ⊢
    rcases List.mem_pair.mp hpvc with rfl | rfl
    · exact ⟨"data", List.mem_singleton_self _, 0, rfl⟩
    · obtain ⟨template, htemplate, hfits⟩ := hname
      rw [List.mem_singleton.mp htemplate] at hfits
      exact absurd hfits (by decide)

def nestedSets : Cluster where
  statefulSets := (KeyedList.empty.add
    { name := "web", ns := "shop", volumeClaimTemplates := ["data"] }).add
    { name := "web-db", ns := "shop", volumeClaimTemplates := ["data"] }
  persistentVolumeClaims := KeyedList.empty.add { name := "data-web-db-0", ns := "shop" }

theorem nestedSets_crossed :
    ∃ owners g, listPodOwners nestedSets "shop" = .ok owners ∧
      namespaceLevel nestedSets default "shop" = .ok g ∧
      ∃ st pvc, Unspecified nestedSets "shop" owners st pvc ∧ LinkedClaim "shop" g st pvc.name ∧
        ¬TemplateClaim st pvc.name := by
  refine ⟨_, _, rfl, rfl, { name := "web", ns := "shop", volumeClaimTemplates := ["data"] },
    { name := "data-web-db-0", ns := "shop" }, ⟨?_, ?_, ?_⟩, ?_, ?_⟩
  · exact List.mem_cons_self
  · exact List.mem_cons_self
  · unfold SpecClaim
    decide
  · unfold LinkedClaim
    decide
  · rintro ⟨template, htemplate, ordinal, hname⟩
    rw [List.mem_singleton.mp htemplate] at hname
    have hordinal : "db-0" = toString ordinal := (String.append_right_inj "data-web-").mp hname
    exact absurd (Text.isDigit_of_mem_toString (n := ordinal) (c := 'd') (hordinal ▸ by decide))
      (by decide)

end Wiremap.Topology

import Wiremap.Topology.LensNodes
import Wiremap.Topology.Linking
import Wiremap.Topology.Reads

/-! What is drawn of the storage behind a claim: by the namespace that uses it, by
the storage lens, and by the claim itself when it is opened. -/
namespace Wiremap.Topology

open Wiremap.Kube Wiremap.Library
open Wiremap.Topology.Graph (Links)

variable {c : Cluster} {order : RangeOrder} {ns : String} {owners : NamespaceOwners}
variable {pvc : PersistentVolumeClaim} {g g' : Graph}

def claimID (pvc : PersistentVolumeClaim) : String :=
  kubeNodeID "PersistentVolumeClaim" pvc.ns pvc.name

def volumeID (name : String) : String := kubeNodeID "PersistentVolume" "" name

def classID (name : String) : String := kubeNodeID "StorageClass" "" name

def ClassEdge (source className : String) (e : GraphEdge) : Prop :=
  className ≠ "" ∧ e = ⟨source, classID className, "uses"⟩

def BoundEdge (source : String) (pv : PersistentVolume) (e : GraphEdge) : Prop :=
  e = ⟨source, volumeID pv.name, "bound"⟩ ∨ ClassEdge (volumeID pv.name) pv.storageClassName e

/-- A claim's volume where there is one, else its class. -/
def VolumeEdge (source className : String) (volume : Option PersistentVolume) (e : GraphEdge) :
    Prop :=
  match volume with
  | some pv => BoundEdge source pv e
  | none => ClassEdge source className e

def StorageEdge (c : Cluster) (pvc : PersistentVolumeClaim) : GraphEdge → Prop :=
  VolumeEdge (claimID pvc) (pvc.storageClassName.getD "") (c.persistentVolumes.find pvc.volumeName)

inductive FromClaim (pvc : PersistentVolumeClaim) : GraphEdge → Prop
  | bound (volume : String) : FromClaim pvc ⟨claimID pvc, volumeID volume, "bound"⟩
  | volumeClass (className : String) :
      FromClaim pvc ⟨volumeID pvc.volumeName, classID className, "uses"⟩
  | claimClass (className : String) : FromClaim pvc ⟨claimID pvc, classID className, "uses"⟩

/-- As the API server names the objects: a claim is in a namespace, whose name has
no slash, and no volume has an empty name. -/
structure StorageNames (c : Cluster) : Prop where
  claims : ∀ pvc ∈ c.persistentVolumeClaims.items, pvc.ns ≠ "" ∧ Text.Free '/' pvc.ns
  volumes : ∀ pv ∈ c.persistentVolumes.items, pv.name ≠ ""

/-! ### Steps -/

theorem links_useStorageClass (g : Graph) (source className : String) :
    Links (fun e => e = ⟨source, classID className, "uses"⟩) g (useStorageClass g source className) :=
  (Links.addEdge _ _ _ _).after_node

theorem links_class (g : Graph) (source className : String) :
    Links (ClassEdge source className) g
      (if className ≠ "" then useStorageClass g source className else g) := by
  unfold ClassEdge
  split
  · exact (links_useStorageClass g source className).congr (by simp [*])
  · exact (Links.refl g).congr (by simp [*])

theorem links_claimClass (g : Graph) (source : String) (className : Option String) :
    Links (ClassEdge source (className.getD "")) g
      (match className with
        | some className => if className ≠ "" then useStorageClass g source className else g
        | none => g) := by
  cases className with
  | none => exact (Links.refl g).congr (by simp [ClassEdge])
  | some className => exact links_class g source className

theorem links_bindVolume (g : Graph) (source : String) (pv : PersistentVolume) :
    Links (BoundEdge source pv) g (bindVolume g source pv) :=
  (Links.addEdge _ _ _ _).after_node.trans (links_class _ _ _)

theorem links_addVolume (ns : String) (pvs : StringMap PersistentVolume)
    (pvcs : StringMap PersistentVolumeClaim) (g : Graph) (name : String) :
    Links (fun e => ∃ pvc, pvcs.lookup name = some pvc ∧
      VolumeEdge (kubeNodeID "PersistentVolumeClaim" ns name) (pvc.storageClassName.getD "")
        (pvs.lookup pvc.volumeName) e) g (addVolume ns pvs pvcs g name) := by
  unfold addVolume
  cases hpvc : pvcs.lookup name with
  | none => exact (Links.refl g).congr (by simp)
  | some pvc =>
      simp only [Option.some.injEq, exists_eq_left']
      cases pvs.lookup pvc.volumeName with
      | some pv => exact links_bindVolume g _ pv
      | none => exact links_class g _ _

def RefEdge (ns : String) (o : PodTemplateOwner) (ref : SpecRef) (e : GraphEdge) : Prop :=
  e = ⟨o.node.id, kubeNodeID ref.kind ns ref.name, "uses"⟩

theorem links_addOwnerRefs (order : RangeOrder) (ns : String)
    (pvcs : StringMap PersistentVolumeClaim) (os : List PodTemplateOwner)
    (acc : Graph × StringMap Unit) :
    Links (fun e => ∃ o ∈ os, ∃ ref ∈ ownerRefs order pvcs o, RefEdge ns o ref e) acc.1
      (os.foldl (addOwnerRefs order ns pvcs) acc).1 := by
  have hrefs : ∀ (o : PodTemplateOwner) (refs : List SpecRef) (acc : Graph × StringMap Unit),
      Links (fun e => ∃ ref ∈ refs, RefEdge ns o ref e) acc.1
        (refs.foldl (addConfigRef ns pvcs o) acc).1 := by
    intro o refs
    induction refs with
    | nil => exact fun acc => (Links.refl _).congr (by simp)
    | cons ref refs ih =>
        intro acc
        have hfirst : Links (RefEdge ns o ref) acc.1 (addConfigRef ns pvcs o acc ref).1 :=
          (Links.addEdge _ _ _ _).after_node
        exact (hfirst.trans (ih _)).congr (by simp)
  induction os generalizing acc with
  | nil => exact (Links.refl _).congr (by simp)
  | cons o os ih => exact ((hrefs o _ acc).trans (ih _)).congr (by simp)

def ConfigEdge (ns : String) (e : GraphEdge) : Prop :=
  ∃ (id : String) (ref : SpecRef), ref.kind ∈ specRefKinds ∧ e = ⟨id, kubeNodeID ref.kind ns ref.name, "uses"⟩

theorem edges_addOwnerRefs {pvcs : StringMap PersistentVolumeClaim} {os : List PodTemplateOwner}
    {acc : Graph × StringMap Unit} {e : GraphEdge}
    (he : e ∈ (os.foldl (addOwnerRefs order ns pvcs) acc).1.edges.items) :
    e ∈ acc.1.edges.items ∨ ConfigEdge ns e := by
  rcases (links_addOwnerRefs order ns pvcs os acc e).mp he with hold | ⟨o, -, ref, href, hedge⟩
  · exact Or.inl hold
  · exact Or.inr ⟨o.node.id, ref, ofSpecKinds_ownerRefs pvcs o ref href, hedge⟩

/-! ### Edges of one claim -/

theorem claimID_ne_volumeID (pvc : PersistentVolumeClaim) (name : String) :
    claimID pvc ≠ volumeID name := by
  intro h
  exact absurd (kubeNodeID_kind (by decide) (by decide) h).1 (by decide)

theorem StorageNames.claimID_inj (hnames : StorageNames c) {q : PersistentVolumeClaim}
    (hq : q ∈ c.persistentVolumeClaims.items) (hpvc : pvc ∈ c.persistentVolumeClaims.items)
    (h : claimID q = claimID pvc) : q = pvc := by
  obtain ⟨-, hns, hname⟩ := kubeNodeID_parts (by decide) (by decide) (hnames.claims q hq).2
    (hnames.claims pvc hpvc).2 h
  exact KeyedList.eq_of_key_eq hq hpvc (Prod.ext hns hname)

theorem FromClaim.kind {e : GraphEdge} (h : FromClaim pvc e) : e.kind = "bound" ∨ e.kind = "uses" := by
  cases h with
  | bound => exact Or.inl rfl
  | volumeClass => exact Or.inr rfl
  | claimClass => exact Or.inr rfl

theorem FromClaim.not_config {e : GraphEdge} (h : FromClaim pvc e) : ¬ ConfigEdge ns e := by
  rintro ⟨id, ref, hkind, heq⟩
  have hfree : ∀ kind ∈ specRefKinds, Text.Free '/' kind ∧ kind ≠ "StorageClass" := by decide
  have htarget : ∀ className, classID className ≠ kubeNodeID ref.kind ns ref.name := by
    intro className hid
    have hsame := (kubeNodeID_kind (by decide) (hfree ref.kind hkind).1 hid).1
    exact (hfree ref.kind hkind).2 hsame.symm
  cases h with
  | bound => simp at heq
  | volumeClass className => exact htarget className (GraphEdge.mk.inj heq).2.1
  | claimClass className => exact htarget className (GraphEdge.mk.inj heq).2.1

theorem FromClaim.source {e : GraphEdge} (h : FromClaim pvc e) :
    e.source = claimID pvc ∨ e.source = volumeID pvc.volumeName := by
  cases h with
  | bound => exact Or.inl rfl
  | volumeClass => exact Or.inr rfl
  | claimClass => exact Or.inl rfl

theorem volumeEdge_source {source className : String} {volume : Option PersistentVolume}
    {e : GraphEdge} (h : VolumeEdge source className volume e) :
    e.source = source ∨
      ∃ pv, volume = some pv ∧ e.source = volumeID pv.name ∧
        ClassEdge (volumeID pv.name) pv.storageClassName e := by
  unfold VolumeEdge at h
  split at h
  · rename_i pv
    rcases h with rfl | hclass
    · exact Or.inl rfl
    · exact Or.inr ⟨pv, rfl, hclass.2 ▸ rfl, hclass⟩
  · exact Or.inl (h.2 ▸ rfl)

theorem volumeID_inj {name name' : String} (h : volumeID name = volumeID name') : name = name' :=
  kubeNodeID_inj h

theorem storageEdge_of_volume {pv : PersistentVolume} (hpv : pv ∈ c.persistentVolumes.items)
    {e : GraphEdge} (hfrom : FromClaim pvc e)
    (h : ClassEdge (volumeID pv.name) pv.storageClassName e) : StorageEdge c pvc e := by
  have hsource : e.source = volumeID pv.name := h.2 ▸ rfl
  rcases hfrom.source with hclaim | hvolume
  · exact absurd (hclaim.symm.trans hsource) (claimID_ne_volumeID pvc _)
  · have hname : pv.name = pvc.volumeName := volumeID_inj (hsource.symm.trans hvolume)
    have hfind : c.persistentVolumes.find pvc.volumeName = some pv :=
      KeyedList.find_eq_some_iff.mpr ⟨hpv, hname⟩
    rw [StorageEdge, hfind]
    exact Or.inr h

/-- What is drawn behind another claim says of this one only what is drawn behind
it as well: they share a volume. -/
theorem storageEdge_of_other (hnames : StorageNames c) {q : PersistentVolumeClaim}
    (hq : q ∈ c.persistentVolumeClaims.items) (hpvc : pvc ∈ c.persistentVolumeClaims.items)
    {e : GraphEdge} (hfrom : FromClaim pvc e) (h : StorageEdge c q e) : StorageEdge c pvc e := by
  rcases volumeEdge_source h with hsource | ⟨pv, hpv, -, hclass⟩
  · rcases hfrom.source with hclaim | hvolume
    · rwa [hnames.claimID_inj hq hpvc (hsource.symm.trans hclaim)] at h
    · exact absurd (hsource.symm.trans hvolume) (claimID_ne_volumeID q _)
  · exact storageEdge_of_volume (KeyedList.mem_of_find hpv).1 hfrom hclass

/-! ### The three views -/

theorem lookup_volumesOf (hc : c.Readable) (name : String) :
    (volumesOf c).lookup name = c.persistentVolumes.find name := by
  have hlookup := StringMap.lookup_foldl_insert (fun pv : PersistentVolume => pv.name)
    c.persistentVolumes.unique ∅ name
  rw [volumesOf, Cluster.listAll_readable hc, answered_ok, volumesByName, hlookup]
  exact Option.or_none

theorem lookup_claimsOf (hc : c.Readable) (hns : ns ≠ "") {name : String} :
    (claimsOf c ns).lookup name = some pvc ↔
      pvc ∈ c.persistentVolumeClaims.items ∧ pvc.ns = ns ∧ pvc.name = name := by
  have hlist := Cluster.list_readable hc "PersistentVolumeClaim" ns c.persistentVolumeClaims
  have hnames := Cluster.list_names_nodup hlist hns
  have hlookup := StringMap.lookup_foldl_insert (fun pvc : PersistentVolumeClaim => pvc.name)
    hnames ∅ name
  have hfind := KeyedList.find_eq_some_iff (l := ⟨_, hnames⟩) (k := name) (a := pvc)
  rw [claimsOf, hlist, answered_ok, claimsByName, hlookup, AList.lookup_empty, Option.or_none,
    ← and_assoc]
  exact hfind.trans (and_congr_left' (Cluster.mem_of_list hlist hns))

theorem namespace_storage (hc : c.Readable) (hns : ns ≠ "")
    (howners : listPodOwners c ns = .ok owners) (h : namespaceLevel c order ns = .ok g)
    {e : GraphEdge} (hfrom : FromClaim pvc e) :
    e ∈ g.edges.items ↔ ∃ q ∈ c.persistentVolumeClaims.items, q.ns = ns ∧
      q.name ∈ usedClaims order (claimsOf c ns) owners ∧ StorageEdge c q e := by
  obtain ⟨g₁, g₂, -, hrun, hedges⟩ := edges_of_addConfigRefs howners h
  obtain ⟨hfresh, hlevel⟩ := hedges e hfrom.kind
  simp only [addConfigRefs, Fallible.bind_eq_ok, Fallible.pure_eq_ok, orWrap_ok] at hrun
  obtain ⟨pvcs, hlist, rfl⟩ := hrun
  have hclaims : claimsByName pvcs = claimsOf c ns := by rw [claimsOf, hlist, answered_ok]
  rw [hclaims] at hlevel
  obtain ⟨-, hused⟩ := addOwnerRefs_foldl order ns (claimsOf c ns) owners.owners (g₁, ∅)
  have hrefs : e ∉ (owners.owners.foldl (addOwnerRefs order ns (claimsOf c ns)) (g₁, ∅)).1.edges.items :=
    fun he => (edges_addOwnerRefs he).elim hfresh hfrom.not_config
  have hvolumes := Links.foldl_of (links_addVolume ns (volumesOf c) (claimsOf c ns))
    (order.volumes (usedClaims order (claimsOf c ns) owners).keys)
    (owners.owners.foldl (addOwnerRefs order ns (claimsOf c ns)) (g₁, ∅)).1 e
  rw [hlevel, addVolumes, hused]
  refine hvolumes.trans ((or_iff_right hrefs).trans ?_)
  constructor
  · rintro ⟨name, hname, q, hq, hedge⟩
    obtain ⟨hstored, rfl, rfl⟩ := (lookup_claimsOf hc hns).mp hq
    rw [lookup_volumesOf hc] at hedge
    exact ⟨q, hstored, rfl, AList.mem_keys.mpr ((order.volumes_perm _).mem_iff.mp hname), hedge⟩
  · rintro ⟨q, hstored, rfl, hname, hedge⟩
    refine ⟨q.name, (order.volumes_perm _).mem_iff.mpr (AList.mem_keys.mp hname), q,
      (lookup_claimsOf hc hns).mpr ⟨hstored, rfl, rfl⟩, ?_⟩
    rw [lookup_volumesOf hc]
    exact hedge

def LensClaimEdge (c : Cluster) (pvc : PersistentVolumeClaim) (e : GraphEdge) : Prop :=
  if pvc.volumeName ≠ "" ∧ ∃ pv ∈ c.persistentVolumes.items, pv.name = pvc.volumeName then
    e = ⟨claimID pvc, volumeID pvc.volumeName, "bound"⟩
  else ClassEdge (claimID pvc) (pvc.storageClassName.getD "") e

theorem links_addLensClaim (g : Graph) (pvc : PersistentVolumeClaim)
    (h : DrawsVolumes c.persistentVolumes.items g) :
    Links (LensClaimEdge c pvc) g (addLensClaim g pvc) ∧
      DrawsVolumes c.persistentVolumes.items (addLensClaim g pvc) := by
  refine ⟨?_, h.adds (adds_addLensClaim pvc h) fun n hn name => lensClaimNodes_id hn name⟩
  have hdrawn : (g.addNode (lensClaimNode pvc)).hasNode (volumeID pvc.volumeName) ↔
      ∃ pv ∈ c.persistentVolumes.items, pv.name = pvc.volumeName := by
    rw [Graph.hasNode_iff, Graph.mem_ids_addNode, or_iff_left]
    · exact h pvc.volumeName
    · exact fun heq => claimID_ne_volumeID pvc _ heq.symm
  unfold addLensClaim LensClaimEdge
  simp only [Bool.and_eq_true, decide_eq_true_eq, ← hdrawn]
  by_cases hbound : pvc.volumeName ≠ "" ∧
      (g.addNode (lensClaimNode pvc)).hasNode (volumeID pvc.volumeName) = true
  · rw [if_pos (show pvc.volumeName ≠ "" ∧ (g.addNode (lensClaimNode pvc)).hasNode
      (kubeNodeID "PersistentVolume" "" pvc.volumeName) = true from hbound)]
    refine (Links.addEdge _ _ _ _).after_node.congr fun e => ?_
    rw [if_pos hbound]
    rfl
  · rw [if_neg (show ¬(pvc.volumeName ≠ "" ∧ (g.addNode (lensClaimNode pvc)).hasNode
      (kubeNodeID "PersistentVolume" "" pvc.volumeName) = true) from hbound)]
    refine (links_claimClass _ _ _).after_node.congr fun e => ?_
    rw [if_neg hbound]
    rfl

theorem links_addLensVolume (g : Graph) (pv : PersistentVolume) :
    Links (ClassEdge (volumeID pv.name) pv.storageClassName) g (addLensVolume g pv) :=
  (links_class _ _ _).after_node

theorem storageEdge_iff_lens (hnames : StorageNames c) (pvc : PersistentVolumeClaim)
    (e : GraphEdge) :
    StorageEdge c pvc e ↔ LensClaimEdge c pvc e ∨
      ∃ pv, c.persistentVolumes.find pvc.volumeName = some pv ∧
        ClassEdge (volumeID pv.name) pv.storageClassName e := by
  unfold StorageEdge LensClaimEdge
  cases hfind : c.persistentVolumes.find pvc.volumeName with
  | some pv =>
      obtain ⟨hpv, hname⟩ := KeyedList.mem_of_find hfind
      have hne : pvc.volumeName ≠ "" := hname ▸ hnames.volumes pv hpv
      rw [if_pos ⟨hne, pv, hpv, hname⟩, ← show pv.name = pvc.volumeName from hname]
      simp [VolumeEdge, BoundEdge]
  | none =>
      rw [if_neg]
      · simp [VolumeEdge]
      · rintro ⟨-, pv, hpv, hname⟩
        rw [KeyedList.find_eq_some_iff.mpr ⟨hpv, hname⟩] at hfind
        cases hfind

theorem lens_storage (hc : c.Readable) (h : storageGraph c = .ok g) (hnames : StorageNames c)
    (hpvc : pvc ∈ c.persistentVolumeClaims.items) {e : GraphEdge} (hfrom : FromClaim pvc e) :
    e ∈ g.edges.items ↔ StorageEdge c pvc e := by
  obtain ⟨classes, volumes, claims, -, hvolumes, hclaims, rfl⟩ := storageGraph_ok h
  obtain rfl := Except.ok.inj ((Cluster.listAll_readable hc _ _).symm.trans hvolumes)
  obtain rfl := Except.ok.inj ((Cluster.list_readable hc _ _ _).symm.trans hclaims)
  have hfirst := Links.foldl_of links_addLensVolume c.persistentVolumes.items
    (classes.foldl (fun g sc => g.addNode (storageClassNode sc)) (Graph.new .cluster)) e
  rw [Graph.edges_foldl_addNode] at hfirst
  have hrest := Links.foldl (l := Cluster.within "" c.persistentVolumeClaims)
    (fun g pvc _ hg => links_addLensClaim g pvc hg)
    (drawsVolumes_lensVolumes classes c.persistentVolumes.items) e
  have hall : ∀ q, q ∈ Cluster.within "" c.persistentVolumeClaims ↔
      q ∈ c.persistentVolumeClaims.items := by simp [Cluster.within]
  refine hrest.trans ((or_congr_left hfirst).trans ?_)
  constructor
  · rintro ((hnone | ⟨pv, hpv, hclass⟩) | ⟨q, hq, hclaim⟩)
    · cases hnone
    · exact storageEdge_of_volume hpv hfrom hclass
    · exact storageEdge_of_other hnames ((hall q).mp hq) hpvc hfrom
        ((storageEdge_iff_lens hnames q e).mpr (Or.inl hclaim))
  · intro hedge
    rcases (storageEdge_iff_lens hnames pvc e).mp hedge with hclaim | ⟨pv, hpv, hclass⟩
    · exact Or.inr ⟨pvc, (hall pvc).mpr hpvc, hclaim⟩
    · exact Or.inl (Or.inr ⟨pv, (KeyedList.mem_of_find hpv).1, hclass⟩)

theorem links_addClaimVolume (hc : c.Readable) (hnames : StorageNames c)
    (hpvc : pvc ∈ c.persistentVolumeClaims.items) (g : Graph) :
    Links (StorageEdge c pvc) g (addClaimVolume c pvc.ns pvc.name g) := by
  have hget : c.get "PersistentVolumeClaim" pvc.ns pvc.name c.persistentVolumeClaims = .ok pvc :=
    Cluster.get_readable hc _ hpvc
  have hvolume : (if pvc.volumeName ≠ "" then
      (c.getAll "PersistentVolume" pvc.volumeName c.persistentVolumes).toOption else none) =
      c.persistentVolumes.find pvc.volumeName := by
    rw [Cluster.getAll_readable hc]
    split
    · rfl
    · rename_i hunbound
      symm
      by_contra hfound
      obtain ⟨pv, hpv⟩ := Option.ne_none_iff_exists'.mp hfound
      obtain ⟨hstored, hname⟩ := KeyedList.mem_of_find hpv
      exact hunbound (hname ▸ hnames.volumes pv hstored)
  unfold addClaimVolume StorageEdge
  simp only [hget, hvolume]
  cases c.persistentVolumes.find pvc.volumeName with
  | some pv => exact links_bindVolume g _ pv
  | none => exact links_claimClass g _ _

theorem opened_storage (hc : c.Readable) (hnames : StorageNames c)
    (hpvc : pvc ∈ c.persistentVolumeClaims.items)
    (h : objectLevel c pvc.ns "" "PersistentVolumeClaim" pvc.name = .ok g) {e : GraphEdge}
    (hfrom : FromClaim pvc e) : e ∈ g.edges.items ↔ StorageEdge c pvc e := by
  simp only [objectLevel, addConsumers, Fallible.bind_eq_ok, Fallible.pure_eq_ok, orWrap_ok,
    if_true] at h
  obtain ⟨obj, -, pods, -, rfl⟩ := h
  have hconsumer : ∀ (g : Graph) (pod : Pod),
      Links (fun e => e = ⟨(podNode pod "").id, claimID pvc, "uses"⟩) g
        (addConsumer (claimID pvc) g pod) := by
    intro g pod e
    simp [addConsumer, addScheduledPod]
  refine ((Links.foldl_of hconsumer _ _).trans (links_addClaimVolume hc hnames hpvc _) e).trans ?_
  constructor
  · rintro (hnone | ⟨pod, -, rfl⟩ | hedge)
    · cases hnone
    · exact absurd ⟨_, ⟨"PersistentVolumeClaim", pvc.name⟩,
        show "PersistentVolumeClaim" ∈ specRefKinds by decide, rfl⟩ hfrom.not_config
    · exact hedge
  · exact fun hedge => Or.inr (Or.inr hedge)

/-- The storage edges of a claim that is in use and of its volume are the same in
its namespace, in the storage lens and where the claim is opened. -/
theorem storageViews_agree (c : Cluster) (order : RangeOrder) (pvc : PersistentVolumeClaim)
    (owners : NamespaceOwners) (g lens opened : Graph) (hc : c.Readable) (hnames : StorageNames c)
    (hpvc : pvc ∈ c.persistentVolumeClaims.items) (howners : listPodOwners c pvc.ns = .ok owners)
    (hused : ∃ o ∈ owners.owners,
      ⟨"PersistentVolumeClaim", pvc.name⟩ ∈ ownerRefs order (claimsOf c pvc.ns) o)
    (hg : topology c order (.inNamespace pvc.ns) = .ok g)
    (hlens : topology c order (.cluster .storage) = .ok lens)
    (hopened : topology c order (.object pvc.ns "" "PersistentVolumeClaim" pvc.name) = .ok opened)
    (e : GraphEdge) (hfrom : FromClaim pvc e) :
    (e ∈ g.edges.items ↔ e ∈ lens.edges.items) ∧ (e ∈ lens.edges.items ↔ e ∈ opened.edges.items) := by
  have hns : pvc.ns ≠ "" := (hnames.claims pvc hpvc).1
  have hnamespace : e ∈ g.edges.items ↔ StorageEdge c pvc e := by
    rw [namespace_storage hc hns howners hg hfrom]
    constructor
    · rintro ⟨q, hq, -, -, hedge⟩
      exact storageEdge_of_other hnames hq hpvc hfrom hedge
    · intro hedge
      exact ⟨pvc, hpvc, rfl, mem_usedClaims.mpr hused, hedge⟩
  rw [hnamespace, lens_storage hc hlens hnames hpvc hfrom,
    opened_storage hc hnames hpvc hopened hfrom]
  exact ⟨Iff.rfl, Iff.rfl⟩

def dataClaim : PersistentVolumeClaim :=
  { name := "data", ns := "shop", volumeName := "pv-1", storageClassName := some "fast" }

def boundShop : Cluster where
  pods := KeyedList.empty.add
    { name := "web", ns := "shop", spec := { volumes := [{ persistentVolumeClaim := some "data" }] } }
  persistentVolumeClaims := (KeyedList.empty.add dataClaim).add
    { name := "data", ns := "blog", storageClassName := some "fast" }
  persistentVolumes := KeyedList.empty.add { name := "pv-1", storageClassName := "slow" }
  served := [⟨"", "PersistentVolumeClaim", true⟩]

theorem storageViews_agree_boundShop :
    ∃ g lens opened, topology boundShop default (.inNamespace "shop") = .ok g ∧
      topology boundShop default (.cluster .storage) = .ok lens ∧
      topology boundShop default (.object "shop" "" "PersistentVolumeClaim" "data") = .ok opened ∧
      (⟨claimID dataClaim, volumeID "pv-1", "bound"⟩ ∈ g.edges.items) ∧
      ∀ e, FromClaim dataClaim e →
        (e ∈ g.edges.items ↔ e ∈ lens.edges.items) ∧
          (e ∈ lens.edges.items ↔ e ∈ opened.edges.items) := by
  refine ⟨_, _, _, rfl, rfl, rfl, by decide, fun e hfrom => ?_⟩
  refine storageViews_agree boundShop default dataClaim _ _ _ _ (fun _ => rfl) ⟨?_, ?_⟩
    List.mem_cons_self rfl ⟨_, List.mem_cons_self, by decide⟩ rfl rfl rfl e hfrom
  · decide
  · decide

end Wiremap.Topology

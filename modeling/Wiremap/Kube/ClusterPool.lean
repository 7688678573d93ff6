import Wiremap.Errors
import Wiremap.Library.LastWord
import Wiremap.Library.StringMap

/-! The configured clusters and their clients, which go by name alone.  A name that is not
given is that of the context, which the kubeconfig may have to tell. -/
namespace Wiremap.Kube.ClusterPool

open Wiremap.Library

structure ClusterConfig where
  name : String
  kubeconfig : String
  context : String
  inCluster : Bool
  deriving DecidableEq, Repr

/-- An entry of the settings, and what comes of connecting to it: the address that each way
to configure it tells, the current context of its kubeconfig, and the errors, if any, of
building its client and of the first request. -/
structure Entry where
  cfg : ClusterConfig
  inClusterConfig : Except String String
  rawConfig : Except String String
  clientConfig : Except String String
  newClusterErr : Option String
  pingErr : Option String

/-- It is known by the place of its entry in the settings. -/
structure Client where
  entry : Nat
  name : String
  host : String
  deriving DecidableEq, Repr

structure Pool where
  clusters : StringMap Client
  configs : List ClusterConfig

structure Registry where
  pool : Pool
  connected : List String
  failed : List String

def loadRestConfig (e : Entry) : Except String String × String :=
  if e.cfg.inCluster then (e.inClusterConfig, "in-cluster")
  else if e.cfg.context = "" then
    match e.rawConfig with
    | .error err => (.error err, "kubernetes")
    | .ok current => (e.clientConfig, current)
  else (e.clientConfig, e.cfg.context)

def Entry.name (e : Entry) : String :=
  if e.cfg.name = "" then (loadRestConfig e).2 else e.cfg.name

/-- The address it is reached at, or the line that says why it is not. -/
def connect (e : Entry) : Except String String := do
  let host ← (loadRestConfig e).1.mapError fun err => s!"{e.name}: {err}"
  match e.newClusterErr with
  | some err => throw s!"{e.name}: {err}"
  | none =>
      match e.pingErr with
      | some err => throw s!"{e.name} ({host}): {err}"
      | none => return host

def register (r : Registry) (e : Entry × Nat) : Registry :=
  let configs := r.pool.configs ++ [{ e.1.cfg with name := e.1.name }]
  match connect e.1 with
  | .error line => { r with pool := ⟨r.pool.clusters, configs⟩, failed := r.failed ++ [line] }
  | .ok host =>
      { r with
        pool := ⟨r.pool.clusters.insert e.1.name ⟨e.2, e.1.name, host⟩, configs⟩
        connected := r.connected ++ [s!"{e.1.name} ({host})"] }

def newClusterPool (entries : List Entry) : Registry :=
  entries.zipIdx.foldl register ⟨⟨∅, []⟩, [], []⟩

def startupLines (entries : List Entry) : List String :=
  if entries.isEmpty then []
  else
    let r := newClusterPool entries
    "Kubernetes cluster registry:" :: r.connected.map (s!"  ✓ connected: {·}") ++
      r.failed.map (s!"  ✗ failed:    {·}")

def get (pool : Pool) (name : String) : Except AppError Client :=
  match pool.clusters.lookup name with
  | some c => .ok c
  | none =>
      if pool.configs.any fun cfg => cfg.name = name then
        .error (.notFound
          s!"cluster {name.quote} is configured but failed to connect at startup — check server logs")
      else .error (.notFound s!"cluster {name.quote} is not configured")

def isConnected (pool : Pool) (name : String) : Bool := (pool.clusters.lookup name).isSome

structure KubeClusterDto where
  name : String
  connected : Bool
  deriving DecidableEq, Repr

def list (pool : Pool) : List KubeClusterDto :=
  pool.configs.map fun cfg => ⟨cfg.name, isConnected pool cfg.name⟩

/-! ### Entries and clients -/

def Entry.Connects (e : Entry) : Prop := (connect e).isOk

/-- Each entry is listed as it came out, and its name leads to its own client. -/
def Faithful (entries : List Entry) : Prop :=
  ∀ i e, entries[i]? = some e →
    (∃ connected : Bool, (list (newClusterPool entries).pool)[i]? = some ⟨e.name, connected⟩ ∧
      (connected ↔ e.Connects)) ∧
    (e.Connects → ∃ c, get (newClusterPool entries).pool e.name = .ok c) ∧
    ∀ c, get (newClusterPool entries).pool e.name = .ok c → c.entry = i

def ownClient (e : Entry × Nat) : Option Client :=
  match connect e.1 with
  | .error _ => none
  | .ok host => some ⟨e.2, e.1.name, host⟩

def configured (e : Entry) : ClusterConfig := { e.cfg with name := e.name }

theorem configs_register (r : Registry) (e : Entry × Nat) :
    (register r e).pool.configs = r.pool.configs ++ [configured e.1] := by
  unfold register
  cases connect e.1 <;> rfl

theorem lookup_register (r : Registry) (e : Entry × Nat) (name : String) :
    (register r e).pool.clusters.lookup name =
      (lastWord Client.name name (ownClient e).toList).or (r.pool.clusters.lookup name) := by
  unfold register ownClient
  cases connect e.1 with
  | error line => simp
  | ok host =>
      by_cases hname : e.1.name = name
      · simp [lastWord_singleton, hname]
      · simp [lastWord_singleton, hname, AList.lookup_insert_ne (Ne.symm hname)]

theorem configs_foldl (es : List (Entry × Nat)) (r : Registry) :
    (es.foldl register r).pool.configs = r.pool.configs ++ es.map fun e => configured e.1 := by
  induction es generalizing r with
  | nil => simp
  | cons e es ih => rw [List.foldl_cons, ih, configs_register, List.append_assoc]; rfl

theorem lookup_foldl (es : List (Entry × Nat)) (r : Registry) (name : String) :
    (es.foldl register r).pool.clusters.lookup name =
      (lastWord Client.name name (es.filterMap ownClient)).or (r.pool.clusters.lookup name) := by
  induction es generalizing r with
  | nil => simp
  | cons e es ih =>
      have hsplit : (e :: es).filterMap ownClient = (ownClient e).toList ++ es.filterMap ownClient := by
        rw [List.filterMap_cons]
        cases ownClient e <;> rfl
      rw [List.foldl_cons, ih, lookup_register, hsplit, lastWord_append, Option.or_assoc]

variable {entries : List Entry}

def ownClients (entries : List Entry) : List Client := entries.zipIdx.filterMap ownClient

theorem lookup_newClusterPool (entries : List Entry) (name : String) :
    (newClusterPool entries).pool.clusters.lookup name =
      lastWord Client.name name (ownClients entries) := by
  rw [newClusterPool, lookup_foldl, ownClients]
  simp

theorem mem_ownClients {c : Client} :
    c ∈ ownClients entries ↔ ∃ i e host, entries[i]? = some e ∧ connect e = .ok host ∧
      c = ⟨i, e.name, host⟩ := by
  rw [ownClients, List.mem_filterMap]
  constructor
  · rintro ⟨⟨e, i⟩, hmem, hown⟩
    unfold ownClient at hown
    split at hown
    · cases hown
    · rename_i host hconnect
      exact ⟨i, e, host, List.mem_zipIdx_iff_getElem?.mp hmem, hconnect, (Option.some.inj hown).symm⟩
  · rintro ⟨i, e, host, hget, hconnect, rfl⟩
    exact ⟨(e, i), List.mem_zipIdx_iff_getElem?.mpr hget, by simp [ownClient, hconnect]⟩

theorem connects_iff {e : Entry} : e.Connects ↔ ∃ host, connect e = .ok host := by
  unfold Entry.Connects
  cases connect e with
  | ok host => simp [Except.isOk, Except.toBool]
  | error line => simp [Except.isOk, Except.toBool]

theorem list_getElem? {i : Nat} {e : Entry} (h : entries[i]? = some e) :
    (list (newClusterPool entries).pool)[i]? =
      some ⟨e.name, isConnected (newClusterPool entries).pool e.name⟩ := by
  have hconfigs : (newClusterPool entries).pool.configs = entries.map configured := by
    rw [newClusterPool, configs_foldl, List.nil_append]
    conv_rhs => rw [← List.zipIdx_map_fst 0 entries, List.map_map]
    rfl
  rw [list, hconfigs, List.map_map, List.getElem?_map, h]
  rfl

theorem get_eq_ok_iff {pool : Pool} {name : String} {c : Client} :
    get pool name = .ok c ↔ pool.clusters.lookup name = some c := by
  unfold get
  cases pool.clusters.lookup name with
  | some c' => simp
  | none => simp only [reduceCtorEq, iff_false]; split <;> simp

/-- No two entries have one name, unless neither of them connects. -/
def Distinguished (entries : List Entry) : Prop :=
  ∀ (i j : Nat) (e e' : Entry), entries[i]? = some e → entries[j]? = some e' → i ≠ j →
    e.name = e'.name → ¬e.Connects ∧ ¬e'.Connects

theorem exists_client {i : Nat} {e : Entry} (he : entries[i]? = some e) (hconnects : e.Connects) :
    ∃ c, (newClusterPool entries).pool.clusters.lookup e.name = some c := by
  obtain ⟨host, hhost⟩ := connects_iff.mp hconnects
  rw [lookup_newClusterPool, ← Option.ne_none_iff_exists']
  exact fun hnone => lastWord_eq_none_iff.mp hnone _
    (mem_ownClients.mpr ⟨i, e, host, he, hhost, rfl⟩) rfl

theorem isConnected_iff {name : String} : isConnected (newClusterPool entries).pool name ↔
    ∃ c, (newClusterPool entries).pool.clusters.lookup name = some c :=
  Option.isSome_iff_exists

/-- What a faithful pool makes of two entries of one name. -/
theorem Faithful.not_connects (h : Faithful entries) {i j : Nat} {e e' : Entry}
    (he : entries[i]? = some e) (he' : entries[j]? = some e') (hij : i ≠ j)
    (hname : e.name = e'.name) : ¬e.Connects := by
  intro hconnects
  obtain ⟨-, hget, hown⟩ := h i e he
  obtain ⟨-, -, hown'⟩ := h j e' he'
  obtain ⟨c, hc⟩ := hget hconnects
  exact hij ((hown c hc).symm.trans (hown' c (hname ▸ hc)))

theorem Distinguished.faithful (h : Distinguished entries) : Faithful entries := by
  intro i e he
  -- a client under the name of the entry is the entry's own
  have hown : ∀ c, (newClusterPool entries).pool.clusters.lookup e.name = some c →
      e.Connects ∧ c.entry = i := by
    intro c hc
    rw [lookup_newClusterPool] at hc
    obtain ⟨hmem, hname⟩ := mem_of_lastWord hc
    obtain ⟨j, e', host, he', hhost, rfl⟩ := mem_ownClients.mp hmem
    by_cases hij : i = j
    · subst hij
      obtain rfl := Option.some.inj (he.symm.trans he')
      exact ⟨connects_iff.mpr ⟨host, hhost⟩, rfl⟩
    · exact absurd (connects_iff.mpr ⟨host, hhost⟩) (h i j e e' he he' hij hname.symm).2
  refine ⟨⟨_, list_getElem? he, ?_⟩, fun hconnects => ?_, fun c hc => ?_⟩
  · rw [isConnected_iff]
    exact ⟨fun ⟨c, hc⟩ => (hown c hc).1, exists_client he⟩
  · obtain ⟨c, hc⟩ := exists_client he hconnects
    exact ⟨c, get_eq_ok_iff.mpr hc⟩
  · exact (hown c (get_eq_ok_iff.mp hc)).2

theorem faithful_iff (entries : List Entry) : Faithful entries ↔ Distinguished entries :=
  ⟨fun h _ _ _ _ he he' hij hname =>
    ⟨h.not_connects he he' hij hname, h.not_connects he' he (Ne.symm hij) hname.symm⟩,
    Distinguished.faithful⟩

/-- Two kubeconfigs, both with the name that is given to the context of a new cluster. -/
def kubeadmEntries : List Entry :=
  [⟨⟨"", "prod.yaml", "", false⟩, .error "not in a cluster", .ok "kubernetes-admin@kubernetes",
      .ok "https://10.0.0.1:6443", none, none⟩,
    ⟨⟨"", "staging.yaml", "", false⟩, .error "not in a cluster", .ok "kubernetes-admin@kubernetes",
      .ok "https://10.1.0.1:6443", none, none⟩]

theorem kubeadmEntries_not_faithful : ¬Faithful kubeadmEntries := by
  intro h
  exact h.not_connects (i := 0) (j := 1) rfl rfl (by decide) rfl rfl

end Wiremap.Kube.ClusterPool

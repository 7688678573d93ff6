import Wiremap.Service.BrowserService
import Wiremap.Service.ResourceService
import Wiremap.Topology.TopologyService

/-! What the browser is told about a Secret depends on its keys alone, wherever it
comes from: the manifest and the actions, the canvas, and its row in a list. -/
namespace Wiremap.Service.SecretRedaction

open Wiremap.Kube Wiremap.Library Wiremap.Topology

def storedSecret (c : Cluster) (ns name : String) : Option Object :=
  (c.objects.find (("", "Secret"), ns, name)).map Unstructured.object

/-- Two states of a cluster whose Secrets differ in their values. -/
structure Twins (c c' : Cluster) : Prop where
  others : c' = { c with objects := c'.objects }
  secrets : ∀ ns name, Option.Rel SameKeys (storedSecret c ns name) (storedSecret c' ns name)

def TwinItems (obj obj' : Object) : Prop :=
  obj = obj' ∨ obj.apiVersion = "v1" ∧ obj.kind = "Secret" ∧ SameKeys obj obj'

inductive TwinPages : Except ApiError BrowserService.Page → Except ApiError BrowserService.Page → Prop
  | error (err : ApiError) : TwinPages (.error err) (.error err)
  | ok {items items' : List Object} (h : List.Forall₂ TwinItems items items') (token : String) :
      TwinPages (.ok ⟨items, token⟩) (.ok ⟨items', token⟩)

structure TwinLists (api api' : BrowserService.Api) : Prop where
  others : api' = { api with list := api'.list }
  list : ∀ group version resource ns token,
    TwinPages (api.list group version resource ns token) (api'.list group version resource ns token)

theorem genericStatus_congr {obj obj' : Object} {excluded : List (List String)}
    (h : obj.SameBut excluded obj')
    (hstatus : ∀ field, ∀ p ∈ excluded, ¬ p <+: ["status", field]) :
    genericStatus obj = genericStatus obj' := by
  unfold genericStatus
  rw [h.nestedString (hstatus "phase"), h.nestedSlice (hstatus "conditions")]

variable {c c' : Cluster} {ns name : String}

theorem fetchStored_secret (c : Cluster) (ns name : String) :
    fetchStored c "" "Secret" ns name =
      match c.refused (.get "Secret" ns name), c.objects.find (("", "Secret"), ns, name) with
      | some err, _ => .error err
      | none, some u => .ok (.unstructured u)
      | none, none => .error ⟨.notFound, "Secret \"" ++ name ++ "\" not found"⟩ := by
  unfold fetchStored Cluster.answer
  cases c.refused (.get "Secret" ns name) with
  | some err => rfl
  | none => cases c.objects.find (("", "Secret"), ns, name) <;> rfl

theorem getObject_secret {group kind : String} {mapping : ResourceMapping}
    (hsecret : group = "" ∧ kind = "Secret") (hmapping : c.resourceFor group kind = .ok mapping) :
    getObject c group kind ns name =
      (orWrap (fetchStored c group kind (if mapping.namespaced then ns else "") name)
        s!"get {kind} {name}").map Fetched.redact := by
  have hredact : ∀ read : Except AppError Fetched,
      (do let obj ← read; return obj.redact) = read.map Fetched.redact := by
    intro read
    cases read <;> rfl
  rw [getObject, hmapping]
  simp only [if_pos hsecret]
  exact hredact _

/-- A Secret is fetched in both states, with the same keys, or in neither. -/
theorem getObject_twins (h : Twins c c') (ns name : String) :
    (∃ err, getObject c "" "Secret" ns name = .error err ∧
        getObject c' "" "Secret" ns name = .error err) ∨
      ∃ u u', getObject c "" "Secret" ns name = .ok (.unstructured u) ∧
        getObject c' "" "Secret" ns name = .ok (.unstructured u') ∧
        u.object.SameBut [["metadata", "managedFields"]] u'.object := by
  have hresource : c'.resourceFor "" "Secret" = c.resourceFor "" "Secret" := by
    rw [h.others]
    rfl
  have hrefused : c'.refused = c.refused := by rw [h.others]
  cases hmapping : c.resourceFor "" "Secret" with
  | error err =>
      refine .inl ⟨err, ?_, ?_⟩
      · rw [getObject, hmapping]
        rfl
      · rw [getObject, hresource, hmapping]
        rfl
  | ok mapping =>
      rw [getObject_secret ⟨rfl, rfl⟩ hmapping, getObject_secret ⟨rfl, rfl⟩ (hresource.trans hmapping),
        fetchStored_secret, fetchStored_secret, hrefused]
      generalize (if mapping.namespaced then ns else "") = scope
      have hstored := h.secrets scope name
      unfold storedSecret at hstored
      cases c.refused (.get "Secret" scope name) with
      | some err => exact .inl ⟨_, rfl, rfl⟩
      | none =>
          cases hfind : c.objects.find (("", "Secret"), scope, name) <;>
            cases hfind' : c'.objects.find (("", "Secret"), scope, name) <;>
            rw [hfind, hfind'] at hstored
          · exact .inl ⟨_, rfl, rfl⟩
          · cases hstored
          · cases hstored
          · cases hstored with
            | some hkeys => exact .inr ⟨_, _, rfl, rfl, hkeys.redactSecret⟩

theorem objectDto_congr (api : BrowserService.Api) (group : String) {obj obj' : Object}
    (hversion : obj.apiVersion = "v1") (hkind : obj.kind = "Secret") (h : SameKeys obj obj') :
    api.objectDto group obj = api.objectDto group obj' := by
  have hkind' : obj'.kind = "Secret" := (h.others.nestedString (by decide)).symm.trans hkind
  have hversion' : obj'.apiVersion = "v1" := (h.others.nestedString (by decide)).symm.trans hversion
  have hname : obj.name = obj'.name := h.others.nestedString (by decide)
  have hns : obj.ns = obj'.ns := h.others.nestedString (by decide)
  have hcreated : obj.nestedString ["metadata", "creationTimestamp"] =
      obj'.nestedString ["metadata", "creationTimestamp"] := h.others.nestedString (by decide)
  have hstatus : api.objectStatus obj = api.objectStatus obj' := by
    have hgeneric : ∀ o : Object, o.apiVersion = "v1" → o.kind = "Secret" →
        api.objectStatus o = genericStatus o := by
      intro o hversion hkind
      have hgroupKind : BrowserService.groupKindOf o = "Secret" := by
        rw [BrowserService.groupKindOf, hversion, hkind]
        rfl
      rw [BrowserService.Api.objectStatus, hgroupKind]
      rfl
    rw [hgeneric obj hversion hkind, hgeneric obj' hversion' hkind']
    exact genericStatus_congr h.others (by simp)
  simp only [BrowserService.Api.objectDto, hname, hns, hkind, hkind', hcreated, hstatus]

theorem map_objectDto_congr (api : BrowserService.Api) (group : String) {items items' : List Object}
    (h : List.Forall₂ TwinItems items items') :
    items.map (api.objectDto group) = items'.map (api.objectDto group) := by
  induction h with
  | nil => rfl
  | cons hhead _ ih =>
      rw [List.map_cons, List.map_cons, ih]
      rcases hhead with rfl | ⟨hversion, hkind, hkeys⟩
      · rfl
      · rw [objectDto_congr api group hversion hkind hkeys]

theorem get_congr (api : ResourceService.Api) (h : Twins c c') (ns name : String) :
    ResourceService.get api (.ok c) "" "Secret" ns name =
      ResourceService.get api (.ok c') "" "Secret" ns name := by
  rcases getObject_twins h ns name with ⟨err, hget, hget'⟩ | ⟨u, u', hget, hget', hsame⟩
  · simp only [ResourceService.get, bind, Except.bind, hget, hget']
  · have hactions := ResourceService.actionsFor_congr hsame (by simp) "" "Secret"
    have hyaml := api.toYAML_congr hsame
    simp only [ResourceService.get, bind, Except.bind, hget, hget', ResourceService.Api.object,
      hactions, hyaml]

theorem addConsumers_congr (h : Twins c c') (ns name : String) (g : Graph) :
    addConsumers c ns "Secret" name g = addConsumers c' ns "Secret" name g := by
  have hpods : c'.list "Pod" ns c'.pods = c.list "Pod" ns c.pods := by
    rw [h.others]
    rfl
  unfold addConsumers
  rw [hpods]
  rcases getObject_twins h ns name with ⟨err, hget, hget'⟩ | ⟨u, u', hget, hget', hsame⟩
  · rw [hget, hget']
    rfl
  · have hstatus : objectStatus (.unstructured u) = objectStatus (.unstructured u') :=
      genericStatus_congr hsame (by simp)
    simp only [hget, hget', bind, Except.bind, hstatus, String.reduceEq, if_false]

theorem list_congr {api api' : BrowserService.Api} (h : TwinLists api api')
    (pool : Except AppError Unit) (group version resource ns token : String) :
    BrowserService.list api pool group version resource ns token =
      BrowserService.list api' pool group version resource ns token := by
  have hdto : api'.objectDto = api.objectDto := by
    rw [h.others]
    rfl
  have hread := h.list group version resource ns token
  unfold BrowserService.list
  rw [hdto]
  generalize api.list group version resource ns token = read at hread ⊢
  generalize api'.list group version resource ns token = read' at hread ⊢
  cases hread with
  | error err => rfl
  | ok hitems token =>
      simp only [orWrap, bind, Except.bind, map_objectDto_congr api group hitems]

def dbSecret : Object :=
  [⟨"apiVersion", .str "v1"⟩, ⟨"kind", .str "Secret"⟩,
    ⟨"metadata", .obj [("name", .str "db"), ("namespace", .str "shop")]⟩].toAList

def storedDb : Object := dbSecret.insert "data" (.obj [("password", .str "aHVudGVyMg==")])

def rotatedDb : Object := dbSecret.insert "stringData" (.obj [("password", .str "tr0ub4dor")])

theorem sameKeys_rotated : SameKeys storedDb rotatedDb where
  keys key := by
    have hkeys : (storedDb.fields "data").keys = ["password"] ∧
        (storedDb.fields "stringData").keys = [] ∧ (rotatedDb.fields "data").keys = [] ∧
        (rotatedDb.fields "stringData").keys = ["password"] := ⟨rfl, rfl, rfl, rfl⟩
    simp only [HasKey, AList.mem_keys, hkeys, List.not_mem_nil, or_false, false_or]
  others := (Object.sameBut_insert dbSecret (by simp) _).symm.trans
    (Object.sameBut_insert dbSecret (by simp) _)

def shopCluster (secret : Object) : Cluster where
  objects := KeyedList.empty.add
    { name := "db", ns := "shop", group := "", kind := "Secret", object := secret }
  served := [⟨"", "Secret", true⟩]

theorem twins_rotated : Twins (shopCluster storedDb) (shopCluster rotatedDb) where
  others := rfl
  secrets ns name := by
    by_cases hkey : (ns, name) = ("shop", "db")
    · cases hkey
      exact .some sameKeys_rotated
    · have hnone : ∀ secret, storedSecret (shopCluster secret) ns name = none := by
        intro secret
        have hitems : (shopCluster secret).objects.items =
          [{ name := "db", ns := "shop", group := "", kind := "Secret", object := secret }] := rfl
        have hother : ¬ ("shop" = ns ∧ "db" = name) := fun h => hkey (by rw [← h.1, ← h.2])
        simp [storedSecret, KeyedList.find, hitems, Unstructured.fullKey, hother]
      rw [hnone, hnone]
      exact .none

def printYAML : Json → Except String String
  | .obj fields => .ok <| String.join <| fields.map fun
      | (key, .str s) => key ++ ": " ++ s ++ "\n"
      | (key, .obj inner) => key ++ ":\n" ++ String.join (inner.map fun
          | (key, .str s) => "  " ++ key ++ ": " ++ s ++ "\n"
          | _ => "")
      | _ => ""
  | _ => .error "not a map"

def panelApi : ResourceService.Api where
  encode _ := ∅
  marshal := printYAML
  events _ _ _ := .ok []

def listApi (secret : Object) : BrowserService.Api where
  fromUnstructured _ _ := none
  formatTime time := time
  list _ _ _ _ _ := .ok ⟨[secret], ""⟩

end Wiremap.Service.SecretRedaction
